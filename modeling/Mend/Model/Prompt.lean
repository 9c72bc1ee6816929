import Mend.Diagnostic

namespace Mend.Prompt

/-- The first `n` items; a negative number counts from the end. -/
def upTo (n : Int) (l : List α) : List α :=
  if 0 ≤ n then l.take n.toNat else l.take (l.length - n.natAbs)

/-- A line with a label, unless the text is missing or empty. -/
def line (label : String) (text : Option String) : List String :=
  match text with
  | some s => if s = "" then [] else [label ++ s]
  | none => []

def dependencyLine (names : List String) : List String :=
  if names.isEmpty then [] else ["- Key Dependencies: " ++ ", ".intercalate names]

def noProject : String := "- No specific project context available"

def noRelatedFiles : String := "No related files provided"

def noContent : String := "// File content not available"

def projectLines (p : ProjectInfo) (framework : Option String) (names : List String) :
    List String :=
  line "- Framework: " framework ++ line "- Language: " p.language ++
    line "- Runtime: " p.runtime ++ dependencyLine names ++
    line "- Project Conventions: " p.conventions

def projectBlock (p : ProjectInfo) (framework : Option String) (dependencies : List String)
    (maxDependencies : Int) : String :=
  match projectLines p framework (upTo maxDependencies dependencies) with
  | [] => noProject
  | ls => "\n".intercalate ls

def fenced (s : String) : String := "```\n" ++ s ++ "\n```"

def relatedBlock (f : RelatedFile) : String :=
  "**" ++ f.path ++ ":**\n" ++ fenced (if f.content = "" then noContent else f.content)

def relatedText (files : List RelatedFile) (maxFiles : Int) : String :=
  match upTo maxFiles files with
  | [] => noRelatedFiles
  | fs => "\n\n".intercalate (fs.map relatedBlock)

def system : String :=
  "You are an expert software engineer fixing compiler and linter errors. " ++
    "Provide precise, minimal fixes that resolve the reported error " ++
    "without changing unrelated code. " ++
    "Respond ONLY with the requested JSON object."

def opening : String :=
  "You are an expert software engineer helping fix a coding error. " ++
    "Please analyze the following error and provide a precise, working fix."

def instructions : List String :=
  ["**INSTRUCTIONS:**",
    "1. Analyze the error and understand its root cause",
    "2. Provide a precise code fix that resolves the error",
    "3. Explain why this fix works and any potential side effects",
    "4. If the fix requires changes to multiple files, specify all changes needed",
    "5. Ensure the fix follows best practices and project conventions",
    "",
    "**RESPONSE FORMAT:**",
    "Provide your response in JSON format with this structure:",
    "\x7b",
    "  \"fix\": \"The exact code changes needed\",",
    "  \"explanation\": \"Why this fix works\",",
    "  \"confidence\": 0.0-1.0,",
    "  \"changes\": [",
    "    \x7b",
    "      \"file\": \"relative/path/to/file\",",
    "      \"type\": \"replace|insert|delete\",",
    "      \"line\": 123,",
    "      \"oldCode\": \"existing code to replace\",",
    "      \"newCode\": \"new code to insert\"",
    "    \x7d",
    "  ],",
    "  \"warnings\": [\"Any potential issues or side effects\"]",
    "\x7d",
    "",
    "Be precise and provide only the JSON response, nothing else.",
    ""]

def details (d : Diagnostic) (file : String) : List String :=
  ["**ERROR DETAILS:**", "- File: " ++ file, "- Line: " ++ (Number.int d.line).text,
    "- Error Type: " ++ d.bucket.name, "- Error Message: " ++ d.messageText,
    "- Severity: " ++ d.severity.name]

/-- The context's file, or the diagnostic's when the context names none. -/
def file (d : Diagnostic) (c : Context) : String :=
  if c.filePath = "" then d.file else c.filePath

def text (d : Diagnostic) (c : Context) (maxRelatedFiles maxDependencies : Int) : String :=
  "\n".intercalate
    ([opening, ""] ++ details d (file d c) ++
      ["", "**CURRENT CODE CONTEXT:**", fenced c.fileContent,
        "", "**PROJECT CONTEXT:**",
        projectBlock c.project c.framework c.dependencies maxDependencies,
        "", "**RELATED FILES:**", relatedText c.relatedFiles maxRelatedFiles, ""] ++ instructions)

end Mend.Prompt
