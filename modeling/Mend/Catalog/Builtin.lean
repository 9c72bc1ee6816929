import Mend.Catalog.Basic

namespace Mend.Catalog

open Expression (gap letters)

def tenths (n : Nat) : Number := .real (.ofDecimal false n (-1))

def hundredths (n : Nat) : Number := .real (.ofDecimal false n (-2))

def builtinTemplates : List Template := [
  ⟨"missing_semicolon", .grammar, "missing semicolon", .phrase "missing semicolon",
    .terminator ";", tenths 9, true⟩,
  ⟨"unexpected_token", .grammar, "unexpected token", .phrase "unexpected token",
    .unexpectedToken, tenths 7, false⟩,
  ⟨"missing_bracket", .grammar, "missing.*bracket|unclosed.*bracket",
    .any [.all (letters "missing" ++ gap :: letters "bracket"),
      .all (letters "unclosed" ++ gap :: letters "bracket")],
    .brackets, tenths 8, true⟩,
  ⟨"cannot_find_name", .typing, "cannot find name", .phrase "cannot find name",
    .missingName, tenths 6, false⟩,
  ⟨"property_not_exist", .typing, "property.*does not exist",
    .all (letters "property" ++ gap :: letters "does not exist"),
    .decline "Property access issues usually require manual type checking", tenths 5, false⟩,
  ⟨"type_not_assignable", .typing, "type.*is not assignable",
    .all (letters "type" ++ gap :: letters "is not assignable"),
    .decline "Type assignment issues require understanding of intended types", tenths 4, false⟩,
  ⟨"cannot_find_module", .importing, "cannot find module", .phrase "cannot find module",
    .extension [".js"], tenths 8, true⟩,
  ⟨"missing_import", .importing, "missing import", .phrase "missing import",
    .decline "Missing import detection requires understanding of available modules",
    tenths 7, true⟩,
  ⟨"unused_variable", .unused,
    "is defined but never used|is assigned a value but never used|unused variable",
    .any [.phrase "is defined but never used", .phrase "is assigned a value but never used",
      .phrase "unused variable"],
    .unusedVariable 3, tenths 9, true⟩,
  ⟨"unused_import", .unused, "unused import|is imported but never used",
    .any [.phrase "unused import", .phrase "is imported but never used"],
    .unusedImport, tenths 9, true⟩,
  ⟨"unreachable_code", .unused, "unreachable code", .phrase "unreachable code",
    .unreachable, tenths 8, true⟩,
  ⟨"not_defined", .scope, "is not defined", .phrase "is not defined",
    .decline "Undefined identifiers require scope analysis", tenths 5, false⟩,
  ⟨"reference_error", .scope, "reference error", .phrase "reference error",
    .decline "Reference errors require scope analysis", tenths 4, false⟩,
  ⟨"missing_quotes", .style, "quotes|quotation", .any [.phrase "quotes", .phrase "quotation"],
    .decline "Quote style fixes require project configuration", tenths 9, true⟩,
  ⟨"indentation", .style, "indentation|indent", .any [.phrase "indentation", .phrase "indent"],
    .decline "Indentation fixes require style configuration", tenths 8, true⟩,
  ⟨"trailing_spaces", .style, "trailing|whitespace",
    .any [.phrase "trailing", .phrase "whitespace"], .trailingBlanks, hundredths 95, true⟩,
  ⟨"no_console", .style, "unexpected console|console statement",
    .any [.phrase "unexpected console", .phrase "console statement"], .console, tenths 9, true⟩,
  ⟨"no_debugger", .style, "unexpected debugger", .phrase "unexpected debugger",
    .debugger, tenths 9, true⟩,
  ⟨"missing_key", .react, "missing key", .phrase "missing key",
    .decline "Missing key fixes require JSX AST parsing", tenths 8, true⟩,
  ⟨"jsx_syntax", .react, "jsx", .phrase "jsx",
    .decline "JSX syntax errors usually require manual intervention", tenths 6, false⟩]

/-- The built-in templates; no others can be added. -/
def builtin : Catalog := (builtinTemplates.foldl (fun c t => (c.register t).2) empty).freeze

end Mend.Catalog
