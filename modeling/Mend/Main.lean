import Mend.Command.Run

/-!
The program: it looks up the files that its arguments speak of, runs, and puts the outcome on the
screen and into the file. It carries no library of a vendor of models.
-/

namespace Mend.Main

def names (path : String) : List String := (Path.ofString path).names

def look (tree : FileTree) (path : String) : IO FileTree := do
  let place := (← IO.currentDir) / path
  if path = "" || path.toList.contains '\x00' then return tree
  else if ← place.isDir then return tree.withDirectory path
  else if ← place.pathExists then return tree.withFile path (← IO.FS.readBinFile place)
  else return tree

def load (args : List String) : IO FileTree := do
  let here := names (← IO.currentDir).toString
  let tree ← args.foldlM look { FileTree.empty with here := here }
  match Command.Call.ofArguments tree args with
  | .fix _ j => (Catalog.builtin.probes j.diagnostic none).foldlM look tree
  | _ => return tree

def world (tree : FileTree) : Command.World Account.Client where
  tree := tree
  installed := []
  now := ""
  assistant := .ofVendor [] fun _ => .refused .other ""
  start := none

def perform (o : Command.Outcome) : IO UInt32 := do
  IO.print o.output
  IO.eprint o.complaint
  if let some c := o.change then
    IO.FS.writeBinFile ((← IO.currentDir) / c.path) c.text.toUTF8
  match o.status with
  | .ok n => return n.toUInt32
  | .error f =>
    IO.eprintln f.message
    return 1

end Mend.Main

def main (args : List String) : IO UInt32 := do
  Mend.Main.perform (Mend.Command.run (Mend.Main.world (← Mend.Main.load args)) args)
