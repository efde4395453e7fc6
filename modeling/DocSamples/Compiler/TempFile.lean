import DocSamples.Source
import DocSamples.Tree

namespace DocSamples

/-! # Temporary files

A compiler that is a program gets each source in a file of its own.  The number
in front makes the names of the files different.
-/

structure TempFile where
  name : String
  source : Source
deriving DecidableEq, Repr

namespace TempFile

/-- The characters that a file name may hold anywhere. -/
def isSafe (c : Char) : Bool :=
  c.isAlphanum || c = '_' || c = '.' || c = '-'

def safeName (name : String) : String :=
  name.map fun c => if isSafe c then c else '_'

def numberWidth : Nat := 3

def numberText (number : Nat) : String :=
  let digits := Nat.toDigits 10 number
  String.ofList (List.replicate (numberWidth - digits.length) '0' ++ digits)

/-- The name of the file that a source comes from, or one for samples. -/
def baseName (suffix : String) (source : Source) : String :=
  match source.path with
  | some path => path.name
  | none => "sample" ++ suffix

def ofSource (suffix : String) (number : Nat) (source : Source) : TempFile where
  name := numberText number ++ "_" ++ safeName (baseName suffix source)
  source := source

def ofSources (suffix : String) (sources : List Source) : List TempFile :=
  sources.zipIdx.map fun (source, number) => ofSource suffix number source

def path (directory : Path) (file : TempFile) : Path :=
  directory.child file.name

/-- Writes the files into a directory. -/
def writeAll (directory : Path) : List TempFile → Tree → Except PathFault Tree
  | [], tree => .ok tree
  | file :: rest, tree => do
      writeAll directory rest (← tree.writeText (file.path directory) file.source.text)

end TempFile

end DocSamples
