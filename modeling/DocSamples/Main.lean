import DocSamples.CommandLine.Run
import DocSamples.Compiler.Program

/-! # The program

The files that a command works on are named on the standard input, one on a
line.  The command that writes settings takes its answers from there instead,
and works on the one file that it writes.  Every sample passes the checker of
this program; samples are compiled where the settings ask for a command.
-/

open DocSamples

/-- Reads a stream to its end. -/
partial def readAll (stream : IO.FS.Stream) (before : String) : IO String := do
  let line ← stream.getLine
  if line.isEmpty then return before else readAll stream (before ++ line)

/-- The names of the files to work on. -/
def fileNames (words : List String) (input : String) : List String :=
  match Request.ofWords words with
  | .ok (.init request) => [request.output]
  | _ => InitRequest.inputLines input

/-- Adds a file to a tree, if it is there. -/
def addFile (tree : Tree) (name : String) : IO Tree := do
  try
    let bytes ← IO.FS.readBinFile name
    match tree.plant (.ofText name) (.file bytes.toList) with
    | .ok planted => return planted
    | .error _ => return tree
  catch _ => return tree

def writeFile (path : Path) (bytes : Text.Utf8.Bytes) : IO Unit := do
  IO.FS.createDirAll path.parent.text
  IO.FS.writeBinFile path.text (ByteArray.mk bytes.toArray)

def display (showing : Showing) : IO Unit :=
  match showing.channel with
  | .output => IO.println showing.plainText
  | .errors => IO.eprintln showing.plainText

def main (words : List String) : IO UInt32 := do
  let input ← readAll (← IO.getStdin) ""
  let current := Path.ofText ((← IO.getEnv "PWD").getD "/")
  let tree ← (fileNames words input).foldlM addFile (Tree.empty current.names)
  let bench : Workbench :=
    { tree
      checker := fun _ => none
      launcher := Program.launch
      directory := .ofText "/tmp/doc_samples" }
  let ending := CommandLine.run bench words input
  for event in ending.events do
    for notice in event.notice? do
      IO.eprintln notice
  for showing in ending.shown do
    display showing
  for fault in ending.escaped do
    IO.eprintln fault.message
  for (path, bytes) in Tree.newFiles tree ending.tree do
    writeFile path bytes
  return UInt32.ofNat (ending.exitCode % 256).toNat
