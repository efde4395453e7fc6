import DocSamples.Script.Edit.Editor
import DocSamples.Script.Edit.Read
import DocSamples.Script.Input

namespace DocSamples.Script

/-! # Editing files

The lines of files are edited one file after the other or each file on its own, and
what comes out is written, or takes the place of the file.
-/

open Text

def editTable : OptionTable where
  flags := "nErsuzi"
  valued := "efl"
  names := [("quiet", 'n'), ("silent", 'n'), ("expression", 'e'), ("file", 'f'),
    ("regexp-extended", 'E'), ("separate", 's'), ("unbuffered", 'u'), ("null-data", 'z'),
    ("in-place", 'i'), ("line-length", 'l'), ("posix", 'u')]

/-- The letters of a word up to the one that has all that follows as its value. -/
def splitInPlace? (letters : List Char) : Option (List Char × List Char) :=
  let before := letters.takeWhile fun c => c != 'i' && !editTable.valued.contains c
  match letters.drop before.length with
  | 'i' :: ending => some (before, ending)
  | _ => none

/-- Words in which the ending of kept files stands behind a longer name. -/
def namedInPlace (words : List String) : List String :=
  words.flatMap fun word =>
    match word.toList with
    | '-' :: c :: rest =>
        match if c = '-' then none else splitInPlace? (c :: rest) with
        | some (before, ending) =>
            (if before.isEmpty then [] else [String.ofList ('-' :: before)]) ++
              ["--in-place=" ++ String.ofList ending]
        | none => [word]
    | _ => [word]

/-- The lines of some bytes up to their ends, and whether the last one has an end. -/
def sourceLines (mark : Char) (name : String) (bytes : Utf8.Bytes) : List Edit.SourceLine :=
  let pieces := (String.ofList (charsOf bytes)).splitOn (String.singleton mark)
  let lines := pieces.map fun piece =>
    ({ text := piece.toList, file := name } : Edit.SourceLine)
  match lines.reverse with
  | [] => []
  | last :: before =>
      if last.text.isEmpty then before.reverse
      else ({ last with hasEnd := false } :: before).reverse

/-- The edit that a program is called with, and the operands that are left. -/
def editText? (machine : Machine) (arguments : Arguments) :
    Option (Except String String × List String) :=
  let given := arguments.options.filter fun (letter, _) => letter = 'e' || letter = 'f'
  let textOf (option : Char × String) : Except String String :=
    match option with
    | ('e', text) => .ok text
    | (_, name) =>
        let source := sourceOf machine name
        match source.content with
        | .ok bytes =>
            let text := String.ofList (charsOf bytes)
            .ok (if text.endsWith "\n" then String.ofList text.toList.dropLast else text)
        | .error cause => .error ("couldn't open file " ++ name ++ ": " ++ cause.words)
  match given, arguments.operands with
  | [], [] => none
  | [], text :: rest => some (.ok text, rest)
  | _, operands => some ((given.mapM textOf).map "\n".intercalate, operands)

/-- The files that an edit writes. -/
def writtenFiles (commands : List Edit.Command) : List String :=
  let names := commands.filterMap fun command =>
    match command.verb with
    | .writeFile name => some name
    | .substitute substitution => substitution.file
    | _ => none
  names.eraseDups.filter (· != "/dev/stdout")

/-- Writes the files of an edit. -/
def saveFiles (files : List (String × Utf8.Bytes)) (machine : Machine) : Machine :=
  files.foldl (fun machine (name, bytes) =>
    if name = "/dev/stderr" then machine.writeTo machine.errors bytes
    else
      match machine.tree.writeBytes (machine.pathOf name) bytes with
      | .ok tree => { machine with tree }
      | .error _ => machine) machine

/-- Shows what an editor has written, and ends as it has ended. -/
def closeEdit (editor : Edit.Editor) (outcome : Edit.Editor.Outcome) (machine : Machine) :
    Machine :=
  let shown := (saveFiles editor.files machine).write editor.output
  match outcome with
  | .finished 0 => shown
  | .finished status => shown.leave status
  | .endless => shown.finish .endless

/-- Edits each file on its own; `work` is told what has come out of it. -/
def editEach (plan : Edit.Plan) (sources : List Source) (editor : Edit.Editor)
    (machine : Machine) (work : Source → Utf8.Bytes → Machine → Machine) :
    Edit.Editor × Edit.Editor.Outcome × Machine :=
  match sources with
  | [] => (editor, .finished 0, machine)
  | source :: rest =>
      match source.content with
      | .error _ => editEach plan rest editor machine work
      | .ok bytes =>
          let (after, outcome) :=
            Edit.Editor.run plan (sourceLines plan.mark source.name bytes) editor
          let worked := work source after.output machine
          match outcome with
          | .finished 0 => editEach plan rest after worked work
          | _ => (after, outcome, worked)

/-- The sources that can be read; the others are told of.  A directory ends the edit
unless files are replaced. -/
def tellUnread (inPlace : Bool) (sources : List Source) (machine : Machine) :
    List Source × Machine :=
  match sources with
  | [] => ([], machine)
  | source :: rest =>
      match source.content with
      | .ok _ =>
          let (readable, told) := tellUnread inPlace rest machine
          (source :: readable, told)
      | .error .isDirectory =>
          if inPlace then
            tellUnread inPlace rest
              (machine.complain 4 ("sed: couldn't edit " ++ source.name ++ ": not a regular file"))
          else
            ([], machine.complain 4 ("sed: read error on " ++ source.name ++ ": Is a directory"))
      | .error cause =>
          tellUnread inPlace rest
            (machine.complain 2 ("sed: can't read " ++ source.name ++ ": " ++ cause.words))

/-- Edits the lines of files. -/
def sed (call : Call) (machine : Machine) : Machine :=
  let words := namedInPlace call.arguments
  withOptions "sed" 1 editTable { call with arguments := words } machine fun arguments =>
    match editText? machine arguments with
    | none =>
        machine.complain 1
          "Usage: sed [OPTION]... \x7bscript-only-if-no-other-script\x7d [input-file]..."
    | some (.error fault, _) => machine.complain 4 ("sed: " ++ fault)
    | some (.ok text, names) =>
        match Edit.read (arguments.has 'E' || arguments.has 'r') text with
        | .error fault => machine.complain fault.status ("sed: " ++ fault.text)
        | .ok commands =>
            let read (name : String) : Utf8.Bytes :=
              (sourceOf machine name).content.toOption.getD []
            let plan : Edit.Plan := {
              commands := commands.zipIdx.map fun (item, index) => ⟨index, item⟩
              isSilent := arguments.has 'n' || text.startsWith "#n\n" || text = "#n"
              mark := if arguments.has 'z' then '\x00' else '\n'
              width := ((arguments.value? 'l').bind Sum.digits?).getD 70
              read }
            let editor : Edit.Editor := {
              files := (writtenFiles commands).map fun name => (name, []) }
            match arguments.value? 'i' with
            | some ending =>
                let sources := names.map (sourceOf machine)
                let (readable, told) := tellUnread true sources machine
                let replace (source : Source) (bytes : Utf8.Bytes) (machine : Machine) :
                    Machine :=
                  let backup := if ending = "" then []
                    else if ending.contains '*' then
                      [(ending.replace "*" source.name, source.content.toOption.getD [])]
                    else [(source.name ++ ending, source.content.toOption.getD [])]
                  saveFiles (backup ++ [(source.name, bytes)]) machine
                let (after, outcome, worked) := readable.foldl
                  (fun (editor, outcome, machine) source =>
                    if outcome != .finished 0 then (editor, outcome, machine)
                    else
                      let fresh := { editor with output := [], owesEnd := false }
                      editEach plan [source] fresh machine replace)
                  (editor, .finished 0, told)
                closeEdit { after with output := [] } outcome worked
            | none =>
                let (readable, told) := tellUnread false (sourcesOf machine names) machine
                let (after, outcome) :=
                  if arguments.has 's' then
                    let (after, outcome, _) :=
                      editEach plan readable editor told fun _ _ machine => machine
                    (after, outcome)
                  else
                    let lines := readable.flatMap fun source =>
                      sourceLines plan.mark source.name (source.content.toOption.getD [])
                    Edit.Editor.run plan lines editor
                consume names (closeEdit after outcome told)

end DocSamples.Script
