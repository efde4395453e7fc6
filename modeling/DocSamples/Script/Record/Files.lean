import DocSamples.Script.Record.Grammar
import DocSamples.Script.Record.Run

namespace DocSamples.Script

/-! # Going through records of files

A record program is given in front of the files whose records it goes through, or by
files of its own.
-/

open Text

/-- What a runner of record programs is called with. -/
structure RecordCall where
  separator : Option String := none
  settings : List (String × String) := []
  programFiles : List String := []
  operands : List String := []
deriving DecidableEq, Repr

/-- Reads the options of a runner of record programs.  `fuel` bounds the words. -/
def readRecordCall (fuel : Nat) (call : RecordCall) (words : List String) :
    Except String RecordCall :=
  match fuel, words with
  | 0, _ => .ok { call with operands := words }
  | _, [] => .ok call
  | fuel + 1, word :: rest =>
      let add (letter : Char) (value : String) : Except String RecordCall :=
        match letter with
        | 'F' => .ok { call with separator := some value }
        | 'f' => .ok { call with programFiles := call.programFiles ++ [value] }
        | _ =>
            match Record.Engine.settingOf? value with
            | some setting => .ok { call with settings := call.settings ++ [setting] }
            | none => .error ("improper assignment: -v " ++ value)
      match word.toList with
      | ['-', '-'] => .ok { call with operands := rest }
      | '-' :: letter :: value =>
          if ['F', 'f', 'v'].contains letter then
            match value, rest with
            | _ :: _, _ => do readRecordCall fuel (← add letter (String.ofList value)) rest
            | [], value :: more => do readRecordCall fuel (← add letter value) more
            | [], [] => .error ("option -" ++ String.singleton letter ++ " lacks argument")
          else if letter = 'W' then readRecordCall fuel call rest
          else .error ("not an option: " ++ word)
      | _ => .ok { call with operands := word :: rest }

/-- The text of a record program, with the operands behind it. -/
def recordText (machine : Machine) (call : RecordCall) :
    Except String (Option (String × List String)) :=
  match call.programFiles, call.operands with
  | [], [] => .ok none
  | [], text :: rest => .ok (some (Record.ofBytes (Utf8.encodeText text), rest))
  | names, operands => do
      let texts ← names.mapM fun name =>
        match (sourceOf machine name).content with
        | .ok bytes => .ok (Record.ofBytes bytes)
        | .error cause =>
            .error ("cannot open \x22" ++ name ++ "\x22 (" ++ cause.words ++ ")")
      return some ("\n".intercalate texts, operands)

/-- An engine at the start of a program. -/
def Record.Engine.ofCall (shell : String → String → Machine → Machine) (program : Record.Program)
    (name : String) (call : RecordCall) (operands : List String) (machine : Machine) :
    Record.Engine :=
  let text (text : String) : Record.Value := .ofInput (Record.ofBytes (Utf8.encodeText text))
  let words := name :: operands
  let globals : List (String × Record.Value) :=
    [("FS", .text (call.separator.elim " " fun text =>
        Record.Engine.unescaped (Record.ofBytes (Utf8.encodeText text)))),
      ("OFS", .text " "), ("ORS", .text "\n"), ("RS", .text "\n"), ("NF", .number 0.0),
      ("NR", .number 0.0), ("FNR", .number 0.0), ("FILENAME", .text ""),
      ("SUBSEP", .text "\x1c"), ("CONVFMT", .text "%.6g"), ("OFMT", .text "%.6g"),
      ("RSTART", .number 0.0), ("RLENGTH", .number (-1.0)), ("ARGC", .ofNat words.length)]
  let exported := machine.exported.filterMap fun key =>
    (machine.valueOf? key).map fun value => (key, text value)
  let start : Record.Engine := {
    machine
    shell
    program
    globals := ⟨globals.map fun (key, value) => (key, .value value)⟩
    arrays := ⟨[("ARGV", ⟨words.zipIdx.map fun (word, index) => (toString index, text word)⟩),
      ("ENVIRON", ⟨exported⟩)]⟩ }
  call.settings.foldl (fun engine (key, value) =>
    engine.assign key
      (.ofInput (Record.Engine.unescaped (Record.ofBytes (Utf8.encodeText value))))) start

/-- Goes through the records of files with a program.  `shell` runs the scripts that the
program starts; `fuel` bounds its steps. -/
def awk (shell : String → String → Machine → Machine) (fuel : Nat) (name : String) (call : Call)
    (machine : Machine) : Machine :=
  let refuse (text : String) : Machine := machine.complain 2 (name ++ ": " ++ text)
  match readRecordCall (call.arguments.length + 1) {} call.arguments with
  | .error fault => refuse fault
  | .ok given =>
      match recordText machine given with
      | .error fault => refuse fault
      | .ok none => machine.complain 0 "Usage: mawk [Options] [Program] [file ...]"
      | .ok (some (text, operands)) =>
          match Record.Program.read text with
          | .error faults =>
              faults.foldl (fun machine fault =>
                machine.complain 2 (name ++ ": " ++ Record.plainText fault.message)) machine
          | .ok program =>
              let engine := Record.Engine.ofCall shell program name given operands
                (machine.leave 0)
              let (_, after) := (Record.Program.run fuel).run engine
              match after.signal with
              | some (.failed text) =>
                  let told := after.machine.complain 2 (name ++ ": " ++ Record.plainText text)
                  ({ after with machine := told }.closeAll).machine.leave 2
              | some .endless => after.closeAll.machine.finish .endless
              | _ => after.closeAll.machine.leave after.status

end DocSamples.Script
