import DocSamples.Script.Format
import DocSamples.Script.Job
import DocSamples.Script.Test

namespace DocSamples.Script

/-! # Commands of scripts

The commands that a script knows by itself.  Each leaves a status, which is zero
for success.
-/

open Text

/-- A command that is run: its line and its words after expansion. -/
structure Call where
  line : Nat
  arguments : List String

/-! ## Names -/

/-- The commands whose failure ends a script. -/
def specialCommands : List String :=
  [".", ":", "break", "continue", "eval", "exec", "exit", "export", "readonly", "return", "set",
    "shift", "times", "trap", "unset"]

def plainCommands : List String :=
  ["alias", "bg", "cd", "chdir", "command", "echo", "false", "fg", "getopts", "hash", "jobs",
    "kill", "local", "printf", "pwd", "read", "test", "[", "true", "type", "ulimit", "umask",
    "unalias", "wait"]

/-- The programs that lie among the files of the system, and do their work by
themselves. -/
def programNames : List String :=
  ["base64", "basename", "cat", "chmod", "cmp", "comm", "cp", "cut", "diff", "dirname", "echo",
    "expr", "false", "fold", "grep", "head", "kill", "ln", "ls", "mkdir", "mv", "nl", "od",
    "paste", "printenv", "printf", "pwd", "readlink", "realpath", "rev", "rm", "rmdir", "sed",
    "seq", "sleep", "sort", "tac", "tail", "tee", "test", "[", "touch", "tr", "true", "uniq",
    "unlink", "wc", "which", "yes", "egrep", "fgrep"]

/-- The programs that start others. -/
def starterNames : List String :=
  ["awk", "bash", "dash", "env", "find", "mawk", "nice", "nohup", "sh", "timeout", "xargs"]

def isProgram (name : String) : Bool :=
  programNames.contains name || starterNames.contains name

/-- The directories of programs that are searched at first. -/
def programDirectories : List String :=
  ["/usr/local/sbin", "/usr/local/bin", "/usr/sbin", "/usr/bin", "/sbin", "/bin"]

/-- The program that a word with a directory names. -/
def programAt? (word : String) : Option String :=
  ["/usr/bin/", "/bin/"].findSome? fun directory =>
    let name := String.ofList (word.toList.drop directory.length)
    if word.startsWith directory && isProgram name then some name else none

/-! ## Writing -/

def echo (call : Call) (machine : Machine) : Machine :=
  let (words, lineEnd) : List String × Utf8.Bytes := match call.arguments with
    | "-n" :: rest => (rest, [])
    | words => (words, [10])
  let (bytes, stop) := unescape false (" ".intercalate words).toList
  machine.write (if stop then bytes else bytes ++ lineEnd)

/-! ## Time -/

/-- A number of seconds with an optional fraction and unit, in milliseconds. -/
def milliseconds? (text : String) : Option Nat := do
  let chars := text.toList
  let whole := chars.takeWhile Char.isDigit
  let rest := chars.dropWhile Char.isDigit
  let (fraction, rest) := match rest with
    | '.' :: rest => (rest.takeWhile Char.isDigit, rest.dropWhile Char.isDigit)
    | _ => ([], rest)
  let unit ← match rest with
    | [] => some 1
    | ['s'] => some 1
    | ['m'] => some 60
    | ['h'] => some 3600
    | ['d'] => some 86400
    | _ => none
  if whole.isEmpty && fraction.isEmpty then none
  else
    let thousandths := (fraction ++ ['0', '0', '0']).take 3
    return numberOf (whole ++ thousandths) * unit

/-- Where to read how a program is used. -/
def advice (program : String) : String :=
  "Try '" ++ program ++ " --help' for more information."

/-- Tells of an option that a program does not know. -/
def refuseOption (program : String) (status : Nat) (letter : Char) (machine : Machine) : Machine :=
  machine.complain status
    (program ++ ": invalid option -- '" ++ String.singleton letter ++ "'\n" ++ advice program)

def sleep (call : Call) (machine : Machine) : Machine :=
  let option? (argument : String) : Option Char :=
    if argument.startsWith "-" then argument.toList[1]? else none
  match call.arguments.filterMap option? with
  | letter :: _ => refuseOption "sleep" 1 letter machine
  | [] =>
      if call.arguments.isEmpty then
        machine.complain 1 ("sleep: missing operand\n" ++ advice "sleep")
      else
        match call.arguments.filter fun argument => (milliseconds? argument).isNone with
        | [] =>
            let times := call.arguments.filterMap milliseconds?
            machine.pass (times.foldl (· + ·) 0)
        | wrong =>
            let told := wrong.map fun argument =>
              "sleep: invalid time interval ‘" ++ argument ++ "’\n"
            machine.complain 1 (String.join told ++ advice "sleep")

/-- Puts a text between quotes for a script to read. -/
def quotedText (text : String) : String :=
  let pieces := (text.splitOn "\x27").map fun piece => "\x27" ++ piece ++ "\x27"
  "\x22\x27\x22".intercalate pieces

/-! ## The state of the script -/

/-- Goes to a directory, whose name is kept as it is written. -/
def changeDirectory (call : Call) (machine : Machine) : Machine :=
  let words := call.arguments.dropWhile fun word => word = "-P" || word = "-L" || word = "--"
  let target := match words with
    | [] => machine.bindings.find? "HOME"
    | "-" :: _ => machine.bindings.find? "OLDPWD"
    | name :: _ => some name
  match target with
  | none => machine
  | some name =>
      let path := machine.pathOf name
      match machine.tree.isDirectory path with
      | .ok true =>
          let place := Tree.plainPlace [] path.names
          let moved := { (machine.bind "OLDPWD" machine.directory.text) with
            directory := .ofNames .root place }
          if words.head? = some "-" then moved.say (moved.directory.text ++ "\n") else moved
      | _ => machine.complainAt call.line 2 ("cd: can't cd to " ++ name)

/-- A command fails that a script cannot go on without. -/
def failAt (line : Nat) (text : String) (machine : Machine) : Machine :=
  (machine.complainAt line 2 text).finish (.exited 2)

/-- Ends the script. -/
def exit (call : Call) (machine : Machine) : Machine :=
  match call.arguments with
  | [] => machine.exit machine.status
  | word :: _ =>
      match Sum.count? word with
      | some status => machine.exit status
      | none => failAt call.line ("exit: Illegal number: " ++ word) machine

/-- Leaves the function or the text that is being read. -/
def returnFrom (call : Call) (machine : Machine) : Machine :=
  match call.arguments with
  | [] => machine.finish .returned
  | word :: _ =>
      match Sum.count? word with
      | some status => (machine.leave status).finish .returned
      | none => failAt call.line ("return: Illegal number: " ++ word) machine

/-- Leaves loops, or goes on to the next turn of one. -/
def leaveLoop (name : String) (goesOn : Bool) (call : Call) (machine : Machine) : Machine :=
  let word := call.arguments.headD "1"
  match Sum.count? word with
  | some (levels + 1) =>
      if machine.loops = 0 then machine.leave 0
      else (machine.leave 0).finish (.left ((levels + 1).min machine.loops) goesOn)
  | _ => failAt call.line (name ++ ": Illegal number: " ++ word) machine

def shift (call : Call) (machine : Machine) : Machine :=
  let word := call.arguments.headD "1"
  match Sum.count? word with
  | none => failAt call.line ("shift: Illegal number: " ++ word) machine
  | some count =>
      if count ≤ machine.arguments.length then
        { machine with arguments := machine.arguments.drop count }
      else failAt call.line "shift: can't shift that many" machine

/-- Whether a mode is on, by its letter. -/
def hasMode (modes : Modes) (letter : Char) : Bool :=
  match letter with
  | 'e' => modes.stopsOnFailure
  | 'f' => modes.keepsWildcards
  | 'n' => modes.readsOnly
  | 'x' => modes.showsCommands
  | 'u' => modes.refusesUnset
  | 'C' => modes.keepsFiles
  | 'a' => modes.exportsAll
  | _ => modes.others.contains letter

/-- The letters of the modes that are on, in the order in which they are shown. -/
def modeLetters (modes : Modes) : String :=
  String.ofList ("ubaCEVvxsnmiIfe".toList.filter (hasMode modes))

/-- Switches a mode by its letter, if there is such a letter. -/
def switchMode? (isOn : Bool) (letter : Char) (modes : Modes) : Option Modes :=
  match letter with
  | 'e' => some { modes with stopsOnFailure := isOn }
  | 'f' => some { modes with keepsWildcards := isOn }
  | 'n' => some { modes with readsOnly := isOn }
  | 'x' => some { modes with showsCommands := isOn }
  | 'u' => some { modes with refusesUnset := isOn }
  | 'C' => some { modes with keepsFiles := isOn }
  | 'a' => some { modes with exportsAll := isOn }
  | 'I' | 'i' | 'm' | 's' | 'v' | 'V' | 'E' | 'b' =>
      let others := modes.others.filter (· != letter)
      some { modes with others := if isOn then letter :: others else others }
  | _ => none

/-- The letters of the modes that have names. -/
def namedModes : List (String × Char) :=
  [("errexit", 'e'), ("noglob", 'f'), ("ignoreeof", 'I'), ("monitor", 'm'), ("noexec", 'n'),
    ("xtrace", 'x'), ("verbose", 'v'), ("vi", 'V'), ("emacs", 'E'), ("noclobber", 'C'),
    ("allexport", 'a'), ("notify", 'b'), ("nounset", 'u')]

/-- Switches modes by their letters; the first letter that is none is the fault. -/
def switchModes (isOn : Bool) (letters : List Char) (modes : Modes) : Except Char Modes :=
  letters.foldlM (fun modes letter =>
    match switchMode? isOn letter modes with
    | some modes => .ok modes
    | none => .error letter) modes

/-- Sets the arguments of the script and its modes. -/
def setOptions (line : Nat) (machine : Machine) : List String → Machine
  | [] => machine
  | "--" :: words => { machine with arguments := words }
  | "-" :: words =>
      { machine with arguments := if words.isEmpty then machine.arguments else words }
  | ["-o"] => machine
  | ["+o"] => machine
  | word :: rest =>
      let isOn := word.startsWith "-"
      if !(isOn || word.startsWith "+") then { machine with arguments := word :: rest }
      else if word = "-o" || word = "+o" then
        match namedModes.lookup (rest.headD "") with
        | some letter =>
            setOptions line
              { machine with modes := (switchMode? isOn letter machine.modes).getD machine.modes }
              rest.tail
        | none => failAt line ("set: Illegal option -o " ++ rest.headD "") machine
      else
        match switchModes isOn word.toList.tail machine.modes with
        | .ok modes => setOptions line { machine with modes } rest
        | .error letter =>
            failAt line ("set: Illegal option " ++ String.ofList [word.toList.headD '-', letter])
              machine
termination_by words => words.length
decreasing_by all_goals simp_wf; try omega

/-- The name and the value of a word such as `name=value`. -/
def splitSetting (word : String) : String × Option String :=
  match word.toList.dropWhile (· != '=') with
  | '=' :: value =>
      (String.ofList (word.toList.takeWhile (· != '=')), some (String.ofList value))
  | _ => (word, none)

/-- Lets words stand for texts, or shows what they stand for. -/
def aliasNamed (call : Call) (machine : Machine) : Machine :=
  let line (name value : String) : String := name ++ "=" ++ quotedText value ++ "\n"
  if call.arguments.isEmpty then
    machine.say (String.join (machine.aliases.entries.map fun (name, value) => line name value))
  else
    call.arguments.foldl (fun machine word =>
      match splitSetting word with
      | (name, some value) => { machine with aliases := machine.aliases.insert name value }
      | (name, none) =>
          match machine.aliases.find? name with
          | some value => machine.say (line name value)
          | none => machine.complain 1 ("alias: " ++ name ++ " not found")) machine

def unalias (call : Call) (machine : Machine) : Machine :=
  if call.arguments.head? = some "-a" then { machine with aliases := .empty }
  else
    call.arguments.foldl (fun machine name =>
      if machine.aliases.contains name then
        { machine with aliases := ⟨machine.aliases.entries.filter (·.1 != name)⟩ }
      else machine.complain 1 ("unalias: " ++ name ++ " not found")) machine

/-- Sets the rights that new files are not given, or shows them. -/
def umask (call : Call) (machine : Machine) : Machine :=
  let digit (value : Nat) : String := toString (value % 8)
  match call.arguments with
  | [] =>
      machine.say ("0" ++ digit (machine.mask / 64) ++ digit (machine.mask / 8) ++
        digit machine.mask ++ "\n")
  | "-S" :: _ =>
      let rights (value : Nat) : String :=
        let letter (bit : Nat) (text : String) : String :=
          if value / bit % 2 = 0 then text else ""
        letter 4 "r" ++ letter 2 "w" ++ letter 1 "x"
      machine.say ("u=" ++ rights (machine.mask / 64) ++ ",g=" ++ rights (machine.mask / 8) ++
        ",o=" ++ rights machine.mask ++ "\n")
  | word :: _ =>
      if word.toList.all fun c => decide ('0' ≤ c) && decide (c ≤ '7') then
        { machine with mask := word.toList.foldl (fun value c => value * 8 + Sum.digitValue c) 0 }
      else machine.complainAt call.line 2 ("umask: Illegal number: " ++ word)

/-- Works on the variables that words name, some of which are given values. -/
def eachNamed (program : String) (call : Call) (work : Machine → String → Machine)
    (machine : Machine) : Machine :=
  let words := call.arguments.filter (· != "--")
  words.foldl (fun machine word =>
    if machine.ending.isSome then machine
    else
      let (name, value) := splitSetting word
      if word.startsWith "-" then
        failAt call.line
          (program ++ ": Illegal option " ++ String.ofList (word.toList.take 2)) machine
      else if !isName name then
        failAt call.line (program ++ ": " ++ name ++ ": bad variable name") machine
      else
        let worked := work machine name
        match value with
        | some value =>
            let free := { worked with fixed := worked.fixed.filter (· != name) }
            if machine.fixed.contains name then worked.bind name value
            else { free.bind name value with fixed := worked.fixed }
        | none => worked) machine

/-- Shows variables with their values. -/
def showNamed (program : String) (names : List String) (machine : Machine) : Machine :=
  names.foldl (fun machine name =>
    let value := ((machine.bindings.find? name).map fun value => "=" ++ quotedText value).getD ""
    machine.say (program ++ " " ++ name ++ value ++ "\n")) machine

def exportNamed (call : Call) (machine : Machine) : Machine :=
  if call.arguments.isEmpty || call.arguments = ["-p"] then
    showNamed "export" machine.exported machine
  else
    eachNamed "export" call (fun machine name =>
      if machine.exported.contains name then machine
      else { machine with exported := machine.exported ++ [name] }) machine

def readonly (call : Call) (machine : Machine) : Machine :=
  if call.arguments.isEmpty || call.arguments = ["-p"] then
    showNamed "readonly" machine.fixed machine
  else
    eachNamed "readonly" call (fun machine name =>
      { machine with fixed := machine.fixed ++ [name] }) machine

/-- Keeps variables for the function that is being run. -/
def keepLocal (call : Call) (machine : Machine) : Machine :=
  if machine.depth = 0 then failAt call.line "local: not in a function" machine
  else if call.arguments = ["-"] then machine
  else eachNamed "local" call Machine.keepOutside machine

def unset (call : Call) (machine : Machine) : Machine :=
  let (options, names) := call.arguments.span fun word => word.startsWith "-" && word != "-"
  if options.contains "-f" then
    { machine with functions :=
        ⟨machine.functions.entries.filter fun (name, _) => !names.contains name⟩ }
  else
    names.foldl (fun machine name =>
      if machine.ending.isSome then machine
      else if !isName name then
        failAt call.line ("unset: " ++ name ++ ": bad variable name") machine
      else machine.unbind name) machine

end DocSamples.Script
