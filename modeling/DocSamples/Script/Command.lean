import DocSamples.Script.Alias
import DocSamples.Script.Column
import DocSamples.Script.Compare
import DocSamples.Script.Dump
import DocSamples.Script.Edit.Files
import DocSamples.Script.Expression
import DocSamples.Script.Filter
import DocSamples.Script.Listing
import DocSamples.Script.Order
import DocSamples.Script.Permission
import DocSamples.Script.Search
import DocSamples.Script.Signal
import DocSamples.Script.Variable

namespace DocSamples.Script

/-! # Commands by their names

What is run under a name that stands for no function and starts nothing else.
-/

/-- A command that needs nothing but its words. -/
abbrev Action := Call → Machine → Machine

/-- Runs a command that leaves zero unless it fails. -/
def successful (action : Action) : Action :=
  fun call machine => action call (machine.leave 0)

/-- The program that shows its words, in which escapes mean something only on demand. -/
def plainEcho : Action := fun call machine =>
  let isOption (word : String) : Bool :=
    match word.toList with
    | '-' :: c :: rest => (c :: rest).all fun c => ['n', 'e', 'E'].contains c
    | _ => false
  let options := call.arguments.takeWhile isOption
  let has (letter : Char) : Bool := options.any fun word => word.contains letter
  let text := " ".intercalate (call.arguments.drop options.length)
  let (bytes, stop) :=
    if has 'e' then unescape false text.toList else (Text.Utf8.encodeText text, false)
  machine.write (if has 'n' || stop then bytes else bytes ++ [10])

/-- Shows the values of variables that programs see. -/
def printenv : Action := fun call machine =>
  let valueOf? (name : String) : Option String :=
    if machine.exported.contains name then machine.bindings.find? name else none
  if call.arguments.isEmpty then
    machine.exported.foldl (fun machine name =>
      match valueOf? name with
      | some value => machine.say (name ++ "=" ++ value ++ "\n")
      | none => machine) machine
  else
    call.arguments.foldl (fun machine name =>
      match valueOf? name with
      | some value => machine.say (value ++ "\n")
      | none => machine.leave 1) machine

/-- Shows a line without end.  To a reader that may have enough of it some thousand
lines are shown. -/
def yes : Action := fun call machine =>
  let line := " ".intercalate (if call.arguments.isEmpty then ["y"] else call.arguments) ++ "\n"
  if machine.output = .capture then machine.say (String.join (.replicate 4096 line))
  else machine.finish .endless

/-- The commands that a script has of its own. -/
def builtin? (name : String) : Option Action :=
  match name with
  | "echo" => some (successful echo)
  | "printf" => some (successful fun call => printf call.line call.arguments)
  | "exit" => some exit
  | "return" => some returnFrom
  | "break" => some (leaveLoop name false)
  | "continue" => some (leaveLoop name true)
  | "pwd" => some (successful fun call machine =>
      match (call.arguments.filter (·.startsWith "-")).find? fun word =>
          !(["-L", "-P", "-LP", "-PL", "--", "-"].contains word) with
      | some word =>
          machine.complainAt call.line 2 ("pwd: Illegal option " ++
            String.ofList (word.toList.take 2))
      | none => machine.say (machine.directory.text ++ "\n"))
  | "cd" | "chdir" => some (successful changeDirectory)
  | "shift" => some (successful shift)
  | "set" =>
      some (successful fun call machine =>
        if call.arguments.isEmpty then showVariables machine
        else setOptions call.line machine call.arguments)
  | "export" => some (successful exportNamed)
  | "readonly" => some (successful readonly)
  | "local" => some (successful keepLocal)
  | "unset" => some (successful unset)
  | "read" => some (successful readLineInto)
  | "getopts" => some (successful getopts)
  | "kill" => some (successful kill)
  | "wait" => some (successful wait)
  | "trap" => some (successful trap)
  | "alias" => some (successful aliasNamed)
  | "unalias" => some (successful unalias)
  | "jobs" => some (successful showStates)
  | "fg" | "bg" => some fun call machine =>
      machine.complainAt call.line 2 (name ++ ": job (null) not created under job control")
  | "true" | ":" | "hash" | "ulimit" => some fun _ => (·.leave 0)
  | "umask" => some (successful umask)
  | "false" => some fun _ => (·.leave 1)
  | "test" => some fun call => test name call.line call.arguments
  | "[" => some fun call => bracketTest call.line call.arguments
  | _ => none
where
  showVariables (machine : Machine) : Machine :=
    (sortNames (machine.bindings.entries.map Prod.fst)).foldl (fun machine name =>
      machine.say (name ++ "=" ++ quotedText ((machine.bindings.find? name).getD "") ++ "\n"))
      machine

/-- The programs that lie among the files of the system. -/
def tool? (name : String) : Option Action :=
  match name with
  | "base64" => some (successful base64)
  | "basename" => some (successful basename)
  | "cat" => some (successful cat)
  | "chmod" => some (successful chmod)
  | "cmp" => some (successful cmp)
  | "comm" => some (successful comm)
  | "cp" => some (successful cp)
  | "cut" => some (successful cut)
  | "diff" => some (successful diff)
  | "dirname" => some (successful dirname)
  | "echo" => some (successful plainEcho)
  | "egrep" => some (successful (grep (some 'E')))
  | "expr" => some (successful expr)
  | "fgrep" => some (successful (grep (some 'F')))
  | "fold" => some (successful fold)
  | "grep" => some (successful (grep none))
  | "head" => some (successful (showPart name true))
  | "ln" => some (successful ln)
  | "ls" => some (successful ls)
  | "mkdir" => some (successful mkdir)
  | "mv" => some (successful mv)
  | "nl" => some (successful nl)
  | "od" => some (successful od)
  | "paste" => some (successful paste)
  | "printenv" => some (successful printenv)
  | "readlink" => some (successful readlink)
  | "realpath" => some (successful realpath)
  | "rev" => some (successful rev)
  | "rm" => some (successful rm)
  | "rmdir" => some (successful rmdir)
  | "sed" => some (successful sed)
  | "seq" => some (successful seq)
  | "sleep" => some (successful sleep)
  | "sort" => some (successful sort)
  | "tac" => some (successful tac)
  | "tail" => some (successful (showPart name false))
  | "tee" => some (successful tee)
  | "touch" => some (successful touch)
  | "tr" => some (successful tr)
  | "uniq" => some (successful uniq)
  | "unlink" => some (successful unlink)
  | "wc" => some (successful wc)
  | "yes" => some (successful yes)
  | "which" => some (successful which)
  | "printf" | "pwd" | "kill" | "true" | "false" | "test" | "[" => builtin? name
  | _ => none

/-- Shows what is run under a name. -/
def describe (isLong : Bool) (machine : Machine) (name : String) : Machine :=
  let shown (short long : String) : Machine :=
    (machine.say ((if isLong then name ++ long else short) ++ "\n")).leave 0
  if keywords.contains name then shown name " is a shell keyword"
  else if let some value := machine.aliases.find? name then
    shown ("alias " ++ name ++ "=" ++ quotedText value) (" is an alias for " ++ value)
  else if specialCommands.contains name then shown name " is a special shell builtin"
  else if (machine.functions.find? name).isSome then shown name " is a shell function"
  else if plainCommands.contains name then shown name " is a shell builtin"
  else if let some program := programFor? machine name then
    match program with
    | .known word =>
        let path := if name.contains '/' then name else "/usr/bin/" ++ word
        shown path (" is " ++ path)
    | .file path => shown path (" is " ++ path)
  else if isLong then (machine.say (name ++ ": not found\n")).leave 127
  else machine.leave 127

end DocSamples.Script
