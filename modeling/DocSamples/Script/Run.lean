import DocSamples.Script.Alias
import DocSamples.Script.Command
import DocSamples.Script.Find
import DocSamples.Script.Record.Files
import DocSamples.Script.Start
import DocSamples.Script.Stream

namespace DocSamples.Script

/-! # Running scripts

A script is run on a machine until it is at its end or has ended itself.  The
steps are bounded by fuel; a script that needs more has no end.
-/

open Text

/-! ## Parameters -/

/-- How a parameter is called. -/
def titleOf : Parameter → String
  | .named name => name
  | .positional index => toString index
  | .allArguments joined => if joined then "*" else "@"
  | .argumentCount => "#"
  | .lastStatus => "?"
  | .processId => "$"
  | .lastJob => "!"
  | .modes => "-"

/-- What a parameter stands for; nothing if it has not been set. -/
def valueOf? (machine : Machine) : Parameter → Option String
  | .named name => machine.valueOf? name
  | .positional 0 => some machine.name
  | .positional (index + 1) => machine.arguments[index]?
  | .allArguments _ =>
      if machine.arguments.isEmpty then none else some (" ".intercalate machine.arguments)
  | .argumentCount => some (toString machine.arguments.length)
  | .lastStatus => some (toString machine.status)
  | .processId => some (toString Machine.processNumber)
  | .lastJob => machine.jobs.getLast?.map fun job => toString job.number
  | .modes => some (modeLetters machine.modes)

/-- The value of a parameter, if it counts as one. -/
def countedValue? (machine : Machine) (parameter : Parameter) (coversEmpty : Bool) :
    Option String :=
  (valueOf? machine parameter).filter fun value => !(coversEmpty && value = "")

/-- Adds a text to fields; without quotes it is split. -/
def appendText (machine : Machine) (isQuoted : Bool) (fields : Fields) (text : String) : Fields :=
  if isQuoted then fields.append (.ofText true text)
  else fields.appendSplit machine.separators text

/-- Adds all arguments to fields. -/
def appendArguments (machine : Machine) (joined isQuoted : Bool) (fields : Fields) : Fields :=
  if joined && isQuoted then
    let between := String.ofList (machine.marks.take 1)
    fields.append (.ofText true (between.intercalate machine.arguments))
  else if isQuoted then fields.appendAll true machine.arguments
  else
    (machine.arguments.foldl (fun (fields, isFirst) argument =>
      ((if isFirst then fields else fields.close).appendSplit machine.separators argument, false))
      (fields, true)).1

/-- Ends a script that is not to go on with a parameter that has no value. -/
def demand (machine : Machine) (parameter : Parameter) (text : String) : Machine :=
  (machine.blame machine.line 2 (titleOf parameter ++ ": " ++ text)).finish (.exited 2)

/-- The output of a script without the line feeds at its end. -/
def capturedText (bytes : Utf8.Bytes) : String :=
  let text := charsOf (bytes.filter (· != 0))
  String.ofList (text.reverse.dropWhile (· == '\n')).reverse

/-- Whether a word is all arguments between quotes, which are no field without
arguments. -/
def isArgumentList (word : Word) : Bool :=
  let isAll : WordPart → Bool
    | .parameter (.allArguments false) .whole true => true
    | _ => false
  word.any isAll && word.all fun part => part = .quotes || isAll part

/-- Puts the home directory in place of a tilde in front of a word that is its first
part; in a setting this holds behind each colon. -/
def replaceTilde (home : Word) (isSetting isStart : Bool) : Word → Word
  | [] => []
  | part :: rest =>
      let endsThere := match rest with
        | [] => true
        | .literal '/' false :: _ => true
        | .literal ':' false :: _ => isSetting
        | _ => false
      let isColon := part = .literal ':' false
      (if part = .literal '~' false && isStart && endsThere then home else [part]) ++
        replaceTilde home isSetting (isSetting && isColon) rest

/-- A word with the home directory in it, if there is one. -/
def withHome (machine : Machine) (isSetting : Bool) (word : Word) : Word :=
  match machine.bindings.find? "HOME" with
  | none => word
  | some home =>
      replaceTilde (home.toList.map fun c => .literal c true) isSetting true word

/-! ## Endings and streams -/

/-- A failure ends a script that goes on only after success. -/
def stopAfterFailure (machine : Machine) : Machine :=
  if machine.modes.stopsOnFailure && machine.status != 0 && machine.ending.isNone then
    machine.finish (.exited machine.status)
  else machine

/-- Leaves a loop behind that a script has ended in, or stays in it. -/
inductive AfterTurn where
  | goesOn (machine : Machine)
  | stops (machine : Machine)

def afterTurn (machine : Machine) : AfterTurn :=
  match machine.ending with
  | none => .goesOn machine
  | some (.left 1 true) => .goesOn { machine with ending := none }
  | some (.left 1 false) => .stops { machine with ending := none }
  | some (.left (levels + 1) goesOn) =>
      .stops { machine with ending := some (.left levels goesOn) }
  | some _ => .stops machine

/-- Shows a command that is about to be run, where commands are shown. -/
def trace (settings : List (String × String)) (words : List String) (machine : Machine) :
    Machine :=
  if machine.modes.showsCommands then
    let lead := (machine.bindings.find? "PS4").getD "+ "
    let texts := (settings.map fun (name, value) => name ++ "=" ++ value) ++ words
    machine.writeTo machine.errors (Utf8.encodeText (lead ++ " ".intercalate texts ++ "\n"))
  else machine

/-- Does some work, which fails where it writes but the output is closed. -/
def withOpenOutput (fail work : Machine → Machine) (machine : Machine) : Machine :=
  if machine.output = .closed then
    let after := work { machine with output := .capture, captured := [] }
    let closed := { after with output := .closed, captured := machine.captured }
    if after.captured.isEmpty then closed else fail closed
  else work machine

mutual

/-- Runs a script on a machine that has not ended. -/
def run (fuel : Nat) (script : Script) (machine : Machine) : Machine :=
  match fuel with
  | 0 => machine.finish .endless
  | fuel + 1 =>
      if machine.ending.isSome then machine
      else if machine.modes.readsOnly then machine.leave 0
      else
        match script with
        | .nothing => machine.leave 0
        | .command simple =>
            stopAfterFailure (runPending fuel (deliver (runSimple fuel simple machine)))
        | .sequence first second => run fuel second (run fuel first machine)
        | .both first second =>
            let after := runGuarded fuel first machine
            if after.status = 0 then run fuel second after else after
        | .either first second =>
            let after := runGuarded fuel first machine
            if after.status = 0 then after else run fuel second after
        | .negation inner =>
            let after := runGuarded fuel inner machine
            after.leave (if after.status = 0 then 1 else 0)
        | .pipe first second =>
            let source := closePart fuel (run fuel first machine.capturing)
            let between := machine.rejoinCapture source
            let target := closePart fuel (run fuel second
              { between.entered with input := source.captured, inputIsFile := false })
            let joined := { between.rejoin target with input := between.input }
            stopAfterFailure (runPending fuel (deliver joined))
        | .subshell inner =>
            let joined := machine.rejoin (closePart fuel (run fuel inner machine.entered))
            stopAfterFailure (runPending fuel (deliver joined))
        | .background inner =>
            machine.detach (closePart fuel (run fuel inner
              { machine.entered with input := [], inputIsFile := false }))
        | .definition name body =>
            { machine with functions := machine.functions.insert name body }.leave 0
        | .redirected line inner redirections =>
            match redirect fuel line redirections machine with
            | .error after => stopAfterFailure (machine.restoreDescriptors redirections after)
            | .ok opened => machine.restoreDescriptors redirections (run fuel inner opened)
        | .choice condition whenTrue whenFalse =>
            let after := runGuarded fuel condition machine
            if after.ending.isSome then after
            else if after.status = 0 then run fuel whenTrue after
            else run fuel whenFalse after
        | .turns condition untilTrue body =>
            let after := runTurns fuel condition untilTrue body 0
              { machine with loops := machine.loops + 1 }
            { after with loops := machine.loops }
        | .loop name words body =>
            let (values, expanded) := match words with
              | none => (machine.arguments, machine)
              | some words => expandWords fuel words machine
            let after := runLoop fuel name values body
              { expanded.leave 0 with loops := machine.loops + 1 }
            { after with loops := machine.loops }
        | .selection subject cases =>
            let (field, after) := expandOne fuel subject machine
            runCases fuel field.text cases (after.leave 0)

/-- Runs what something depends on: its failure does not end the script. -/
def runGuarded (fuel : Nat) (script : Script) (machine : Machine) : Machine :=
  match fuel with
  | 0 => machine.finish .endless
  | fuel + 1 =>
      let stops := machine.modes.stopsOnFailure
      let after := run fuel script
        { machine with modes := { machine.modes with stopsOnFailure := false } }
      { after with
        modes := { after.modes with stopsOnFailure := stops || after.modes.stopsOnFailure } }

/-- Runs the scripts for signals that have come. -/
def runPending (fuel : Nat) (machine : Machine) : Machine :=
  match fuel with
  | 0 => machine.finish .endless
  | fuel + 1 =>
      match machine.pending with
      | [] => machine
      | signal :: rest =>
          let ready := { machine with pending := rest }
          if ready.ending.isSome then ready
          else
            match ready.traps.find? signal with
            | none => runPending fuel ready
            | some text =>
                let after := runText fuel 1 text.toList ready
                runPending fuel
                  (if after.ending.isSome then after else after.leave machine.status)

/-- Ends a script that runs on its own: a script may be set for its end, and its jobs
are waited for. -/
def closePart (fuel : Nat) (machine : Machine) : Machine :=
  match fuel with
  | 0 => machine.finish .endless
  | fuel + 1 =>
      let status := match machine.ending with
        | some (.exited status) => status
        | _ => machine.status
      let isOver := match machine.ending with
        | some (.killed _) => true
        | some .endless => true
        | _ => false
      match machine.traps.find? 0 with
      | some text =>
          if isOver || text = "" then machine.close
          else
            let ready := { machine with
              ending := none
              traps := ⟨machine.traps.entries.filter (·.1 != 0)⟩
              modes := { machine.modes with stopsOnFailure := false } }
            let after := runText fuel 1 text.toList (ready.leave status)
            (if after.ending.isSome then after else after.exit status).close
      | none => machine.close

/-- Opens the files of redirections in order. -/
def redirect (fuel line : Nat) (redirections : List Redirection) (machine : Machine) :
    Except Machine Machine :=
  match fuel with
  | 0 => .error (machine.finish .endless)
  | fuel + 1 =>
      match redirections with
      | [] => .ok machine
      | .same descriptor source :: rest =>
          let (field, after) := expandOne fuel source machine
          match field.text.toList with
          | ['-'] => redirect fuel line rest (after.closeDescriptor descriptor)
          | [c] =>
              if !c.isDigit then .error (refuseDescriptor after)
              else
                match after.copyDescriptor? descriptor (Sum.digitValue c) with
                | some copied => redirect fuel line rest copied
                | none => .error (after.blame line 2 (field.text ++ ": Bad file descriptor"))
          | _ => .error (refuseDescriptor after)
      | .read descriptor name :: rest =>
          let (field, after) := expandOne fuel name machine
          match after.openInput descriptor field.text with
          | .ok opened => redirect fuel line rest opened
          | .error fault => .error (after.blame line 2 fault)
      | .write descriptor mode name :: rest =>
          let (field, after) := expandOne fuel name machine
          match after.openOutput descriptor mode field.text with
          | .ok opened => redirect fuel line rest opened
          | .error fault => .error (after.blame line 2 fault)
      | .document descriptor text :: rest =>
          let (field, after) := expandOne fuel text machine
          redirect fuel line rest (after.setInput descriptor (Utf8.encodeText field.text) false)
where
  refuseDescriptor (machine : Machine) : Machine :=
    (machine.blame line 2 "Syntax error: Bad fd number").finish (.exited 2)

def runSimple (fuel : Nat) (simple : SimpleCommand) (before : Machine) : Machine :=
  match fuel with
  | 0 => before.finish .endless
  | fuel + 1 =>
      let machine := { before with line := simple.line, outputStatus := none }
      let (words, expanded) := expandWords fuel simple.words machine
      let old := simple.settings.map fun (name, _) => (name, expanded.bindings.find? name)
      let (values, bound) := expandSettings fuel simple.settings expanded
      if bound.ending.isSome then bound
      else
        let isSpecial := words.head?.any fun name =>
          specialCommands.contains name && (bound.functions.find? name).isNone
        match redirect fuel simple.line simple.redirections (trace values words bound) with
        | .error after =>
            let closed := bound.restoreDescriptors simple.redirections after
            if isSpecial then closed.finish (.exited 2)
            else if words.isEmpty then closed else closed.rebindAll old
        | .ok opened =>
            match words with
            | [] =>
                bound.restoreDescriptors simple.redirections
                  (opened.leave (opened.outputStatus.getD 0))
            | ["exec"] => opened.leave 0
            | name :: arguments =>
                let known := { opened with
                  exported := opened.exported ++ simple.settings.map Prod.fst }
                let after := runWords fuel name ⟨simple.line, arguments⟩
                  (if isSpecial then opened else known)
                let closed := bound.restoreDescriptors simple.redirections after
                if isSpecial || simple.settings.isEmpty then closed
                else { closed with exported := bound.exported }.rebindAll old

/-- Runs a command by its name. -/
def runWords (fuel : Nat) (name : String) (call : Call) (machine : Machine) : Machine :=
  match fuel with
  | 0 => machine.finish .endless
  | fuel + 1 =>
      match machine.functions.find? name with
      | some body => runFunction fuel body call.arguments machine
      | none =>
          match name with
          | "exec" =>
              match call.arguments with
              | [] => machine.leave 0
              | inner :: arguments =>
                  let after := runProgram fuel inner { call with arguments }
                    { machine with title := machine.title ++ "exec: ", lastSignal := none }
                  if after.ending.isSome then after
                  else match after.lastSignal with
                    | some signal => after.finish (.killed signal)
                    | none => { after with traps := .empty }.exit after.status
          | "eval" =>
              let text := " ".intercalate call.arguments
              let after := runText fuel machine.line text.toList
                { machine with title := "eval: " }
              { after with title := machine.title }
          | "." => runFile fuel call machine
          | "command" => runCommand fuel call machine
          | "type" => call.arguments.foldl (describe true) (machine.leave 0)
          | _ =>
              match builtin? name with
              | some action =>
                  withOpenOutput (fun machine => machine.complainAt call.line 1
                    (name ++ ": " ++ name ++ ": I/O error")) (action call) machine
              | none =>
                  let after := runProgram fuel name call { machine with lastSignal := none }
                  match after.lastSignal with
                  | some signal => tellSignal signal after
                  | none => after

/-- Runs a command that is no function, or shows what it is. -/
def runCommand (fuel : Nat) (call : Call) (machine : Machine) : Machine :=
  match fuel with
  | 0 => machine.finish .endless
  | fuel + 1 =>
      match call.arguments with
      | [] => machine.leave 0
      | "-v" :: names =>
          if names.isEmpty then machine.leave 0
          else describe false machine (names.headD "")
      | "-V" :: names => describe true machine (names.headD "")
      | "-p" :: rest => runCommand fuel { call with arguments := rest } machine
      | "--" :: rest => runCommand fuel { call with arguments := rest } machine
      | name :: arguments =>
          let after := runWords fuel name { call with arguments }
            { machine with functions :=
                ⟨machine.functions.entries.filter (·.1 != name)⟩ }
          { after with functions := machine.functions }

/-- Runs a function with arguments of its own. -/
def runFunction (fuel : Nat) (body : Script) (arguments : List String) (machine : Machine) :
    Machine :=
  match fuel with
  | 0 => machine.finish .endless
  | fuel + 1 =>
      if 1000 ≤ machine.depth then
        (machine.blame machine.line 2 "Maximum function recursion depth (1000) reached").finish
          (.exited 2)
      else
        let after := run fuel body { machine with
          arguments, depth := machine.depth + 1, outside := [], loops := 0 }
        let restored := { after.rebindAll after.outside with
          arguments := machine.arguments, depth := machine.depth, outside := machine.outside
          loops := machine.loops }
        if after.ending = some .returned then { restored with ending := none } else restored

/-- Runs a file as a part of the script. -/
def runFile (fuel : Nat) (call : Call) (machine : Machine) : Machine :=
  match fuel with
  | 0 => machine.finish .endless
  | fuel + 1 =>
      match call.arguments with
      | [] => failAt call.line ".: filename argument required" machine
      | name :: _ =>
          match machine.tree.readBytes (machine.pathOf name) with
          | .ok bytes =>
              let after := runText fuel 1 (charsOf bytes) { machine with title := name ++ ": " }
              let closed := { after with title := machine.title }
              if after.ending = some .returned then { closed with ending := none } else closed
          | .error _ => failAt call.line (".: cannot open " ++ name ++ ": No such file") machine

/-- Runs a program that is no part of the script. -/
def runProgram (fuel : Nat) (given : String) (call : Call) (machine : Machine) : Machine :=
  match fuel with
  | 0 => machine.finish .endless
  | fuel + 1 =>
      let program := programFor? machine given
      let name := match program with
        | some (.known name) => name
        | _ => ""
      match name, tool? name with
      | _, some action =>
          let reason := if name = "cat" then "standard output" else "write error"
          withOpenOutput (fun machine => machine.complain 1
            (name ++ ": " ++ reason ++ ": Bad file descriptor")) (action call) machine
      | "sh", none | "dash", none | "bash", none =>
          machine.rejoinProgram (closePart fuel
            (runShell fuel call.arguments (machine.forProgram given)))
      | "awk", none | "mawk", none =>
          let shell (reader text : String) (machine : Machine) : Machine :=
            let after := machine.rejoinProgram (closePart fuel
              (runShell fuel ["-c", text] (machine.forProgram reader)))
            match after.lastSignal with
            | some signal => { after with lastSignal := none }.leave (256 + signal)
            | none => after
          awk shell fuel name call machine
      | "find", none =>
          find (fun words machine => runInner fuel "find" ⟨call.line, words⟩ machine) call machine
      | "env", none => runWithSettings fuel call machine
      | "nohup", none => runInner fuel "nohup" call machine
      | "nice", none => runNice fuel call machine
      | "timeout", none => runTimed fuel call machine
      | "xargs", none => runForInput fuel call machine
      | _, none =>
          match program with
          | some (.file name) => runScriptFile fuel given name call machine
          | _ =>
              let isThere := given.contains '/' &&
                (machine.tree.status (machine.pathOf given)).toOption.isSome
              if given = "" then machine.blame call.line 127 ": Permission denied"
              else if isThere then machine.blame call.line 126 (given ++ ": Permission denied")
              else machine.blame call.line 127 (given ++ ": not found")

/-- Runs a file by the program that its first line names, or else as a script. -/
def runScriptFile (fuel : Nat) (given name : String) (call : Call) (machine : Machine) :
    Machine :=
  match fuel with
  | 0 => machine.finish .endless
  | fuel + 1 =>
      let content := charsOf (machine.bytesAt (machine.pathOf name))
      match interpreterOf content with
      | none =>
          machine.rejoinProgram (closePart fuel
            (runShell fuel (name :: call.arguments) (machine.forProgram name)))
      | some (reader, options) =>
          if (programAt? reader).isSome then
            runProgram fuel reader
              { call with arguments := options ++ name :: call.arguments } machine
          else machine.blame call.line 127 (given ++ ": not found")

/-- Runs a program that is to be nice to others. -/
def runNice (fuel : Nat) (call : Call) (machine : Machine) : Machine :=
  match fuel with
  | 0 => machine.finish .endless
  | fuel + 1 =>
      match call.arguments with
      | "-n" :: amount :: rest =>
          if (Sum.decimal? amount).isNone then
            machine.complain 125 ("nice: invalid adjustment ‘" ++ amount ++ "’")
          else runInner fuel "nice" { call with arguments := rest } machine
      | word :: rest =>
          if word.startsWith "-" && (Sum.decimal? (String.ofList word.toList.tail)).isSome then
            runInner fuel "nice" { call with arguments := rest } machine
          else runInner fuel "nice" call machine
      | [] => machine.say "0\n"

/-- Runs the program that another one is called with. -/
def runInner (fuel : Nat) (starter : String) (call : Call) (machine : Machine) : Machine :=
  match fuel with
  | 0 => machine.finish .endless
  | fuel + 1 =>
      match call.arguments with
      | [] => machine.complain 125 (starter ++ ": missing operand\n" ++ advice starter)
      | name :: arguments =>
          if (programFor? machine name).isSome then
            runProgram fuel name { call with arguments } machine
          else
            let told := if starter = "nohup" then
                starter ++ ": failed to run command '" ++ name ++ "'"
              else if starter = "xargs" then starter ++ ": " ++ name
              else if starter = "timeout" then
                starter ++ ": failed to run command ‘" ++ name ++ "’"
              else starter ++ ": ‘" ++ name ++ "’"
            let isThere := name.contains '/' &&
              (machine.tree.status (machine.pathOf name)).toOption.isSome
            if isThere then machine.complain 126 (told ++ ": Permission denied")
            else machine.complain 127 (told ++ ": No such file or directory")

/-- Runs a program with other variables. -/
def runWithSettings (fuel : Nat) (call : Call) (machine : Machine) : Machine :=
  match fuel with
  | 0 => machine.finish .endless
  | fuel + 1 =>
      match call.arguments with
      | [] =>
          (machine.exported.foldl (fun machine name =>
            match machine.bindings.find? name with
            | some value => machine.say (name ++ "=" ++ value ++ "\n")
            | none => machine) machine).leave 0
      | word :: rest =>
          let inner := { call with arguments := rest }
          let after :=
            if word = "-i" || word = "-" then
              runWithSettings fuel inner { machine with exported := [] }
            else if word = "-u" then
              runWithSettings fuel { call with arguments := rest.tail }
                { machine with exported := machine.exported.filter (· != rest.headD "") }
            else
              match splitSetting word with
              | (name, some value) =>
                  runWithSettings fuel inner { machine.bind name value with
                    exported := machine.exported ++ [name] }
              | (_, none) => runInner fuel "env" call machine
          { after with bindings := machine.bindings, exported := machine.exported }

/-- Runs a program for some time at most; what it has not written by then is lost. -/
def runTimed (fuel : Nat) (call : Call) (machine : Machine) : Machine :=
  match fuel with
  | 0 => machine.finish .endless
  | fuel + 1 =>
      let refuse (text : String) : Machine := machine.complain 125 (text ++ advice "timeout")
      match timeoutTable.read call.arguments with
      | .error fault => refuse ("timeout: " ++ fault.message ++ "\n")
      | .ok arguments =>
          let name := (arguments.value? 's').getD "TERM"
          let times := (arguments.value? 'k').toList ++ arguments.operands.take 1
          match signal? 0 (plainName name), times.find? fun time => (milliseconds? time).isNone with
          | none, _ => refuse ("timeout: ‘" ++ name ++ "’: invalid signal\n")
          | some _, some time => refuse ("timeout: invalid time interval ‘" ++ time ++ "’\n")
          | some signal, none =>
              match arguments.operands with
              | limit :: program :: rest =>
                  let limit := (milliseconds? limit).getD 0
                  let after := runInner fuel "timeout" ⟨call.line, program :: rest⟩ machine
                  let cut := machine.cutOff after (machine.milliseconds + limit)
                  let isOver := after.ending = some .endless ||
                    cut.milliseconds < after.milliseconds
                  if limit = 0 || !isOver then after
                  else if signal = 9 then { cut.leave 137 with lastSignal := some 9 }
                  else cut.leave (if arguments.has 'p' then 128 + signal else 124)
              | _ => refuse ""
where
  plainName (name : String) : String :=
    if name.toUpper.startsWith "SIG" then String.ofList (name.toList.drop 3) else name

/-- Runs a program with the words of the input. -/
def runForInput (fuel : Nat) (call : Call) (machine : Machine) : Machine :=
  match fuel with
  | 0 => machine.finish .endless
  | fuel + 1 =>
      match xargsTable.read call.arguments with
      | .error fault =>
          machine.complain 1 ("xargs: " ++ fault.message ++ "\n" ++ advice "xargs")
      | .ok arguments =>
          let source := (arguments.value? 'a').map (sourceOf machine)
          let used := if source.isSome then machine else { machine with input := [] }
          let commands : Except String (List (List String)) := match source with
            | some ⟨name, .error cause⟩ =>
                .error ("Cannot open input file ‘" ++ name ++ "’: " ++ cause.words)
            | some ⟨_, .ok bytes⟩ => commandsFor arguments bytes
            | none => commandsFor arguments machine.input
          match commands with
          | .error fault => used.complain 1 ("xargs: " ++ fault)
          | .ok commands => runBatch fuel call.line (arguments.has 't') commands (used.leave 0)

/-- Runs programs one after the other; the failure of any is kept.  One that is not
there, is killed or fails in a certain way is the last. -/
def runBatch (fuel line : Nat) (isShown : Bool) (commands : List (List String))
    (machine : Machine) : Machine :=
  match fuel with
  | 0 => machine.finish .endless
  | fuel + 1 =>
      match commands with
      | [] => machine
      | words :: rest =>
          let shown := if isShown then
              machine.writeTo machine.errors (Utf8.encodeText (" ".intercalate words ++ "\n"))
            else machine
          let after := runInner fuel "xargs" ⟨line, words⟩ { shown with lastSignal := none }
          let lead := "xargs: " ++ words.headD ""
          if after.ending.isSome || after.status = 127 || after.status = 126 then after
          else
            match after.lastSignal with
            | some signal =>
                { after with lastSignal := none }.complain 125
                  (lead ++ ": terminated by signal " ++ toString signal)
            | none =>
                if after.status = 255 then
                  after.complain 124 (lead ++ ": exited with status 255; aborting")
                else
                  runBatch fuel line isShown rest
                    (after.leave (if after.status = 0 then machine.status else 123))

/-- Runs a reader of scripts: a script is given by its text, by its file or by the
input, with arguments after it. -/
def runShell (fuel : Nat) (words : List String) (machine : Machine) : Machine :=
  match fuel with
  | 0 => machine.finish .endless
  | fuel + 1 =>
      match readShellOptions { words := [] } words with
      | .error option =>
          (machine.complainAt 0 2 ("Illegal option " ++ option)).finish (.exited 2)
      | .ok call =>
          let isInput := call.isInput || (!call.isText && call.words.isEmpty)
          let modes := if isInput then (switchMode? true 's' call.modes).getD call.modes
            else call.modes
          let directories := (machine.bindings.find? "PATH").getD
            (":".intercalate programDirectories)
          let ready := { machine with
            modes
            bindings := (machine.bindings.insert "PATH" directories).insert "OPTIND" "1" }
          match call.isText, call.words with
          | true, [] =>
              (machine.complainAt 0 2 "-c requires an argument").finish (.exited 2)
          | true, text :: rest =>
              runText fuel 1 text.toList
                { ready with name := rest.headD machine.name, arguments := rest.tail }
          | false, file :: rest =>
              if call.isInput then
                runText fuel 1 (charsOf machine.input)
                  { ready with input := [], arguments := call.words }
              else
                match machine.tree.readBytes (machine.pathOf file) with
                | .ok bytes =>
                    runText fuel 1 (charsOf bytes) { ready with name := file, arguments := rest }
                | .error _ =>
                    (machine.complainAt 0 2
                      ("cannot open " ++ file ++ ": No such file")).finish (.exited 2)
          | false, [] => runText fuel 1 (charsOf machine.input) { ready with input := [] }

/-- Runs the text of a script, whose first line has a number, to its end. -/
def runText (fuel line : Nat) (text : List Char) (machine : Machine) : Machine :=
  match fuel with
  | 0 => machine.finish .endless
  | fuel + 1 =>
      runTokens fuel (line + breaksIn text) (tokens line text) (text.any (!isBlankChar ·)) machine
where
  isBlankChar (c : Char) : Bool := isSpace c || c = '\n'

/-- Runs a script line by line, so that a fault in a line ends only what follows.  The
status stays as it is where a script is given that is empty. -/
def runTokens (fuel lastLine : Nat) (tokens : Tokens) (clears : Bool) (machine : Machine) :
    Machine :=
  match fuel with
  | 0 => machine.finish .endless
  | fuel + 1 =>
      if machine.ending.isSome then machine
      else
        match readFirstWith machine.aliases tokens with
        | .ok none => if clears then machine else machine.leave 0
        | .ok (some (script, rest)) =>
            runTokens fuel lastLine rest true (run fuel script machine)
        | .error found =>
            (machine.blame (found.line.getD lastLine) 2 found.fault.message).finish (.exited 2)

def runLoop (fuel : Nat) (name : String) (values : List String) (body : Script)
    (machine : Machine) : Machine :=
  match fuel with
  | 0 => machine.finish .endless
  | fuel + 1 =>
      match values with
      | [] => machine
      | value :: rest =>
          match afterTurn (run fuel body (machine.bind name value)) with
          | .goesOn after => runLoop fuel name rest body after
          | .stops after => after

/-- Takes turns; `status` is that of the last turn. -/
def runTurns (fuel : Nat) (condition : Script) (untilTrue : Bool) (body : Script) (status : Nat)
    (machine : Machine) : Machine :=
  match fuel with
  | 0 => machine.finish .endless
  | fuel + 1 =>
      match afterTurn (runGuarded fuel condition machine) with
      | .stops after => after
      | .goesOn tested =>
          if (tested.status = 0) = untilTrue then tested.leave status
          else
            match afterTurn (run fuel body tested) with
            | .goesOn after => runTurns fuel condition untilTrue body after.status after
            | .stops after => after

def runCases (fuel : Nat) (text : String) (cases : List (List Word × Script))
    (machine : Machine) : Machine :=
  match fuel with
  | 0 => machine.finish .endless
  | fuel + 1 =>
      match cases with
      | [] => machine
      | (patterns, body) :: rest =>
          let fields := patterns.map fun pattern => (expandOne fuel pattern machine).1
          if fields.any fun field => Field.isMatch field.wildcard text then run fuel body machine
          else runCases fuel text rest machine

/-- The texts that words stand for. -/
def expandWords (fuel : Nat) (words : List Word) (machine : Machine) : List String × Machine :=
  match fuel with
  | 0 => ([], machine.finish .endless)
  | fuel + 1 =>
      match words with
      | [] => ([], machine)
      | word :: rest =>
          let (fields, machine) := expandParts fuel false (withHome machine false word) {} machine
          let finished :=
            if isArgumentList word && machine.arguments.isEmpty then []
            else fields.close.finished
          let texts := if machine.modes.keepsWildcards then finished.map Field.text
            else finished.flatMap (Field.expand machine)
          if machine.ending.isSome then ([], machine)
          else
            let (more, machine) := expandWords fuel rest machine
            (texts ++ more, machine)

/-- The one field that a word stands for where it is not split. -/
def expandOne (fuel : Nat) (word : Word) (machine : Machine) : Field × Machine :=
  match fuel with
  | 0 => ([], machine.finish .endless)
  | fuel + 1 =>
      let (fields, after) := expandParts fuel false (withHome machine false word) {}
        { machine with splits := false }
      let pieces := fields.close.finished
      ((pieces.intersperse [(' ', false)]).flatten, { after with splits := machine.splits })

/-- Gives variables their values in order. -/
def expandSettings (fuel : Nat) (settings : List (String × Word)) (machine : Machine) :
    List (String × String) × Machine :=
  match fuel with
  | 0 => ([], machine.finish .endless)
  | fuel + 1 =>
      match settings with
      | [] => ([], machine)
      | (name, word) :: rest =>
          let (field, expanded) := expandOne fuel (withHome machine true word) machine
          if expanded.ending.isSome then ([], expanded)
          else
            let (more, bound) := expandSettings fuel rest (expanded.bind name field.text)
            ((name, field.text) :: more, bound)

/-- Adds the parts of a word to fields.  In a loose word also what stands there by
itself is split. -/
def expandParts (fuel : Nat) (isLoose : Bool) (parts : Word) (fields : Fields)
    (machine : Machine) : Fields × Machine :=
  match fuel with
  | 0 => (fields, machine.finish .endless)
  | fuel + 1 =>
      match parts with
      | [] => (fields, machine)
      | .literal c isQuoted :: rest =>
          let added :=
            if isLoose && !isQuoted then appendText machine false fields (String.singleton c)
            else fields.append [(c, isQuoted)]
          expandParts fuel isLoose rest added machine
      | .quotes :: rest => expandParts fuel isLoose rest (fields.append []) machine
      | .parameter parameter form isQuoted :: rest =>
          let (added, after) := expandParameter fuel parameter form isQuoted fields machine
          if after.ending.isSome then (added, after)
          else expandParts fuel isLoose rest added after
      | .noParameter :: _ =>
          (fields, (machine.blame machine.line 2 "Bad substitution").finish (.exited 2))
      | .output text isQuoted :: rest =>
          let inner := closePart fuel (runText fuel machine.line text machine.capturing)
          let after := { machine.rejoinCapture inner with
            status := machine.status
            outputStatus := some inner.status }
          let added := appendText machine isQuoted fields (capturedText inner.captured)
          if after.ending.isSome then (added, after)
          else expandParts fuel isLoose rest added after
      | .sum expression isQuoted :: rest =>
          let (word, told) := match wholeWord .document expression with
            | .ok word => (word, machine)
            | .error fault =>
                ([], (machine.blame machine.line 2 fault.message).finish (.exited 2))
          let (field, ready) := expandOne fuel word told
          let given (name : String) : String := (ready.valueOf? name).getD ""
          if ready.ending.isSome then (fields, ready)
          else
            match Sum.evaluate given (field.map Prod.fst) with
            | .ok (value, memory) =>
                let bound := ready.bindAll (memory.reverse.map fun (name, value) =>
                  (name, toString value))
                expandParts fuel isLoose rest
                  (appendText machine isQuoted fields (toString value)) bound
            | .error fault =>
                (fields, (ready.blame ready.line 2 (fault.message field.text)).finish (.exited 2))

/-- Adds what a parameter stands for to fields. -/
def expandParameter (fuel : Nat) (parameter : Parameter) (form : ValueForm) (isQuoted : Bool)
    (fields : Fields) (machine : Machine) : Fields × Machine :=
  match fuel with
  | 0 => (fields, machine.finish .endless)
  | fuel + 1 =>
      let value := valueOf? machine parameter
      let isNeeded := machine.modes.refusesUnset && value.isNone &&
        !(parameter matches .allArguments _)
      let place : WordPlace := if isQuoted then .quoted else .bare
      let word (text : List Char) : Word :=
        withHome machine false ((wholeWord place text).toOption.getD [])
      let given (coversEmpty : Bool) : Option String :=
        countedValue? machine parameter coversEmpty
      let plain : Fields :=
        match parameter with
        | .allArguments joined => appendArguments machine joined isQuoted fields
        | _ => appendText machine isQuoted fields (value.getD "")
      let needed (result : Fields) : Fields × Machine :=
        if isNeeded then (fields, demand machine parameter "parameter not set")
        else (result, machine)
      let cut (text : List Char) (drop : Wildcard → List Char → List Char) : Fields × Machine :=
        let (pattern, after) := expandOne fuel ((wholeWord .bare text).toOption.getD []) machine
        let rest := drop pattern.wildcard (value.getD "").toList
        if isNeeded then (fields, demand machine parameter "parameter not set")
        else (appendText machine isQuoted fields (String.ofList rest), after)
      match form with
      | .whole => needed plain
      | .length => needed (appendText machine isQuoted fields
          (toString (value.getD "").utf8ByteSize))
      | .fallback text coversEmpty =>
          if (given coversEmpty).isSome then (plain, machine)
          else expandParts fuel (!isQuoted) (word text) fields machine
      | .alternative text coversEmpty =>
          if (given coversEmpty).isSome then
            expandParts fuel (!isQuoted) (word text) fields machine
          else (fields, machine)
      | .assigned text coversEmpty =>
          if (given coversEmpty).isSome then (plain, machine)
          else
            let (field, after) := expandOne fuel (word text) machine
            (appendText machine isQuoted fields field.text,
              after.bind (titleOf parameter) field.text)
      | .demanded text coversEmpty =>
          if (given coversEmpty).isSome then (plain, machine)
          else
            let (field, after) := expandOne fuel (word text) machine
            let words := if text.isEmpty then
                if coversEmpty then "parameter not set or null" else "parameter not set"
              else field.text
            (fields, demand after parameter words)
      | .withoutFront text longest => cut text fun wildcard => dropMatch wildcard longest
      | .withoutBack text longest => cut text fun wildcard => dropBackMatch wildcard longest

end

/-- The steps that are granted to a script. -/
def stepLimit : Nat := 20000

/-- Runs a reader of scripts from its start to its end. -/
def runWhole (words : List String) (machine : Machine) : Machine :=
  closePart stepLimit (runShell stepLimit words machine)

end DocSamples.Script
