import DocSamples.Script.Files

namespace DocSamples.Script

/-! # Finding files

A directory is gone through with all below it.  Each file is asked questions, some of
which do something with it, until the answer is known.
-/

open Text

/-- A file that is come upon: its name, the name of the start and the depth below it,
and what is there. -/
structure Finding where
  name : String
  start : String
  depth : Nat
  place : Place
  entry : Entry

/-- A number that is asked for, or one above or below it. -/
inductive Measure where
  | exactly (number : Nat)
  | above (number : Nat)
  | below (number : Nat)
deriving DecidableEq, Repr

def Measure.holds (number : Nat) : Measure → Bool
  | .exactly wanted => number = wanted
  | .above wanted => decide (wanted < number)
  | .below wanted => decide (number < wanted)

/-- A question about a file, or something that is done with it. -/
inductive FileTest where
  | constant (answer : Bool)
  | name (pattern : String) (ignoresCase : Bool)
  | path (pattern : String)
  | kind (letters : List String)
  | empty
  /-- The size in blocks of so many bytes. -/
  | size (block : Nat) (measure : Measure)
  | permission (bits : Nat)
  /-- Shows the name and a mark. -/
  | print (mark : String)
  | format (chars : List Char)
  /-- Runs a program with the name in the place of braces. -/
  | run (words : List String)
  /-- Keeps the name for a program that is run at the end. -/
  | keep (words : List String)
  | delete
  /-- Does not go into the directory. -/
  | prune
  | quit
  | not (test : FileTest)
  | both (first second : FileTest)
  | either (first second : FileTest)
  | sequence (first second : FileTest)
deriving DecidableEq, Repr

namespace FileTest

/-- Whether a test does something, so that names are not shown by themselves. -/
def acts : FileTest → Bool
  | .print _ | .format _ | .run _ | .keep _ | .delete | .quit => true
  | .not test => test.acts
  | .both first second | .either first second | .sequence first second =>
      first.acts || second.acts
  | _ => false

end FileTest

/-- How a search is done as a whole. -/
structure SearchPlan where
  test : FileTest := .constant true
  least : Nat := 0
  most : Option Nat := none
  /-- What is in a directory comes before it. -/
  deepFirst : Bool := false

/-! ## Reading -/

namespace FileTest

def mapMeasure? (text : String) : Option Measure :=
  match text.toList with
  | '+' :: rest => (Sum.digits? (String.ofList rest)).map .above
  | '-' :: rest => (Sum.digits? (String.ofList rest)).map .below
  | _ => (Sum.digits? text).map .exactly

/-- The size that is asked for: a number with the letter of a unit. -/
def sizeTest? (text : String) : Option FileTest :=
  let unit? : Char → Option Nat := fun letter =>
    [('c', 1), ('w', 2), ('b', 512), ('k', 1024), ('M', 1048576), ('G', 1073741824)].lookup letter
  match text.toList.reverse with
  | letter :: rest =>
      match unit? letter with
      | some block => (mapMeasure? (String.ofList rest.reverse)).map (.size block)
      | none => (mapMeasure? text).map (.size 512)
  | [] => none

def octal? (text : String) : Option Nat :=
  let isOctal (c : Char) : Bool := decide ('0' ≤ c) && decide (c ≤ '7')
  if text.isEmpty || !text.toList.all isOctal then none
  else some (text.toList.foldl (fun value c => value * 8 + Sum.digitValue c) 0)

/-- The words of a program up to the sign of their end, which is a semicolon, or a plus
behind braces. -/
def programWords? (before : List String) : List String → Option (FileTest × List String)
  | [] => none
  | ";" :: rest => if before.isEmpty then none else some (.run before.reverse, rest)
  | "+" :: rest =>
      if before.head? = some "\x7b\x7d" then some (.keep before.tail.reverse, rest)
      else programWords? ("+" :: before) rest
  | word :: rest => programWords? (word :: before) rest

/-- The tests that stand alone. -/
def plainTest? (word : String) : Option FileTest :=
  [("-print", print "\n"), ("-print0", print "\x00"), ("-empty", .empty), ("-delete", .delete),
    ("-prune", .prune), ("-quit", .quit), ("-true", constant true),
    ("-false", constant false)].lookup word

/-- The test of a word with the one behind it. -/
def valuedTest? (word value : String) : Option (Except String FileTest) :=
  let orElse (test? : Option FileTest) (fault : String) : Except String FileTest :=
    match test? with
    | some test => .ok test
    | none => .error fault
  match word with
  | "-name" => some (.ok (.name value false))
  | "-iname" => some (.ok (.name value true))
  | "-path" | "-wholename" => some (.ok (.path value))
  | "-printf" => some (.ok (.format value.toList))
  | "-size" => some (orElse (sizeTest? value) ("invalid -size type \x60" ++ value ++ "'"))
  | "-perm" => some (orElse ((octal? value).map .permission) ("invalid mode ‘" ++ value ++ "’"))
  | "-type" =>
      let letters := value.splitOn ","
      let known := ["b", "c", "d", "p", "f", "l", "s"]
      let wrong := letters.find? fun letter => !known.contains letter
      some (match wrong with
        | some letter => .error ("Unknown argument to -type: " ++ letter)
        | none => .ok (.kind letters))
  | _ => none

/-- Reads a test that is no sign between others. -/
def readPlain (word : String) (rest : List String) : Except String (FileTest × List String) :=
  match plainTest? word with
  | some test => .ok (test, rest)
  | none =>
      let fault := "missing argument to \x60" ++ word ++ "'"
      if word = "-exec" || word = "-execdir" || word = "-ok" then
        match programWords? [] rest with
        | some found => .ok found
        | none => .error fault
      else
        match rest, valuedTest? word (rest.headD "") with
        | _ :: after, some test => test.map fun test => (test, after)
        | [], some _ => .error fault
        | _, none =>
            if word.startsWith "-" then .error ("unknown predicate \x60" ++ word ++ "'")
            else .error ("paths must precede expression: \x60" ++ word ++ "'")

mutual

/-- Reads tests between commas.  `fuel` bounds the words. -/
def readSequence (fuel : Nat) (words : List String) : Except String (FileTest × List String) :=
  match fuel with
  | 0 => .error "invalid expression"
  | fuel + 1 => do
      let (first, rest) ← readEither fuel words
      match rest with
      | "," :: rest =>
          let (second, rest) ← readSequence fuel rest
          return (.sequence first second, rest)
      | _ => return (first, rest)

def readEither (fuel : Nat) (words : List String) : Except String (FileTest × List String) :=
  match fuel with
  | 0 => .error "invalid expression"
  | fuel + 1 => do
      let (first, rest) ← readBoth fuel words
      match rest with
      | sign :: rest =>
          if sign = "-o" || sign = "-or" then
            let (second, rest) ← readEither fuel rest
            return (.either first second, rest)
          else return (first, sign :: rest)
      | [] => return (first, [])

def readBoth (fuel : Nat) (words : List String) : Except String (FileTest × List String) :=
  match fuel with
  | 0 => .error "invalid expression"
  | fuel + 1 => do
      let (first, rest) ← readNegated fuel words
      match rest with
      | [] => return (first, [])
      | sign :: more =>
          if ["-o", "-or", ",", ")"].contains sign then return (first, rest)
          else
            let (second, rest) ←
              readBoth fuel (if sign = "-a" || sign = "-and" then more else rest)
            return (.both first second, rest)

def readNegated (fuel : Nat) (words : List String) : Except String (FileTest × List String) :=
  match fuel, words with
  | 0, _ => .error "invalid expression"
  | _, [] => .error "invalid expression"
  | fuel + 1, word :: rest =>
      if word = "!" || word = "-not" then
        if rest.isEmpty then .error ("expected an expression after '" ++ word ++ "'")
        else do
          let (test, rest) ← readNegated fuel rest
          return (.not test, rest)
      else if word = "(" then do
        let (test, rest) ← readSequence fuel rest
        match rest with
        | ")" :: rest => return (test, rest)
        | _ => throw ("invalid expression; I was expecting to find a ')' somewhere " ++
            "but did not see one.")
      else if ["-o", "-or", "-a", "-and", ","].contains word then
        .error ("invalid expression; you have used a binary operator '" ++ word ++
          "' with nothing before it.")
      else readPlain word rest

end

end FileTest

/-- Takes the options away that hold for the search as a whole. -/
def SearchPlan.readOptions (plan : SearchPlan) : List String →
    Except String (SearchPlan × List String)
  | [] => .ok (plan, [])
  | word :: rest =>
      if word = "-maxdepth" || word = "-mindepth" then
        match rest with
        | [] => .error ("missing argument to \x60" ++ word ++ "'")
        | value :: after =>
            match Sum.digits? value with
            | none => .error ("Expected a positive decimal integer argument to " ++ word ++
                ", but got ‘" ++ value ++ "’")
            | some depth =>
                readOptions (if word = "-maxdepth" then { plan with most := some depth }
                  else { plan with least := depth }) after
      else if word = "-depth" then readOptions { plan with deepFirst := true } rest
      else do
        let plan := if word = "-delete" then { plan with deepFirst := true } else plan
        let (plan, more) ← readOptions plan rest
        return (plan, word :: more)

def SearchPlan.read (words : List String) : Except String SearchPlan := do
  let (plan, rest) ← SearchPlan.readOptions {} words
  match rest with
  | [] => return { plan with test := .print "\n" }
  | ")" :: _ => throw "you have too many ')'"
  | _ =>
      let (test, rest) ← FileTest.readSequence (6 * rest.length + 6) rest
      match rest with
      | [] => return { plan with test := if test.acts then test else .both test (.print "\n") }
      | _ => throw "you have too many ')'"

/-! ## Searching -/

/-- Runs a program by its words. -/
abbrev Execution := List String → Machine → Machine

structure Searching where
  machine : Machine
  isPruned : Bool := false
  isOver : Bool := false
  /-- The names that are kept for programs. -/
  kept : List (List String × String) := []

def lastName (name : String) : String :=
  ((trimSlashes name).splitOn "/").getLastD ""

/-- What is above a name. -/
def leadingName (name : String) : String :=
  match name.splitOn "/" with
  | [_] => "."
  | parts => "/".intercalate parts.dropLast

def byteCount (finding : Finding) : Nat :=
  match finding.entry with
  | .file bytes => bytes.length
  | .directory => 4096
  | .link target => target.utf8ByteSize

def kindLetter (entry : Entry) : String :=
  match entry with
  | .file _ => "f"
  | .directory => "d"
  | .link _ => "l"

/-- What a letter behind a percent sign shows of a file. -/
def shownOf (machine : Machine) (finding : Finding) (letter : Char) : String :=
  match letter with
  | 'p' => finding.name
  | 'f' => lastName finding.name
  | 'h' => leadingName finding.name
  | 'P' =>
      let rest := finding.name.toList.drop finding.start.length
      String.ofList (if rest.head? = some '/' then rest.tail else rest)
  | 'H' => finding.start
  | 's' => toString (byteCount finding)
  | 'd' => toString finding.depth
  | 'y' => kindLetter finding.entry
  | 'm' =>
      let mode := machine.modeAt finding.place
      String.join ([mode / 64 % 8, mode / 8 % 8, mode % 8].map toString)
  | 'l' =>
      match finding.entry with
      | .link target => target
      | _ => ""
  | _ => String.ofList ['%', letter]

/-- A format with what it shows of a file. -/
def formatted (machine : Machine) (finding : Finding) : List Char → String
  | '%' :: '%' :: rest => "%" ++ formatted machine finding rest
  | '%' :: letter :: rest => shownOf machine finding letter ++ formatted machine finding rest
  | '\x5c' :: letter :: rest =>
      let shown := [('n', "\n"), ('t', "\t"), ('\x5c', "\\"), ('0', "\x00"), ('r', "\r"),
        ('a', "\x07"), ('f', "\x0c"), ('v', "\x0b")].lookup letter
      shown.getD (String.ofList ['\x5c', letter]) ++ formatted machine finding rest
  | c :: rest => String.singleton c ++ formatted machine finding rest
  | [] => ""

namespace FileTest

def matchesName (pattern name : String) : Bool :=
  Field.isMatch (Field.wildcard (Field.ofText false pattern)) name

/-- Asks a file, and does what there is to do with it. -/
def ask (execute : Execution) (finding : Finding) (searching : Searching) :
    FileTest → Bool × Searching
  | .constant answer => (answer, searching)
  | .name pattern ignoresCase =>
      let last := lastName finding.name
      (if ignoresCase then matchesName pattern.toLower last.toLower
        else matchesName pattern last, searching)
  | .path pattern => (matchesName pattern finding.name, searching)
  | .kind letters => (letters.contains (kindLetter finding.entry), searching)
  | .empty =>
      (match finding.entry with
        | .file bytes => bytes.isEmpty
        | .directory => searching.machine.tree.isBare finding.place
        | .link _ => false, searching)
  | .size block measure => (measure.holds ((byteCount finding + block - 1) / block), searching)
  | .permission bits => (searching.machine.modeAt finding.place == bits, searching)
  | .print mark =>
      (true, { searching with machine := searching.machine.say (finding.name ++ mark) })
  | .format chars =>
      (true, { searching with
        machine := searching.machine.say (formatted searching.machine finding chars) })
  | .run words =>
      let named := words.map fun word => finding.name.intercalate (word.splitOn "\x7b\x7d")
      let after := execute named (searching.machine.leave 0)
      (after.status == 0, { searching with machine := after.leave searching.machine.status })
  | .keep words => (true, { searching with kept := searching.kept ++ [(words, finding.name)] })
  | .delete =>
      let machine := searching.machine
      if finding.entry = .directory && !machine.tree.isBare finding.place then
        let told := machine.complain 1
          ("find: cannot delete ‘" ++ finding.name ++ "’: Directory not empty")
        (false, { searching with machine := told })
      else if finding.name = "." then (true, searching)
      else
        let gone := machine.tree.remove finding.place
        (true, { searching with machine := machine.moveTo gone finding.place finding.place })
  | .prune => (true, { searching with isPruned := true })
  | .quit => (true, { searching with isOver := true })
  | .not test =>
      let (answer, after) := test.ask execute finding searching
      (!answer, after)
  | .both first second =>
      let (answer, after) := first.ask execute finding searching
      if answer && !after.isOver then second.ask execute finding after else (answer, after)
  | .either first second =>
      let (answer, after) := first.ask execute finding searching
      if answer || after.isOver then (answer, after) else second.ask execute finding after
  | .sequence first second =>
      let (_, after) := first.ask execute finding searching
      if after.isOver then (false, after) else second.ask execute finding after

end FileTest

namespace SearchPlan

/-- Asks a file if it is deep enough. -/
def visit (plan : SearchPlan) (execute : Execution) (finding : Finding) (searching : Searching) :
    Searching :=
  if searching.isOver || finding.depth < plan.least then searching
  else (plan.test.ask execute finding searching).2

/-- Goes through a file and all below it.  `fuel` bounds the depth. -/
def search (plan : SearchPlan) (execute : Execution) (fuel : Nat) (finding : Finding)
    (searching : Searching) : Searching :=
  match fuel with
  | 0 => searching
  | fuel + 1 =>
      let visited := if plan.deepFirst then searching
        else plan.visit execute finding { searching with isPruned := false }
      let goesOn := finding.entry = .directory && !(visited.isPruned && !plan.deepFirst) &&
        !visited.isOver && plan.most.all fun most => decide (finding.depth < most)
      let through :=
        if goesOn then
          (sortNames (visited.machine.tree.namesIn finding.place)).foldl (fun searching child =>
            let place := finding.place ++ [child]
            match searching.machine.tree.lookup place with
            | some entry =>
                if searching.isOver then searching
                else plan.search execute fuel
                  { finding with
                    name := nameBelow finding.name child, depth := finding.depth + 1, place, entry }
                  searching
            | none => searching) visited
        else visited
      if plan.deepFirst then plan.visit execute finding through else through

end SearchPlan

/-- Runs the programs that names have been kept for. -/
def runKept (execute : Execution) (kept : List (List String × String)) (machine : Machine) :
    Machine :=
  (kept.map Prod.fst).eraseDups.foldl (fun machine words =>
    let names := (kept.filter (·.1 == words)).map Prod.snd
    let after := execute (words ++ names) (machine.leave 0)
    if after.status = 0 then after.leave machine.status else after.leave 1) machine

def find (execute : Execution) (call : Call) (machine : Machine) : Machine :=
  let isPath (word : String) : Bool :=
    !(word.startsWith "-" && word != "-") && !(["!", "(", ")", ","].contains word)
  let paths := call.arguments.takeWhile isPath
  match SearchPlan.read (call.arguments.drop paths.length) with
  | .error fault => machine.complain 1 ("find: " ++ fault)
  | .ok plan =>
      let depth := machine.tree.entries.length + 1
      let done := (if paths.isEmpty then ["."] else paths).foldl (fun searching name =>
        match itselfUnder searching.machine name with
        | .error cause =>
            let told := searching.machine.complain 1
              ("find: ‘" ++ name ++ "’: " ++ cause.words)
            { searching with machine := told }
        | .ok (place, entry) =>
            if searching.isOver then searching
            else plan.search execute depth ⟨name, name, 0, place, entry⟩ searching)
        ({ machine := machine.leave 0 } : Searching)
      runKept execute done.kept done.machine

end DocSamples.Script
