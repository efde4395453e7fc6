import DocSamples.Script.Files

namespace DocSamples.Script

/-! # Permissions

What may be done with a file is a number of bits: three for its owner, three for its
group and three for all others.  A file that may be run is a program.
-/

/-- The bits that a letter stands for, for all three classes. -/
def permissionBits (isDirectory : Bool) (old : Nat) (letter : Char) : Nat :=
  match letter with
  | 'r' => 0o444
  | 'w' => 0o222
  | 'x' => 0o111
  | 'X' => if isDirectory || old &&& 0o111 != 0 then 0o111 else 0
  | _ => 0

/-- The bits of the classes that a letter stands for. -/
def classBits (letter : Char) : Nat :=
  match letter with
  | 'u' => 0o700
  | 'g' => 0o070
  | 'o' => 0o007
  | _ => 0o777

/-- Sets bits by a part such as `u+x`, whose classes have been read.  `fuel` bounds the
signs. -/
def changeBits (fuel classes : Nat) (isDirectory : Bool) (old : Nat) (chars : List Char) :
    Option Nat :=
  match fuel, chars with
  | 0, _ => none
  | _, [] => some old
  | fuel + 1, sign :: rest =>
      let letters := rest.takeWhile fun c => "rwxXst".toList.contains c
      let bits := (letters.foldl (fun bits letter =>
        bits ||| permissionBits isDirectory old letter) 0) &&& classes
      let after := rest.drop letters.length
      let others := 0o777 - (old &&& 0o777 &&& bits)
      match sign with
      | '+' => changeBits fuel classes isDirectory (old ||| bits) after
      | '-' => changeBits fuel classes isDirectory (old &&& others) after
      | '=' =>
          changeBits fuel classes isDirectory ((old &&& (0o777 - classes)) ||| bits) after
      | _ => none

/-- The bits of a file after a change that is given by a number or by parts such as
`u+x`.  Without classes the bits of the mask stay as they are. -/
def changedMode? (mask : Nat) (isDirectory : Bool) (old : Nat) (text : String) : Option Nat :=
  let isOctal (c : Char) : Bool := decide ('0' ≤ c) && decide (c ≤ '7')
  let chars := text.toList
  if !chars.isEmpty && chars.all isOctal then
    let value := chars.foldl (fun value c => value * 8 + Sum.digitValue c) 0
    if value < 0o10000 then some value else none
  else
    (text.splitOn ",").foldlM (fun old part =>
      let classes := part.toList.takeWhile fun c => "ugoa".toList.contains c
      let rest := part.toList.drop classes.length
      let bits := if classes.isEmpty then 0o777 - mask
        else classes.foldl (fun bits letter => bits ||| classBits letter) 0
      if rest.isEmpty then none
      else changeBits (rest.length + 1) bits isDirectory old rest) old

/-- Whether a word that begins with a hyphen takes permissions away. -/
def isModeWord (word : String) : Bool :=
  word.toList.tail.all fun c => "rwxXstugoa,+-=".toList.contains c

/-- A file or directory and, in depth, all below it. -/
def placesBelow (machine : Machine) (isDeep : Bool) (place : Place) : List Place :=
  place :: if isDeep then
    ((machine.tree.branch place).map fun (below, _) => place ++ below).filter (· != place)
  else []

/-- Changes the permissions at a place. -/
def changePermission (mode : String) (machine : Machine) (place : Place) : Machine :=
  let isDirectory := decide (machine.tree.lookup place = some .directory)
  match changedMode? machine.mask isDirectory (machine.modeAt place) mode with
  | some mode => machine.setMode place mode
  | none => machine

def chmod (call : Call) (machine : Machine) : Machine :=
  let isOption (word : String) : Bool :=
    word.startsWith "-" && word != "-" && !isModeWord word || word = "--"
  let options := call.arguments.filter isOption
  let isDeep := options.any fun word => word.contains 'R'
  match call.arguments.filter (!isOption ·) with
  | [] => machine.complain 1 ("chmod: missing operand\n" ++ advice "chmod")
  | [mode] => machine.complain 1
      ("chmod: missing operand after ‘" ++ mode ++ "’\n" ++ advice "chmod")
  | mode :: names =>
      if (changedMode? machine.mask false 0o644 mode).isNone then
        machine.complain 1 ("chmod: invalid mode: ‘" ++ mode ++ "’\n" ++ advice "chmod")
      else
        eachName names (fun machine name =>
          match entryUnder machine name with
          | .error cause =>
              machine.complain 1 ("chmod: cannot access '" ++ name ++ "': " ++ cause.words)
          | .ok (place, _) =>
              (placesBelow machine isDeep place).foldl (changePermission mode) machine) machine

/-! ## Programs -/

/-- What is run under a word: a program that is known by its name, or a file. -/
inductive Program where
  | known (name : String)
  | file (name : String)
deriving DecidableEq, Repr

/-- Looks a word up among the directories of programs; one with a slash is a path. -/
def programFor? (machine : Machine) (word : String) : Option Program :=
  if word.contains '/' then
    (programAt? word).map .known |>.or
      (if machine.mayRun (machine.pathOf word) then some (.file word) else none)
  else
    let directories := ((machine.bindings.find? "PATH").getD "").splitOn ":"
    directories.findSome? fun directory =>
      if programDirectories.contains (trimSlashes directory) then
        if isProgram word then some (.known word) else none
      else
        let name := if directory = "" then word else nameBelow directory word
        if machine.mayRun (machine.pathOf name) then some (.file name) else none

/-- The program and the words with which a file is run as a script: those of its first
line, if it has one for that. -/
def interpreterOf (content : List Char) : Option (String × List String) :=
  match content with
  | '#' :: '!' :: rest =>
      let line := (rest.takeWhile (· != '\n')).dropWhile isSpace
      let name := line.takeWhile (!isSpace ·)
      let option := ((line.drop name.length).dropWhile isSpace).reverse.dropWhile isSpace
      some (String.ofList name,
        if option.isEmpty then [] else [String.ofList option.reverse])
  | _ => none

/-- Shows where programs are. -/
def which (call : Call) (machine : Machine) : Machine :=
  let names := call.arguments.filter fun word => !(word.startsWith "-")
  if names.isEmpty then machine.leave 1
  else
    eachName names (fun machine name =>
      match programFor? machine name with
      | some (.known word) =>
          machine.say ((if name.contains '/' then name else "/usr/bin/" ++ word) ++ "\n")
      | some (.file name) => machine.say (name ++ "\n")
      | none => machine.leave 1) machine

end DocSamples.Script
