import DocSamples.Script.Builtin

namespace DocSamples.Script

/-! # Inputs of programs

Programs are called with options and operands; the operands of most are the names of
files, without which they read their input.
-/

open Text

/-! ## Options -/

/-- The options that a program knows: letters alone, letters with a value, and longer
names for letters. -/
structure OptionTable where
  flags : String := ""
  valued : String := ""
  names : List (String × Char) := []
  /-- Options stand only in front of operands. -/
  stopsAtOperand : Bool := false

/-- What a program is called with. -/
structure Arguments where
  options : List (Char × String) := []
  operands : List String := []
deriving DecidableEq, Repr

namespace Arguments

def has (arguments : Arguments) (letter : Char) : Bool :=
  arguments.options.any (·.1 == letter)

/-- The value of an option, which is that of its last use. -/
def value? (arguments : Arguments) (letter : Char) : Option String :=
  (arguments.options.reverse.find? (·.1 == letter)).map Prod.snd

/-- The values of all uses of an option. -/
def values (arguments : Arguments) (letter : Char) : List String :=
  (arguments.options.filter (·.1 == letter)).map Prod.snd

def addOption (arguments : Arguments) (letter : Char) (value : String) : Arguments :=
  { arguments with options := (letter, value) :: arguments.options }

def addOperand (arguments : Arguments) (operand : String) : Arguments :=
  { arguments with operands := operand :: arguments.operands }

end Arguments

inductive OptionFault where
  | unknown (letter : Char)
  | unknownName (word : String)
  | noValue (letter : Char)
  | noNamedValue (name : String)
deriving DecidableEq, Repr

def OptionFault.message : OptionFault → String
  | .unknown letter => "invalid option -- '" ++ String.singleton letter ++ "'"
  | .unknownName word => "unrecognized option '" ++ word ++ "'"
  | .noValue letter => "option requires an argument -- '" ++ String.singleton letter ++ "'"
  | .noNamedValue name => "option '--" ++ name ++ "' requires an argument"

namespace OptionTable

/-- The options in the letters of one word.  The value of the last one is what is left
of the word, or the next word, which is then used up. -/
def readLetters (table : OptionTable) (next : Option String) :
    List Char → Except OptionFault (List (Char × String) × Bool)
  | [] => .ok ([], false)
  | letter :: rest =>
      if table.valued.contains letter then
        match rest, next with
        | _ :: _, _ => .ok ([(letter, String.ofList rest)], false)
        | [], some value => .ok ([(letter, value)], true)
        | [], none => .error (.noValue letter)
      else if table.flags.contains letter then do
        let (more, usesNext) ← table.readLetters next rest
        return ((letter, "") :: more, usesNext)
      else .error (.unknown letter)

/-- The option that a longer name stands for, which may be cut short, and whether its
value is the next word. -/
def readName (table : OptionTable) (next : Option String) (word : String) :
    Except OptionFault ((Char × String) × Bool) :=
  let chars := word.toList.drop 2
  let name := String.ofList (chars.takeWhile (· != '='))
  let found := (table.names.find? (·.1 == name)).or
    (table.names.find? fun (full, _) => full.startsWith name)
  match found, chars.dropWhile (· != '='), next with
  | none, _, _ => .error (.unknownName word)
  | some (_, letter), _ :: value, _ => .ok ((letter, String.ofList value), false)
  | some (full, letter), [], value =>
      if !table.valued.contains letter then .ok ((letter, ""), false)
      else match value with
        | some value => .ok ((letter, value), true)
        | none => .error (.noNamedValue full)

/-- Reads the words that a program is called with.  Options may stand behind operands
in most tables, up to two hyphens alone. -/
def read (table : OptionTable) : List String → Except OptionFault Arguments
  | [] => .ok {}
  | word :: rest =>
      if word = "--" then .ok { operands := rest }
      else if word.startsWith "--" then
        match table.readName rest.head? word with
        | .error fault => .error fault
        | .ok ((letter, value), usesNext) => do
            let more ← table.read (if usesNext then rest.tail else rest)
            return more.addOption letter value
      else if word.startsWith "-" && word != "-" then
        match table.readLetters rest.head? word.toList.tail with
        | .error fault => .error fault
        | .ok (options, usesNext) => do
            let more ← table.read (if usesNext then rest.tail else rest)
            return options.foldr (fun (letter, value) arguments =>
              arguments.addOption letter value) more
      else if table.stopsAtOperand then .ok { operands := word :: rest }
      else return (← table.read rest).addOperand word
termination_by words => words.length
decreasing_by
  · simp only [List.length_cons]
    split
    · rw [List.length_tail]; omega
    · omega
  · simp only [List.length_cons]
    split
    · rw [List.length_tail]; omega
    · omega
  · simp only [List.length_cons]; omega

end OptionTable

/-- Calls a program with the options it knows.  Any other is told of. -/
def withOptions (program : String) (failure : Nat) (table : OptionTable) (call : Call)
    (machine : Machine) (work : Arguments → Machine) : Machine :=
  match table.read call.arguments with
  | .ok arguments => work arguments
  | .error fault =>
      machine.complain failure (program ++ ": " ++ fault.message ++ "\n" ++ advice program)

/-! ## Sources -/

/-- What is read under a name: a file, or the input where the name is a hyphen. -/
structure Source where
  name : String
  content : Except FileCause Utf8.Bytes

def sourceOf (machine : Machine) (name : String) : Source :=
  if name = "-" || name = "/dev/stdin" then ⟨name, .ok machine.input⟩
  else if name = "/dev/null" then ⟨name, .ok []⟩
  else
    match machine.tree.readBytes (machine.pathOf name) with
    | .ok bytes => ⟨name, .ok bytes⟩
    | .error (.system cause _) => ⟨name, .error (if name = "" then .notFound else cause)⟩
    | .error _ => ⟨name, .error .notFound⟩

/-- The sources of some names.  The input is read once. -/
def sourcesOf (machine : Machine) (names : List String) : List Source :=
  let given := if names.isEmpty then ["-"] else names
  given.zipIdx.map fun (name, index) =>
    if name = "-" && (given.take index).contains "-" then ⟨name, .ok []⟩
    else sourceOf machine name

/-- The input is used up by the programs that read it. -/
def consume (names : List String) (machine : Machine) : Machine :=
  if names.isEmpty || names.contains "-" then { machine with input := [] } else machine

/-- The lines of some bytes without their ends. -/
def byteLines : Utf8.Bytes → List Utf8.Bytes
  | [] => []
  | byte :: rest =>
      if byte = 10 then [] :: byteLines rest
      else match byteLines rest with
        | [] => [[byte]]
        | line :: more => (byte :: line) :: more

def joinByteLines (lines : List Utf8.Bytes) : Utf8.Bytes :=
  lines.flatMap (· ++ [10])

/-- The lines of some bytes, or what is between zero bytes. -/
def recordsOf (isZeroed : Bool) (bytes : Utf8.Bytes) : List Utf8.Bytes :=
  if isZeroed then
    let swapped := bytes.map fun byte => if byte = 0 then 10 else if byte = 10 then 0 else byte
    (byteLines swapped).map (·.map fun byte => if byte = 0 then 10 else byte)
  else byteLines bytes

/-- Puts lines together that some bytes have been cut into; the last one has an end if
the bytes have. -/
def rejoinLines (bytes : Utf8.Bytes) (lines : List Utf8.Bytes) : Utf8.Bytes :=
  if bytes.getLast? = some 10 || bytes.isEmpty then joinByteLines lines
  else (joinByteLines lines).dropLast

/-- Works on sources one by one.  One that cannot be read is told of, and the
status is then the given one. -/
def eachSource (program : String) (failure : Nat) (sources : List Source)
    (work : Source → Utf8.Bytes → Machine → Machine) (machine : Machine) : Machine :=
  sources.foldl (fun machine source =>
    match source.content with
    | .ok bytes => work source bytes machine
    | .error cause =>
        machine.complain failure (program ++ ": " ++ source.name ++ ": " ++ cause.words)) machine

/-- Shows what is made of each source. -/
def filterSources (program : String) (names : List String) (work : Utf8.Bytes → Utf8.Bytes)
    (machine : Machine) : Machine :=
  consume names <| eachSource program 1 (sourcesOf machine names)
    (fun _ bytes machine => machine.write (work bytes)) machine

/-- The characters of some bytes. -/
def charsOf (bytes : Utf8.Bytes) : List Char :=
  Utf8.decodeLenient bytes

def padLeft (width : Nat) (text : String) : String :=
  String.ofList (.replicate (width - text.length) ' ') ++ text

def lastPart {α : Type} (count : Nat) (items : List α) : List α :=
  items.drop (items.length - count)

end DocSamples.Script
