import DocSamples.Script.Builtin

namespace DocSamples.Script

/-! # Values that are read

Variables get their values from lines of the input and from the options among some
words.
-/

open Text

/-- A character that is read, with whether a backslash has taken its meaning. -/
abbrev ReadChar := Char × Bool

/-- The characters of the line that the input begins with, what follows it, and
whether it has an end.  A backslash joins it to the next line.  `fuel` bounds the
characters. -/
def readLogicalLine (fuel : Nat) (isRaw : Bool) : List Char → List ReadChar × List Char × Bool
  | [] => ([], [], false)
  | c :: rest =>
      match fuel with
      | 0 => ([], [], false)
      | fuel + 1 =>
          if c = '\n' then ([], rest, true)
          else if c = '\x5c' && !isRaw then
            match rest with
            | [] => ([], [], false)
            | d :: more =>
                let (chars, after, hasEnd) := readLogicalLine fuel isRaw more
                (if d = '\n' then chars else (d, true) :: chars, after, hasEnd)
          else
            let (chars, after, hasEnd) := readLogicalLine fuel isRaw rest
            ((c, false) :: chars, after, hasEnd)

namespace ReadChar

def isSeparator (separators : List Char) (c : ReadChar) : Bool :=
  separators.contains c.1 && !c.2

def isBlank (separators : List Char) (c : ReadChar) : Bool :=
  isSeparator separators c && (isSpace c.1 || c.1 = '\n')

/-- The field that a line begins with, and what follows it and its separator. -/
def splitField (separators : List Char) (chars : List ReadChar) :
    List ReadChar × List ReadChar :=
  let start := chars.dropWhile (isBlank separators)
  let field := start.takeWhile (!isSeparator separators ·)
  let afterBlanks := (start.drop field.length).dropWhile (isBlank separators)
  let rest := match afterBlanks with
    | c :: rest =>
        if isSeparator separators c then rest.dropWhile (isBlank separators) else afterBlanks
    | [] => []
  (field, rest)

/-- What the last variable gets: one field, or all that is left. -/
def lastField (separators : List Char) (chars : List ReadChar) : List ReadChar :=
  let start := chars.dropWhile (isBlank separators)
  match splitField separators start with
  | (field, []) => field
  | _ => (start.reverse.dropWhile (isBlank separators)).reverse

def text (chars : List ReadChar) : String :=
  String.ofList (chars.map Prod.fst)

end ReadChar

/-- Gives each name a field of a line; the last one gets what is left. -/
def bindFields (machine : Machine) (chars : List ReadChar) : List String → Machine
  | [] => machine
  | [name] => machine.bind name (ReadChar.text (ReadChar.lastField machine.marks chars))
  | name :: rest =>
      let (field, more) := ReadChar.splitField machine.marks chars
      bindFields (machine.bind name (ReadChar.text field)) more rest

/-- Reads a line into variables; it fails at the end of the input. -/
def readLineInto (call : Call) (machine : Machine) : Machine :=
  let (options, words) := call.arguments.span fun word => word.startsWith "-" && word != "-"
  let names := if options.getLast? = some "-p" then words.tail else words
  let isRaw := options.any fun word => word.contains 'r'
  match names.find? fun name => !isName name with
  | some name => machine.complainAt call.line 2 ("read: " ++ name ++ ": bad variable name")
  | none =>
      if names.isEmpty then machine.complainAt call.line 2 "read: arg count"
      else
        let chars := Utf8.decodeLenient machine.input
        let (line, rest, hasEnd) := readLogicalLine (chars.length + 1) isRaw chars
        let bound := bindFields { machine with input := Utf8.encode rest } line names
        bound.leave (if hasEnd then 0 else 1)

/-- Reads the next option of some words into a variable. -/
def getopts (call : Call) (machine : Machine) : Machine :=
  match call.arguments with
  | options :: name :: given =>
      let words := if given.isEmpty then machine.arguments else given
      let index := ((machine.bindings.find? "OPTIND").bind Sum.digits?).getD 1
      let isSilent := options.startsWith ":"
      let word := (words[index - 1]?.getD "").toList
      let offset := if machine.optionOffset = 0 then 1 else machine.optionOffset
      let move (machine : Machine) (index offset : Nat) : Machine :=
        { machine.bind "OPTIND" (toString index) with optionOffset := offset }
      let next (machine : Machine) : Machine :=
        if offset + 1 < word.length then move machine index (offset + 1)
        else move machine (index + 1) 0
      let letters := if isSilent then options.toList.tail else options.toList
      match word, word[offset]? with
      | '-' :: _, some letter =>
          if word = ['-', '-'] then (move (machine.bind name "?") (index + 1) 0).leave 1
          else
            match letters.dropWhile (· != letter), letter == ':' with
            | [], _ | _, true =>
                let told := if isSilent then machine.bind "OPTARG" (String.singleton letter)
                  else (machine.complain 0
                    ("Illegal option -" ++ String.singleton letter)).rebind "OPTARG" none
                (next (told.bind name "?")).leave 0
            | _ :: ':' :: _, false =>
                let inside := word.drop (offset + 1)
                let shown := machine.bind name (String.singleton letter)
                if !inside.isEmpty then
                  (move (shown.bind "OPTARG" (String.ofList inside)) (index + 1) 0).leave 0
                else
                  match words[index]? with
                  | some value => (move (shown.bind "OPTARG" value) (index + 2) 0).leave 0
                  | none =>
                      let told := if isSilent then
                          (machine.bind "OPTARG" (String.singleton letter)).bind name ":"
                        else ((machine.complain 0 ("No arg for -" ++ String.singleton letter ++
                          " option")).rebind "OPTARG" none).bind name "?"
                      (move told (index + 1) 0).leave 0
            | _ :: _, false =>
                (next ((machine.bind "OPTARG" "").bind name (String.singleton letter))).leave 0
      | _, _ => ((machine.bind name "?").bind "OPTIND" (toString index)).leave 1
  | _ => failAt call.line "getopts: Usage: getopts optstring var [arg]" machine

end DocSamples.Script
