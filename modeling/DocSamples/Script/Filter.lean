import DocSamples.Script.Input

namespace DocSamples.Script

/-! # Filters

Programs that show or count parts of files, or of their input where no file is named.
-/

open Text

/-! ## Whole files -/

def catTable : OptionTable where
  flags := "nbsETAvetu"
  names := [("number", 'n'), ("number-nonblank", 'b'), ("squeeze-blank", 's'), ("show-ends", 'E'),
    ("show-tabs", 'T'), ("show-all", 'A')]

/-- A byte as it is shown where control characters are to be seen. -/
def visibleByte (showsTabs showsAll : Bool) (byte : UInt8) : Utf8.Bytes :=
  if byte = 9 then if showsTabs then [94, 73] else [9]
  else if !showsAll then [byte]
  else
    let lead : Utf8.Bytes := if byte < 128 then [] else [77, 45]
    let low := if byte < 128 then byte else byte - 128
    if low < 32 then lead ++ [94, low + 64]
    else if low = 127 then lead ++ [94, 63]
    else lead ++ [low]

/-- Numbers lines from a number on, all of them or those that are not empty. -/
def numberLines (isWanted : Utf8.Bytes → Bool) (number : Nat) :
    List Utf8.Bytes → List Utf8.Bytes
  | [] => []
  | line :: rest =>
      if isWanted line then
        (Utf8.encodeText (padLeft 6 (toString number) ++ "\t") ++ line) ::
          numberLines isWanted (number + 1) rest
      else line :: numberLines isWanted number rest

def dropDoubleBlanks : List Utf8.Bytes → List Utf8.Bytes
  | [] :: [] :: rest => dropDoubleBlanks ([] :: rest)
  | line :: rest => line :: dropDoubleBlanks rest
  | [] => []

/-- Shows files one after the other. -/
def cat (call : Call) (machine : Machine) : Machine :=
  withOptions "cat" 1 catTable call machine fun arguments =>
    let has (letters : List Char) : Bool := letters.any arguments.has
    let sources := sourcesOf machine arguments.operands
    if arguments.options.isEmpty then
      filterSources "cat" arguments.operands id machine
    else
      let contents := (sources.filterMap fun source => source.content.toOption).flatten
      let squeezed :=
        if has ['s'] then dropDoubleBlanks (byteLines contents) else byteLines contents
      let visible := squeezed.map fun line =>
        line.flatMap (visibleByte (has ['T', 'A', 't']) (has ['v', 'A', 'e', 't'])) ++
          (if has ['E', 'A', 'e'] then [36] else [])
      let numbered :=
        if has ['b'] then numberLines (fun line => !line.isEmpty && line != [36]) 1 visible
        else if has ['n'] then numberLines (fun _ => true) 1 visible
        else visible
      let shown := rejoinLines contents numbered
      consume arguments.operands (eachSource "cat" 1 sources (fun _ _ machine => machine)
        (machine.write shown))

def nlTable : OptionTable where
  flags := "p"
  valued := "bwsvin"
  names := [("body-numbering", 'b'), ("number-width", 'w'), ("number-separator", 's'),
    ("starting-line-number", 'v'), ("line-increment", 'i'), ("number-format", 'n')]

/-- Numbers the lines of files. -/
def nl (call : Call) (machine : Machine) : Machine :=
  withOptions "nl" 1 nlTable call machine fun arguments =>
    let width := ((arguments.value? 'w').bind Sum.digits?).getD 6
    let between := (arguments.value? 's').getD "\t"
    let start := ((arguments.value? 'v').bind Sum.digits?).getD 1
    let step := ((arguments.value? 'i').bind Sum.digits?).getD 1
    let wantsAll := arguments.value? 'b' = some "a"
    let place (number : Nat) : String :=
      let digits := toString number
      match arguments.value? 'n' with
      | some "ln" => digits ++ String.ofList (.replicate (width - digits.length) ' ')
      | some "rz" => String.ofList (.replicate (width - digits.length) '0') ++ digits
      | _ => padLeft width digits
    let rows (lines : List Utf8.Bytes) : Utf8.Bytes :=
      (lines.foldl (fun (shown, number) line =>
        if wantsAll || !line.isEmpty then
          (shown ++ Utf8.encodeText (place number ++ between) ++ line ++ [10], number + step)
        else
          (shown ++ List.replicate (width + between.utf8ByteSize) 32 ++ line ++ [10], number))
        (([] : Utf8.Bytes), start)).1
    let sources := sourcesOf machine arguments.operands
    let lines := (sources.filterMap fun source => source.content.toOption).flatMap byteLines
    consume arguments.operands
      ((eachSource "nl" 1 sources (fun _ _ machine => machine) machine).write (rows lines))

/-- The lines of some bytes with their ends. -/
def endedLines : Utf8.Bytes → List Utf8.Bytes
  | [] => []
  | byte :: rest =>
      if byte = 10 then [10] :: endedLines rest
      else match endedLines rest with
        | [] => [[byte]]
        | line :: more => (byte :: line) :: more

/-- Shows the lines of files from the last one to the first. -/
def tac (call : Call) (machine : Machine) : Machine :=
  withOptions "tac" 1 {} call machine fun arguments =>
    let names := arguments.operands
    consume names <| (sourcesOf machine names).foldl (fun machine source =>
      match source.content with
      | .ok bytes => machine.write (endedLines bytes).reverse.flatten
      | .error cause =>
          machine.complain 1 ("tac: failed to open '" ++ source.name ++ "' for reading: " ++
            cause.words)) machine

/-- Shows the characters of each line from the last one to the first. -/
def rev (call : Call) (machine : Machine) : Machine :=
  let names := call.arguments
  consume names <| (sourcesOf machine names).foldl (fun machine source =>
    match source.content with
    | .ok bytes =>
        machine.write (rejoinLines bytes ((byteLines bytes).map fun line =>
          Utf8.encode (charsOf line).reverse))
    | .error cause =>
        machine.complain 1 ("rev: cannot open " ++ source.name ++ ": " ++ cause.words)) machine

def foldTable : OptionTable where
  flags := "sb"
  valued := "w"
  names := [("width", 'w'), ("spaces", 's')]

/-- Cuts a line into pieces of a width, behind blanks if that is wanted.  `fuel` bounds
the pieces. -/
def foldLine (width : Nat) (atBlanks : Bool) (fuel : Nat) (line : Utf8.Bytes) :
    List Utf8.Bytes :=
  match fuel with
  | 0 => [line]
  | fuel + 1 =>
      if line.length ≤ width || width = 0 then [line]
      else
        let piece := line.take width
        let upToBlank := (piece.reverse.dropWhile fun byte => byte != 32 && byte != 9).reverse
        let kept := if atBlanks && !upToBlank.isEmpty then upToBlank else piece
        kept :: foldLine width atBlanks fuel (line.drop kept.length)

def fold (call : Call) (machine : Machine) : Machine :=
  withOptions "fold" 1 foldTable call machine fun arguments =>
    let width := ((arguments.value? 'w').bind Sum.digits?).getD 80
    filterSources "fold" arguments.operands
      (fun bytes => rejoinLines bytes ((byteLines bytes).flatMap fun line =>
        foldLine width (arguments.has 's') (line.length + 1) line))
      machine

def pasteTable : OptionTable where
  flags := "s"
  valued := "d"
  names := [("serial", 's'), ("delimiters", 'd')]

/-- Puts items together with marks between them that are used in turn. -/
def joinInTurn (marks : List Utf8.Bytes) (index : Nat) : List Utf8.Bytes → Utf8.Bytes
  | [] => []
  | [item] => item
  | item :: rest =>
      item ++ (marks[index % marks.length.max 1]?.getD []) ++ joinInTurn marks (index + 1) rest

/-- Puts the lines of files beside each other, or those of each file in one line. -/
def paste (call : Call) (machine : Machine) : Machine :=
  withOptions "paste" 1 pasteTable call machine fun arguments =>
    let names := if arguments.operands.isEmpty then ["-"] else arguments.operands
    let sources := names.map (sourceOf machine)
    let failed := sources.findSome? fun source =>
      match source.content with
      | .error cause => some ("paste: " ++ source.name ++ ": " ++ cause.words)
      | .ok _ => none
    let marks := match arguments.value? 'd' with
      | none => [[9]]
      | some text =>
          let (bytes, _) := unescape true text.toList
          if text = "\\0" || text = "" then [[]] else bytes.map fun byte => [byte]
    -- Files that are named several times as the input share its lines.
    let inputs := (names.filter (· = "-")).length
    let linesAt (index : Nat) (source : Source) : List Utf8.Bytes :=
      let lines := byteLines (source.content.toOption.getD [])
      if source.name = "-" && 1 < inputs && !arguments.has 's' then
        let before := ((names.take index).filter (· = "-")).length
        (lines.zipIdx.filter fun (_, number) => number % inputs = before).map Prod.fst
      else lines
    let columns := sources.zipIdx.map fun (source, index) => linesAt index source
    match failed with
    | some message => machine.complain 1 message
    | none =>
        let used := consume names machine
        if arguments.has 's' then
          used.write (joinByteLines (columns.map (joinInTurn marks 0)))
        else
          let height := columns.foldl (fun most column => most.max column.length) 0
          used.write (joinByteLines ((List.range height).map fun row =>
            joinInTurn marks 0 (columns.map fun column => column[row]?.getD [])))

/-- Shows its input, and writes it into files. -/
def tee (call : Call) (machine : Machine) : Machine :=
  withOptions "tee" 1 { flags := "aip", names := [("append", 'a')] } call machine fun arguments =>
    let bytes := machine.input
    let written := arguments.operands.foldl (fun machine name =>
      let path := machine.pathOf name
      let start := if arguments.has 'a' then machine.bytesAt path else []
      if name = "/dev/null" then machine
      else if name = "/dev/stderr" then machine.writeTo machine.errors bytes
      else
        match machine.tree.writeBytes path (start ++ bytes) with
        | .ok tree => { machine with tree }
        | .error (.system cause _) =>
            machine.complain 1 ("tee: " ++ name ++ ": " ++ cause.words)
        | .error _ => machine) machine
    ({ written with input := [] }).write bytes

/-! ## Counting -/

def isWhite (byte : UInt8) : Bool :=
  byte = 32 || (decide (9 ≤ byte) && decide (byte ≤ 13))

/-- How many words some bytes hold. -/
def wordCount (bytes : Utf8.Bytes) : Nat :=
  (bytes.foldl (fun (count, inWord) byte =>
    if isWhite byte then (count, false)
    else (if inWord then count else count + 1, true)) (0, false)).1

def wcTable : OptionTable where
  flags := "lwcmL"
  names := [("lines", 'l'), ("words", 'w'), ("bytes", 'c'), ("chars", 'm'),
    ("max-line-length", 'L')]

/-- Counts lines, words, characters and bytes. -/
def wc (call : Call) (machine : Machine) : Machine :=
  withOptions "wc" 1 wcTable call machine fun arguments =>
    let names := arguments.operands
    let wants (letter : Char) : Bool :=
      arguments.has letter || (arguments.options.isEmpty && letter != 'm' && letter != 'L')
    let longest (bytes : Utf8.Bytes) : Nat :=
      (byteLines bytes).foldl (fun most line => most.max (charsOf line).length) 0
    let counts (bytes : Utf8.Bytes) : List Nat :=
      (if wants 'l' then [(bytes.filter (· == 10)).length] else []) ++
        (if wants 'w' then [wordCount bytes] else []) ++
        (if wants 'm' then [(charsOf bytes).length] else []) ++
        (if wants 'c' then [bytes.length] else []) ++
        (if wants 'L' then [longest bytes] else [])
    let sources := sourcesOf machine names
    let contents := sources.filterMap fun source => source.content.toOption
    let total := contents.flatten
    let isUnsized (source : Source) : Bool :=
      match source.content with
      | .error cause => cause = .isDirectory
      | .ok _ => source.name = "-" && !machine.inputIsFile
    let width :=
      if (counts []).length = 1 && sources.length = 1 then 1
      else if sources.any isUnsized then 7
      else (toString total.length).length
    let row (bytes : Utf8.Bytes) (name : String) : String :=
      " ".intercalate ((counts bytes).map fun count => padLeft width (toString count)) ++
        (if name = "" then "" else " " ++ name) ++ "\n"
    let worked := sources.foldl (fun machine source =>
      match source.content with
      | .ok bytes => machine.say (row bytes (if names.isEmpty then "" else source.name))
      | .error cause =>
          let told := machine.complain 1 ("wc: " ++ source.name ++ ": " ++ cause.words)
          if cause = .isDirectory then told.say (row [] source.name) else told) machine
    consume names (if 1 < sources.length then worked.say (row total "total") else worked)

/-! ## Parts of files -/

/-- How much of a file is shown: lines or bytes, counted from the usual end or from
the other one. -/
structure Amount where
  count : Nat := 10
  isBytes : Bool := false
  isOther : Bool := false

/-- The factor of a letter behind a number. -/
def factorOf? : List Char → Option Nat
  | [] => some 1
  | ['b'] => some 512
  | ['k'] => some 1024
  | ['K'] => some 1024
  | ['k', 'B'] => some 1000
  | ['M'] => some 1048576
  | _ => none

/-- The amount that a text stands for. -/
def Amount.ofText? (isFirst isBytes : Bool) (text : String) : Option Amount := do
  let chars := text.toList
  let (sign, digits) := match chars with
    | '-' :: rest => (some '-', rest)
    | '+' :: rest => (some '+', rest)
    | _ => (none, chars)
  let number := digits.takeWhile Char.isDigit
  let factor ← factorOf? (digits.dropWhile Char.isDigit)
  if number.isEmpty then none
  else
    return {
      count := numberOf number * factor
      isBytes
      isOther := sign = some (if isFirst then '-' else '+') }

/-- A word of digits as an amount, such as `-5` or `-5c`. -/
def Amount.ofWord? (word : String) : Option Amount :=
  match word.toList with
  | '-' :: rest =>
      let digits := rest.takeWhile Char.isDigit
      match digits, rest.dropWhile Char.isDigit with
      | [], _ => none
      | _, [] => some { count := numberOf digits }
      | _, ['c'] => some { count := numberOf digits, isBytes := true }
      | _, ['n'] => some { count := numberOf digits }
      | _, _ => none
  | _ => none

/-- The first or the last part of some bytes. -/
def Amount.part (amount : Amount) (isFirst : Bool) (bytes : Utf8.Bytes) : Utf8.Bytes :=
  let count := amount.count
  let cut {α : Type} (items : List α) : List α :=
    match isFirst, amount.isOther with
    | true, false => items.take count
    | true, true => items.take (items.length - count)
    | false, false => lastPart count items
    | false, true => items.drop (count - 1)
  if amount.isBytes then cut bytes else (cut (endedLines bytes)).flatten

def partTable : OptionTable where
  flags := "qvf"
  valued := "nc"
  names := [("lines", 'n'), ("bytes", 'c'), ("quiet", 'q'), ("verbose", 'v')]

/-- Shows the first or the last part of files, each under its name if there are
several. -/
def showPart (program : String) (isFirst : Bool) (call : Call) (machine : Machine) : Machine :=
  let (amount, words) := match call.arguments with
    | word :: rest =>
        match Amount.ofWord? word with
        | some amount => (some amount, rest)
        | none => (none, word :: rest)
    | [] => (none, [])
  withOptions program 1 partTable { call with arguments := words } machine fun arguments =>
    let names := arguments.operands
    let sized := (arguments.options.reverse.find? fun (letter, _) => letter = 'n' || letter = 'c')
    let chosen : Except String Amount := match sized with
      | none => .ok (amount.getD {})
      | some (letter, text) =>
          match Amount.ofText? isFirst (letter = 'c') text with
          | some amount => .ok amount
          | none => .error ("invalid number of " ++
              (if letter = 'c' then "bytes" else "lines") ++ ": ‘" ++ text ++ "’")
    match chosen with
    | .error fault => machine.complain 1 (program ++ ": " ++ fault)
    | .ok amount =>
        let isTitled := (1 < names.length || arguments.has 'v') && !arguments.has 'q'
        let titleOf (source : Source) : String :=
          "==> " ++ (if source.name = "-" then "standard input" else source.name) ++ " <==\n"
        let shown := (sourcesOf machine names).foldl (fun (machine, isFirstTitle) source =>
          let titled : Machine :=
            if isTitled then machine.say ((if isFirstTitle then "" else "\n") ++ titleOf source)
            else machine
          match source.content with
          | .ok bytes => (titled.write (amount.part isFirst bytes), false)
          | .error .isDirectory =>
              (titled.complain 1 (program ++ ": error reading '" ++ source.name ++
                "': Is a directory"), false)
          | .error cause =>
              (machine.complain 1 (program ++ ": cannot open '" ++ source.name ++
                "' for reading: " ++ cause.words), isFirstTitle)) (machine, true)
        consume names shown.1

/-! ## Numbers and names -/

/-- A decimal number as a whole one and how many digits stand behind its point. -/
def decimal? (text : String) : Option (Int × Nat) :=
  let chars := text.toList
  let (isNegative, start) := match chars with
    | '-' :: rest => (true, rest)
    | '+' :: rest => (false, rest)
    | _ => (false, chars)
  let whole := start.takeWhile Char.isDigit
  let fraction? := match start.dropWhile Char.isDigit with
    | [] => some []
    | '.' :: rest => if rest.all Char.isDigit then some rest else none
    | _ => none
  match fraction? with
  | none => none
  | some fraction =>
      if whole.isEmpty && fraction.isEmpty then none
      else
        let value : Int := numberOf (whole ++ fraction)
        some (if isNegative then -value else value, fraction.length)

/-- A number with so many digits behind the point. -/
def decimalText (digits : Nat) (value : Int) : String :=
  let text := paddedDigits 10 (digits + 1) value.natAbs
  let whole := text.take (text.length - digits)
  let fraction := text.drop (text.length - digits)
  (if value < 0 then "-" else "") ++
    String.ofList (whole ++ (if digits = 0 then [] else '.' :: fraction))

/-- Counts from a first to a last number. -/
def seq (call : Call) (machine : Machine) : Machine :=
  let options := call.arguments.takeWhile fun word =>
    word.startsWith "-" && (decimal? word).isNone && word != "--"
  let usesNext := options.getLast?.any fun word => word = "-s" || word = "-f"
  let size := options.length + (if usesNext then 1 else 0)
  let rest := call.arguments.drop size
  let numbers := if rest.head? = some "--" then rest.tail else rest
  let table : OptionTable := {
    flags := "w"
    valued := "sf"
    names := [("separator", 's'), ("equal-width", 'w'), ("format", 'f')] }
  withOptions "seq" 1 table { call with arguments := call.arguments.take size } machine
    fun arguments =>
      let refuse (text : String) : Machine :=
        machine.complain 1 ("seq: " ++ text ++ "\n" ++ advice "seq")
      if numbers.isEmpty then refuse "missing operand"
      else if 3 < numbers.length then
        refuse ("extra operand ‘" ++ numbers[3]?.getD "" ++ "’")
      else
        match numbers.find? fun text => (decimal? text).isNone with
        | some text => refuse ("invalid floating point argument: ‘" ++ text ++ "’")
        | none =>
            let values := numbers.filterMap decimal?
            let digits := (values.dropLast.map Prod.snd).foldl Nat.max 0
            let most := (values.map Prod.snd).foldl Nat.max 0
            let scaled (value : Int × Nat) : Int :=
              value.1 * (Nat.pow 10 (most - value.2) : Nat)
            let one : Int := (Nat.pow 10 most : Nat)
            let (first, step, last) : Int × Int × Int := match values.map scaled with
              | [last] => (one, one, last)
              | [first, last] => (first, one, last)
              | [first, step, last] => (first, step, last)
              | _ => (0, 1, -1)
            if step = 0 then
              refuse ("invalid Zero increment value: ‘" ++ numbers[1]?.getD "" ++ "’")
            else
              let count := ((last - first).fdiv step + 1).toNat
              let items := (List.range count).map fun index : Nat => first + step * index
              let shownDigits (value : Int) : String :=
                decimalText digits (value.tdiv (Nat.pow 10 (most - digits) : Nat))
              let texts := items.map shownDigits
              let width := texts.foldl (fun most text => most.max text.length) 0
              let filled := texts.map fun text =>
                if arguments.has 'w' then
                  let sign := if text.startsWith "-" then "-" else ""
                  sign ++ String.ofList (List.replicate (width - text.length) '0' ++
                    text.toList.drop sign.length)
                else match arguments.value? 'f' with
                  | some format =>
                      let pieces := formatPieces (format.length + 1) format.toList
                      String.ofList (charsOf
                        (Filling.run pieces 1 { arguments := [text] }).bytes)
                  | none => text
              let between := (arguments.value? 's').getD "\n"
              if filled.isEmpty then machine
              else machine.say (between.intercalate filled ++ "\n")

def withoutEnd (text ending : String) : String :=
  if text.endsWith ending && text != ending then
    String.ofList (text.toList.take (text.length - ending.length))
  else text

/-- The last part of a name. -/
def lastNameOf (name : String) : String :=
  let path := Path.ofText name
  if name = "" then "" else if path.names.isEmpty then "/" else path.name

def basename (call : Call) (machine : Machine) : Machine :=
  withOptions "basename" 1 { flags := "az", valued := "s" } call machine fun arguments =>
    let refuse (text : String) : Machine :=
      machine.complain 1 ("basename: " ++ text ++ "\n" ++ advice "basename")
    let isMany := arguments.has 'a' || arguments.has 's'
    match arguments.operands with
    | [] => refuse "missing operand"
    | name :: rest =>
        if isMany then
          machine.say (String.join ((name :: rest).map fun name =>
            withoutEnd (lastNameOf name) ((arguments.value? 's').getD "") ++ "\n"))
        else
          match rest with
          | _ :: extra :: _ => refuse ("extra operand ‘" ++ extra ++ "’")
          | _ => machine.say (withoutEnd (lastNameOf name) (rest.headD "") ++ "\n")

/-- The name of the directory that a name stands in. -/
def directoryNameOf (name : String) : String :=
  let isSlash (c : Char) : Bool := c = '/'
  let chars := (name.toList.reverse.dropWhile isSlash)
  let above := ((chars.dropWhile (!isSlash ·)).dropWhile isSlash).reverse
  if !above.isEmpty then String.ofList above
  else if name.startsWith "/" then "/" else "."

def dirname (call : Call) (machine : Machine) : Machine :=
  withOptions "dirname" 1 { flags := "z" } call machine fun arguments =>
    match arguments.operands with
    | [] => machine.complain 1 ("dirname: missing operand\n" ++ advice "dirname")
    | names => machine.say (String.join (names.map fun name => directoryNameOf name ++ "\n"))

end DocSamples.Script
