import DocSamples.Script.Files

namespace DocSamples.Script

/-! # Comparing files

Two files are compared byte by byte, line by line, or as sorted lists.
-/

open Text

/-- The two sources with some names, or the first that cannot be read. -/
def twoSources (machine : Machine) (first second : String) :
    Except (String × FileCause) (Utf8.Bytes × Utf8.Bytes) :=
  match (sourceOf machine first).content, (sourceOf machine second).content with
  | .error cause, _ => .error (first, cause)
  | _, .error cause => .error (second, cause)
  | .ok one, .ok other => .ok (one, other)

/-! ## Bytes -/

/-- How many bytes two files have in common at their beginnings. -/
def commonSize : Utf8.Bytes → Utf8.Bytes → Nat
  | one :: rest, other :: more => if one = other then commonSize rest more + 1 else 0
  | _, _ => 0

/-- A byte in octal digits, and a character. -/
def octalText (byte : UInt8) : String :=
  String.ofList (Nat.toDigits 8 byte.toNat)

def lineCount (bytes : Utf8.Bytes) : Nat :=
  (bytes.filter (· == 10)).length

/-- The bytes of two files that differ, with their numbers. -/
def differingBytes (number : Nat) : Utf8.Bytes → Utf8.Bytes → List (Nat × UInt8 × UInt8)
  | one :: rest, other :: more =>
      let after := differingBytes (number + 1) rest more
      if one = other then after else (number, one, other) :: after
  | _, _ => []

/-- Tells where two files differ. -/
def cmp (call : Call) (machine : Machine) : Machine :=
  withOptions "cmp" 2 { flags := "slb", names := [("silent", 's'), ("quiet", 's'),
      ("verbose", 'l'), ("print-bytes", 'b')] } call machine fun arguments =>
    match arguments.operands with
    | [] => machine.complain 2
        ("cmp: missing operand after 'cmp'\ncmp: " ++ advice "cmp")
    | first :: others =>
        let second := others.headD "-"
        match twoSources machine first second with
        | .error (name, cause) =>
            if arguments.has 's' then machine.leave 2
            else machine.complain 2 ("cmp: " ++ name ++ ": " ++ cause.words)
        | .ok (one, other) =>
            let size := commonSize one other
            let isSilent := arguments.has 's'
            let ends (name : String) (shorter : Utf8.Bytes) (machine : Machine) : Machine :=
              let count := shorter.length
              let place :=
                if count = 0 then " which is empty"
                else
                  let lines := lineCount shorter
                  let line := if arguments.has 'l' then ""
                    else if shorter.getLast? = some 10 then ", line " ++ toString lines
                    else ", in line " ++ toString (lines + 1)
                  " after byte " ++ toString count ++ line
              machine.complain 1 ("cmp: EOF on " ++ name ++ place)
            let atEnd (machine : Machine) : Machine :=
              if isSilent then machine.leave 1
              else if one.length < other.length then ends first one machine
              else if other.length < one.length then ends second other machine
              else machine.leave 1
            if one = other then machine.leave 0
            else if arguments.has 'l' then
              let rows := differingBytes 1 one other
              let width := (toString (one.length.min other.length)).length
              let row : Nat × UInt8 × UInt8 → String := fun (number, byte, byte') =>
                padLeft width (toString number) ++ " " ++ padLeft 3 (octalText byte) ++ " " ++
                  padLeft 3 (octalText byte') ++ "\n"
              atEnd (machine.say (String.join (rows.map row)))
            else
              match one[size]?, other[size]? with
              | some byte, some byte' =>
                  let shown := first ++ " " ++ second ++ " differ: byte " ++ toString (size + 1) ++
                    ", line " ++ toString (lineCount (one.take size) + 1)
                  let bytes := if arguments.has 'b' then
                      " is " ++ padLeft 3 (octalText byte) ++ " " ++ visible byte ++ " " ++
                        padLeft 3 (octalText byte') ++ " " ++ visible byte'
                    else ""
                  if isSilent then machine.leave 1
                  else (machine.say (shown ++ bytes ++ "\n")).leave 1
              | _, _ => atEnd machine
where
  visible (byte : UInt8) : String :=
    if 32 ≤ byte ∧ byte < 127 then String.singleton (Char.ofNat byte.toNat)
    else if byte < 32 then String.ofList ['^', Char.ofNat (byte.toNat + 64)]
    else if byte = 127 then "^?"
    else "M-" ++ String.singleton (Char.ofNat (byte.toNat % 128))

/-! ## Sorted lines -/

/-- The lines of two sorted files by the column they belong to: only in the first, only
in the second, or in both.  `fuel` bounds the lines. -/
def merged (fuel : Nat) (first second : List Utf8.Bytes) : List (Nat × Utf8.Bytes) :=
  match fuel, first, second with
  | 0, _, _ => []
  | _, [], [] => []
  | fuel + 1, line :: rest, [] => (0, line) :: merged fuel rest []
  | fuel + 1, [], line :: rest => (1, line) :: merged fuel [] rest
  | fuel + 1, one :: rest, other :: more =>
      if one = other then (2, one) :: merged fuel rest more
      else if one < other then (0, one) :: merged fuel rest (other :: more)
      else (1, other) :: merged fuel (one :: rest) more

def isSorted : List Utf8.Bytes → Bool
  | one :: other :: rest => decide (¬ other < one) && isSorted (other :: rest)
  | _ => true

/-- Shows in columns which lines two sorted files have each for itself and together. -/
def comm (call : Call) (machine : Machine) : Machine :=
  withOptions "comm" 1 { flags := "123iz", names := [("check-order", 'c'), ("total", 't')] } call
      machine fun arguments =>
    match arguments.operands with
    | [] => machine.complain 1 ("comm: missing operand\n" ++ advice "comm")
    | [name] => machine.complain 1
        ("comm: missing operand after ‘" ++ name ++ "’\n" ++ advice "comm")
    | first :: second :: _ =>
        match twoSources machine first second with
        | .error (name, cause) => machine.complain 1 ("comm: " ++ name ++ ": " ++ cause.words)
        | .ok (one, other) =>
            let lines := byteLines one
            let others := byteLines other
            let isHidden (column : Nat) : Bool :=
              arguments.has (Char.ofNat ('1'.toNat + column))
            let lead (column : Nat) : String :=
              String.join (((List.range column).filter fun before => !isHidden before).map
                fun _ => "\t")
            let rows := (merged (lines.length + others.length + 1) lines others).filter
              fun (column, _) => !isHidden column
            let shown := machine.write (rows.flatMap fun (column, line) =>
              Utf8.encodeText (lead column) ++ line ++ [10])
            let used := consume [first, second] shown
            let wrong := (if isSorted lines then [] else ["1"]) ++
              (if isSorted others then [] else ["2"])
            if wrong.isEmpty then used
            else
              let told := wrong.foldl (fun machine number =>
                machine.complain 1 ("comm: file " ++ number ++ " is not in sorted order")) used
              told.complain 1 "comm: input is not in sorted order"

/-! ## Lines -/

/-- A line of two texts: the two have it both, or it is only in the first, or only in
the second. -/
inductive Change where
  | same
  | removed
  | added
deriving DecidableEq, Repr

/-- The lengths of the longest common parts of a list and of the ends of another one,
given those of the list without its first line. -/
def commonRow (line : Utf8.Bytes) : List Utf8.Bytes → List Nat → List Nat
  | other :: rest, same :: more =>
      let row := commonRow line rest more
      let next := row.headD 0
      (if line = other then more.headD 0 + 1 else same.max next) :: row
  | _, _ => [0]

/-- The lengths of the longest common parts of the ends of two lists. -/
def commonTable (second : List Utf8.Bytes) : List Utf8.Bytes → List (List Nat)
  | [] => [second.map (fun _ => 0) ++ [0]]
  | line :: rest =>
      let table := commonTable second rest
      commonRow line second (table.headD []) :: table

/-- The changes that lead from a list to another one by the fewest steps.  `fuel`
bounds them. -/
def changesFrom (fuel : Nat) (table : List (List Nat)) (first second : List Utf8.Bytes) :
    List Change :=
  match fuel, first, second with
  | 0, _, _ => []
  | _, [], [] => []
  | fuel + 1, _ :: rest, [] => .removed :: changesFrom fuel table.tail rest []
  | fuel + 1, [], _ :: more => .added :: changesFrom fuel table [] more
  | fuel + 1, line :: rest, other :: more =>
      let row := table.headD []
      let below := table.tail.headD []
      if line = other then
        .same :: changesFrom fuel (table.tail.map List.tail) rest more
      else if row.tail.headD 0 ≤ below.headD 0 then
        .removed :: changesFrom fuel table.tail rest (other :: more)
      else .added :: changesFrom fuel (table.map List.tail) (line :: rest) more

def changesOf (first second : List Utf8.Bytes) : List Change :=
  changesFrom (first.length + second.length + 1) (commonTable second first) first second

/-- Lines that are changed together: how many lines of both texts are before them, and
how many are removed and added. -/
structure Hunk where
  first : Nat
  second : Nat
  removed : Nat := 0
  added : Nat := 0
deriving DecidableEq, Repr

/-- The hunks of some changes, given the one in the making.  A run of lines that are
only removed or only added is moved down as far as the same lines follow it. -/
def hunksOf (first second : Nat) (current : Option Hunk) : List Change → List Hunk
  | [] => current.toList
  | .same :: rest => current.toList ++ hunksOf (first + 1) (second + 1) none rest
  | .removed :: rest =>
      let hunk := current.getD { first, second }
      hunksOf (first + 1) second (some { hunk with removed := hunk.removed + 1 }) rest
  | .added :: rest =>
      let hunk := current.getD { first, second }
      hunksOf first (second + 1) (some { hunk with added := hunk.added + 1 }) rest

/-- Moves changes of one kind down over lines that are the same as their first one. -/
def slideDown (fuel : Nat) (first second : Array Utf8.Bytes) (hunk : Hunk) (limit : Nat) : Hunk :=
  match fuel with
  | 0 => hunk
  | fuel + 1 =>
      let moved := { hunk with first := hunk.first + 1, second := hunk.second + 1 }
      if hunk.added = 0 && first[hunk.first]? = first[hunk.first + hunk.removed]? &&
          hunk.first + hunk.removed < limit then
        slideDown fuel first second moved limit
      else if hunk.removed = 0 && second[hunk.second]? = second[hunk.second + hunk.added]? &&
          hunk.second + hunk.added < second.size && hunk.first < limit then
        slideDown fuel first second moved limit
      else hunk

/-- The hunks with which a text becomes another one. -/
def hunks (first second : List Utf8.Bytes) : List Hunk :=
  let found := hunksOf 0 0 none (changesOf first second)
  let limits := (found.tail.map Hunk.first) ++ [first.length]
  (found.zip limits).map fun (hunk, limit) =>
    slideDown first.length first.toArray second.toArray hunk limit

/-- The numbers of lines in a hunk. -/
def lineRange (before count : Nat) : String :=
  if count = 0 then toString before
  else if count = 1 then toString (before + 1)
  else toString (before + 1) ++ "," ++ toString (before + count)

/-- A line with a sign before it; one at the end without a line feed is told of. -/
def markedLine (sign : String) (isOpen : Bool) (line : Utf8.Bytes) : Utf8.Bytes :=
  Utf8.encodeText sign ++ line ++
    Utf8.encodeText (if isOpen then "\n\\ No newline at end of file\n" else "\n")

/-- Two texts that are compared: their lines, and whether each lacks its last line
feed. -/
structure Texts where
  first : List Utf8.Bytes
  second : List Utf8.Bytes
  firstIsOpen : Bool
  secondIsOpen : Bool

namespace Texts

def ofBytes (one other : Utf8.Bytes) : Texts :=
  let isOpen (bytes : Utf8.Bytes) : Bool := !bytes.isEmpty && bytes.getLast? != some 10
  { first := byteLines one, second := byteLines other
    firstIsOpen := isOpen one, secondIsOpen := isOpen other }

/-- The lines as they are compared: a line without its line feed is not the same as one
with it. -/
def keys (isOpen : Bool) (plain : Utf8.Bytes → Utf8.Bytes) (lines : List Utf8.Bytes) :
    List Utf8.Bytes :=
  lines.mapIdx fun index line =>
    if isOpen && index + 1 = lines.length then plain line else plain line ++ [10]

def firstLines (texts : Texts) (sign : String) (start count : Nat) : Utf8.Bytes :=
  (((texts.first.drop start).take count).mapIdx fun index line =>
    markedLine sign (texts.firstIsOpen && start + index + 1 = texts.first.length) line).flatten

def secondLines (texts : Texts) (sign : String) (start count : Nat) : Utf8.Bytes :=
  (((texts.second.drop start).take count).mapIdx fun index line =>
    markedLine sign (texts.secondIsOpen && start + index + 1 = texts.second.length) line).flatten

/-- A hunk in the plain form. -/
def shownHunk (texts : Texts) (hunk : Hunk) : Utf8.Bytes :=
  let sign := if hunk.removed = 0 then "a" else if hunk.added = 0 then "d" else "c"
  Utf8.encodeText (lineRange hunk.first hunk.removed ++ sign ++
      lineRange hunk.second hunk.added ++ "\n") ++
    texts.firstLines "< " hunk.first hunk.removed ++
    (if sign = "c" then Utf8.encodeText "---\n" else []) ++
    texts.secondLines "> " hunk.second hunk.added

/-- Hunks that share lines around them. -/
def groupHunks (context : Nat) : List Hunk → List (List Hunk)
  | [] => []
  | hunk :: rest =>
      match groupHunks context rest with
      | (next :: more) :: others =>
          if next.first ≤ hunk.first + hunk.removed + 2 * context then
            (hunk :: next :: more) :: others
          else [hunk] :: (next :: more) :: others
      | others => [hunk] :: others

/-- The numbers of lines in the head of a group. -/
def groupRange (start count : Nat) : String :=
  if count = 1 then toString (start + 1)
  else toString (if count = 0 then start else start + 1) ++ "," ++ toString count

/-- Hunks with the lines before, between and after them. -/
def shownGroup (texts : Texts) (context : Nat) (group : List Hunk) : Utf8.Bytes :=
  match group, group.getLast? with
  | first :: _, some last =>
      let before := first.first.min context
      let start := first.first - before
      let start' := first.second - before
      let stop := (last.first + last.removed + context).min texts.first.length
      let stop' := (last.second + last.added + context).min texts.second.length
      let body := group.foldl (fun (bytes, line) hunk =>
        (bytes ++ texts.firstLines " " line (hunk.first - line) ++
          texts.firstLines "-" hunk.first hunk.removed ++
          texts.secondLines "+" hunk.second hunk.added, hunk.first + hunk.removed))
        (([] : Utf8.Bytes), start)
      Utf8.encodeText ("@@ -" ++ groupRange start (stop - start) ++ " +" ++
          groupRange start' (stop' - start') ++ " @@\n") ++
        body.1 ++ texts.firstLines " " body.2 (stop - body.2)
  | _, _ => []

end Texts

def diffTable : OptionTable where
  flags := "qsiwbBuarN"
  valued := "UL"
  names := [("brief", 'q'), ("report-identical-files", 's'), ("ignore-case", 'i'),
    ("ignore-all-space", 'w'), ("ignore-space-change", 'b'), ("text", 'a'), ("unified", 'u'),
    ("label", 'L')]

/-- What a line counts as where some differences are ignored. -/
def plainLine (arguments : Arguments) (line : Utf8.Bytes) : Utf8.Bytes :=
  let isBlank (byte : UInt8) : Bool := byte = 32 || byte = 9 || byte = 13
  let rec joinBlanks : Utf8.Bytes → Utf8.Bytes
    | [] => []
    | byte :: rest =>
        if isBlank byte then
          match joinBlanks rest with
          | [] => []
          | next :: more => if next = 32 then next :: more else 32 :: next :: more
        else byte :: joinBlanks rest
  let lower (byte : UInt8) : UInt8 := if 65 ≤ byte ∧ byte ≤ 90 then byte + 32 else byte
  let cased := if arguments.has 'i' then line.map lower else line
  if arguments.has 'w' then cased.filter (!isBlank ·)
  else if arguments.has 'b' then joinBlanks cased
  else cased

/-- Shows how two files differ, line by line. -/
def diff (call : Call) (machine : Machine) : Machine :=
  withOptions "diff" 2 diffTable call machine fun arguments =>
    let inside (name other : String) : String :=
      if isDirectoryUnder machine name && !isDirectoryUnder machine other then
        nameBelow name (((trimSlashes other).splitOn "/").getLastD "")
      else name
    match arguments.operands with
    | [first, second] =>
        let one := inside first second
        let other := inside second first
        if isDirectoryUnder machine one && isDirectoryUnder machine other then machine.leave 0
        else
          match twoSources machine one other with
          | .error (name, cause) => machine.complain 2 ("diff: " ++ name ++ ": " ++ cause.words)
          | .ok (bytes, bytes') =>
              let texts := Texts.ofBytes bytes bytes'
              let plain := plainLine arguments
              let found := hunks (Texts.keys texts.firstIsOpen plain texts.first)
                (Texts.keys texts.secondIsOpen plain texts.second)
              let used := consume [one, other] machine
              if found.isEmpty then
                if arguments.has 's' then
                  used.say ("Files " ++ one ++ " and " ++ other ++ " are identical\n")
                else used
              else if arguments.has 'q' then
                (used.say ("Files " ++ one ++ " and " ++ other ++ " differ\n")).leave 1
              else if arguments.has 'u' || arguments.has 'U' then
                let context := ((arguments.value? 'U').bind Sum.digits?).getD 3
                let labels := arguments.values 'L'
                let head := "--- " ++ labels[0]?.getD one ++ "\n+++ " ++ labels[1]?.getD other ++
                  "\n"
                (used.write (Utf8.encodeText head ++
                  (Texts.groupHunks context found).flatMap (texts.shownGroup context))).leave 1
              else (used.write (found.flatMap texts.shownHunk)).leave 1
    | [] => machine.complain 2 ("diff: missing operand after 'diff'\ndiff: " ++ advice "diff")
    | [name] => machine.complain 2
        ("diff: missing operand after '" ++ name ++ "'\ndiff: " ++ advice "diff")
    | _ :: _ :: name :: _ =>
        machine.complain 2 ("diff: extra operand '" ++ name ++ "'\ndiff: " ++ advice "diff")

end DocSamples.Script
