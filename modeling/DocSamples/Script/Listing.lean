import DocSamples.Script.Files

namespace DocSamples.Script

/-! # Listing directories

Files are listed before directories, and both in the order that is asked for.
-/

/-- Something that a listing names. -/
structure Listed where
  name : String
  size : Nat
  /-- The sign for what it is: a directory, a link, a program or nothing of that. -/
  sign : String
deriving DecidableEq, Repr

namespace Listed

def lsTable : OptionTable where
  flags := "aA1drRFpltSXfUghoiskcumGnNLHqQCxZbvB\x01"
  names := [("all", 'a'), ("almost-all", 'A'), ("directory", 'd'), ("reverse", 'r'),
    ("recursive", 'R'), ("classify", 'F'), ("quote-name", 'Q'), ("size", 's'),
    ("color", '\x01')]

/-- What is at a place, by a name. -/
def ofPlace (machine : Machine) (name : String) (place : Place) : Listed :=
  match machine.tree.lookup place with
  | some .directory => ⟨name, 4096, "/"⟩
  | some (.link target) => ⟨name, target.utf8ByteSize, "@"⟩
  | some (.file bytes) =>
      ⟨name, bytes.length, if machine.modeAt place &&& 0o111 != 0 then "*" else ""⟩
  | none => ⟨name, 0, ""⟩

/-- What follows the last period of a name. -/
def ending (name : String) : String :=
  if name.contains '.' then "." ++ (name.splitOn ".").getLastD "" else ""

/-- Whether something is listed before something else. -/
def isBefore (arguments : Arguments) (first second : Listed) : Bool :=
  if arguments.has 'S' && first.size != second.size then decide (second.size ≤ first.size)
  else if arguments.has 'X' && ending first.name != ending second.name then
    decide (ending first.name ≤ ending second.name)
  else decide (first.name ≤ second.name)

def inOrder (arguments : Arguments) (items : List Listed) : List Listed :=
  let ordered := if arguments.has 'U' || arguments.has 'f' then items
    else items.mergeSort (isBefore arguments)
  if arguments.has 'r' then ordered.reverse else ordered

/-- A name in quotes, if they are asked for. -/
def quoted (arguments : Arguments) (name : String) : String :=
  if arguments.has 'Q' then
    "\x22" ++ String.join (name.toList.map fun c =>
      if c = '\x22' || c = '\x5c' then "\x5c" ++ String.singleton c else String.singleton c) ++
      "\x22"
  else name

/-- The name of something as it is shown. -/
def shownName (arguments : Arguments) (item : Listed) : String :=
  let name := quoted arguments item.name
  if arguments.has 'F' || (arguments.has 'p' && item.sign = "/") then name ++ item.sign else name

/-! ## Layouts -/

/-- How many characters a row has room for. -/
def rowWidth : Nat := 80

/-- Names one after the other with commas between them. -/
def commaRows (names : List String) : String :=
  let step (shown : String × Nat) (name : String) : String × Nat :=
    let (text, column) := shown
    if text = "" then (name, name.length)
    else if column + name.length + 2 < rowWidth then
      (text ++ ", " ++ name, column + name.length + 2)
    else (text ++ ",\n" ++ name, name.length)
  if names.isEmpty then "" else (names.foldl step ("", 0)).1 ++ "\n"

/-- How wide the columns are, if names are put into so many of them.  All but those of
the last column have two blanks behind them. -/
def columnWidths (isDown : Bool) (names : List String) (count : Nat) : List Nat :=
  let rows := (names.length + count - 1) / count
  names.zipIdx.foldl (fun widths (name, index) =>
    let column := if isDown then index / rows else index % count
    let width := name.length + if column + 1 = count then 0 else 2
    widths.modify column (Nat.max width)) (List.replicate count 3)

/-- Blanks from a column to another, with tabs where they get no further. -/
def indent (start goal : Nat) : String :=
  let steps := (List.range (goal - start)).foldl (fun (text, column) _ =>
    if goal ≤ column then (text, column)
    else if (column + 1) / 8 < goal / 8 then (text ++ "\t", column + 8 - column % 8)
    else (text ++ " ", column + 1)) ("", start)
  steps.1

/-- Names in as many columns as there is room for. -/
def columnRows (isDown : Bool) (names : List String) : String :=
  let fits (count : Nat) : Bool :=
    decide ((columnWidths isDown names count).foldl (· + ·) 0 < rowWidth)
  let most := Nat.min names.length (rowWidth / 3)
  let count := ((List.range most).reverse.map (· + 1)).find? fits |>.getD 1
  let widths := columnWidths isDown names count
  let rows := (names.length + count - 1) / count
  let row (number : Nat) : List String :=
    (List.range count).filterMap fun column =>
      if isDown then
        if column * rows + number < names.length then names[column * rows + number]? else none
      else names[number * count + column]?
  let rowText (row : List String) : String :=
    ((row.zip widths).foldl (fun (text, here, start) (name, width) =>
      let text := if start = 0 then text else text ++ indent here start
      (text ++ name, start + name.length, start + width)) ("", 0, 0)).1
  String.join ((List.range rows).map fun number => rowText (row number) ++ "\n")

/-- Names in the layout that is asked for last. -/
def layOut (arguments : Arguments) (names : List String) : String :=
  let asked := (arguments.options.map Prod.fst).filter fun letter =>
    ['1', 'm', 'x', 'C'].contains letter
  match asked.getLast? with
  | some 'm' => commaRows names
  | some 'x' => columnRows false names
  | some 'C' => columnRows true names
  | _ => String.join (names.map (· ++ "\n"))

/-! ## Directories -/

/-- What a directory holds, as it is listed. -/
def inDirectory (arguments : Arguments) (machine : Machine) (place : Place) : List Listed :=
  let shown := (machine.tree.namesIn place).filter fun name =>
    arguments.has 'a' || arguments.has 'A' || arguments.has 'f' || !name.startsWith "."
  let dots := if arguments.has 'a' || arguments.has 'f' then [".", ".."] else []
  inOrder arguments (dots.map (⟨·, 4096, "/"⟩) ++
    shown.map fun name => ofPlace machine name (place ++ [name]))

/-- Lists a directory, and those below it if that is wanted.  `fuel` bounds the depth. -/
def blocks (arguments : Arguments) (machine : Machine) (fuel : Nat) (isTitled : Bool)
    (name : String) (place : Place) : List String :=
  let items := inDirectory arguments machine place
  let block := (if isTitled then quoted arguments name ++ ":\n" else "") ++
    layOut arguments (items.map (shownName arguments))
  match fuel with
  | 0 => [block]
  | fuel + 1 =>
      let below := if arguments.has 'R' then items.filter fun item =>
          item.name != "." && item.name != ".." && item.sign = "/"
        else []
      block :: below.flatMap fun child =>
        blocks arguments machine fuel true (nameBelow name child.name) (place ++ [child.name])

end Listed

/-- Lists files first, and directories after them. -/
def ls (call : Call) (machine : Machine) : Machine :=
  withOptions "ls" 2 Listed.lsTable call machine fun arguments =>
    let names := sortNames (if arguments.operands.isEmpty then ["."] else arguments.operands)
    let told := names.foldl (fun machine name =>
      match entryUnder machine name with
      | .ok _ => machine
      | .error cause =>
          machine.complain 2 ("ls: cannot access '" ++ name ++ "': " ++ cause.words)) machine
    let found := names.filterMap fun name =>
      (entryUnder machine name).toOption.map fun (place, _) =>
        (Listed.ofPlace machine name place, place)
    let isListed (item : Listed) : Bool := item.sign = "/" && !arguments.has 'd'
    let items := Listed.inOrder arguments (found.map Prod.fst)
    let files := items.filter fun item => !isListed item
    let directories := (items.filter isListed).flatMap fun item =>
      match entryUnder machine item.name with
      | .ok (place, _) =>
          Listed.blocks arguments machine (machine.tree.entries.length + 1)
            (1 < names.length || arguments.has 'R') item.name place
      | .error _ => []
    let listed := if files.isEmpty then []
      else [Listed.layOut arguments (files.map (Listed.shownName arguments))]
    told.say ("\n".intercalate (listed ++ directories))

end DocSamples.Script
