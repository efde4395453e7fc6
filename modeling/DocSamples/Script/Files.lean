import DocSamples.Script.Field
import DocSamples.Script.Input
import DocSamples.Tree.Change

namespace DocSamples.Script

/-! # Programs for files

Files and directories are made, copied, moved and taken away.
-/

open Text

def sortNames (names : List String) : List String :=
  names.mergeSort fun first second => decide (first ≤ second)

/-- A name in a directory. -/
def nameBelow (directory name : String) : String :=
  if directory.endsWith "/" then directory ++ name else directory ++ "/" ++ name

/-- A name without slashes at its end. -/
def trimSlashes (name : String) : String :=
  let kept := name.toList.reverse.dropWhile (· == '/')
  if kept.isEmpty then name else String.ofList kept.reverse

/-- What a name leads to, or a link that leads nowhere. -/
def entryUnder (machine : Machine) (name : String) : Except FileCause (Place × Entry) :=
  if name = "" then .error .notFound
  else
    match machine.tree.status (machine.pathOf name) with
    | .ok found => .ok found
    | .error cause =>
        match machine.tree.itselfAt? (machine.pathOf name) with
        | some found => .ok found
        | none => .error cause

/-- What a name stands for itself, with its place. -/
def itselfUnder (machine : Machine) (name : String) : Except FileCause (Place × Entry) :=
  if name = "" then .error .notFound
  else
    match machine.tree.locateItself (machine.pathOf (trimSlashes name)) with
    | .ok (place, some entry) => .ok (place, entry)
    | .ok (_, none) => .error .notFound
    | .error cause => .error cause

def isDirectoryUnder (machine : Machine) (name : String) : Bool :=
  name != "" && (machine.tree.isDirectory (machine.pathOf name)).toOption.getD false

/-! ## Making and taking away -/

/-- Works on names one by one. -/
def eachName (names : List String) (work : Machine → String → Machine) (machine : Machine) :
    Machine :=
  names.foldl work machine

def rmTable : OptionTable where
  flags := "frRivdI"
  names := [("force", 'f'), ("recursive", 'r'), ("verbose", 'v'), ("dir", 'd'),
    ("interactive", 'i')]

/-- The last part of a name. -/
def baseName (name : String) : String :=
  ((trimSlashes name).splitOn "/").getLastD ""

/-- Asks whether something is to be done.  The next line of the input tells. -/
def asks (question : String) (machine : Machine) : Bool × Machine :=
  let asked := machine.writeTo machine.errors (Utf8.encodeText question)
  let answer := machine.input.takeWhile (· != 10)
  let isYes := answer.head? = some 121 || answer.head? = some 89
  (isYes, { asked with input := machine.input.drop (answer.length + 1) })

/-- The names at a place and below it, those below first.  `fuel` bounds the depth. -/
def namesBelow (tree : Tree) (fuel : Nat) (name : String) (place : Place) :
    List (String × Entry) :=
  match fuel, tree.lookup place with
  | fuel + 1, some .directory =>
      ((sortNames (tree.namesIn place)).flatMap fun child =>
        namesBelow tree fuel (nameBelow name child) (place ++ [child])) ++ [(name, .directory)]
  | _, some entry => [(name, entry)]
  | _, none => []

/-- Takes away what is at a place, and tells of it if that is wanted. -/
def removeAt (arguments : Arguments) (name : String) (place : Place) (machine : Machine) :
    Machine :=
  let removed := machine.moveTo (machine.tree.remove place) place place
  if arguments.has 'v' then
    (namesBelow machine.tree (machine.tree.entries.length + 1) name place).foldl
      (fun machine (name, entry) =>
        let kind := if entry = .directory then "directory " else ""
        machine.say ("removed " ++ kind ++ "'" ++ name ++ "'\n")) removed
  else removed

/-- Takes files away, and directories if that is wanted. -/
def rm (call : Call) (machine : Machine) : Machine :=
  withOptions "rm" 1 rmTable call machine fun arguments =>
    let isDeep := arguments.has 'r' || arguments.has 'R'
    let isAsked := ((arguments.options.map Prod.fst).filter fun letter =>
      ['i', 'f'].contains letter).getLast? = some 'i'
    if arguments.operands.isEmpty then
      if arguments.has 'f' then machine
      else machine.complain 1 ("rm: missing operand\n" ++ advice "rm")
    else
      eachName arguments.operands (fun machine name =>
        let refuse (text : String) : Machine :=
          machine.complain 1 ("rm: cannot remove '" ++ name ++ "': " ++ text)
        let removeAsked (kind : String) (place : Place) : Machine :=
          if isAsked then
            let (isYes, asked) := asks ("rm: remove " ++ kind ++ " '" ++ name ++ "'? ") machine
            if isYes then removeAt arguments name place asked else asked
          else removeAt arguments name place machine
        let last := baseName name
        match itselfUnder machine name with
        | .error cause =>
            if arguments.has 'f' && (cause = .notFound || cause = .notDirectory) then machine
            else refuse cause.words
        | .ok (place, .directory) =>
            if isDeep && (last = "." || last = "..") then
              machine.complain 1
                ("rm: refusing to remove '.' or '..' directory: skipping '" ++ name ++ "'")
            else if isDeep then removeAsked "directory" place
            else if arguments.has 'd' then
              if machine.tree.isBare place then removeAsked "directory" place
              else refuse "Directory not empty"
            else refuse "Is a directory"
        | .ok (place, .file bytes) =>
            removeAsked (if bytes.isEmpty then "regular empty file" else "regular file") place
        | .ok (place, .link _) => removeAsked "symbolic link" place) machine

/-- Takes one file away. -/
def unlink (call : Call) (machine : Machine) : Machine :=
  let refuse (text : String) : Machine := machine.complain 1 ("unlink: " ++ text)
  match call.arguments.filter (· != "--") with
  | [] => refuse ("missing operand\n" ++ advice "unlink")
  | [name] =>
      match itselfUnder machine name with
      | .error cause => refuse ("cannot unlink '" ++ name ++ "': " ++ cause.words)
      | .ok (_, .directory) => refuse ("cannot unlink '" ++ name ++ "': Is a directory")
      | .ok (place, _) => machine.moveTo (machine.tree.remove place) place place
  | _ :: extra :: _ => refuse ("extra operand ‘" ++ extra ++ "’\n" ++ advice "unlink")

def mkdirTable : OptionTable where
  flags := "pv"
  valued := "m"
  names := [("parents", 'p'), ("verbose", 'v'), ("mode", 'm')]

def mkdir (call : Call) (machine : Machine) : Machine :=
  withOptions "mkdir" 1 mkdirTable call machine fun arguments =>
    if arguments.operands.isEmpty then
      machine.complain 1 ("mkdir: missing operand\n" ++ advice "mkdir")
    else
      eachName arguments.operands (fun machine name =>
        let refuse (cause : FileCause) : Machine :=
          machine.complain 1 ("mkdir: cannot create directory ‘" ++ name ++ "’: " ++ cause.words)
        let path := machine.pathOf name
        if name = "" then refuse .notFound
        else if arguments.has 'p' then
          match machine.tree.makeDirectories path with
          | .ok tree => { machine with tree }
          | .error (.system cause _) => refuse cause
          | .error _ => refuse .notFound
        else
          match machine.tree.makeDirectory path with
          | .ok tree =>
              let made := { machine with tree }
              if arguments.has 'v' then
                made.say ("mkdir: created directory '" ++ name ++ "'\n")
              else made
          | .error cause => refuse cause) machine

/-- A name and those of the directories above it. -/
def nameAndParents (name : String) : List String :=
  let parts := (trimSlashes name).splitOn "/"
  (List.range parts.length).map fun count =>
    "/".intercalate (parts.take (parts.length - count))

/-- Takes away a directory that holds nothing, and whether that was possible. -/
def rmdirOne (arguments : Arguments) (title : String) (machine : Machine) (name : String) :
    Machine × Bool :=
  let told := if arguments.has 'v' then
      machine.say ("rmdir: removing directory, '" ++ name ++ "'\n")
    else machine
  let refuse (text : String) : Machine × Bool :=
    (told.complain 1 ("rmdir: failed to remove " ++ title ++ "'" ++ name ++ "': " ++ text), false)
  match itselfUnder machine name with
  | .ok (place, .directory) =>
      if machine.tree.isBare place then ({ told with tree := machine.tree.remove place }, true)
      else refuse "Directory not empty"
  | .ok _ => refuse FileCause.notDirectory.words
  | .error cause => refuse cause.words

/-- Takes away directories that hold nothing, and those above them if that is wanted. -/
def rmdir (call : Call) (machine : Machine) : Machine :=
  let table : OptionTable := { flags := "pv", names := [("parents", 'p'), ("verbose", 'v')] }
  withOptions "rmdir" 1 table call machine fun arguments =>
    if arguments.operands.isEmpty then
      machine.complain 1 ("rmdir: missing operand\n" ++ advice "rmdir")
    else
      eachName arguments.operands (fun machine name =>
        let names := if arguments.has 'p' then nameAndParents name else [name]
        (names.zipIdx.foldl (fun (machine, goesOn) (name, index) =>
          if !goesOn || name = "" then (machine, false)
          else rmdirOne arguments (if index = 0 then "" else "directory ") machine name)
          (machine, true)).1) machine

def touch (call : Call) (machine : Machine) : Machine :=
  withOptions "touch" 1 { flags := "acmh", valued := "drt" } call machine fun arguments =>
    if arguments.operands.isEmpty then
      machine.complain 1 ("touch: missing file operand\n" ++ advice "touch")
    else
      eachName arguments.operands (fun machine name =>
        let refuse (cause : FileCause) : Machine :=
          machine.complain 1 ("touch: cannot touch '" ++ name ++ "': " ++ cause.words)
        let path := machine.pathOf name
        match machine.tree.status path with
        | .ok _ => machine
        | .error .notFound =>
            if arguments.has 'c' then machine
            else
              match machine.tree.writeBytes path [] with
              | .ok tree => { machine with tree }
              | .error (.system cause _) => refuse cause
              | .error _ => refuse .notFound
        | .error cause => refuse cause) machine

/-! ## Copying and moving -/

/-- The places a program works on: what is taken and where it goes, by their names. -/
structure Transfer where
  source : String
  target : String

/-- The transfers that some operands ask for: to a name, or into a directory. -/
def transfersOf (program : String) (machine : Machine) (arguments : Arguments) :
    Except String (List Transfer) :=
  let into (target source : String) : Transfer := ⟨source, nameBelow target (baseName source)⟩
  let reason (target : String) : String :=
    match machine.tree.status (machine.pathOf target) with
    | .ok _ => FileCause.notDirectory.words
    | .error cause => cause.words
  match arguments.value? 't', arguments.operands.reverse with
  | _, [] => .error (program ++ ": missing file operand\n" ++ advice program)
  | some target, _ =>
      if isDirectoryUnder machine target then .ok (arguments.operands.map (into target))
      else .error (program ++ ": target directory '" ++ target ++ "': " ++ reason target)
  | none, [single] =>
      .error (program ++ ": missing destination file operand after '" ++ single ++ "'\n" ++
        advice program)
  | none, target :: sources =>
      if isDirectoryUnder machine target && !arguments.has 'T' then
        .ok (sources.reverse.map (into target))
      else
        match sources with
        | [source] => .ok [⟨source, target⟩]
        | _ => .error (program ++ ": target '" ++ target ++ "': " ++ reason target)

/-- Asks before something is put in the place of a file. -/
def asksToReplace (program : String) (arguments : Arguments) (transfer : Transfer)
    (machine : Machine) : Bool × Machine :=
  let asked := (arguments.options.map Prod.fst).filter fun letter =>
    ['i', 'f', 'n'].contains letter
  if asked.getLast? = some 'i' then
    asks (program ++ ": overwrite '" ++ transfer.target ++ "'? ") machine
  else (true, machine)

def cpTable : OptionTable where
  flags := "rRafpvinuTLPHdx"
  valued := "t"
  names := [("recursive", 'r'), ("archive", 'a'), ("force", 'f'), ("verbose", 'v'),
    ("no-clobber", 'n'), ("interactive", 'i'), ("target-directory", 't'),
    ("no-target-directory", 'T')]

/-- The place that a new name would have. -/
def placeFor (machine : Machine) (name : String) : Except FileCause (Place × Option Entry) :=
  machine.tree.locate .make (machine.pathOf name)

/-- What a copy is told of: the names of all that has been copied, with the new ones. -/
def copiedText (tree : Tree) (transfer : Transfer) (place : Place) : String :=
  let names := (namesBelow tree (tree.entries.length + 1) "" place).map fun (name, _) =>
    transfer.source ++ name ++ "' -> '" ++ transfer.target ++ name
  String.join ((sortNames names).map fun text => "'" ++ text ++ "'\n")

/-- Whether a file would be made under a name that only a directory can have. -/
def isMisplaced (transfer : Transfer) (old : Option Entry) : Bool :=
  transfer.target.endsWith "/" && old != some .directory

def copyOne (arguments : Arguments) (machine : Machine) (transfer : Transfer) : Machine :=
  let isDeep := ['r', 'R', 'a'].any arguments.has
  let refuse (text : String) : Machine := machine.complain 1 ("cp: " ++ text)
  let told (place : Place) (machine : Machine) : Machine :=
    if arguments.has 'v' then machine.say (copiedText machine.tree transfer place)
    else machine
  match entryUnder machine transfer.source, placeFor machine transfer.target with
  | .error cause, _ => refuse ("cannot stat '" ++ transfer.source ++ "': " ++ cause.words)
  | .ok (_, .directory), .error cause =>
      if isDeep then
        refuse ("cannot create directory '" ++ transfer.target ++ "': " ++ cause.words)
      else refuse ("-r not specified; omitting directory '" ++ transfer.source ++ "'")
  | .ok (place, .directory), .ok (goal, old) =>
      if !isDeep then refuse ("-r not specified; omitting directory '" ++ transfer.source ++ "'")
      else
        match old with
        | some (.file _) =>
            refuse ("cannot overwrite non-directory '" ++ transfer.target ++
              "' with directory '" ++ transfer.source ++ "'")
        | _ =>
            if Tree.isWithin place goal then
              refuse ("cannot copy a directory, '" ++ transfer.source ++
                "', into itself, '" ++ transfer.target ++ "'")
            else
              let copied := machine.moveTo (machine.tree.copy place goal) place goal
              told place copied
  | .ok _, .error cause =>
      refuse ("cannot create regular file '" ++ transfer.target ++ "': " ++ cause.words)
  | .ok (place, entry), .ok (goal, old) =>
      if place = goal then
        refuse ("'" ++ transfer.source ++ "' and '" ++ transfer.target ++ "' are the same file")
      else if arguments.has 'n' && old.isSome then machine
      else if isMisplaced transfer old then
        if old.isSome then
          refuse ("cannot stat '" ++ transfer.target ++ "': " ++ FileCause.notDirectory.words)
        else
          refuse ("cannot create regular file '" ++ transfer.target ++ "': " ++
            FileCause.notDirectory.words)
      else
        match old with
        | some .directory =>
            refuse ("cannot overwrite directory '" ++ transfer.target ++ "' with non-directory")
        | some (.file _) =>
            let (isYes, asked) := asksToReplace "cp" arguments transfer machine
            if isYes then told place { asked with tree := machine.tree.set goal entry } else asked
        | _ => told place (machine.moveTo (machine.tree.set goal entry) place goal)

def cp (call : Call) (machine : Machine) : Machine :=
  withOptions "cp" 1 cpTable call machine fun arguments =>
    match transfersOf "cp" machine arguments with
    | .error message => machine.complain 1 message
    | .ok transfers => transfers.foldl (copyOne arguments) machine

def moveOne (arguments : Arguments) (machine : Machine) (transfer : Transfer) : Machine :=
  let refuse (text : String) : Machine := machine.complain 1 ("mv: " ++ text)
  match itselfUnder machine transfer.source, placeFor machine (trimSlashes transfer.target) with
  | .error cause, _ => refuse ("cannot stat '" ++ transfer.source ++ "': " ++ cause.words)
  | .ok _, .error cause =>
      refuse ("cannot move '" ++ transfer.source ++ "' to '" ++ transfer.target ++ "': " ++
        cause.words)
  | .ok (place, entry), .ok (goal, old) =>
      if entry = .directory && Tree.isWithin place goal then
        refuse ("cannot move '" ++ transfer.source ++ "' to a subdirectory of itself, '" ++
          transfer.target ++ "'")
      else if place = goal then
        refuse ("'" ++ transfer.source ++ "' and '" ++ transfer.target ++ "' are the same file")
      else if arguments.has 'n' && old.isSome then machine
      else if entry != .directory && isMisplaced transfer old then
        if old.isSome then
          refuse ("cannot stat '" ++ transfer.target ++ "': " ++ FileCause.notDirectory.words)
        else
          refuse ("cannot move '" ++ transfer.source ++ "' to '" ++ transfer.target ++ "': " ++
            FileCause.notDirectory.words)
      else
        match entry, old with
        | .directory, some (.file _) =>
            refuse ("cannot overwrite non-directory '" ++ transfer.target ++
              "' with directory '" ++ transfer.source ++ "'")
        | .file _, some .directory =>
            refuse ("cannot overwrite directory '" ++ transfer.target ++ "' with non-directory")
        | _, _ =>
            if old = some .directory && !machine.tree.isBare goal then
              refuse ("cannot overwrite '" ++ transfer.target ++ "': Directory not empty")
            else
              let (isYes, asked) :=
                if old.isSome then asksToReplace "mv" arguments transfer machine
                else (true, machine)
              let moved := asked.moveTo (asked.tree.move place goal) place goal
              if !isYes then asked
              else if arguments.has 'v' then
                moved.say ("renamed '" ++ transfer.source ++ "' -> '" ++ transfer.target ++ "'\n")
              else moved

def mv (call : Call) (machine : Machine) : Machine :=
  withOptions "mv" 1 { cpTable with flags := "finvuT" } call machine fun arguments =>
    match transfersOf "mv" machine arguments with
    | .error message => machine.complain 1 message
    | .ok transfers => transfers.foldl (moveOne arguments) machine

def linkOne (arguments : Arguments) (machine : Machine) (transfer : Transfer) : Machine :=
  let isSymbolic := arguments.has 's'
  let kind := if isSymbolic then "symbolic" else "hard"
  let refuse (text : String) : Machine := machine.complain 1 ("ln: " ++ text)
  let failed (cause : FileCause) : Machine :=
    refuse ("failed to create " ++ kind ++ " link '" ++ transfer.target ++ "'" ++
      (if isSymbolic || cause = .alreadyExists then "" else " => '" ++ transfer.source ++ "'") ++
      ": " ++ cause.words)
  let entry : Except String Entry :=
    if isSymbolic then .ok (.link transfer.source)
    else
      match entryUnder machine transfer.source with
      | .ok (_, .directory) => .error (transfer.source ++ ": hard link not allowed for directory")
      | .ok (_, entry) => .ok entry
      | .error cause => .error ("failed to access '" ++ transfer.source ++ "': " ++ cause.words)
  match entry with
  | .error text => refuse text
  | .ok entry =>
      match machine.tree.locateItself (machine.pathOf transfer.target) with
      | .error cause => failed cause
      | .ok (place, none) => { machine with tree := machine.tree.set place entry }
      | .ok (place, some _) =>
          if arguments.has 'f' then { machine with tree := machine.tree.set place entry }
          else failed .alreadyExists

/-- Makes links.  A second name of a file is a file of its own here. -/
def ln (call : Call) (machine : Machine) : Machine :=
  withOptions "ln" 1 { flags := "sfnvT", valued := "t" } call machine fun arguments =>
    match arguments.operands, arguments.value? 't' with
    | [], _ => machine.complain 1 ("ln: missing file operand\n" ++ advice "ln")
    | [source], none => linkOne arguments machine ⟨source, "./" ++ baseName source⟩
    | _, _ =>
        match transfersOf "ln" machine arguments with
        | .error message => machine.complain 1 message
        | .ok transfers => transfers.foldl (linkOne arguments) machine

/-- Shows the targets of links. -/
def readlink (call : Call) (machine : Machine) : Machine :=
  withOptions "readlink" 1 { flags := "fenqsvm" } call machine fun arguments =>
    if arguments.operands.isEmpty then
      machine.complain 1 ("readlink: missing operand\n" ++ advice "readlink")
    else
      let resolves := ['f', 'e', 'm'].any arguments.has
      eachName arguments.operands (fun machine name =>
        let target := if resolves then
            ((machine.tree.resolve (machine.pathOf name)).toOption).map Path.text
          else
            match machine.tree.itselfAt? (machine.pathOf name) with
            | some (_, .link target) => some target
            | _ => none
        match target with
        | some target => machine.say (target ++ (if arguments.has 'n' then "" else "\n"))
        | none => machine.leave 1) machine

/-- Shows paths without links. -/
def realpath (call : Call) (machine : Machine) : Machine :=
  withOptions "realpath" 1 { flags := "emsqz" } call machine fun arguments =>
    if arguments.operands.isEmpty then
      machine.complain 1 ("realpath: missing operand\n" ++ advice "realpath")
    else
      eachName arguments.operands (fun machine name =>
        match machine.tree.resolve (machine.pathOf name), machine.tree.status
            (machine.pathOf name).parent with
        | .ok path, .ok _ => machine.say (path.text ++ "\n")
        | _, .error cause => machine.complain 1 ("realpath: " ++ name ++ ": " ++ cause.words)
        | .error _, _ =>
            machine.complain 1 ("realpath: " ++ name ++ ": " ++ FileCause.tooManyLinks.words))
        machine

end DocSamples.Script
