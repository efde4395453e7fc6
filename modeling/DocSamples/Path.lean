namespace DocSamples

/-! # Paths

A path is an anchor and the names below it.  Empty names and single dots are
never part of one; double dots are, since what they lead to depends on links.
-/

/-- Where the first name of a path is looked up.  Exactly two leading slashes
are kept apart from one. -/
inductive Anchor where
  | here
  | root
  | doubleRoot
deriving DecidableEq, Repr

def Anchor.text : Anchor → String
  | .here => ""
  | .root => "/"
  | .doubleRoot => "//"

/-- A text that can be a name of a path. -/
def IsName (name : String) : Prop :=
  name ≠ "" ∧ name ≠ "." ∧ '/' ∉ name.toList

instance (name : String) : Decidable (IsName name) :=
  inferInstanceAs (Decidable (_ ∧ _ ∧ _))

structure Path where
  anchor : Anchor
  names : List String
  named : ∀ name ∈ names, IsName name
deriving DecidableEq, Repr

namespace Path

/-- The path of those texts of a list that are names. -/
def ofNames (anchor : Anchor) (texts : List String) : Path where
  anchor := anchor
  names := texts.filter fun text => IsName text
  named := by simp

/-- The parts of a text between slashes. -/
def splitSlashes (text : List Char) : List (List Char) :=
  match text with
  | [] => [[]]
  | c :: rest =>
      if c = '/' then [] :: splitSlashes rest
      else match splitSlashes rest with
        | [] => [[c]]
        | part :: more => (c :: part) :: more

def anchorOf : List Char → Anchor
  | '/' :: '/' :: '/' :: _ => .root
  | '/' :: '/' :: _ => .doubleRoot
  | '/' :: _ => .root
  | _ => .here

/-- Reads a path: slashes that follow each other count once, and so does a
slash at the end not at all. -/
def ofText (text : String) : Path :=
  ofNames (anchorOf text.toList) ((splitSlashes text.toList).map String.ofList)

def text (path : Path) : String :=
  match path.anchor, path.names with
  | .here, [] => "."
  | anchor, names => anchor.text ++ "/".intercalate names

instance : ToString Path := ⟨text⟩

instance : Inhabited Path := ⟨ofNames .here []⟩

def isAbsolute (path : Path) : Bool :=
  path.anchor != .here

/-- The second path looked up from the first: an absolute one stands alone. -/
def join (first second : Path) : Path :=
  match second.anchor with
  | .here =>
      { anchor := first.anchor
        names := first.names ++ second.names
        named := by
          intro name mem
          rcases List.mem_append.mp mem with inFirst | inSecond
          · exact first.named name inFirst
          · exact second.named name inSecond }
  | _ => second

def child (path : Path) (name : String) : Path :=
  path.join (ofText name)

/-- The path without its last name; a path without names is its own parent. -/
def parent (path : Path) : Path where
  anchor := path.anchor
  names := path.names.dropLast
  named := fun name mem => path.named name ((List.dropLast_sublist _).subset mem)

/-- The last name, empty when there is none. -/
def name (path : Path) : String :=
  path.names.getLast?.getD ""

/-- The parts by which paths are put in order: the anchor, then the names. -/
def orderKey (path : Path) : List String :=
  match path.anchor with
  | .here => path.names
  | anchor => anchor.text :: path.names

instance : LT Path := ⟨fun first second => first.orderKey < second.orderKey⟩

instance (first second : Path) : Decidable (first < second) :=
  inferInstanceAs (Decidable (first.orderKey < second.orderKey))

end Path

end DocSamples
