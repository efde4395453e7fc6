namespace DocSamples

/-! # Wildcards

A wildcard describes names: a star stands for any text, a question mark for any
character, and brackets for one character of a class.
-/

/-- Ranges of characters, or with `negated` all characters outside of them. -/
structure CharClass where
  negated : Bool
  ranges : List (Char × Char)
deriving DecidableEq, Repr

def CharClass.contains (charClass : CharClass) (c : Char) : Bool :=
  charClass.negated !=
    charClass.ranges.any fun (low, high) => decide (low ≤ c) && decide (c ≤ high)

namespace CharClass

/-- Splits before and after the first hyphen that has at least so many characters
before it. -/
def splitHyphen (minimum : Nat) : List Char → Option (List Char × List Char)
  | [] => none
  | c :: rest =>
      if minimum = 0 && c = '-' then some ([], rest)
      else (splitHyphen (minimum - 1) rest).map fun (before, after) => (c :: before, after)

theorem splitHyphen_length {minimum : Nat} {chars before after : List Char}
    (split : splitHyphen minimum chars = some (before, after)) :
    after.length < chars.length := by
  induction chars generalizing minimum before with
  | nil => simp [splitHyphen] at split
  | cons c rest ih =>
      simp only [splitHyphen] at split
      split at split
      · cases split
        simp
      · obtain ⟨⟨head, tail⟩, found, same⟩ := Option.map_eq_some_iff.mp split
        cases same
        exact Nat.lt_succ_of_lt (ih found)

/-- Cuts a class at the hyphens of its ranges.  A hyphen at the end is a
character; one after the end of a range is one too. -/
def chunks (minimum : Nat) (chars : List Char) : List (List Char) :=
  match _found : splitHyphen minimum chars with
  | none => [chars]
  | some (before, []) => [before ++ ['-']]
  | some (before, c :: after) => before :: chunks 2 (c :: after)
termination_by chars.length
decreasing_by exact splitHyphen_length _found

/-- A range that ends before it begins is left out, with its two ends. -/
def dropEmptyRanges : List (List Char) → List (List Char)
  | [] => []
  | chunk :: rest =>
      match chunk.getLast?, dropEmptyRanges rest with
      | some low, (high :: more) :: others =>
          if high < low then (chunk.dropLast ++ more) :: others
          else chunk :: (high :: more) :: others
      | _, others => chunk :: others

/-- A part of a class: a character, or the hyphen of a range. -/
inductive Mark where
  | char (c : Char)
  | to
deriving DecidableEq, Repr

def marks : List (List Char) → List Mark
  | [] => []
  | [chunk] => chunk.map .char
  | chunk :: rest => chunk.map .char ++ .to :: marks rest

def rangesOf : List Mark → List (Char × Char)
  | [] => []
  | .char low :: .to :: .char high :: rest => (low, high) :: rangesOf rest
  | .char c :: rest => (c, c) :: rangesOf rest
  | .to :: rest => ('-', '-') :: rangesOf rest

/-- The class between two brackets; an exclamation mark in front negates it. -/
def ofText (chars : List Char) : CharClass :=
  let minimum := if chars.head? = some '!' then 2 else 1
  match marks (dropEmptyRanges (chunks minimum chars)) with
  | .char '!' :: rest => ⟨true, rangesOf rest⟩
  | all => ⟨false, rangesOf all⟩

/-- The text of a class whose opening bracket has been read, and what follows its
closing bracket.  A bracket at the very beginning does not close the class. -/
def split? (chars : List Char) : Option (List Char × List Char) :=
  let sign := chars.takeWhile (· == '!') |>.take 1
  let rest := chars.drop sign.length
  let bracket := rest.takeWhile (· == ']') |>.take 1
  let rest := rest.drop bracket.length
  match rest.dropWhile (· != ']') with
  | [] => none
  | _ :: after => some (sign ++ bracket ++ rest.takeWhile (· != ']'), after)

theorem split?_length {chars text after : List Char} (split : split? chars = some (text, after)) :
    after.length < chars.length := by
  simp only [split?] at split
  split at split
  · contradiction
  · rename_i bracket tail found
    cases split
    have shorter := (List.dropWhile_suffix (· != ']')
      (l := (chars.drop ((chars.takeWhile (· == '!')).take 1).length).drop
        (((chars.drop ((chars.takeWhile (· == '!')).take 1).length).takeWhile (· == ']')).take
          1).length)).length_le
    rw [found] at shorter
    simp only [List.length_cons, List.length_drop] at shorter
    omega

end CharClass

inductive WildcardItem where
  | char (c : Char)
  | anyChar
  | anyText
  | oneOf (charClass : CharClass)
deriving DecidableEq, Repr

def WildcardItem.accepts (item : WildcardItem) (c : Char) : Bool :=
  match item with
  | .char d => c == d
  | .anyChar => true
  | .anyText => true
  | .oneOf charClass => charClass.contains c

abbrev Wildcard := List WildcardItem

namespace Wildcard

/-- Reads a wildcard.  A bracket that is not closed is a character. -/
def ofChars (chars : List Char) : Wildcard :=
  match chars with
  | [] => []
  | '*' :: rest => .anyText :: ofChars rest
  | '?' :: rest => .anyChar :: ofChars rest
  | '[' :: rest =>
      match _found : CharClass.split? rest with
      | none => .char '[' :: ofChars rest
      | some (text, after) => .oneOf (.ofText text) :: ofChars after
  | c :: rest => .char c :: ofChars rest
termination_by chars.length
decreasing_by
  all_goals simp only [List.length_cons]
  all_goals first
    | omega
    | exact Nat.lt_succ_of_lt (CharClass.split?_length _found)

def ofText (text : String) : Wildcard :=
  ofChars text.toList

/-- What may be left to match when a star may be empty. -/
def skips : Wildcard → List Wildcard
  | .anyText :: rest => (.anyText :: rest) :: skips rest
  | items => [items]

/-- What may be left to match after a character. -/
def step (c : Char) : Wildcard → List Wildcard
  | [] => []
  | .anyText :: rest => skips (.anyText :: rest)
  | item :: rest => if item.accepts c then skips rest else []

/-- Whether one of several wildcards matches a text. -/
def anyMatches (wildcards : List Wildcard) : List Char → Bool
  | [] => wildcards.contains []
  | c :: rest => anyMatches (wildcards.flatMap (step c)).eraseDups rest

def isMatch (wildcard : Wildcard) (name : String) : Bool :=
  anyMatches (skips wildcard) name.toList

end Wildcard

end DocSamples
