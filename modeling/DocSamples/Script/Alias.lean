import DocSamples.OrderedMap
import DocSamples.Script.Grammar

namespace DocSamples.Script

/-! # Aliases

A word that begins a command may stand for a text, which is read in its place.
-/

abbrev Aliases := OrderedMap String String

/-- Whether a command may begin behind a token, given whether one could begin there. -/
def beginsCommandAfter (couldBegin : Bool) (token : Token) : Bool :=
  match token with
  | .operator _ => true
  | .redirection _ | .fault _ => couldBegin
  | .word word =>
      let starters := ["if", "then", "else", "elif", "while", "until", "do", "!", "\x7b"]
      couldBegin && ((setting? word).isSome || (plainText? word).any starters.contains)

/-- What a token stands for, if it is a word that begins a command and an alias that is
not being read. -/
def aliasOf? (aliases : Aliases) (inUse : List String) (couldBegin : Bool) (token : Token) :
    Option (String × String) := do
  let .word word := token | none
  let name ← plainText? word
  let value ← aliases.find? name
  if couldBegin && !inUse.contains name then some (name, value) else none

/-- Tokens with what aliases stand for in their place.  Behind a value that ends with a
blank another alias may stand.  `fuel` bounds the tokens that are read. -/
def expandAliases (fuel : Nat) (aliases : Aliases) (inUse : List String) (couldBegin : Bool)
    (given : Tokens) : Tokens :=
  match fuel, given with
  | 0, given => given
  | _, [] => []
  | fuel + 1, ⟨line, token⟩ :: rest =>
      match aliasOf? aliases inUse couldBegin token with
      | none =>
          ⟨line, token⟩ ::
            expandAliases fuel aliases inUse (beginsCommandAfter couldBegin token) rest
      | some (name, value) =>
          let inner := expandAliases fuel aliases (name :: inUse) true (tokens line value.toList)
          let endsOpen := value.toList.getLast?.any isSpace ||
            inner.foldl (fun begins placed => beginsCommandAfter begins placed.token) true
          inner ++ expandAliases fuel aliases inUse endsOpen rest

/-- Reads the commands of the first lines that are whole when aliases are replaced. -/
def readFirstWith (aliases : Aliases) (given : Tokens) :
    Except PlacedFault (Option (Script × Tokens)) :=
  let start := skipNewlines given
  let expand (part : Tokens) : Tokens :=
    expandAliases (part.length + 1000) aliases [] true part
  let isEnd (size : Nat) : Bool :=
    (start[size]?).all fun placed => placed.token = .operator .newline
  let wholeAt? (size : Nat) : Option (Script × Tokens) :=
    match readFirst (expand (start.take size)) with
    | .ok (some (script, [])) => some (script, start.drop size)
    | _ => none
  if aliases.entries.isEmpty then readFirst start
  else
    match ((List.range (start.length + 1)).filter isEnd).findSome? wholeAt? with
    | some found => .ok (some found)
    | none => readFirst (expand start)

end DocSamples.Script
