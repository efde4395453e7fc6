namespace DocSamples.Text

/-! # Shell words

A line of text is split into words at blanks.  Quotes and backslashes keep a
blank inside a word: single quotes take everything literally, between double
quotes a backslash keeps its meaning before a double quote or a backslash only.
-/

inductive WordFault where
  | unclosedQuote
  | danglingEscape
deriving DecidableEq, Repr

def WordFault.message : WordFault → String
  | .unclosedQuote => "No closing quotation"
  | .danglingEscape => "No escaped character"

namespace ShellWords

/-- The blanks between words. -/
def isGap (c : Char) : Bool :=
  c = ' ' || c = '\t' || c = '\r' || c = '\n'

def singleQuote : Char := '\x27'
def doubleQuote : Char := '\x22'
def backslash : Char := '\x5c'

inductive Quoting where
  | bare
  | single
  | double
deriving DecidableEq, Repr

/-- The word that has been read so far, last character first, if one has begun. -/
abbrev Pending := Option (List Char)

def Pending.push (pending : Pending) (c : Char) : Pending :=
  some (c :: pending.getD [])

def Pending.begun (pending : Pending) : Pending :=
  some (pending.getD [])

def Pending.words : Pending → List (List Char)
  | none => []
  | some reversed => [reversed.reverse]

/-- Reads the remaining characters of a line in a given state. -/
def splitFrom : Quoting → Pending → List Char → Except WordFault (List (List Char))
  | .bare, pending, [] => .ok pending.words
  | .single, _, [] => .error .unclosedQuote
  | .double, _, [] => .error .unclosedQuote
  | .bare, pending, c :: rest =>
      if isGap c then (splitFrom .bare none rest).map (pending.words ++ ·)
      else if c = singleQuote then splitFrom .single pending.begun rest
      else if c = doubleQuote then splitFrom .double pending.begun rest
      else if c = backslash then
        match rest with
        | [] => .error .danglingEscape
        | d :: more => splitFrom .bare (pending.push d) more
      else splitFrom .bare (pending.push c) rest
  | .single, pending, c :: rest =>
      if c = singleQuote then splitFrom .bare pending rest
      else splitFrom .single (pending.push c) rest
  | .double, pending, c :: rest =>
      if c = doubleQuote then splitFrom .bare pending rest
      else if c = backslash then
        match rest with
        | [] => .error .danglingEscape
        | d :: more =>
            if d = doubleQuote || d = backslash then splitFrom .double (pending.push d) more
            else splitFrom .double ((pending.push c).push d) more
      else splitFrom .double (pending.push c) rest

end ShellWords

/-- The words of a line, or the reason why it has none. -/
def shellWords (line : String) : Except WordFault (List String) :=
  (ShellWords.splitFrom .bare none line.toList).map fun found => found.map String.ofList

end DocSamples.Text
