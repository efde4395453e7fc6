import DocSamples.Text.Intake
import DocSamples.Yaml.Fault

namespace DocSamples.Yaml

/-! # Sources

A text of YAML is taken piece by piece, the first two pieces at once.  A piece that
cannot be had, or holds a character that must not stand in YAML, is a fault, which
is met only when something behind the pieces before it is looked at.
-/

open Text

structure Source where
  chars : List Char
  /-- The fault that is met behind the characters; without one the text ends there. -/
  beyond : Option Fault := none

namespace Source

/-- The characters that may stand in a text. -/
def isPrintable (c : Char) : Bool :=
  c = '\t' || c = '\n' || c = '\r' || c = '\u0085' ||
    (decide (' ' ≤ c) && decide (c ≤ '~')) ||
    (decide ('\u00a0' ≤ c) && c != '\uFFFE' && c != '\uFFFF')

/-- The source of some texts with a fault behind them. -/
def ofTexts (texts : List (List Char)) (beyond : Option Fault) : Source :=
  let readable := texts.takeWhile (·.all isPrintable)
  { chars := readable.flatten
    beyond := if readable.length = texts.length then beyond else some .malformed }

def ofPieces (pieces : Intake.Pieces) : Source :=
  let beyond := pieces.defect.map .undecodable
  match pieces.texts with
  | first :: second :: more => ofTexts ((first ++ second) :: more) beyond
  | texts => ofTexts (if beyond.isSome then [] else texts) beyond

/-- The source of a text that is at hand as a whole. -/
def ofText (text : String) : Source :=
  ofTexts [text.toList] none

end Source

end DocSamples.Yaml
