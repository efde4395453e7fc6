import DocSamples.OrderedMap
import DocSamples.Text.Lines
import DocSamples.Workspace

namespace DocSamples

/-! # Sources

What the compiler reads: texts with a name, where editable ones hold a sample.
Buffers for one region of one file are merged before they are put into it.
-/

open Text

structure Source where
  name : String
  text : String
  path : Option Path := none
  /-- Whether any part of the text comes from a sample. -/
  editable : Bool := false
deriving DecidableEq, Repr

/-- The second text after the first, on a line of its own. -/
def joinTexts (first second : String) : String :=
  if first = "" || endsWithNewline first then first ++ second
  else first ++ "\n" ++ second

namespace Buffer

/-- Whether the content of a buffer goes into a region of a file. -/
def isForRegion (buffer : Buffer) : Bool :=
  buffer.id.path.isSome && buffer.id.namedRegion?.isSome

/-- Included content comes before samples, so that these can use it. -/
def samplesLast (buffers : List Buffer) : List Buffer :=
  buffers.filter (!·.editable) ++ buffers.filter (·.editable)

/-- One buffer with the content of several. -/
def merge (id : BufferId) (parts : List Buffer) : Buffer where
  id := id
  content := (samplesLast parts).foldl (fun text part => joinTexts text part.content) ""
  editable := parts.any (·.editable)

/-- Merges the buffers of each region, at the place of the first of them. -/
def mergeRegions (buffers : List Buffer) : List Buffer :=
  match buffers with
  | [] => []
  | buffer :: rest =>
      if buffer.isForRegion then
        merge buffer.id (buffer :: rest.filter (·.id = buffer.id)) ::
          mergeRegions (rest.filter (·.id ≠ buffer.id))
      else buffer :: mergeRegions rest
termination_by buffers.length
decreasing_by
  · simp only [List.length_unattach, List.length_cons]
    exact Nat.lt_succ_of_le (Nat.le_trans (List.length_filter_le _ _) (by simp))
  · simp

end Buffer

end DocSamples
