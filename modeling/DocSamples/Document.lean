import DocSamples.Attempt
import DocSamples.Fence
import DocSamples.Fragment.Linkage

namespace DocSamples

/-! # Documents

A document gives one fragment for each closed block whose fence carries options.
-/

open Text

inductive DocumentFault where
  | unreadable (document : Path) (fault : ReadFault)
  /-- A path of the document or of one of its options cannot be followed. -/
  | path (fault : PathFault)
deriving DecidableEq, Repr

namespace Document

/-- A null byte in the path is a fault of the path and not of the document. -/
def readLines (tree : Tree) (document : Path) : Except DocumentFault (List String) :=
  match tree.readText document with
  | .ok text => .ok (lines text)
  | .error (.path .nullByte) => .error (.path .nullByte)
  | .error fault => .error (.unreadable document fault)

/-- The fragment of a numbered block, if it has one. -/
def fragmentOf (tree : Tree) (document root : Path) :
    Nat × Block → Attempt DocumentFault (Option Fragment)
  | (_, .prose _) => .done none
  | (line, .unclosed ..) => do
      .note (.unclosedFence document line)
      return none
  | (line, .fenced _ opening body _) =>
      if isAnnotated opening.info then do
        let fragment ← .ofExcept
          ((Fragment.link tree document root line opening.info (joinLines body)).mapError .path)
        return some fragment
      else .done none

/-- The fragments of a document in order.  `root` is the directory from which
destinations are taken. -/
def fragments (tree : Tree) (document root : Path) : Attempt DocumentFault (List Fragment) := do
  let text ← .ofExcept (readLines tree document)
  let found ← .each (fragmentOf tree document root) (Block.numbered 0 (Block.ofLines text))
  return found.reduceOption

end Document

end DocSamples
