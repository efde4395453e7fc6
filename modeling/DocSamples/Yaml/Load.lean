import DocSamples.Yaml.Node
import DocSamples.Yaml.Scalar

namespace DocSamples.Yaml

/-! # Loading

The value of a text.  Keys are scalars; a merge key adds the entries of other
mappings before those of its own.  Of two faults the one that is less deep in the
text counts, and of two at one depth the first.
-/

namespace Node

open Meaning (coreTag)

def listTag : String := coreTag "seq"
def mappingTag : String := coreTag "map"

/-- What a node means where it stands, apart from what is inside of it. -/
def meaning : Node → Except Fault Meaning
  | .scalar text true none => Meaning.ofPlain text
  | .scalar text false none => .ok (.value (.text (String.ofList text)))
  | .scalar text _ (some tag) => Meaning.ofTagged tag text
  | .sequence _ tag => collectionMeaning tag (.list [])
  | .mapping _ tag => collectionMeaning tag (.mapping [])
where
  /-- A collection may be said to be the other kind, which is found wrong later. -/
  collectionMeaning (tag : Option String) (value : Value) : Except Fault Meaning :=
    if tag.all fun tag => tag = listTag || tag = mappingTag then .ok (.value value)
    else .error .malformed

def isMergeKey (node : Node) : Bool :=
  match node with
  | .scalar text true none => text = ['<', '<']
  | .scalar _ _ tag => tag = some (coreTag "merge")
  | _ => false

/-- A default key is a text where a key stands. -/
def plainKey (node : Node) : Node :=
  match node with
  | .scalar text true none => if text = ['='] then .scalar text false none else node
  | .scalar text isPlain tag =>
      if tag = some (coreTag "value") then .scalar text false none else .scalar text isPlain tag
  | _ => node

/-- The entries of a mapping with those that its merge keys add in front. -/
def flatten (fuel : Nat) (entries : List (Node × Node)) : Except Fault (List (Node × Node)) :=
  match fuel with
  | 0 => .error .malformed
  | fuel + 1 => do
      let merged ← (entries.filter (isMergeKey ·.1)).mapM fun (_, value) =>
        match value with
        | .mapping inner _ => flatten fuel inner
        | .sequence items _ => do
            let parts ← items.mapM fun item =>
              match item with
              | .mapping inner _ => flatten fuel inner
              | _ => .error .malformed
            return parts.reverse.flatten
        | .scalar .. => .error .malformed
      let own := (entries.filter (!isMergeKey ·.1)).map fun (key, value) => (plainKey key, value)
      return merged.flatten ++ own

/-- What is wrong with a node where a value stands. -/
def valueFault? (node : Node) : Option Fault :=
  match node.meaning with
  | .ok (.value _) => none
  | .ok _ => some .malformed
  | .error fault => some fault

/-- Whether a node is said to be a collection of another kind than it is. -/
def isMistagged : Node → Bool
  | .scalar _ _ tag => tag = some listTag || tag = some mappingTag
  | .sequence _ tag => tag = some mappingTag
  | .mapping _ tag => tag = some listTag

/-- Only what is no collection, and is not said to be one, can be a key. -/
def keyFault? (node : Node) : Option Fault :=
  node.valueFault?.or <|
    match node with
    | .scalar .. => if node.isMistagged then some .malformed else none
    | _ => some .malformed

/-- The faults of a node, each with its depth. -/
def faults (fuel depth : Nat) (node : Node) : List (Nat × Fault) :=
  match fuel with
  | 0 => [(depth, .malformed)]
  | fuel + 1 =>
      if node.isMistagged then [(depth, .malformed)]
      else
        match node with
        | .scalar .. => []
        | .sequence items _ =>
            let own := items.filterMap valueFault?
            own.map (depth, ·) ++ items.flatMap (faults fuel (depth + 1))
        | .mapping entries _ =>
            match flatten fuel entries with
            | .error fault => [(depth, fault)]
            | .ok all =>
                let own := all.flatMap fun (key, value) =>
                  (keyFault? key).toList ++ (valueFault? value).toList
                own.map (depth, ·) ++ all.flatMap fun (_, value) => faults fuel (depth + 1) value

/-- The fault that counts. -/
def firstFault? (found : List (Nat × Fault)) : Option Fault :=
  (found.foldl (fun best next =>
    match best with
    | none => some next
    | some (depth, fault) => if next.1 < depth then some next else some (depth, fault))
    (none : Option (Nat × Fault))).map Prod.snd

/-- The value of a node without faults. -/
def value (fuel : Nat) (node : Node) : Value :=
  match fuel with
  | 0 => .null
  | fuel + 1 =>
      match node with
      | .scalar .. =>
          match node.meaning with
          | .ok (.value value) => value
          | _ => .null
      | .sequence items _ => .list (items.map (value fuel))
      | .mapping entries _ =>
          match flatten fuel entries with
          | .ok all => .mapping (all.map fun (key, inner) => (value fuel key, value fuel inner))
          | .error _ => .null

end Node

/-- The value of a text; a text without a document is null. -/
def load (source : Source) : Except Fault Value := do
  match ← Node.ofTokens (tokens source) with
  | none => return .null
  | some root =>
      let fuel := source.chars.length + 2
      match root.valueFault?.or (Node.firstFault? (root.faults fuel 0)) with
      | some fault => .error fault
      | none => return root.value fuel

end DocSamples.Yaml
