namespace DocSamples

/-! # Ordered maps

Entries stand in the order in which their keys were first written; a later
write to a key changes its value and leaves its place.
-/

structure OrderedMap (κ ν : Type) where
  entries : List (κ × ν)
deriving Repr, DecidableEq

namespace OrderedMap

variable {κ ν : Type}

def empty : OrderedMap κ ν := ⟨[]⟩

instance : Inhabited (OrderedMap κ ν) := ⟨empty⟩

def keys (map : OrderedMap κ ν) : List κ :=
  map.entries.map Prod.fst

def values (map : OrderedMap κ ν) : List ν :=
  map.entries.map Prod.snd

variable [DecidableEq κ]

def find? (map : OrderedMap κ ν) (key : κ) : Option ν :=
  (map.entries.find? (·.1 == key)).map Prod.snd

def contains (map : OrderedMap κ ν) (key : κ) : Bool :=
  map.entries.any (·.1 == key)

def alterEntries (key : κ) (change : Option ν → ν) :
    List (κ × ν) → List (κ × ν)
  | [] => [(key, change none)]
  | (k, v) :: rest =>
      if k = key then (k, change (some v)) :: rest
      else (k, v) :: alterEntries key change rest

/-- Writes what `change` makes of the present value of a key. -/
def alter (map : OrderedMap κ ν) (key : κ) (change : Option ν → ν) : OrderedMap κ ν :=
  ⟨alterEntries key change map.entries⟩

def insert (map : OrderedMap κ ν) (key : κ) (value : ν) : OrderedMap κ ν :=
  map.alter key fun _ => value

/-- The items of a list under their keys, each key's items in list order. -/
def groupBy {α : Type} (key : α → κ) (items : List α) : OrderedMap κ (List α) :=
  items.foldl (fun map item => map.alter (key item) fun old => old.getD [] ++ [item]) empty

end OrderedMap

end DocSamples
