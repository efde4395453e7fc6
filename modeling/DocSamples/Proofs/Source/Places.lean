import Mathlib
import DocSamples.Proofs.Path
import DocSamples.Proofs.Source.Assembly
import DocSamples.Proofs.Source.Merging

namespace DocSamples

open Text

/-! # Names and places of sources

A source is begun under a name that is made of its place.  Different places have different
names as long as no path looks like a path with a region, or like a sample without a path.
-/

/-- The names under which a source of a place may be begun, by a file or by a buffer of it. -/
inductive Workspace.MayBegin (workspace : Workspace) : Option Path → String → Prop
  | file {file : IncludedFile} (member : file ∈ workspace.files) :
      MayBegin workspace (some file.path) file.path.text
  | whole {id : BufferId} {path : Path} (member : id ∈ workspace.buffers.map (·.id))
      (place : id.path = some path) : MayBegin workspace (some path) path.text
  | region {id : BufferId} {path : Path} {region : String}
      (member : id ∈ workspace.buffers.map (·.id)) (place : id.path = some path)
      (named : id.namedRegion? = some region) :
      MayBegin workspace (some path) (path.text ++ "@" ++ region)
  | sample {id : BufferId} (member : id ∈ workspace.buffers.map (·.id)) (place : id.path = none)
      (number : Nat) : MayBegin workspace none ("<sample " ++ toString number ++ ">")

/-- No two places share a name. -/
def Workspace.NamesApart (workspace : Workspace) : Prop :=
  ∀ one other name, workspace.MayBegin one name → workspace.MayBegin other name → one = other

namespace Workspace

variable {workspace : Workspace} {place : Option Path} {name : String}

/-- The paths of the files and buffers of a workspace. -/
def paths (workspace : Workspace) : List Path :=
  workspace.files.map (·.path) ++ workspace.buffers.filterMap (·.id.path)

/-- A path that no name of another place can be taken for. -/
def IsClear (path : Path) : Prop :=
  path.isAbsolute = true ∧ '@' ∉ path.text.toList

theorem mem_paths {id : BufferId} {path : Path} (member : id ∈ workspace.buffers.map (·.id))
    (place : id.path = some path) : path ∈ workspace.paths := by
  obtain ⟨buffer, present, rfl⟩ := List.mem_map.mp member
  exact List.mem_append_right _ (List.mem_filterMap.mpr ⟨buffer, present, place⟩)

theorem head_of_isClear {path : Path} (clear : IsClear path) :
    path.text.toList.head? = some '/' := by
  have absolute := clear.1
  rw [Path.isAbsolute] at absolute
  by_cases none : path.names = []
  · cases anchor : path.anchor <;> simp_all [Path.text, Anchor.text]
  · rw [Path.toList_text_of_ne_nil none]
    cases anchor : path.anchor <;> simp_all [Anchor.text]

theorem shape_of_mayBegin (clear : ∀ path ∈ workspace.paths, IsClear path)
    (begins : workspace.MayBegin place name) :
    (place = none ∧ name.toList.head? = some '<') ∨
      ∃ path rest, place = some path ∧ IsClear path ∧ name.toList = path.text.toList ++ rest ∧
        ∀ c ∈ rest.head?, c = '@' := by
  cases begins with
  | file member =>
      have own := clear _ (List.mem_append_left _ (List.mem_map_of_mem member))
      exact .inr ⟨_, [], rfl, own, by simp, by simp⟩
  | whole member place => exact .inr ⟨_, [], rfl, clear _ (mem_paths member place), by simp, by simp⟩
  | @region _ path region member place named =>
      refine .inr ⟨path, '@' :: region.toList, rfl, clear _ (mem_paths member place), ?_, by simp⟩
      simp
  | sample member place number =>
      left
      simp

/-- Texts without a sign, each followed by it or by nothing, are told apart by it. -/
theorem eq_of_append_eq {c : Char} {one other rest more : List Char} (plain : c ∉ one)
    (otherPlain : c ∉ other) (bound : ∀ d ∈ rest.head?, d = c) (otherBound : ∀ d ∈ more.head?, d = c)
    (same : one ++ rest = other ++ more) : one = other := by
  have taken {part after : List Char} (plain : c ∉ part) (bound : ∀ d ∈ after.head?, d = c) :
      (part ++ after).takeWhile (· ≠ c) = part := by
    rw [List.takeWhile_append_of_pos fun d member => by
      simpa using fun here : d = c => plain (here ▸ member)]
    cases after with
    | nil => simp
    | cons d after =>
        obtain rfl : d = c := bound d (by simp)
        simp
  rw [← taken plain bound, same, taken otherPlain otherBound]

theorem namesApart_of_isClear (clear : ∀ path ∈ workspace.paths, IsClear path) :
    workspace.NamesApart := by
  intro one other name begins otherBegins
  rcases shape_of_mayBegin clear begins with ⟨rfl, starts⟩ | ⟨path, rest, rfl, own, whole, bound⟩
  · rcases shape_of_mayBegin clear otherBegins with
      ⟨rfl, _⟩ | ⟨path, rest, rfl, own, whole, _⟩
    · rfl
    · rw [whole, List.head?_append, head_of_isClear own] at starts
      simp at starts
  · rcases shape_of_mayBegin clear otherBegins with
      ⟨rfl, starts⟩ | ⟨otherPath, more, rfl, otherOwn, otherWhole, otherBound⟩
    · rw [whole, List.head?_append, head_of_isClear own] at starts
      simp at starts
    · have same := eq_of_append_eq own.2 otherOwn.2 bound otherBound (whole.symm.trans otherWhole)
      rw [Path.text_injective (String.toList_inj.mp same)]

end Workspace

end DocSamples
