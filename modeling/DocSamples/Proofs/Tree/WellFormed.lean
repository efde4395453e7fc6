import DocSamples.Proofs.Tree.Child

namespace DocSamples

open Text

/-! # Well-formed trees

Each place has one entry, and what is above it is a directory.  A file that is written in
such a tree is read back through the same path, also if links lead to it.
-/

namespace Tree

/-- Each place has one entry, which is in a directory. -/
structure IsWellFormed (tree : Tree) : Prop where
  current : tree.lookup tree.current = some .directory
  own : ∀ held ∈ tree.entries, tree.lookup held.1 = some held.2
  above : ∀ held ∈ tree.entries, tree.lookup held.1.dropLast = some .directory

instance (tree : Tree) : Decidable tree.IsWellFormed :=
  decidable_of_iff (_ ∧ _ ∧ _)
    ⟨fun ⟨current, own, above⟩ => ⟨current, own, above⟩,
      fun ⟨current, own, above⟩ => ⟨current, own, above⟩⟩

variable {tree made : Tree} {aim : Aim} {follows : Nat} {here place : Place} {names : List String}
  {path : Path} {entry : Entry} {found : Option Entry} {bytes : Utf8.Bytes}

theorem mem_entries_of_lookup (below : place ≠ []) (there : tree.lookup place = some entry) :
    (place, entry) ∈ tree.entries := by
  rw [lookup, if_neg below] at there
  obtain ⟨held, first, rfl⟩ := Option.map_eq_some_iff.mp there
  obtain rfl : held.1 = place := by simpa using List.find?_some first
  exact List.mem_of_find?_eq_some first

theorem lookup_turn (top : tree.lookup here = some .directory) (anchor : Anchor) :
    tree.lookup (turn here anchor) = some .directory := by
  cases anchor with
  | here => exact top
  | root | doubleRoot => rfl

theorem eq_of_settle {cause : FileCause} (settles : tree.settle path cause = .ok made) :
    made = tree := by
  rw [settle] at settles
  split at settles
  · cases settles
    rfl
  · simp at settles
  · simp at settles

namespace IsWellFormed

theorem lookup_dropLast (wellFormed : tree.IsWellFormed) (there : tree.lookup place = some entry) :
    tree.lookup place.dropLast = some .directory := by
  by_cases below : place = []
  · simp [below, lookup]
  · exact wellFormed.above _ (mem_entries_of_lookup below there)

/-- An entry may be put in a directory unless a directory is there already. -/
theorem set (wellFormed : tree.IsWellFormed) (below : place ≠ [])
    (inside : tree.lookup place.dropLast = some .directory)
    (free : tree.lookup place ≠ some .directory) (entry : Entry) :
    (tree.set place entry).IsWellFormed := by
  have kept {other : Place} (directory : tree.lookup other = some .directory) :
      (tree.set place entry).lookup other = some .directory := by
    rw [lookup_set_of_ne entry (by rintro rfl; exact free directory), directory]
  refine ⟨kept wellFormed.current, fun held member => ?_, fun held member => ?_⟩
  · rcases List.mem_cons.mp member with rfl | old
    · exact lookup_set_self entry below
    · obtain ⟨old, other⟩ := List.mem_filter.mp old
      rw [lookup_set_of_ne entry (by simpa using other), wellFormed.own held old]
  · rcases List.mem_cons.mp member with rfl | old
    · exact kept inside
    · exact kept (wellFormed.above held (List.mem_filter.mp old).1)

/-- Names that are followed from a directory end at no link. -/
theorem not_link_of_walk (wellFormed : tree.IsWellFormed)
    (top : tree.lookup here = some .directory)
    (walked : tree.walk aim follows here names = .ok (place, found)) (target : String) :
    found ≠ some (.link target) := by
  fun_induction walk tree aim follows here names with
  | case1 follows here =>
      cases walked
      simp [top]
  | case2 _ _ _ _ _ _ ih => exact ih top walked
  | case3 _ _ _ directory _ ih => exact ih (wellFormed.lookup_dropLast directory) walked
  | case6 =>
      cases walked
      simp
  | case9 _ _ _ _ _ _ _ _ _ _ _ ih => exact ih (lookup_turn top _) walked
  | case10 follows here name rest _ _ _ _ _ entry noLink there ih =>
      cases entry with
      | directory => exact ih there walked
      | link target => exact absurd rfl (noLink target)
      | file bytes =>
          cases rest with
          | nil =>
              obtain ⟨_, rfl⟩ : here ++ [name] = place ∧ some (Entry.file bytes) = found := by
                simpa [walk, there] using walked
              simp
          | cons next more => simp [walk, there] at walked
  | case4 | case5 | case7 | case8 | case11 => simp at walked

/-- Where a path leads to make a file, it leads to the file once it is made. -/
theorem walk_set (wellFormed : tree.IsWellFormed) (top : tree.lookup here = some .directory)
    (walked : tree.walk .make follows here names = .ok (place, found))
    (noDirectory : found ≠ some .directory) :
    (tree.set place (.file bytes)).walk .use follows here names =
      .ok (place, some (.file bytes)) := by
  have free : tree.lookup place ≠ some .directory := by rwa [lookup_of_walk walked]
  have below : place ≠ [] := by
    rintro rfl
    exact free rfl
  have kept {other : Place} (directory : tree.lookup other = some .directory) :
      (tree.set place (.file bytes)).lookup other = some .directory := by
    rw [lookup_set_of_ne _ (by rintro rfl; exact free directory), directory]
  have own : (tree.set place (.file bytes)).lookup place = some (.file bytes) :=
    lookup_set_self _ below
  generalize make : Aim.make = aim at walked
  -- The walk goes the same way in both trees, since only its end has another entry in the new one.
  fun_induction walk tree aim follows here names with
  | case1 follows here =>
      cases walked
      exact absurd top noDirectory
  | case2 follows here name rest _ skipped ih =>
      simpa [walk, kept top, skipped] using ih top walked
  | case3 follows here rest _ _ ih =>
      simpa [walk, kept top] using ih (wellFormed.lookup_dropLast top) walked
  | case6 _ _ _ _ seen down short =>
      cases walked
      simp [walk, kept top, seen, down, Nat.not_lt.mp short, own]
  | case9 here name rest _ seen down _ short target link fewer ih =>
      have other : here ++ [name] ≠ place := by
        rintro rfl
        exact wellFormed.not_link_of_walk (lookup_turn top _) walked target
          ((lookup_of_walk walked).symm.trans link)
      have next : (tree.set place (.file bytes)).lookup (here ++ [name]) = some (.link target) := by
        rw [lookup_set_of_ne _ other, link]
      simpa [walk, kept top, seen, down, short, next] using ih (lookup_turn top _) walked
  | case10 follows here name rest _ seen down _ short entry noLink there ih =>
      cases entry with
      | directory =>
          simpa [walk, kept top, seen, down, short, kept there] using ih there walked
      | link target => exact absurd rfl (noLink target)
      | file old =>
          cases rest with
          | nil =>
              obtain ⟨rfl, _⟩ : here ++ [name] = place ∧ some (Entry.file old) = found := by
                simpa [walk, there] using walked
              simp [walk, kept top, seen, down, short, own]
          | cons next more => simp [walk, there] at walked
  | case4 | case5 | case7 | case8 | case11 => simp at walked

theorem readBytes_of_writeBytes (wellFormed : tree.IsWellFormed)
    (written : tree.writeBytes path bytes = .ok made) : made.readBytes path = .ok bytes := by
  rw [writeBytes] at written
  split at written
  · simp at written
  · rename_i whole
    split at written
    · simp at written
    · rename_i place found noDirectory located
      cases written
      rw [locate] at located
      split at located
      · simp at located
      · rename_i near
        have back : (tree.set place (.file bytes)).locate .use path =
            .ok (place, some (.file bytes)) := by
          rw [locate, if_neg near]
          exact wellFormed.walk_set (lookup_turn wellFormed.current _) located
            fun same => noDirectory (by rw [same])
        rw [readBytes, if_neg whole, status, back]
    · simp at written

theorem makeDirectory (wellFormed : tree.IsWellFormed)
    (makes : tree.makeDirectory path = .ok made) : made.IsWellFormed := by
  rw [Tree.makeDirectory] at makes
  split at makes
  · simp at makes
  · split at makes
    · simp at makes
    · rename_i place directory
      split_ifs at makes
      split at makes
      · simp at makes
      · rename_i free
        cases makes
        refine wellFormed.set (by simp) ?_ (by simp [free]) .directory
        simpa using lookup_of_status directory
    · simp at makes

theorem makeDirectories (wellFormed : tree.IsWellFormed)
    (makes : tree.makeDirectories path = .ok made) : made.IsWellFormed := by
  fun_induction Tree.makeDirectories tree path generalizing made with
  | case2 _ _ _ once =>
      cases makes
      exact wellFormed.makeDirectory once
  | case5 _ _ _ _ _ makesAbove _ once ih =>
      cases makes
      exact (ih makesAbove).makeDirectory once
  | case7 _ _ _ _ _ makesAbove _ _ _ ih => exact eq_of_settle makes ▸ ih makesAbove
  | case8 => exact eq_of_settle makes ▸ wellFormed
  | case1 | case3 | case4 | case6 => simp at makes

end IsWellFormed

end Tree

end DocSamples
