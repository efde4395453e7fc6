import DocSamples.Proofs.Tree

namespace DocSamples

open Text

/-! # Files of one directory

A directory may be reached through links and double dots.  Writing files changes none of
those ways, so it is still reached afterwards.
-/

namespace Tree

variable {tree other : Tree} {aim before : Aim} {follows : Nat} {here place : Place}
  {names : List String} {directory : Path} {name text : String} {bytes : Utf8.Bytes}

/-! ## Ways that are kept -/

/-- The directories and links of a tree are in another tree, too. -/
structure KeepsWays (tree other : Tree) : Prop where
  current : other.current = tree.current
  kept : ∀ place entry, tree.lookup place = some entry → (∀ bytes, entry ≠ .file bytes) →
    other.lookup place = some entry

/-- At a place is a file or nothing at all. -/
def TakesFile (tree : Tree) (place : Place) : Prop :=
  ∀ entry, tree.lookup place = some entry → ∃ bytes, entry = .file bytes

theorem TakesFile.ne_nil (takes : tree.TakesFile place) : place ≠ [] := by
  rintro rfl
  obtain ⟨bytes, same⟩ := takes .directory rfl
  cases same

theorem TakesFile.set (takes : tree.TakesFile here) :
    (tree.set place (.file bytes)).TakesFile here := by
  intro entry found
  by_cases same : here = place
  · rw [same, lookup_set_self _ (same ▸ takes.ne_nil)] at found
    exact ⟨bytes, (Option.some.inj found).symm⟩
  · rw [lookup_set_of_ne _ same] at found
    exact takes entry found

theorem keepsWays_set (takes : tree.TakesFile place) :
    tree.KeepsWays (tree.set place (.file bytes)) where
  current := rfl
  kept := by
    intro way entry found noFile
    by_cases same : way = place
    · subst same
      obtain ⟨bytes, rfl⟩ := takes entry found
      exact absurd rfl (noFile bytes)
    · rw [lookup_set_of_ne _ same, found]

theorem lookup_of_walk_directory
    (walked : tree.walk aim follows here names = .ok (place, some .directory)) :
    tree.lookup here = some .directory := by
  cases names with
  | nil =>
      obtain ⟨rfl, found⟩ : here = place ∧ tree.lookup here = some .directory := by
        simpa [walk] using walked
      exact found
  | cons name rest =>
      rw [walk] at walked
      split at walked
      · assumption
      · simp at walked

theorem not_isTrailing_append {rest : List String} (front : List String)
    (asks : aim = .use ∨ ∃ name ∈ rest, name ≠ "") :
    (aim = .make && isTrailing (front ++ rest)) = false := by
  rcases asks with rfl | ⟨name, member, filled⟩
  · simp
  · have visible : (front ++ rest).all (· == "") = false := by
      rw [List.all_eq_false]
      exact ⟨name, by simp [member], by simpa using filled⟩
    simp [isTrailing, visible]

/-- Names that lead to a directory do so in front of other names, too, in each tree that has
the directories and links on the way. -/
theorem walk_append (keeps : tree.KeepsWays other)
    (walked : tree.walk before follows here names = .ok (place, some .directory))
    {rest : List String} (asks : aim = .use ∨ ∃ name ∈ rest, name ≠ "") :
    ∃ left, other.walk aim follows here (names ++ rest) = other.walk aim left place rest := by
  -- A walk that ends in a directory meets nothing but directories and links.
  have top := keeps.kept _ _ (lookup_of_walk_directory walked) (by simp)
  fun_induction walk tree before follows here names with
  | case1 follows here =>
      obtain ⟨rfl, _⟩ : here = place ∧ tree.lookup here = some .directory := by
        simpa using walked
      exact ⟨follows, rfl⟩
  | case2 follows here name more _ skipped ih =>
      obtain ⟨left, later⟩ := ih walked top
      exact ⟨left, by simp [walk, top, skipped, later]⟩
  | case3 follows here more _ _ ih =>
      have above := keeps.kept _ _ (lookup_of_walk_directory walked) (by simp)
      obtain ⟨left, later⟩ := ih walked above
      exact ⟨left, by simp [walk, top, later]⟩
  | case9 here name more _ seen down _ short target link fewer ih =>
      have next := keeps.kept _ _ link (by simp)
      have start := keeps.kept _ _ (lookup_of_walk_directory walked) (by simp)
      obtain ⟨left, later⟩ := ih walked start
      refine ⟨left, ?_⟩
      rw [List.append_assoc] at later
      rw [List.cons_append, walk]
      simp only [top, seen, down, short, next, not_isTrailing_append more asks, if_false,
        Bool.false_eq_true]
      exact later
  | case10 follows here name more _ seen down _ short entry _ found ih =>
      have next := keeps.kept _ _ (lookup_of_walk_directory walked) (by simp)
      obtain ⟨left, later⟩ := ih walked next
      refine ⟨left, ?_⟩
      rw [List.cons_append, walk]
      simp only [top, seen, down, short, next, not_isTrailing_append more asks, if_false,
        Bool.false_eq_true]
      exact later
  | case4 | case5 | case6 | case7 | case8 | case11 => simp at walked

theorem KeepsWays.refl (tree : Tree) : tree.KeepsWays tree :=
  ⟨rfl, fun _ _ found _ => found⟩

/-! ## Files below a directory -/

/-- The names of a path lead to a directory at some place, through links or not. -/
structure Reaches (tree : Tree) (directory : Path) (place : Place) : Prop where
  whole : hasNullByte directory = false
  walked : tree.walk .use linkLimit (turn tree.current directory.anchor) directory.names =
    .ok (place, some .directory)

theorem reaches_of_status (whole : hasNullByte directory = false)
    (found : tree.status directory = .ok (place, .directory)) : tree.Reaches directory place :=
  ⟨whole, walk_of_status found⟩

theorem Reaches.kept (reaches : tree.Reaches directory place) (keeps : tree.KeepsWays other) :
    other.Reaches directory place where
  whole := reaches.whole
  walked := by
    obtain ⟨left, ends⟩ := walk_append keeps reaches.walked (.inl rfl : Aim.use = .use ∨ _)
    have there := keeps.kept _ _ (lookup_of_walk reaches.walked) (by simp)
    rw [keeps.current, ← List.append_nil directory.names, ends, walk, there]

theorem names_child (plain : IsPlain name) :
    (directory.child name).names = directory.names ++ [name] := by
  have kept : directory.names.filter (fun text => IsName text) = directory.names :=
    List.filter_eq_self.mpr fun other member => by simpa using directory.named other member
  rw [Path.child_eq plain.1]
  simp [Path.ofNames, kept, plain.1]

theorem anchor_child (plain : IsPlain name) : (directory.child name).anchor = directory.anchor := by
  rw [Path.child_eq plain.1]
  rfl

theorem hasNullByte_child (whole : hasNullByte directory = false) (plain : IsPlain name) :
    hasNullByte (directory.child name) = false := by
  rw [hasNullByte, ← Bool.not_eq_true, List.contains_iff_mem] at whole ⊢
  rw [Path.text_child plain.1, String.toList_append, List.mem_append]
  rintro (front | last)
  · split at front
    · cases anchor : directory.anchor <;> simp [anchor, Anchor.text] at front
    · rw [String.toList_append, List.mem_append] at front
      rcases front with above | slash
      · exact whole above
      · simp at slash
  · exact plain.2.2 last

theorem locate_child (reaches : tree.Reaches directory place) (plain : IsPlain name)
    (takes : tree.TakesFile (place ++ [name])) :
    tree.locate aim (directory.child name) =
      if nameLimit < name.utf8ByteSize ∨ pathLimit ≤ (directory.child name).text.utf8ByteSize then
        .error .nameTooLong
      else .ok (place ++ [name], tree.lookup (place ++ [name])) := by
  have noLink (target : String) : tree.lookup (place ++ [name]) ≠ some (.link target) := by
    intro found
    obtain ⟨bytes, same⟩ := takes _ found
    cases same
  obtain ⟨left, ends⟩ : ∃ left, tree.walk aim linkLimit (turn tree.current directory.anchor)
      (directory.names ++ [name]) = tree.walk aim left place [name] :=
    walk_append (KeepsWays.refl tree) reaches.walked
      (.inr ⟨name, List.mem_singleton_self name, plain.1.1⟩)
  rw [locate, names_child plain, anchor_child plain, ends,
    walk_name (lookup_of_walk reaches.walked) plain noLink]
  by_cases far : pathLimit ≤ (directory.child name).text.utf8ByteSize
  · simp [far]
  · simp [far]

/-- A name that is too long is not looked up in a directory. -/
theorem isTooLong_child (reaches : tree.Reaches directory place) (plain : IsPlain name)
    (long : nameLimit < name.utf8ByteSize) : tree.IsTooLong (directory.child name) := by
  refine ⟨hasNullByte_child reaches.whole plain, ?_⟩
  obtain ⟨left, ends⟩ := walk_append (KeepsWays.refl tree) reaches.walked
    (.inl rfl : Aim.use = .use ∨ _)
  have top := lookup_of_walk reaches.walked
  rw [status, locate, names_child plain, anchor_child plain, ends, walk]
  obtain ⟨⟨filled, dot, _⟩, dots, _⟩ := plain
  by_cases far : pathLimit ≤ (directory.child name).text.utf8ByteSize
  · simp [far]
  · simp [far, top, filled, dot, dots, long]

theorem writeText_child (reaches : tree.Reaches directory place) (plain : IsPlain name)
    (takes : tree.TakesFile (place ++ [name])) :
    tree.writeText (directory.child name) text =
      if nameLimit < name.utf8ByteSize ∨ pathLimit ≤ (directory.child name).text.utf8ByteSize then
        .error (.system .nameTooLong (directory.child name).text)
      else .ok (tree.set (place ++ [name]) (.file (Utf8.encodeText text))) := by
  rw [writeText, writeBytes, if_neg (by simp [hasNullByte_child reaches.whole plain]),
    locate_child reaches plain takes]
  by_cases long : nameLimit < name.utf8ByteSize ∨
      pathLimit ≤ (directory.child name).text.utf8ByteSize
  · simp only [if_pos long]
  · simp only [if_neg long]
    cases found : tree.lookup (place ++ [name]) with
    | none => rfl
    | some entry =>
        obtain ⟨bytes, rfl⟩ := takes entry found
        rfl

theorem readBytes_child (reaches : tree.Reaches directory place) (plain : IsPlain name)
    (short : name.utf8ByteSize ≤ nameLimit)
    (near : (directory.child name).text.utf8ByteSize < pathLimit)
    (found : tree.lookup (place ++ [name]) = some (.file bytes)) :
    tree.readBytes (directory.child name) = .ok bytes := by
  have takes : tree.TakesFile (place ++ [name]) := fun entry other =>
    ⟨bytes, Option.some.inj (other.symm.trans found)⟩
  have close : ¬ (nameLimit < name.utf8ByteSize ∨
      pathLimit ≤ (directory.child name).text.utf8ByteSize) := by omega
  rw [readBytes, if_neg (by simp [hasNullByte_child reaches.whole plain]), status,
    locate_child reaches plain takes, if_neg close, found]

/-! ## The root -/

theorem reaches_root (tree : Tree) : tree.Reaches (.ofNames .root []) [] where
  whole := by decide
  walked := by
    have names : (Path.ofNames .root []).names = [] := by simp [Path.ofNames]
    rw [names, walk]
    rfl

theorem makeDirectories_root (tree : Tree) :
    tree.makeDirectories (.ofNames .root []) = .ok tree := by
  have text : (Path.ofNames .root []).text = "/" := by decide
  have located : tree.locate .use (.ofNames .root []) = .ok ([], some .directory) := by
    rw [locate, text, if_neg (by decide)]
    exact (reaches_root tree).walked
  have whole : hasNullByte (.ofNames .root []) = false := (reaches_root tree).whole
  have settled : tree.settle (.ofNames .root []) .alreadyExists = .ok tree := by
    rw [settle, isDirectory, leadsTo, if_neg (by simp [whole]), status, located]
  have once : tree.makeDirectory (.ofNames .root []) = .error .alreadyExists := by
    simp [makeDirectory, Path.ofNames]
  rw [makeDirectories, if_neg (by simp [whole]), once]
  exact settled

end Tree

end DocSamples
