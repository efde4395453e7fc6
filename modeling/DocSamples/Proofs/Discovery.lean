import DocSamples.Proofs.Breakdown
import DocSamples.Proofs.Discovery.Order
import DocSamples.Proofs.Discovery.Search

namespace DocSamples

/-! # The documents that are found

A document is found by a pattern through a path that leads to a file and goes through no
directory that is passed over.  All documents are those of each pattern, by their resolved
paths and in order.
-/

namespace PatternPart

variable {pattern name : String} {parts : List PatternPart}

theorem exists_ofName_iff :
    (∃ part, ofName name = .ok part) ↔ name = "**" ∨ ¬ "**".toList <:+: name.toList := by
  rw [ofName, ← String.contains_string_iff]
  by_cases alone : name = "**"
  · simp [alone]
  · by_cases stars : name.contains "**" = true
    · simp [alone, stars]
    · rw [if_neg alone, if_neg stars]
      refine iff_of_true ?_ (.inr stars)
      split <;> simp

theorem ofPattern_eq_ok :
    ofPattern pattern = .ok parts ↔ (Path.ofText pattern).isAbsolute = false ∧
      ∃ inner, (Path.ofText pattern).names.mapM ofName = .ok inner ∧
        .anyDirectories :: inner ++ (if pattern.endsWith "/" then [.directory] else []) =
          parts := by
  have eq : ofPattern pattern = if (Path.ofText pattern).isAbsolute then .error .absolute
      else (Path.ofText pattern).names.mapM ofName >>= fun inner =>
        .ok (.anyDirectories :: inner ++ if pattern.endsWith "/" then [.directory] else []) := by
    rw [ofPattern]
    rfl
  rw [eq]
  cases absolute : (Path.ofText pattern).isAbsolute with
  | true => simp
  | false => simp only [Bool.false_eq_true, if_false, Except.bind_eq_ok, Except.ok.injEq, true_and]

/-- A pattern is read if it is relative and its double stars are names of their own. -/
theorem exists_ofPattern_iff :
    (∃ parts, ofPattern pattern = .ok parts) ↔ (Path.ofText pattern).isAbsolute = false ∧
      ∀ name ∈ (Path.ofText pattern).names, name = "**" ∨ ¬ "**".toList <:+: name.toList := by
  simp only [ofPattern_eq_ok, exists_and_left, ← exists_ofName_iff, ← Except.exists_mapM_iff]
  refine and_congr_right fun _ => ?_
  constructor
  · rintro ⟨_, inner, read, _⟩
    exact ⟨inner, read⟩
  · rintro ⟨inner, read⟩
    exact ⟨_, inner, read, rfl⟩

/-- A name without signs of wildcards is looked for as it is. -/
theorem ofPattern_name (named : IsName name)
    (literal : ∀ c ∈ name.toList, c ≠ '*' ∧ c ≠ '?' ∧ c ≠ '[') :
    ofPattern name = .ok [.anyDirectories, .name name] := by
  have path := Path.ofText_name named
  have names : (Path.ofText name).names = [name] := by
    rw [path, Path.names_ofNames (by simpa using named)]
  have text : (Path.ofText name).text = name := by
    simp [path, Path.text, Path.ofNames, named, Anchor.text]
  have ending : name.endsWith "/" = false := by
    have filled : (Path.ofText name).names ≠ [] := by simp [names]
    simpa [text] using (Tree.not_endsWith_slash filled).2
  have noStar : '*' ∉ name.toList := fun member => (literal '*' member).1 rfl
  have stars : name.contains "**" = false := by
    rw [String.contains_string_eq_false_iff]
    exact fun inside => noStar (inside.mem (by simp))
  have alone : name ≠ "**" := by
    rintro rfl
    exact noStar (by simp)
  have signs : (name.any fun c => c = '*' || c = '?' || c = '[') = false := by
    rw [String.any, String.contains_bool_eq, List.any_eq_false]
    intro c member
    simpa [and_assoc] using literal c member
  refine ofPattern_eq_ok.mpr ⟨by rw [path]; rfl, [.name name], ?_, by simp [ending]⟩
  simp [names, ofName, alone, stars, signs, bind, Except.bind, pure, Except.pure]

theorem eq_of_ofName_eq_name {other : String} (read : ofName name = .ok (.name other)) :
    other = name := by
  rw [ofName] at read
  split_ifs at read <;> simp_all

theorem isName_of_ofPattern (read : ofPattern pattern = .ok parts) (member : .name name ∈ parts) :
    IsName name := by
  obtain ⟨_, inner, mapped, rfl⟩ := ofPattern_eq_ok.mp read
  have inside : .name name ∈ inner := by
    rcases List.mem_append.mp member with front | ending
    · simpa using front
    · split at ending <;> simp at ending
  obtain ⟨text, held, found⟩ := (Except.mem_of_mapM mapped).mp inside
  rw [eq_of_ofName_eq_name found]
  exact (Path.ofText pattern).named text held

end PatternPart

namespace Discovery

variable {tree : Tree} {settings : DocumentSettings} {path found document : Path}
  {paths listed : List Path} {parts : List PatternPart} {pattern : String}

/-- A path that goes through a directory below the root that an exclude describes. -/
def PassesOver (settings : DocumentSettings) (path : Path) : Prop :=
  ∃ above directory below, path.names = settings.root.names ++ above ++ directory :: below ∧
    below ≠ [] ∧ ∃ exclude ∈ settings.excludes,
      (Wildcard.ofText exclude).Describes directory.toList

/-- A pattern finds a file by a path that is not passed over. -/
structure Finds (tree : Tree) (settings : DocumentSettings) (pattern : String) (path : Path) :
    Prop where
  led : ∃ parts, PatternPart.ofPattern pattern = .ok parts ∧ Leads tree parts settings.root path
  file : tree.isFile path = .ok true
  kept : ¬ PassesOver settings path

/-- What must hold so that a pattern can be searched for: no path that is looked at is too
long, and the files that are found can be resolved. -/
structure IsSearchable (tree : Tree) (settings : DocumentSettings) (pattern : String) : Prop where
  short : ∀ parts, PatternPart.ofPattern pattern = .ok parts → ∀ path,
    Looks tree parts settings.root path ∨ Leads tree parts settings.root path →
      ¬ tree.IsTooLong path
  resolves : ∀ path, Finds tree settings pattern path → ∃ document, tree.resolve path = .ok document

section More

variable {others : DocumentSettings} (root : others.root = settings.root)
  (more : settings.excludes ⊆ others.excludes)
include root more

theorem PassesOver.mono (passed : PassesOver settings path) : PassesOver others path := by
  obtain ⟨above, directory, below, split, filled, exclude, member, described⟩ := passed
  exact ⟨above, directory, below, root ▸ split, filled, exclude, more member, described⟩

/-- What is found with more excludes is found with fewer. -/
theorem Finds.weaken (finds : Finds tree others pattern path) : Finds tree settings pattern path :=
  ⟨root ▸ finds.led, finds.file, fun passed => finds.kept (passed.mono root more)⟩

theorem IsSearchable.strengthen (searchable : IsSearchable tree settings pattern) :
    IsSearchable tree others pattern :=
  ⟨root ▸ searchable.short, fun path finds => searchable.resolves path (finds.weaken root more)⟩

end More

/-- Settings that search in the same way, perhaps for other patterns. -/
structure IsAlike (others settings : DocumentSettings) : Prop where
  root : others.root = settings.root
  excludes : ∀ exclude, exclude ∈ others.excludes ↔ exclude ∈ settings.excludes

namespace IsAlike

variable {others : DocumentSettings} (alike : IsAlike others settings)
include alike

theorem finds : Finds tree others pattern path ↔ Finds tree settings pattern path :=
  ⟨.weaken alike.root fun exclude => (alike.excludes exclude).mpr,
    .weaken alike.root.symm fun exclude => (alike.excludes exclude).mp⟩

theorem isSearchable : IsSearchable tree others pattern ↔ IsSearchable tree settings pattern :=
  ⟨.strengthen alike.root.symm fun exclude => (alike.excludes exclude).mp,
    .strengthen alike.root fun exclude => (alike.excludes exclude).mpr⟩

end IsAlike

/-! ## Paths that are passed over -/

theorem prefix_child {name : String} (named : IsName name) :
    path.names <+: (path.child name).names := by
  rw [Path.child_eq named]
  refine ⟨[name], (Path.names_ofNames (fun other member => ?_) _).symm⟩
  rcases List.mem_append.mp member with above | last
  · exact path.named other above
  · rwa [List.mem_singleton.mp last]

/-- The parts of a pattern lead down from where they begin. -/
theorem prefix_of_leads (plain : tree.HasPlainNames)
    (named : ∀ name, PatternPart.name name ∈ parts → IsName name)
    (leads : Leads tree parts path found) : path.names <+: found.names := by
  induction parts generalizing path with
  | nil => rw [show found = path from leads]
  | cons part rest ih =>
      have later := fun name member => named name (List.mem_cons_of_mem part member)
      cases part with
      | directory => rw [show found = path from leads]
      | name name =>
          obtain ⟨_, leads⟩ := leads
          exact (prefix_child (named name (by simp))).trans (ih later leads)
      | wildcard wildcard =>
          obtain ⟨name, ⟨place, entry, _, there, _⟩, _, leads⟩ := leads
          have isName := (Tree.isPlain_of_lookup plain there name (by simp)).1
          exact (prefix_child isName).trans (ih later leads)
      | anyDirectories =>
          obtain ⟨names, _, leads⟩ := leads
          exact (show path.names <+: (path.join (.ofNames .here names)).names from ⟨_, rfl⟩).trans
            (ih later leads)

theorem mem_dropLast_iff {names : List String} {name : String} :
    name ∈ names.dropLast ↔ ∃ above below, names = above ++ name :: below ∧ below ≠ [] := by
  rcases List.eq_nil_or_concat' names with rfl | ⟨front, last, rfl⟩
  · simp
  · rw [List.dropLast_concat]
    constructor
    · intro member
      obtain ⟨above, below, rfl⟩ := List.append_of_mem member
      exact ⟨above, below ++ [last], by simp, by simp⟩
    · rintro ⟨above, below, whole, filled⟩
      obtain ⟨inner, final, rfl⟩ := (List.eq_nil_or_concat' below).resolve_left filled
      rw [← List.cons_append, ← List.append_assoc] at whole
      rw [(List.append_inj' whole rfl).1]
      simp

theorem isExcluded_iff (inside : settings.root.names <+: path.names) :
    isExcluded settings path = true ↔ PassesOver settings path := by
  obtain ⟨names, whole⟩ := inside
  simp only [isExcluded, PassesOver, ← whole, List.drop_left, List.any_eq_true, mem_dropLast_iff,
    List.any_map, Function.comp_apply, Wildcard.isMatch_iff, List.append_assoc,
    List.append_cancel_left_eq]
  constructor
  · rintro ⟨directory, ⟨above, below, split, filled⟩, excluded⟩
    exact ⟨above, directory, below, split, filled, excluded⟩
  · rintro ⟨above, directory, below, split, filled, excluded⟩
    exact ⟨directory, ⟨above, below, split, filled⟩, excluded⟩

/-! ## The documents of a pattern -/

theorem documentsFor_eq_ok (read : PatternPart.ofPattern pattern = .ok parts) :
    documentsFor tree settings pattern = .ok listed ↔
      ∃ paths, select tree parts settings.root = .ok paths ∧
        documentsAmong tree settings paths = .ok listed := by
  simp only [documentsFor, read, Except.bind_eq_ok, Except.mapError_eq_ok, Except.ok.injEq,
    exists_eq_left']

theorem documentsAmong_eq_ok :
    documentsAmong tree settings paths = .ok listed ↔
      (∀ path ∈ paths, ¬ tree.IsTooLong path) ∧
        ((paths.filter fun path => (tree.isFile path).toOption = some true).filter
          (!isExcluded settings ·)).mapM tree.resolve = .ok listed := by
  rw [documentsAmong, Except.bind_eq_ok]
  simp only [Except.filterM_eq_ok, Tree.isFile, Tree.exists_leadsTo, and_assoc, exists_and_left,
    exists_eq_left]

theorem mem_files : path ∈ (paths.filter fun path => (tree.isFile path).toOption = some true).filter
      (!isExcluded settings ·) ↔
    path ∈ paths ∧ tree.isFile path = .ok true ∧ isExcluded settings path = false := by
  rw [List.mem_filter, List.mem_filter]
  simp [Except.toOption_eq_some, and_assoc]

theorem documentsFor_of_files (read : PatternPart.ofPattern pattern = .ok parts)
    (selected : select tree parts settings.root = .ok paths)
    (files : ∀ path ∈ paths, tree.isFile path = .ok true)
    (resolved : (paths.filter (!isExcluded settings ·)).mapM tree.resolve = .ok listed) :
    documentsFor tree settings pattern = .ok listed := by
  have all : paths.filter (fun path => (tree.isFile path).toOption = some true) = paths :=
    List.filter_eq_self.mpr fun path member => by simp [files path member, Except.toOption]
  refine (documentsFor_eq_ok read).mpr ⟨paths, selected, documentsAmong_eq_ok.mpr ⟨?_, ?_⟩⟩
  · exact fun path member => Tree.exists_leadsTo.mp ⟨true, files path member⟩
  · rwa [all]

section Search

variable (wellFormed : tree.IsWellFormed) (plain : tree.HasPlainNames)
  (there : tree.isDirectory settings.root = .ok true)
include wellFormed plain there

theorem finds_iff (read : PatternPart.ofPattern pattern = .ok parts)
    (selected : select tree parts settings.root = .ok paths) :
    Finds tree settings pattern path ↔
      path ∈ paths ∧ tree.isFile path = .ok true ∧ isExcluded settings path = false := by
  have exact : IsExact tree parts settings.root :=
    isExact_parts wellFormed plain fun _ => isOpen_of_isDirectory there
  rw [exact.finds selected]
  have down (leads : Leads tree parts settings.root path) :=
    prefix_of_leads plain (fun _ => PatternPart.isName_of_ofPattern read) leads
  constructor
  · rintro ⟨⟨others, same, leads⟩, file, kept⟩
    obtain rfl := Except.ok.inj (read.symm.trans same)
    refine ⟨leads, file, ?_⟩
    rwa [← isExcluded_iff (down leads), Bool.not_eq_true] at kept
  · rintro ⟨leads, file, kept⟩
    refine ⟨⟨parts, read, leads⟩, file, ?_⟩
    rwa [← isExcluded_iff (down leads), Bool.not_eq_true]

/-- A pattern that can be searched for gives documents. -/
theorem exists_documentsFor_iff (valid : ∃ parts, PatternPart.ofPattern pattern = .ok parts) :
    (∃ listed, documentsFor tree settings pattern = .ok listed) ↔
      IsSearchable tree settings pattern := by
  obtain ⟨parts, read⟩ := valid
  have exact : IsExact tree parts settings.root :=
    isExact_parts wellFormed plain fun _ => isOpen_of_isDirectory there
  simp only [documentsFor_eq_ok read, documentsAmong_eq_ok]
  constructor
  · rintro ⟨listed, paths, selected, short, resolved⟩
    refine ⟨fun others same path reached => ?_, fun path finds => ?_⟩
    · obtain rfl := Except.ok.inj (read.symm.trans same)
      rcases reached with looks | leads
      · exact exact.fails.mp ⟨paths, selected⟩ path looks
      · exact short path ((exact.finds selected).mpr leads)
    · have member := (finds_iff wellFormed plain there read selected).mp finds
      exact Except.exists_mapM_iff.mp ⟨listed, resolved⟩ path (mem_files.mpr member)
  · rintro ⟨short, resolves⟩
    obtain ⟨paths, selected⟩ := exact.fails.mpr fun path looks => short parts read path (.inl looks)
    obtain ⟨listed, resolved⟩ := Except.exists_mapM_iff.mpr fun path member =>
      resolves path ((finds_iff wellFormed plain there read selected).mpr (mem_files.mp member))
    exact ⟨listed, paths, selected, fun path member => short parts read path
      (.inr ((exact.finds selected).mp member)), resolved⟩

/-- The documents of a pattern are the files that it finds, by their resolved paths. -/
theorem mem_of_documentsFor (valid : ∃ parts, PatternPart.ofPattern pattern = .ok parts)
    (given : documentsFor tree settings pattern = .ok listed) :
    document ∈ listed ↔
      ∃ path, Finds tree settings pattern path ∧ tree.resolve path = .ok document := by
  obtain ⟨parts, read⟩ := valid
  obtain ⟨paths, selected, among⟩ := (documentsFor_eq_ok read).mp given
  rw [Except.mem_of_mapM (documentsAmong_eq_ok.mp among).2]
  simp only [mem_files, finds_iff wellFormed plain there read selected]

/-! ## All documents -/

omit wellFormed plain in
theorem outcome_documents : (documents tree settings).outcome = .ok listed ↔
    ∃ each, settings.patterns.mapM (documentsFor tree settings) = .ok each ∧
      sortDistinct each.flatten = listed := by
  simp only [documents, there, Attempt.bind_eq_ok, Attempt.outcome_ofExcept, Except.mapError,
    Except.ok.injEq, exists_eq_left', if_true, Attempt.outcome_pure]

variable (valid : ∀ pattern ∈ settings.patterns,
  ∃ parts, PatternPart.ofPattern pattern = .ok parts)
include valid

theorem exists_mapM_documentsFor_iff :
    (∃ each, settings.patterns.mapM (documentsFor tree settings) = .ok each) ↔
      ∀ pattern ∈ settings.patterns, IsSearchable tree settings pattern := by
  rw [Except.exists_mapM_iff]
  exact forall₂_congr fun pattern member =>
    exists_documentsFor_iff wellFormed plain there (valid pattern member)

theorem mem_of_mapM_documentsFor {each : List (List Path)}
    (mapped : settings.patterns.mapM (documentsFor tree settings) = .ok each) :
    document ∈ each.flatten ↔ ∃ pattern ∈ settings.patterns,
      ∃ path, Finds tree settings pattern path ∧ tree.resolve path = .ok document := by
  rw [Except.mem_flatten_of_mapM mapped]
  refine exists_congr fun pattern => and_congr_right fun member => ?_
  constructor
  · rintro ⟨some, given, inside⟩
    exact (mem_of_documentsFor wellFormed plain there (valid pattern member) given).mp inside
  · intro found
    obtain ⟨some, given⟩ := Except.exists_mapM_iff.mp ⟨each, mapped⟩ pattern member
    exact ⟨some, given,
      (mem_of_documentsFor wellFormed plain there (valid pattern member) given).mpr found⟩

theorem exists_documents_iff : (∃ listed, (documents tree settings).outcome = .ok listed) ↔
    ∀ pattern ∈ settings.patterns, IsSearchable tree settings pattern := by
  rw [← exists_mapM_documentsFor_iff wellFormed plain there valid]
  simp only [outcome_documents there]
  constructor
  · rintro ⟨_, each, mapped, _⟩
    exact ⟨each, mapped⟩
  · rintro ⟨each, mapped⟩
    exact ⟨_, each, mapped, rfl⟩

/-- All documents are given when each pattern can be searched for: the list in order of what
the patterns find. -/
theorem documents_eq_ok :
    (documents tree settings).outcome = .ok listed ↔
      (∀ pattern ∈ settings.patterns, IsSearchable tree settings pattern) ∧
        listed.Pairwise (· < ·) ∧ ∀ document, document ∈ listed ↔ ∃ pattern ∈ settings.patterns,
          ∃ path, Finds tree settings pattern path ∧ tree.resolve path = .ok document := by
  rw [← exists_mapM_documentsFor_iff wellFormed plain there valid, outcome_documents there]
  constructor
  · rintro ⟨each, mapped, sorted⟩
    obtain ⟨ordered, same⟩ := sortDistinct_eq_iff.mp sorted
    exact ⟨⟨each, mapped⟩, ordered, fun document =>
      (same document).trans (mem_of_mapM_documentsFor wellFormed plain there valid mapped)⟩
  · rintro ⟨⟨each, mapped⟩, ordered, same⟩
    exact ⟨each, mapped, sortDistinct_eq_iff.mpr ⟨ordered, fun document => (same document).trans
      (mem_of_mapM_documentsFor wellFormed plain there valid mapped).symm⟩⟩

/-- It does not matter in which order and how often patterns and excludes are listed. -/
theorem documents_congr {others : DocumentSettings} (alike : IsAlike others settings)
    (patterns : ∀ pattern, pattern ∈ others.patterns ↔ pattern ∈ settings.patterns) :
    (documents tree others).outcome = .ok listed ↔
      (documents tree settings).outcome = .ok listed := by
  rw [documents_eq_ok wellFormed plain there valid,
    documents_eq_ok wellFormed plain (alike.root ▸ there) fun pattern member =>
      valid pattern ((patterns pattern).mp member)]
  simp only [patterns, alike.finds, alike.isSearchable]

/-- The documents of patterns together are those of each. -/
theorem documents_append {first second : DocumentSettings} (front : IsAlike first settings)
    (back : IsAlike second settings)
    (split : settings.patterns = first.patterns ++ second.patterns) :
    (documents tree settings).outcome = .ok listed ↔ ∃ these those,
      (documents tree first).outcome = .ok these ∧ (documents tree second).outcome = .ok those ∧
        listed.Pairwise (· < ·) ∧
        ∀ document, document ∈ listed ↔ document ∈ these ∨ document ∈ those := by
  have validFirst : ∀ pattern ∈ first.patterns,
      ∃ parts, PatternPart.ofPattern pattern = .ok parts :=
    fun pattern member => valid pattern (by simp [split, member])
  have validSecond : ∀ pattern ∈ second.patterns,
      ∃ parts, PatternPart.ofPattern pattern = .ok parts :=
    fun pattern member => valid pattern (by simp [split, member])
  have thereFirst : tree.isDirectory first.root = .ok true := front.root ▸ there
  have thereSecond : tree.isDirectory second.root = .ok true := back.root ▸ there
  rw [documents_eq_ok wellFormed plain there valid]
  simp only [split, List.mem_append, or_imp, forall_and, or_and_right, exists_or]
  constructor
  · rintro ⟨⟨searchFirst, searchSecond⟩, ordered, same⟩
    obtain ⟨these, gaveThese⟩ := (exists_documents_iff wellFormed plain thereFirst validFirst).mpr
      fun pattern member => front.isSearchable.mpr (searchFirst pattern member)
    obtain ⟨those, gaveThose⟩ := (exists_documents_iff wellFormed plain thereSecond validSecond).mpr
      fun pattern member => back.isSearchable.mpr (searchSecond pattern member)
    refine ⟨these, those, gaveThese, gaveThose, ordered, fun document => ?_⟩
    rw [same, ((documents_eq_ok wellFormed plain thereFirst validFirst).mp gaveThese).2.2,
      ((documents_eq_ok wellFormed plain thereSecond validSecond).mp gaveThose).2.2]
    simp only [front.finds, back.finds]
  · rintro ⟨these, those, gaveThese, gaveThose, ordered, same⟩
    obtain ⟨searchFirst, _, sameThese⟩ :=
      (documents_eq_ok wellFormed plain thereFirst validFirst).mp gaveThese
    obtain ⟨searchSecond, _, sameThose⟩ :=
      (documents_eq_ok wellFormed plain thereSecond validSecond).mp gaveThose
    refine ⟨⟨fun pattern member => front.isSearchable.mp (searchFirst pattern member),
      fun pattern member => back.isSearchable.mp (searchSecond pattern member)⟩, ordered, ?_⟩
    intro document
    rw [same, sameThese, sameThose]
    simp only [front.finds, back.finds]

theorem documents_more_excludes {others : DocumentSettings} (root : others.root = settings.root)
    (patterns : others.patterns = settings.patterns) (more : settings.excludes ⊆ others.excludes)
    (given : (documents tree settings).outcome = .ok listed) :
    ∃ fewer, (documents tree others).outcome = .ok fewer ∧ fewer ⊆ listed := by
  have thereOthers : tree.isDirectory others.root = .ok true := root ▸ there
  rw [← patterns] at valid
  obtain ⟨searchable, _, same⟩ :=
    (documents_eq_ok wellFormed plain there (patterns ▸ valid)).mp given
  rw [← patterns] at searchable
  obtain ⟨fewer, left⟩ := (exists_documents_iff wellFormed plain thereOthers valid).mpr
    fun pattern member => (searchable pattern member).strengthen root more
  obtain ⟨_, _, rest⟩ := (documents_eq_ok wellFormed plain thereOthers valid).mp left
  refine ⟨fewer, left, fun document member => ?_⟩
  obtain ⟨pattern, wanted, path, finds, resolves⟩ := (rest document).mp member
  exact (same document).mpr ⟨pattern, patterns ▸ wanted, path, finds.weaken root more, resolves⟩

end Search

/-! ## A name that is too long -/

/-- A pattern that is one long name cannot be searched for below any directory. -/
theorem not_isSearchable_of_long (there : tree.isDirectory settings.root = .ok true)
    (plain : Tree.IsPlain pattern) (literal : ∀ c ∈ pattern.toList, c ≠ '*' ∧ c ≠ '?' ∧ c ≠ '[')
    (long : Tree.nameLimit < pattern.utf8ByteSize) : ¬ IsSearchable tree settings pattern := by
  intro searchable
  obtain ⟨whole, place, found⟩ := Tree.isDirectory_eq_true.mp there
  have below : IsBelow tree settings.root [] :=
    ⟨place, found, by simpa using Tree.lookup_of_status found⟩
  have start : settings.root.join (.ofNames .here []) = settings.root :=
    Tree.join_eq_foldl (by simp)
  have looks : Looks tree [.anyDirectories, .name pattern] settings.root
      (settings.root.child pattern) := .inr ⟨[], below, .inl (by rw [start])⟩
  exact searchable.short _ (PatternPart.ofPattern_name plain.1 literal) _ (.inl looks)
    (Tree.isTooLong_child (Tree.reaches_of_status whole found) plain long)

theorem documents_ne_ok_of_long (wellFormed : tree.IsWellFormed) (plain : tree.HasPlainNames)
    (there : tree.isDirectory settings.root = .ok true) (member : pattern ∈ settings.patterns)
    (plainName : Tree.IsPlain pattern) (literal : ∀ c ∈ pattern.toList, c ≠ '*' ∧ c ≠ '?' ∧ c ≠ '[')
    (long : Tree.nameLimit < pattern.utf8ByteSize) :
    (documents tree settings).outcome ≠ .ok listed := by
  intro given
  obtain ⟨each, mapped, _⟩ := (outcome_documents there).mp given
  have searched := Except.exists_mapM_iff.mp ⟨each, mapped⟩ pattern member
  exact not_isSearchable_of_long there plainName literal long
    ((exists_documentsFor_iff wellFormed plain there
      ⟨_, PatternPart.ofPattern_name plainName.1 literal⟩).mp searched)

/-! ## A directory with a link -/

/-- A pattern that is the name of a file, in a directory with no other below it. -/
theorem documentsFor_flat {place file : Place} {bytes : List UInt8}
    (whole : Tree.hasNullByte settings.root = false)
    (root : tree.status settings.root = .ok (place, .directory))
    (flat : tree.directoriesBelow place = [[]]) (plain : Tree.IsPlain pattern)
    (literal : ∀ c ∈ pattern.toList, c ≠ '*' ∧ c ≠ '?' ∧ c ≠ '[')
    (found : tree.status (settings.root.child pattern) = .ok (file, .file bytes))
    (resolves : tree.resolve (settings.root.child pattern) = .ok document) :
    documentsFor tree settings pattern = .ok [document] := by
  have opened : tree.openDirectory settings.root = .ok place := Tree.openDirectory_eq_ok.mpr root
  have start : settings.root.join (.ofNames .here []) = settings.root :=
    Tree.join_eq_foldl (by simp)
  have isWhole := Tree.hasNullByte_child whole plain
  have there : tree.existsAt (settings.root.child pattern) = .ok true := by
    simp [Tree.existsAt, Tree.leadsTo, isWhole, found]
  have selected : select tree [.anyDirectories, .name pattern] settings.root =
      .ok [settings.root.child pattern] := by
    have last : select tree [.name pattern] settings.root = .ok [settings.root.child pattern] := by
      rw [select_name, List.isEmpty_nil, if_pos rfl, there]
      rfl
    rw [select_anyDirectories, opened]
    simp [searchFrom, flat, start, last, bind, Except.bind, pure, Except.pure]
  have kept : isExcluded settings (settings.root.child pattern) = false := by
    simp [isExcluded, Tree.names_child plain]
  refine documentsFor_of_files (PatternPart.ofPattern_name plain.1 literal) selected ?_ ?_
  · simpa using Tree.isFile_eq_true.mpr ⟨isWhole, file, bytes, found⟩
  · simp [kept, resolves, bind, Except.bind, pure, Except.pure]

def aliasTree : Tree where
  current := []
  entries := [
    (["d"], .directory),
    (["d", "a"], .file []),
    (["d", "b"], .link "a")]

/-- Patterns for a document and for a link to it. -/
def aliasSettings : DocumentSettings where
  root := .ofNames .root ["d"]
  patterns := ["a", "b"]

/-- The document of the tree. -/
def aliased : Path := .ofNames .root ["d", "a"]

theorem status_aliasTree :
    aliasTree.status aliasSettings.root = .ok (["d"], .directory) ∧
      ∀ pattern ∈ aliasSettings.patterns,
        aliasTree.status (aliasSettings.root.child pattern) = .ok (["d", "a"], .file []) := by
  simp only [aliasSettings, List.forall_mem_cons, List.not_mem_nil, false_imp_iff, implies_true,
    and_true]
  exact ⟨by cbv, by cbv, by cbv⟩

theorem isPlain_aliasSettings : ∀ pattern ∈ aliasSettings.patterns, Tree.IsPlain pattern ∧
    ∀ c ∈ pattern.toList, c ≠ '*' ∧ c ≠ '?' ∧ c ≠ '[' := by
  simp [aliasSettings, Tree.IsPlain, IsName]

theorem resolveFrom_aliasTree (room : Nat) (pattern : String)
    (member : pattern ∈ aliasSettings.patterns) :
    aliasTree.resolveFrom (room + 3) [] [] (.ofNames .root []) [.follow "d", .follow pattern] =
      .ok (.place aliased) := by
  have first : aliasTree.linkAt? ((Path.ofNames .root []).child "d") = none := by cbv
  have start : (Path.ofNames .root []).child "d" = aliasSettings.root := by decide
  have file : aliasTree.linkAt? (aliasSettings.root.child "a") = none := by cbv
  have link : aliasTree.linkAt? (aliasSettings.root.child "b") = some "a" := by cbv
  have child : aliasSettings.root.child "a" = aliased := by decide
  have plain : Tree.IsPlain "a" := (isPlain_aliasSettings _ (by simp [aliasSettings])).1
  rw [Tree.resolveFrom_pass (by decide) first, start]
  rcases List.mem_cons.mp member with rfl | last
  · rw [Tree.resolveFrom_pass plain file, child, Tree.resolveFrom]
  · obtain rfl := List.mem_singleton.mp last
    rw [Tree.resolveFrom_enter (isPlain_aliasSettings _ member).1 link rfl, if_neg (by simp),
      Tree.targetStart, Tree.anchorOf_of_isName plain.1, Tree.slashNames_of_isName plain.1,
      List.map_singleton, List.singleton_append, Tree.resolveFrom_pass plain file, child,
      Tree.resolveFrom, Tree.resolveFrom]

theorem resolve_aliasTree (pattern : String) (member : pattern ∈ aliasSettings.patterns) :
    aliasTree.resolve (aliasSettings.root.child pattern) = .ok aliased := by
  obtain ⟨room, enough⟩ := Tree.exists_linkRoom (show (["d", "b"], .link "a") ∈
    aliasTree.entries by decide)
  have plain := (isPlain_aliasSettings pattern member).1
  have names : (aliasSettings.root.child pattern).names = ["d", pattern] := Tree.names_child plain
  have absolute : (aliasSettings.root.child pattern).isAbsolute = true := by
    rw [Path.isAbsolute, Tree.anchor_child plain]
    rfl
  have place : (Tree.Resolution.place aliased).toPath aliasTree = aliased := by decide
  have whole : Tree.hasNullByte aliased = false := by decide
  have there : aliasTree.status aliased = .ok (["d", "a"], .file []) := by
    rw [show aliased = aliasSettings.root.child "a" by decide]
    exact status_aliasTree.2 "a" (by simp [aliasSettings])
  simp only [Tree.resolve, absolute, if_true, names, List.map_cons, List.map_nil, enough,
    resolveFrom_aliasTree room pattern member, place, whole, there, Bool.false_eq_true, if_false]

theorem documentsFor_aliasTree (pattern : String) (member : pattern ∈ aliasSettings.patterns) :
    documentsFor aliasTree aliasSettings pattern = .ok [aliased] := by
  obtain ⟨plain, literal⟩ := isPlain_aliasSettings pattern member
  exact documentsFor_flat (by decide) status_aliasTree.1 (by decide) plain literal
    (status_aliasTree.2 pattern member) (resolve_aliasTree pattern member)

theorem valid_aliasSettings (pattern : String) (member : pattern ∈ aliasSettings.patterns) :
    ∃ parts, PatternPart.ofPattern pattern = .ok parts := by
  obtain ⟨plain, literal⟩ := isPlain_aliasSettings pattern member
  exact ⟨_, PatternPart.ofPattern_name plain.1 literal⟩

theorem isDirectory_aliasSettings : aliasTree.isDirectory aliasSettings.root = .ok true :=
  Tree.isDirectory_eq_true.mpr ⟨by decide, _, status_aliasTree.1⟩

theorem documents_aliasTree : (documents aliasTree aliasSettings).outcome = .ok [aliased] := by
  refine (outcome_documents isDirectory_aliasSettings).mpr ⟨[[aliased], [aliased]], ?_, ?_⟩
  · exact Except.mapM_eq_ok.mpr (.cons (documentsFor_aliasTree _ (by simp [aliasSettings]))
      (.cons (documentsFor_aliasTree _ (by simp [aliasSettings])) .nil))
  · exact sortDistinct_eq_iff.mpr ⟨List.pairwise_singleton _ _, by simp⟩

/-! ## The sorted union -/

end Discovery

end DocSamples
