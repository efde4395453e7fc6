import DocSamples.Discovery
import DocSamples.Proofs.Attempt
import DocSamples.Proofs.Tree.WellFormed
import DocSamples.Proofs.Wildcard

namespace DocSamples

open Text

/-! # Searching a tree

The parts of a pattern lead from a directory through names, names that a wildcard describes,
and directories below.  The search finds all paths to which they lead, and looks at a path for
each step, which fails only if that path is too long.
-/

namespace Tree

variable {tree : Tree} {path : Path} {place : Place} {names : List String} {name : String}

/-- All names in a tree lead down. -/
def HasPlainNames (tree : Tree) : Prop :=
  ∀ held ∈ tree.entries, ∀ name ∈ held.1, IsPlain name

instance (tree : Tree) : Decidable tree.HasPlainNames :=
  inferInstanceAs (Decidable (∀ held ∈ tree.entries, ∀ name ∈ held.1, IsPlain name))

theorem openDirectory_eq_ok :
    tree.openDirectory path = .ok place ↔ tree.status path = .ok (place, .directory) := by
  rw [openDirectory]
  cases found : tree.status path with
  | error cause => simp
  | ok reached =>
      obtain ⟨other, entry⟩ := reached
      cases entry <;> simp

theorem leadsTo_eq_true {kind : Entry → Bool} :
    tree.leadsTo kind path = .ok true ↔
      hasNullByte path = false ∧
        ∃ place entry, tree.status path = .ok (place, entry) ∧ kind entry = true := by
  rw [leadsTo]
  by_cases null : hasNullByte path = true
  · simp [null]
  · rw [if_neg null]
    cases found : tree.status path with
    | error cause => cases cause <;> simp
    | ok reached =>
        obtain ⟨place, entry⟩ := reached
        simp [null]

theorem isDirectory_eq_true :
    tree.isDirectory path = .ok true ↔
      hasNullByte path = false ∧ ∃ place, tree.status path = .ok (place, .directory) := by
  rw [isDirectory, leadsTo_eq_true]
  refine and_congr_right fun _ => exists_congr fun place => ?_
  constructor
  · rintro ⟨entry, reached, kind⟩
    cases entry with
    | directory => exact reached
    | file _ | link _ => simp at kind
  · exact fun reached => ⟨.directory, reached, rfl⟩

theorem isFile_eq_true :
    tree.isFile path = .ok true ↔
      hasNullByte path = false ∧ ∃ place bytes, tree.status path = .ok (place, .file bytes) := by
  rw [isFile, leadsTo_eq_true]
  refine and_congr_right fun _ => exists_congr fun place => ?_
  constructor
  · rintro ⟨entry, reached, kind⟩
    cases entry with
    | file bytes => exact ⟨bytes, reached⟩
    | directory | link _ => simp at kind
  · exact fun ⟨bytes, reached⟩ => ⟨.file bytes, reached, rfl⟩

theorem nameIn_eq_some {held : Place} :
    nameIn? place held = some name ↔ held = place ++ [name] := by
  rcases List.eq_nil_or_concat' held with rfl | ⟨above, last, rfl⟩
  · simp [nameIn?]
  · simp [nameIn?, and_comm]

theorem mem_namesIn (wellFormed : tree.IsWellFormed) :
    name ∈ tree.namesIn place ↔ ∃ entry, tree.lookup (place ++ [name]) = some entry := by
  rw [namesIn, List.mem_filterMap]
  simp only [nameIn_eq_some]
  constructor
  · rintro ⟨⟨_, entry⟩, member, rfl⟩
    exact ⟨entry, wellFormed.own _ member⟩
  · rintro ⟨entry, there⟩
    exact ⟨(place ++ [name], entry), mem_entries_of_lookup (by simp) there, rfl⟩

theorem mem_directoriesBelow (wellFormed : tree.IsWellFormed)
    (top : tree.lookup place = some .directory) :
    names ∈ tree.directoriesBelow place ↔ tree.lookup (place ++ names) = some .directory := by
  rw [directoriesBelow, List.mem_cons, List.mem_filterMap]
  constructor
  · rintro (rfl | ⟨⟨held, entry⟩, member, below⟩)
    · simpa using top
    · obtain ⟨⟨rfl, ⟨rest, rfl⟩, _⟩, dropped⟩ :
          (entry = .directory ∧ place <+: held ∧ place ≠ held) ∧
            held.drop place.length = names := by
        simpa using below
      rw [List.drop_left] at dropped
      rw [← dropped]
      exact wellFormed.own _ member
  · intro there
    by_cases none : names = []
    · exact .inl none
    · refine .inr ⟨(place ++ names, .directory), mem_entries_of_lookup (by simp [none]) there, ?_⟩
      simp [none]

theorem isPlain_of_lookup (plain : tree.HasPlainNames) {entry : Entry}
    (there : tree.lookup (place ++ names) = some entry) : ∀ name ∈ names, IsPlain name := by
  intro name member
  have below : place ++ names ≠ [] := by
    rintro none
    simp [(List.append_eq_nil_iff.mp none).2] at member
  exact plain _ (mem_entries_of_lookup below there) name (List.mem_append_right _ member)

theorem IsWellFormed.lookup_above (wellFormed : tree.IsWellFormed) {below : List String}
    (there : tree.lookup (place ++ names ++ below) = some .directory) :
    tree.lookup (place ++ names) = some .directory := by
  induction below using List.reverseRecOn with
  | nil => simpa using there
  | append_singleton front last ih =>
      refine ih ?_
      have above := wellFormed.lookup_dropLast there
      rwa [← List.append_assoc, List.dropLast_concat] at above

/-- Directories below a place are reached from it unless one of their names is too long. -/
theorem walk_below (wellFormed : tree.IsWellFormed) {follows : Nat}
    (plain : ∀ name ∈ names, IsPlain name)
    (there : tree.lookup (place ++ names) = some .directory) :
    tree.walk .use follows place names = .ok (place ++ names, some .directory) ∨
      tree.walk .use follows place names = .error .nameTooLong := by
  induction names generalizing place with
  | nil =>
      rw [List.append_nil] at there
      exact .inl (by rw [walk, there, List.append_nil])
  | cons name rest ih =>
      obtain ⟨⟨filled, dot, _⟩, dots, _⟩ := plain name (by simp)
      have whole : tree.lookup (place ++ [name] ++ rest) = some .directory := by simpa using there
      have next : tree.lookup (place ++ [name]) = some .directory := wellFormed.lookup_above whole
      have top : tree.lookup place = some .directory := by
        simpa using wellFormed.lookup_dropLast next
      have later := ih (fun other member => plain other (by simp [member])) whole
      rw [walk]
      simp only [top, next, filled, dot, dots, decide_false, Bool.or_self, Bool.false_eq_true,
        if_false, reduceCtorEq, Bool.false_and]
      by_cases long : nameLimit < name.utf8ByteSize
      · exact .inr (if_pos long)
      · rw [if_neg long]
        simpa using later

theorem names_join (named : ∀ name ∈ names, IsName name) :
    (path.join (.ofNames .here names)).names = path.names ++ names := by
  have joined : (path.join (.ofNames .here names)).names =
      path.names ++ (Path.ofNames .here names).names := rfl
  rw [joined, Path.names_ofNames named]

theorem join_eq_foldl (named : ∀ name ∈ names, IsName name) :
    path.join (.ofNames .here names) = names.foldl Path.child path := by
  have whole := (path.join (.ofNames .here names)).ofNames_names
  have anchor : (path.join (.ofNames .here names)).anchor = path.anchor := rfl
  rw [names_join named, anchor] at whole
  rw [foldl_child named, whole]

theorem hasNullByte_join (whole : hasNullByte path = false) (plain : ∀ name ∈ names, IsPlain name) :
    hasNullByte (path.join (.ofNames .here names)) = false := by
  rw [join_eq_foldl fun name member => (plain name member).1]
  induction names generalizing path with
  | nil => exact whole
  | cons name rest ih =>
      exact ih (hasNullByte_child whole (plain name (by simp))) fun other member =>
        plain other (by simp [member])

/-- A directory below one that a path leads to, as a path. -/
theorem status_join (wellFormed : tree.IsWellFormed) (plain : ∀ name ∈ names, IsPlain name)
    (found : tree.status path = .ok (place, .directory))
    (there : tree.lookup (place ++ names) = some .directory) :
    tree.status (path.join (.ofNames .here names)) = .ok (place ++ names, .directory) ∨
      tree.status (path.join (.ofNames .here names)) = .error .nameTooLong := by
  obtain ⟨left, ends⟩ := walk_append (KeepsWays.refl tree) (walk_of_status found)
    (.inl rfl : Aim.use = .use ∨ _)
  have anchor : (path.join (.ofNames .here names)).anchor = path.anchor := rfl
  rw [status, locate]
  split_ifs with long
  · exact .inr rfl
  · rw [names_join fun name member => (plain name member).1, anchor, ends]
    rcases walk_below wellFormed plain there with reached | tooLong
    · exact .inl (by rw [reached])
    · exact .inr (by rw [tooLong])

end Tree

namespace Discovery

variable {tree : Tree} {path found looked : Path} {parts rest : List PatternPart}
  {wildcard : Wildcard} {name : String}

/-! ## What a pattern leads to -/

/-- An entry of a directory that a wildcard describes. -/
def Offers (tree : Tree) (wildcard : Wildcard) (path : Path) (name : String) : Prop :=
  ∃ place entry, tree.status path = .ok (place, .directory) ∧
    tree.lookup (place ++ [name]) = some entry ∧ wildcard.Describes name.toList

/-- Names that lead from a directory to one below it, with no link among them. -/
def IsBelow (tree : Tree) (path : Path) (names : List String) : Prop :=
  ∃ place, tree.status path = .ok (place, .directory) ∧
    tree.lookup (place ++ names) = some .directory

/-- Whether a name leads on: to anything at the end of a pattern, and to a directory before. -/
def LeadsOn (tree : Tree) (rest : List PatternPart) (next : Path) : Prop :=
  (if rest.isEmpty then tree.existsAt next else tree.isDirectory next) = .ok true

/-- The paths to which the parts of a pattern lead from a directory. -/
def Leads (tree : Tree) : List PatternPart → Path → Path → Prop
  | [], path, found => found = path
  | .directory :: _, path, found => found = path
  | .name name :: rest, path, found =>
      LeadsOn tree rest (path.child name) ∧ Leads tree rest (path.child name) found
  | .wildcard wildcard :: rest, path, found =>
      ∃ name, Offers tree wildcard path name ∧
        (rest ≠ [] → tree.isDirectory (path.child name) = .ok true) ∧
        Leads tree rest (path.child name) found
  | .anyDirectories :: rest, path, found =>
      ∃ names, IsBelow tree path names ∧ Leads tree rest (path.join (.ofNames .here names)) found

/-- The paths at which the search for them looks. -/
def Looks (tree : Tree) : List PatternPart → Path → Path → Prop
  | [], _, _ => False
  | .directory :: _, _, _ => False
  | .name name :: rest, path, looked =>
      looked = path.child name ∨
        LeadsOn tree rest (path.child name) ∧ Looks tree rest (path.child name) looked
  | .wildcard wildcard :: rest, path, looked =>
      looked = path ∨ rest ≠ [] ∧ ∃ name, Offers tree wildcard path name ∧
        (looked = path.child name ∨
          tree.isDirectory (path.child name) = .ok true ∧ Looks tree rest (path.child name) looked)
  | .anyDirectories :: rest, path, looked =>
      looked = path ∨
        ∃ names, IsBelow tree path names ∧ Looks tree rest (path.join (.ofNames .here names)) looked

/-- A path to a directory, which may be too long to be looked up. -/
structure IsOpen (tree : Tree) (path : Path) : Prop where
  whole : Tree.hasNullByte path = false
  opens : (∃ place, tree.status path = .ok (place, .directory)) ∨
    tree.status path = .error .nameTooLong

theorem isOpen_of_isDirectory (there : tree.isDirectory path = .ok true) : IsOpen tree path :=
  ⟨(Tree.isDirectory_eq_true.mp there).1, .inl (Tree.isDirectory_eq_true.mp there).2⟩

theorem isOpen_of_leadsOn (leadsOn : LeadsOn tree rest path) (filled : rest ≠ []) :
    IsOpen tree path := by
  rw [LeadsOn, if_neg (by simpa using filled)] at leadsOn
  exact isOpen_of_isDirectory leadsOn

theorem exists_openDirectory_iff (opened : IsOpen tree path) :
    (∃ place, tree.openDirectory path = .ok place) ↔ ¬ tree.IsTooLong path := by
  simp only [Tree.openDirectory_eq_ok]
  rcases opened.opens with ⟨place, reached⟩ | long
  · refine iff_of_true ⟨place, reached⟩ fun tooLong => ?_
    simpa [reached] using tooLong.long
  · exact iff_of_false (by simp [long]) fun short => short ⟨opened.whole, long⟩

/-! ## What the search does -/

/-- The entries that are searched further: before the end of a pattern only directories. -/
def wantedAmong (tree : Tree) (rest : List PatternPart) (children : List Path) :
    Except PathFault (List Path) :=
  if rest.isEmpty then .ok children else children.filterM tree.isDirectory

theorem select_name :
    select tree (.name name :: rest) path =
      (if rest.isEmpty then tree.existsAt (path.child name)
        else tree.isDirectory (path.child name)) >>=
        fun there => if there then select tree rest (path.child name) else .ok [] := by
  rw [select]
  split <;> rfl

/-- The search goes on from some paths, one after the other. -/
def searchFrom (tree : Tree) (rest : List PatternPart) (starts : List Path) :
    Except PathFault (List Path) :=
  starts.mapM (select tree rest) >>= fun searched => .ok searched.flatten

theorem select_wildcard :
    select tree (.wildcard wildcard :: rest) path = tree.openDirectory path >>= fun place =>
      wantedAmong tree rest (((tree.namesIn place).filter wildcard.isMatch).map path.child) >>=
        searchFrom tree rest := by
  rw [select]
  simp only [wantedAmong]
  split <;> rfl

theorem select_anyDirectories :
    select tree (.anyDirectories :: rest) path = tree.openDirectory path >>= fun place =>
      searchFrom tree rest
        ((tree.directoriesBelow place).map fun names => path.join (.ofNames .here names)) := by
  rw [select]
  rfl

theorem exists_wantedAmong_iff {children : List Path} :
    (∃ wanted, wantedAmong tree rest children = .ok wanted) ↔
      (rest ≠ [] → ∀ child ∈ children, ¬ tree.IsTooLong child) := by
  by_cases none : rest = []
  · simp [wantedAmong, none]
  · simp only [wantedAmong, List.isEmpty_iff, none, if_false, Except.filterM_eq_ok, exists_and_left,
      exists_eq, and_true, ne_eq, not_false_iff, true_imp_iff]
    exact forall₂_congr fun child _ => Tree.exists_leadsTo

theorem mem_wantedAmong {children wanted : List Path} {child : Path}
    (filtered : wantedAmong tree rest children = .ok wanted) :
    child ∈ wanted ↔ child ∈ children ∧ (rest ≠ [] → tree.isDirectory child = .ok true) := by
  by_cases none : rest = []
  · simp only [wantedAmong, none, List.isEmpty_nil, if_true, Except.ok.injEq] at filtered
    simp [none, filtered]
  · simp only [wantedAmong, List.isEmpty_iff, none, if_false, Except.filterM_eq_ok] at filtered
    simp [none, filtered.2, Except.toOption_eq_some]

/-- The search fails only where it looks at a path that is too long, and it finds what the parts
lead to. -/
structure IsExact (tree : Tree) (parts : List PatternPart) (path : Path) : Prop where
  fails : (∃ paths, select tree parts path = .ok paths) ↔
    ∀ looked, Looks tree parts path looked → ¬ tree.IsTooLong looked
  finds : ∀ {paths}, select tree parts path = .ok paths →
    ∀ {found}, found ∈ paths ↔ Leads tree parts path found

theorem exists_searchFrom_iff {starts : List Path}
    (exact : ∀ start ∈ starts, IsExact tree rest start) :
    (∃ paths, searchFrom tree rest starts = .ok paths) ↔
      ∀ start ∈ starts, ∀ looked, Looks tree rest start looked → ¬ tree.IsTooLong looked := by
  have succeeds : (∃ paths, searchFrom tree rest starts = .ok paths) ↔
      ∃ searched, starts.mapM (select tree rest) = .ok searched := by
    simp [searchFrom, Except.bind_eq_ok]
  rw [succeeds, Except.exists_mapM_iff]
  exact forall₂_congr fun start member => (exact start member).fails

theorem mem_searchFrom {starts paths : List Path}
    (exact : ∀ start ∈ starts, IsExact tree rest start)
    (selected : searchFrom tree rest starts = .ok paths) :
    found ∈ paths ↔ ∃ start ∈ starts, Leads tree rest start found := by
  obtain ⟨searched, mapped, same⟩ := Except.bind_eq_ok.mp selected
  cases same
  rw [Except.mem_flatten_of_mapM mapped]
  constructor
  · rintro ⟨start, member, paths, selected, inside⟩
    exact ⟨start, member, ((exact start member).finds selected).mp inside⟩
  · rintro ⟨start, member, leads⟩
    obtain ⟨paths, selected⟩ := Except.exists_mapM_iff.mp ⟨searched, mapped⟩ start member
    exact ⟨start, member, paths, selected, ((exact start member).finds selected).mpr leads⟩

theorem isExact_name
    (later : ∀ next, (rest ≠ [] → IsOpen tree next) → IsExact tree rest next) :
    IsExact tree (.name name :: rest) path := by
  have asks : (∃ there, (if rest.isEmpty then tree.existsAt (path.child name)
      else tree.isDirectory (path.child name)) = .ok there) ↔
      ¬ tree.IsTooLong (path.child name) := by
    split <;> exact Tree.exists_leadsTo
  have next (leadsOn : LeadsOn tree rest (path.child name)) :
      IsExact tree rest (path.child name) := later _ (isOpen_of_leadsOn leadsOn)
  refine ⟨?_, ?_⟩ <;> rw [select_name]
  · constructor
    · rintro ⟨paths, selected⟩ looked looks
      obtain ⟨there, asked, selected⟩ := Except.bind_eq_ok.mp selected
      rcases looks with rfl | ⟨leadsOn, looks⟩
      · exact asks.mp ⟨there, asked⟩
      · obtain rfl : there = true := Except.ok.inj (asked.symm.trans leadsOn)
        exact (next leadsOn).fails.mp ⟨paths, selected⟩ looked looks
    · intro short
      simp only [Except.bind_eq_ok]
      obtain ⟨there, asked⟩ := asks.mpr (short _ (.inl rfl))
      cases there with
      | false => exact ⟨[], false, asked, rfl⟩
      | true =>
          obtain ⟨paths, selected⟩ := (next asked).fails.mpr fun looked looks =>
            short looked (.inr ⟨asked, looks⟩)
          exact ⟨paths, true, asked, selected⟩
  · intro paths selected found
    obtain ⟨there, asked, selected⟩ := Except.bind_eq_ok.mp selected
    rw [Leads, LeadsOn, asked]
    cases there with
    | false =>
        cases selected
        simp
    | true => simp [(next asked).finds selected]

section Search

variable (wellFormed : tree.IsWellFormed) (plain : tree.HasPlainNames)
include wellFormed

theorem mem_offers {place : Place} {child : Path}
    (opened : tree.status path = .ok (place, .directory)) :
    child ∈ ((tree.namesIn place).filter wildcard.isMatch).map path.child ↔
      ∃ name, Offers tree wildcard path name ∧ path.child name = child := by
  simp only [List.mem_map, List.mem_filter, Tree.mem_namesIn wellFormed, Wildcard.isMatch_iff,
    Offers, opened, Except.ok.injEq, Prod.mk.injEq, and_true]
  constructor
  · rintro ⟨name, ⟨⟨entry, there⟩, described⟩, same⟩
    exact ⟨name, ⟨place, entry, rfl, there, described⟩, same⟩
  · rintro ⟨name, ⟨_, entry, rfl, there, described⟩, same⟩
    exact ⟨name, ⟨⟨entry, there⟩, described⟩, same⟩

theorem mem_below {place : Place} {child : Path}
    (opened : tree.status path = .ok (place, .directory)) :
    child ∈ (tree.directoriesBelow place).map (fun names => path.join (.ofNames .here names)) ↔
      ∃ names, IsBelow tree path names ∧ path.join (.ofNames .here names) = child := by
  simp only [List.mem_map, Tree.mem_directoriesBelow wellFormed (Tree.lookup_of_status opened),
    IsBelow, opened, Except.ok.injEq, Prod.mk.injEq, and_true]
  constructor
  · rintro ⟨names, there, same⟩
    exact ⟨names, ⟨place, rfl, there⟩, same⟩
  · rintro ⟨names, ⟨_, rfl, there⟩, same⟩
    exact ⟨names, there, same⟩

theorem isExact_wildcard (opened : IsOpen tree path)
    (later : ∀ next, (rest ≠ [] → IsOpen tree next) → IsExact tree rest next) :
    IsExact tree (.wildcard wildcard :: rest) path := by
  have exact {children wanted : List Path} (filtered : wantedAmong tree rest children = .ok wanted) :
      ∀ child ∈ wanted, IsExact tree rest child := fun child kept =>
    later child fun filled => isOpen_of_isDirectory (((mem_wantedAmong filtered).mp kept).2 filled)
  refine ⟨?_, ?_⟩ <;> rw [select_wildcard]
  · constructor
    · rintro ⟨paths, selected⟩ looked looks
      obtain ⟨place, reached, selected⟩ := Except.bind_eq_ok.mp selected
      obtain ⟨wanted, filtered, selected⟩ := Except.bind_eq_ok.mp selected
      rcases looks with rfl | ⟨filled, name, offers, looks⟩
      · exact (exists_openDirectory_iff opened).mp ⟨place, reached⟩
      · have member := (mem_offers wellFormed (Tree.openDirectory_eq_ok.mp reached)).mpr
          ⟨name, offers, rfl⟩
        rcases looks with rfl | ⟨directory, looks⟩
        · exact exists_wantedAmong_iff.mp ⟨wanted, filtered⟩ filled _ member
        · have kept := (mem_wantedAmong filtered).mpr ⟨member, fun _ => directory⟩
          exact (exists_searchFrom_iff (exact filtered)).mp ⟨paths, selected⟩ _ kept looked looks
    · intro short
      simp only [Except.bind_eq_ok]
      obtain ⟨place, reached⟩ := (exists_openDirectory_iff opened).mpr (short _ (.inl rfl))
      have reaches := Tree.openDirectory_eq_ok.mp reached
      obtain ⟨wanted, filtered⟩ := exists_wantedAmong_iff.mpr fun filled child member => by
        obtain ⟨name, offers, rfl⟩ := (mem_offers wellFormed reaches).mp member
        exact short _ (.inr ⟨filled, name, offers, .inl rfl⟩)
      obtain ⟨paths, selected⟩ :=
        (exists_searchFrom_iff (exact filtered)).mpr fun child kept looked looks => by
          obtain ⟨member, directory⟩ := (mem_wantedAmong filtered).mp kept
          obtain ⟨name, offers, rfl⟩ := (mem_offers wellFormed reaches).mp member
          have filled : rest ≠ [] := by
            rintro rfl
            exact looks
          exact short looked (.inr ⟨filled, name, offers, .inr ⟨directory filled, looks⟩⟩)
      exact ⟨paths, place, reached, wanted, filtered, selected⟩
  · intro paths selected found
    obtain ⟨place, reached, selected⟩ := Except.bind_eq_ok.mp selected
    obtain ⟨wanted, filtered, selected⟩ := Except.bind_eq_ok.mp selected
    rw [mem_searchFrom (exact filtered) selected, Leads]
    simp only [mem_wantedAmong filtered,
      mem_offers wellFormed (Tree.openDirectory_eq_ok.mp reached)]
    constructor
    · rintro ⟨_, ⟨⟨name, offers, rfl⟩, directory⟩, leads⟩
      exact ⟨name, offers, directory, leads⟩
    · rintro ⟨name, offers, directory, leads⟩
      exact ⟨_, ⟨⟨name, offers, rfl⟩, directory⟩, leads⟩

include plain

theorem isOpen_below {names : List String} (whole : Tree.hasNullByte path = false)
    (below : IsBelow tree path names) : IsOpen tree (path.join (.ofNames .here names)) := by
  obtain ⟨place, opened, there⟩ := below
  have named := Tree.isPlain_of_lookup plain there
  exact ⟨Tree.hasNullByte_join whole named,
    (Tree.status_join wellFormed named opened there).imp (fun reached => ⟨_, reached⟩) id⟩

theorem isExact_anyDirectories (opened : IsOpen tree path)
    (later : ∀ next, (rest ≠ [] → IsOpen tree next) → IsExact tree rest next) :
    IsExact tree (.anyDirectories :: rest) path := by
  have exact {place : Place} (reaches : tree.status path = .ok (place, .directory)) :
      ∀ start ∈ (tree.directoriesBelow place).map fun names => path.join (.ofNames .here names),
        IsExact tree rest start := by
    intro start member
    obtain ⟨names, below, rfl⟩ := (mem_below wellFormed reaches).mp member
    exact later _ fun _ => isOpen_below wellFormed plain opened.whole below
  refine ⟨?_, ?_⟩ <;> rw [select_anyDirectories]
  · constructor
    · rintro ⟨paths, selected⟩ looked looks
      obtain ⟨place, reached, selected⟩ := Except.bind_eq_ok.mp selected
      have reaches := Tree.openDirectory_eq_ok.mp reached
      rcases looks with rfl | ⟨names, below, looks⟩
      · exact (exists_openDirectory_iff opened).mp ⟨place, reached⟩
      · have member := (mem_below wellFormed reaches).mpr ⟨names, below, rfl⟩
        exact (exists_searchFrom_iff (exact reaches)).mp ⟨paths, selected⟩ _ member looked looks
    · intro short
      simp only [Except.bind_eq_ok]
      obtain ⟨place, reached⟩ := (exists_openDirectory_iff opened).mpr (short _ (.inl rfl))
      have reaches := Tree.openDirectory_eq_ok.mp reached
      obtain ⟨paths, selected⟩ :=
        (exists_searchFrom_iff (exact reaches)).mpr fun start member looked looks => by
          obtain ⟨names, below, rfl⟩ := (mem_below wellFormed reaches).mp member
          exact short looked (.inr ⟨names, below, looks⟩)
      exact ⟨paths, place, reached, selected⟩
  · intro paths selected found
    obtain ⟨place, reached, selected⟩ := Except.bind_eq_ok.mp selected
    have reaches := Tree.openDirectory_eq_ok.mp reached
    rw [mem_searchFrom (exact reaches) selected, Leads]
    simp only [mem_below wellFormed reaches]
    constructor
    · rintro ⟨_, ⟨names, below, rfl⟩, leads⟩
      exact ⟨names, below, leads⟩
    · rintro ⟨names, below, leads⟩
      exact ⟨_, ⟨names, below, rfl⟩, leads⟩

/-- From a directory, the search is exact for any parts. -/
theorem isExact_parts (opened : parts ≠ [] → IsOpen tree path) : IsExact tree parts path := by
  -- Wherever the search goes on, it is for the parts that are left and from another directory.
  induction parts generalizing path with
  | nil => exact ⟨by simp [select, Looks], by simp [select, Leads, eq_comm]⟩
  | cons part rest ih =>
      have isOpen := opened (by simp)
      have later (next : Path) (nextOpen : rest ≠ [] → IsOpen tree next) :
          IsExact tree rest next := ih nextOpen
      cases part with
      | directory => exact ⟨by simp [select, Looks], by simp [select, Leads, eq_comm]⟩
      | name name => exact isExact_name later
      | wildcard wildcard => exact isExact_wildcard wellFormed isOpen later
      | anyDirectories => exact isExact_anyDirectories wellFormed plain isOpen later

end Search

end Discovery

end DocSamples
