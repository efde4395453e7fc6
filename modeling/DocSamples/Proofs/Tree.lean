import Mathlib
import DocSamples.Tree.Resolve
import DocSamples.Proofs.Path

namespace DocSamples

open Text

/-! # What is found in a tree

A path leads to a place, and what is there is what the tree has at that place.  In a
tree without links a path without double dots stands for itself.
-/

/-- What keeps a path from being followed: a null byte, a circle of links, or its length. -/
inductive PathFault.IsObstruction : PathFault → Prop
  | nullByte : IsObstruction .nullByte
  | linkLoop (text : String) : IsObstruction (.linkLoop text)
  | tooLong (text : String) : IsObstruction (.system .nameTooLong text)

namespace Tree

variable {tree : Tree} {aim : Aim} {follows : Nat} {here place : Place} {names : List String}
  {path : Path}

theorem lookup_of_walk {found : Option Entry}
    (walked : tree.walk aim follows here names = .ok (place, found)) :
    tree.lookup place = found := by
  fun_induction walk tree aim follows here names with
  | case1 follows here =>
      cases walked
      rfl
  | case2 _ _ _ _ _ _ ih | case3 _ _ _ _ _ ih => exact ih walked
  | case6 _ _ _ _ _ _ _ missing =>
      cases walked
      exact missing
  | case9 _ _ _ _ _ _ _ _ _ _ _ ih => exact ih walked
  | case10 _ _ _ _ _ _ _ _ _ _ _ _ ih => exact ih walked
  | case4 | case5 | case7 | case8 | case11 => simp at walked

theorem walk_of_status {entry : Entry} (found : tree.status path = .ok (place, entry)) :
    tree.walk .use linkLimit (turn tree.current path.anchor) path.names =
      .ok (place, some entry) := by
  rw [status, locate] at found
  split at found
  · rename_i located
    cases found
    split at located
    · simp at located
    · exact located
  · simp at found
  · simp at found

theorem lookup_of_status {entry : Entry} (found : tree.status path = .ok (place, entry)) :
    tree.lookup place = some entry :=
  lookup_of_walk (walk_of_status found)

theorem exists_file_of_readText {text : String} (read : tree.readText path = .ok text) :
    ∃ place bytes chars, tree.lookup place = some (.file bytes) ∧
      Utf8.decode bytes = .ok chars ∧ text = String.ofList (unifyLineEnds chars) := by
  rw [readText] at read
  split at read
  · simp at read
  · rename_i bytes readBytes
    split at read
    · simp at read
    · rename_i chars decoded
      cases read
      rw [Tree.readBytes] at readBytes
      split at readBytes
      · simp at readBytes
      · split at readBytes
        · rename_i place same found
          cases readBytes
          exact ⟨place, bytes, chars, lookup_of_status found, decoded, rfl⟩
        · simp at readBytes
        · simp at readBytes

theorem lookup_set_self (entry : Entry) (below : place ≠ []) :
    (tree.set place entry).lookup place = some entry := by
  simp [lookup, set, below]

theorem lookup_set_of_ne {other : Place} (entry : Entry) (different : other ≠ place) :
    (tree.set place entry).lookup other = tree.lookup other := by
  rw [lookup, lookup]
  split
  · rfl
  · congr 1
    have kept (key : Place × Entry) (here : (key.1 == other) = true) : (key.1 != place) = true := by
      simp only [beq_iff_eq] at here
      simp [here, different]
    simp only [set, List.find?_cons, beq_eq_false_iff_ne.mpr (Ne.symm different),
      List.find?_filter]
    congr 1
    funext key
    by_cases here : (key.1 == other) = true
    · simp [here, kept key here]
    · simp [here]

/-! ## What cannot be followed -/

theorem cause_of_walk {cause : FileCause}
    (failed : tree.walk .use follows here names = .error cause) :
    cause = .notFound ∨ cause = .notDirectory ∨ cause = .tooManyLinks ∨ cause = .nameTooLong := by
  generalize use : Aim.use = aim at failed
  fun_induction walk tree aim follows here names with
  | case2 _ _ _ _ _ _ ih | case3 _ _ _ _ _ ih => exact ih failed
  | case9 _ _ _ _ _ _ _ _ _ _ _ ih => exact ih failed
  | case10 _ _ _ _ _ _ _ _ _ _ _ _ ih => exact ih failed
  | case4 => simp_all
  | case1 | case6 => simp at failed
  | case5 | case7 | case8 | case11 =>
      cases failed
      simp

theorem cause_of_status {cause : FileCause} (failed : tree.status path = .error cause) :
    cause = .notFound ∨ cause = .notDirectory ∨ cause = .tooManyLinks ∨ cause = .nameTooLong := by
  rw [status] at failed
  split at failed
  · simp at failed
  · cases failed
    simp
  · rename_i located
    cases failed
    rw [locate] at located
    split at located
    · cases located
      simp
    · exact cause_of_walk located

/-- A path that is too long to be looked up, as a whole or in one of its names. -/
structure IsTooLong (tree : Tree) (path : Path) : Prop where
  whole : hasNullByte path = false
  long : tree.status path = .error .nameTooLong

theorem leadsTo_eq_error {kind : Entry → Bool} {fault : PathFault} :
    tree.leadsTo kind path = .error fault ↔
      tree.IsTooLong path ∧ fault = .system .nameTooLong path.text := by
  rw [leadsTo]
  cases null : hasNullByte path with
  | true =>
      simp only [if_true, reduceCtorEq, false_iff]
      rintro ⟨⟨whole, _⟩, _⟩
      simp [null] at whole
  | false =>
      cases reached : tree.status path with
      | ok found =>
          simp only [Bool.false_eq_true, if_false, reduceCtorEq, false_iff]
          rintro ⟨⟨_, long⟩, _⟩
          simp [reached] at long
      | error cause =>
          have long : tree.IsTooLong path ↔ cause = .nameTooLong :=
            ⟨fun tooLong => by simpa [reached] using tooLong.long,
              fun same => ⟨null, by rw [reached, same]⟩⟩
          rw [long]
          rcases cause_of_status reached with rfl | rfl | rfl | rfl <;> simp [eq_comm]

/-- A path is looked at unless it is too long to be looked up. -/
theorem exists_leadsTo {kind : Entry → Bool} :
    (∃ found, tree.leadsTo kind path = .ok found) ↔ ¬ tree.IsTooLong path := by
  cases looked : tree.leadsTo kind path with
  | ok found =>
      simp only [Except.ok.injEq, exists_eq', true_iff]
      intro tooLong
      have failed : tree.leadsTo kind path = .error (.system .nameTooLong path.text) :=
        leadsTo_eq_error.mpr ⟨tooLong, rfl⟩
      simp [looked] at failed
  | error fault => simp [(leadsTo_eq_error.mp looked).1]

theorem exists_leadsTo_iff {kind : Entry → Bool} (whole : hasNullByte path = false) :
    (∃ found, tree.leadsTo kind path = .ok found) ↔ tree.status path ≠ .error .nameTooLong :=
  exists_leadsTo.trans (not_congr ⟨IsTooLong.long, fun long => ⟨whole, long⟩⟩)

theorem fault_of_leadsTo {kind : Entry → Bool} {fault : PathFault}
    (failed : tree.leadsTo kind path = .error fault) : fault.IsObstruction := by
  obtain ⟨_, rfl⟩ := leadsTo_eq_error.mp failed
  exact .tooLong _

theorem hasNullByte_of_resolve {resolved : Path} (resolves : tree.resolve path = .ok resolved) :
    hasNullByte resolved = false := by
  simp only [resolve] at resolves
  split at resolves
  · simp at resolves
  · split at resolves
    · simp at resolves
    · rename_i whole
      split at resolves
      · simp at resolves
      · cases resolves
        simpa using whole

theorem fault_of_resolveFrom {room : Nat} {seen : List Path} {known : List (Path × Path)}
    {start : Path} {steps : List Step} {fault : PathFault}
    (failed : tree.resolveFrom room seen known start steps = .error fault) : fault = .nullByte := by
  fun_induction resolveFrom tree room seen known start steps <;> simp_all

theorem fault_of_resolve {fault : PathFault} (failed : tree.resolve path = .error fault) :
    fault.IsObstruction := by
  simp only [resolve] at failed
  split at failed
  · rename_i following
    cases failed
    rw [fault_of_resolveFrom following]
    exact .nullByte
  · split at failed
    · cases failed
      exact .nullByte
    · split at failed
      · cases failed
        exact .linkLoop _
      · simp at failed

/-! ## Trees without links -/

def NoLinks (tree : Tree) : Prop :=
  ∀ place target, tree.lookup place ≠ some (.link target)

/-- A name that leads down, to something that may be there or not. -/
def IsPlain (name : String) : Prop :=
  IsName name ∧ name ≠ ".." ∧ '\x00' ∉ name.toList

instance (name : String) : Decidable (IsPlain name) :=
  inferInstanceAs (Decidable (_ ∧ _ ∧ _))

theorem noLinks_of_entries (plain : ∀ place target, (place, .link target) ∉ tree.entries) :
    tree.NoLinks := by
  intro place target found
  rw [lookup] at found
  split at found
  · simp at found
  · obtain ⟨⟨other, entry⟩, first, rfl⟩ := Option.map_eq_some_iff.mp found
    exact plain other target (List.mem_of_find?_eq_some first)

theorem noLinks_of_entries_nil (empty : tree.entries = []) : tree.NoLinks :=
  noLinks_of_entries (by simp [empty])

theorem walk_ne_tooManyLinks (noLinks : tree.NoLinks) :
    tree.walk aim follows here names ≠ .error .tooManyLinks := by
  fun_induction walk tree aim follows here names with
  | case2 _ _ _ _ _ _ ih | case3 _ _ _ _ _ ih => exact ih
  | case8 _ _ _ _ _ _ _ _ target link => exact absurd link (noLinks _ target)
  | case9 _ _ _ _ _ _ _ _ target link => exact absurd link (noLinks _ target)
  | case10 _ _ _ _ _ _ _ _ _ _ _ _ ih => exact ih
  | case1 | case4 | case5 | case6 | case7 | case11 => simp

theorem status_ne_tooManyLinks (noLinks : tree.NoLinks) :
    tree.status path ≠ .error .tooManyLinks := by
  intro circular
  rw [status] at circular
  split at circular
  · simp at circular
  · simp at circular
  · rename_i located
    cases circular
    rw [locate] at located
    split at located
    · simp at located
    · exact walk_ne_tooManyLinks noLinks located

theorem linkAt_eq_none (noLinks : tree.NoLinks) : tree.linkAt? path = none := by
  rw [linkAt?]
  split
  · rfl
  · split
    · rename_i target found
      exact absurd found (noLinks _ target)
    · rfl

section Steps

variable {room : Nat} {seen : List Path} {known : List (Path × Path)} {start : Path}
  {rest : List Step} {name target : String}

/-- A name that is no link is followed. -/
theorem resolveFrom_pass (plain : IsPlain name) (noLink : tree.linkAt? (start.child name) = none) :
    tree.resolveFrom room seen known start (.follow name :: rest) =
      tree.resolveFrom room seen known (start.child name) rest := by
  obtain ⟨⟨filled, dot, _⟩, dots, whole⟩ := plain
  rw [resolveFrom]
  simp [filled, dot, dots, whole, noLink]

/-- A link that is new is entered, or a circle if it has been entered. -/
theorem resolveFrom_enter (plain : IsPlain name)
    (link : tree.linkAt? (start.child name) = some target)
    (unknown : known.lookup (start.child name) = none) :
    tree.resolveFrom (room + 1) seen known start (.follow name :: rest) =
      if start.child name ∈ seen then .ok (.circle (circleText (start.child name) rest))
      else tree.resolveFrom room (start.child name :: seen) known (targetStart start target)
        ((slashNames target).map .follow ++ .arrive (start.child name) :: rest) := by
  obtain ⟨⟨filled, dot, _⟩, dots, whole⟩ := plain
  rw [resolveFrom]
  simp [filled, dot, dots, whole, link, unknown]

/-- Names that lead through no link are followed one after the other. -/
theorem resolveFrom_through (plain : ∀ name ∈ names, IsPlain name)
    (noLink : ∀ above name below, names = above ++ name :: below →
      tree.linkAt? ((above ++ [name]).foldl Path.child start) = none) :
    tree.resolveFrom room seen known start (names.map .follow ++ rest) =
      tree.resolveFrom room seen known (names.foldl Path.child start) rest := by
  induction names generalizing start with
  | nil => rfl
  | cons name more ih =>
      rw [List.map_cons, List.cons_append,
        resolveFrom_pass (plain name (by simp)) (noLink [] name more rfl)]
      exact ih (fun other member => plain other (by simp [member])) fun above other below split =>
        noLink (name :: above) other below (by simp [split])

end Steps

theorem resolveFrom_plain (noLinks : tree.NoLinks) (plain : ∀ name ∈ names, IsPlain name)
    {room : Nat} {seen : List Path} {known : List (Path × Path)} (start : Path) :
    tree.resolveFrom room seen known start (names.map .follow) =
      .ok (.place (names.foldl Path.child start)) := by
  rw [← List.append_nil (names.map Step.follow),
    resolveFrom_through plain fun _ _ _ _ => linkAt_eq_none noLinks, resolveFrom]

theorem foldl_child (named : ∀ name ∈ names, IsName name) (start : Path) :
    names.foldl Path.child start = .ofNames start.anchor (start.names ++ names) := by
  induction names generalizing start with
  | nil => simp [Path.ofNames_names]
  | cons name rest ih =>
      have kept : start.names.filter (fun text => IsName text) = start.names :=
        List.filter_eq_self.mpr fun other member => by simpa using start.named other member
      rw [List.foldl_cons, ih fun other member => named other (by simp [member]),
        Path.child_eq (named name (by simp))]
      simp [Path.ofNames, kept, named name (by simp)]

theorem plainPlace_plain (plain : ∀ name ∈ names, IsPlain name) (place : Place) :
    plainPlace place names = place ++ names := by
  induction names generalizing place with
  | nil => simp [plainPlace]
  | cons name rest ih =>
      obtain ⟨⟨filled, dot, _⟩, dots, _⟩ := plain name (by simp)
      simp [plainPlace, filled, dot, dots, ih fun other member => plain other (by simp [member])]

theorem plainPlace_append (place : Place) (first second : List String) :
    plainPlace place (first ++ second) = plainPlace (plainPlace place first) second := by
  induction first generalizing place with
  | nil => rfl
  | cons name rest ih =>
      rw [List.cons_append, plainPlace, plainPlace, ih, ih, ih]
      split_ifs <;> rfl

theorem hasNullByte_of_names (whole : ∀ name ∈ path.names, '\x00' ∉ name.toList) :
    hasNullByte path = false := by
  rw [hasNullByte, ← Bool.not_eq_true, List.contains_iff_mem]
  intro null
  rcases Path.mem_text null with dot | slash | ⟨name, member, inside⟩
  · simp at dot
  · simp at slash
  · exact whole name member inside

theorem hasNullByte_eq_false (plain : ∀ name ∈ path.names, IsPlain name) :
    hasNullByte path = false :=
  hasNullByte_of_names fun name member => (plain name member).2.2

theorem resolve_eq_self (noLinks : tree.NoLinks) (root : path.anchor = .root)
    (plain : ∀ name ∈ path.names, IsPlain name) : tree.resolve path = .ok path := by
  have whole := path.ofNames_names
  rw [root] at whole
  have reached : path.names.foldl Path.child (.ofNames .root []) = path := by
    rw [foldl_child fun name member => (plain name member).1]
    simpa [Path.ofNames] using whole
  have resolved : (Resolution.place path).toPath tree = path := by
    rw [Resolution.toPath, placeOf, root, plainPlace_plain plain]
    exact whole
  have absolute : path.isAbsolute = true := by simp [Path.isAbsolute, root]
  rw [resolve, if_pos absolute, resolveFrom_plain noLinks plain, reached]
  simp only [resolved, hasNullByte_eq_false plain]
  split
  · contradiction
  · split
    · rename_i circular
      exact absurd circular (status_ne_tooManyLinks noLinks)
    · rfl

/-! ## Ways down -/

section Down

variable {name : String}

theorem isTrailing_cons (plain : IsPlain name) (rest : List String) :
    isTrailing (name :: rest) = false := by
  simp [isTrailing, plain.1.1]

theorem walk_name (there : tree.lookup here = some .directory) (plain : IsPlain name)
    (noLink : ∀ target, tree.lookup (here ++ [name]) ≠ some (.link target)) :
    tree.walk aim follows here [name] =
      if nameLimit < name.utf8ByteSize then .error .nameTooLong
      else .ok (here ++ [name], tree.lookup (here ++ [name])) := by
  obtain ⟨⟨filled, dot, _⟩, dots, _⟩ := plain
  rw [walk]
  simp only [there, filled, dot, dots, isTrailing, List.isEmpty_nil, Bool.not_true,
    Bool.false_and, Bool.and_false, Bool.false_eq_true, Bool.or_self, decide_false, if_false]
  split
  · rfl
  · cases found : tree.lookup (here ++ [name]) with
    | none => simp
    | some entry =>
        cases entry with
        | link target => exact absurd found (noLink target)
        | file | directory => simp [walk, found]

/-- Names that lead from directory to directory can be gone through. -/
theorem walk_through {rest : List String}
    (plain : ∀ name ∈ names, IsPlain name ∧ name.utf8ByteSize ≤ nameLimit)
    (directories : ∀ above below, names = above ++ below →
      tree.lookup (here ++ above) = some .directory)
    (further : isTrailing rest = false) :
    tree.walk aim follows here (names ++ rest) = tree.walk aim follows (here ++ names) rest := by
  induction names generalizing here with
  | nil => simp
  | cons name more ih =>
      obtain ⟨⟨⟨filled, dot, _⟩, dots, _⟩, short⟩ := plain name (by simp)
      have top : tree.lookup here = some .directory := by
        simpa using directories [] (name :: more) rfl
      have next : tree.lookup (here ++ [name]) = some .directory := directories [name] more rfl
      have inside : isTrailing (more ++ rest) = false := by
        cases more with
        | nil => exact further
        | cons next others => exact isTrailing_cons (plain next (by simp)).1 _
      rw [List.cons_append, walk]
      simp only [top, next, filled, dot, dots, inside, Nat.not_lt.mpr short, Bool.and_false,
        Bool.false_eq_true, Bool.or_self, decide_false, if_false]
      have later : tree.walk aim follows (here ++ [name]) (more ++ rest) =
          tree.walk aim follows (here ++ [name] ++ more) rest :=
        ih (fun other member => plain other (by simp [member])) fun above below split => by
          simpa using directories (name :: above) below (by simp [split])
      simpa using later

/-- Names that lead from directory to directory lead to their own place. -/
theorem walk_down (plain : ∀ name ∈ names, IsPlain name ∧ name.utf8ByteSize ≤ nameLimit)
    (directories : ∀ above name below, names = above ++ name :: below →
      tree.lookup (here ++ above) = some .directory)
    (noLink : ∀ target, tree.lookup (here ++ names) ≠ some (.link target)) :
    tree.walk aim follows here names = .ok (here ++ names, tree.lookup (here ++ names)) := by
  rcases List.eq_nil_or_concat' names with rfl | ⟨above, name, rfl⟩
  · simp [walk]
  · obtain ⟨own, short⟩ := plain name (by simp)
    have through : tree.walk aim follows here (above ++ [name]) =
        tree.walk aim follows (here ++ above) [name] := by
      refine walk_through (fun other member => plain other (by simp [member])) ?_
        (isTrailing_cons own [])
      rintro first (_ | ⟨next, below⟩) rfl
      · exact directories _ name [] (by simp)
      · exact directories first next (below ++ [name]) (by simp)
    rw [through, walk_name (directories above name [] rfl) own (by simpa using noLink),
      if_neg (Nat.not_lt.mpr short), List.append_assoc]

theorem names_rootChild (named : IsName name) : (Path.ofNames .root [name]).names = [name] := by
  simp [Path.ofNames, named]

theorem text_rootChild (named : IsName name) : (Path.ofNames .root [name]).text = "/" ++ name := by
  simp [Path.text, Path.ofNames, named, Anchor.text]

theorem pathLimit_rootChild (named : IsName name) (short : name.utf8ByteSize ≤ nameLimit) :
    ¬ pathLimit ≤ (Path.ofNames .root [name]).text.utf8ByteSize := by
  have slash : "/".utf8ByteSize = 1 := by decide
  rw [text_rootChild named, String.utf8ByteSize_append]
  simp only [nameLimit, pathLimit] at *
  omega

theorem hasNullByte_rootChild (plain : IsPlain name) :
    hasNullByte (.ofNames .root [name]) = false :=
  hasNullByte_eq_false (by simpa [names_rootChild plain.1] using plain)

/-- What is at the root is found there, if it is no link. -/
theorem locate_rootChild (plain : IsPlain name) (short : name.utf8ByteSize ≤ nameLimit)
    (noLink : ∀ target, tree.lookup [name] ≠ some (.link target)) :
    tree.locate aim (.ofNames .root [name]) = .ok ([name], tree.lookup [name]) := by
  rw [locate, if_neg (pathLimit_rootChild plain.1 short), names_rootChild plain.1]
  refine walk_down (by simpa using ⟨plain, short⟩) ?_ noLink
  rintro (_ | ⟨first, above⟩) name below split
  · simp [Path.ofNames, turn, lookup]
  · simp at split

theorem readBytes_rootChild {bytes : Utf8.Bytes} (plain : IsPlain name)
    (short : name.utf8ByteSize ≤ nameLimit) (found : tree.lookup [name] = some (.file bytes)) :
    tree.readBytes (.ofNames .root [name]) = .ok bytes := by
  have located : tree.locate .use (.ofNames .root [name]) = .ok ([name], tree.lookup [name]) :=
    locate_rootChild plain short (by simp [found])
  rw [readBytes, if_neg (by simp [hasNullByte_rootChild plain]), status, located, found]

theorem makeDirectories_rootChild (plain : IsPlain name) (short : name.utf8ByteSize ≤ nameLimit)
    (free : tree.lookup [name] = none) :
    tree.makeDirectories (.ofNames .root [name]) = .ok (tree.set [name] .directory) := by
  have parent : (Path.ofNames .root [name]).parent = .ofNames .root [] := by
    simp [Path.parent, Path.ofNames, plain.1]
  have located : tree.locate .use (.ofNames .root []) = .ok ([], some .directory) := by
    have text : (Path.ofNames .root []).text = "/" := by decide
    rw [locate, text, if_neg (by decide)]
    simp [Path.ofNames, walk, turn, lookup]
  have made : tree.makeDirectory (.ofNames .root [name]) = .ok (tree.set [name] .directory) := by
    rw [makeDirectory, names_rootChild plain.1, parent, status, located]
    simp [plain.2.1, Nat.not_lt.mpr short, free]
  rw [makeDirectories, if_neg (by simp [hasNullByte_rootChild plain]), made]

end Down

/-! ## Links to themselves -/

/-- A link at the root that leads back to itself. -/
structure IsSelfLink (tree : Tree) (name : String) : Prop where
  plain : IsPlain name
  short : name.utf8ByteSize ≤ nameLimit
  entry : (([name], .link name) : Place × Entry) ∈ tree.entries
  found : tree.lookup [name] = some (.link name)

section SelfLink

variable {name : String}

theorem slashNames_of_isName (named : IsName name) : slashNames name = [name] := by
  rw [slashNames, Path.splitSlashes_of_not_mem named.2.2]
  simp

theorem anchorOf_of_isName (named : IsName name) : Path.anchorOf name.toList = .here := by
  obtain ⟨c, rest, split, different⟩ := Path.IsName.exists_head named
  rw [split]
  exact (Path.anchorOf_of_ne different rest).1

/-- A link to itself is followed until no more links are. -/
theorem walk_ownLink (top : tree.lookup here = some .directory) (plain : IsPlain name)
    (short : name.utf8ByteSize ≤ nameLimit)
    (found : tree.lookup (here ++ [name]) = some (.link name)) (follows : Nat) :
    tree.walk .use follows here [name] = .error .tooManyLinks := by
  obtain ⟨named, dots, _⟩ := plain
  induction follows with
  | zero => simp [walk, top, named.1, named.2.1, dots, short, found]
  | succ more ih =>
      simp [walk, top, named.1, named.2.1, dots, short, found, turn, anchorOf_of_isName named,
        slashNames_of_isName named, ih]

theorem linkAt_selfLink (loops : tree.IsSelfLink name) :
    tree.linkAt? (.ofNames .root [name]) = some name := by
  obtain ⟨named, dots, _⟩ := loops.plain
  have place : tree.placeOf (.ofNames .root [name]) = [name] := by
    rw [placeOf, names_rootChild named]
    simp [Path.ofNames, turn, plainPlace, named.1, named.2.1, dots]
  rw [linkAt?, if_neg (pathLimit_rootChild loops.plain.1 loops.short), place, loops.found]

/-- A link to itself is entered once, and then it is known to be a circle. -/
theorem resolveFrom_ownLink {room : Nat} {seen : List Path} {known : List (Path × Path)}
    {start : Path} (plain : IsPlain name) (link : tree.linkAt? (start.child name) = some name)
    (unseen : start.child name ∉ seen) (unknown : known.lookup (start.child name) = none) :
    tree.resolveFrom (room + 2) seen known start [.follow name] =
      .ok (.circle (circleText (start.child name) [.arrive (start.child name)])) := by
  have target : targetStart start name = start := by rw [targetStart, anchorOf_of_isName plain.1]
  rw [resolveFrom_enter plain link unknown, if_neg unseen, target, slashNames_of_isName plain.1,
    List.map_singleton, List.singleton_append, resolveFrom_enter plain link unknown,
    if_pos (List.mem_cons_self ..)]

theorem exists_linkRoom {place : Place} {target : String}
    (held : (place, .link target) ∈ tree.entries) : ∃ room, tree.linkRoom = room + 3 := by
  refine Nat.exists_eq_add_of_le' (Nat.le_trans (show 3 ≤ 1 * pathLimit by decide) ?_)
  exact Nat.mul_le_mul_right pathLimit
    (List.length_pos_of_mem (List.mem_filter.mpr ⟨held, rfl⟩))

theorem slashNames_intercalate (filled : names ≠ []) (named : ∀ name ∈ names, '/' ∉ name.toList) :
    slashNames ("/".intercalate names) = names := by
  have plain : ∀ part ∈ names.map String.toList, '/' ∉ part := by
    intro part member
    obtain ⟨name, inside, rfl⟩ := List.mem_map.mp member
    exact named name inside
  have slash : "/".toList = ['/'] := rfl
  rw [slashNames, String.toList_intercalate, slash,
    Path.splitSlashes_intercalate (by simpa using filled) plain]
  simp

theorem not_endsWith_slash (filled : path.names ≠ []) :
    path.text ≠ "" ∧ path.text.endsWith "/" = false := by
  obtain ⟨above, name, split⟩ := List.eq_nil_or_concat' path.names |>.resolve_left filled
  have named : IsName name := path.named name (by simp [split])
  have child : path = path.parent.child name := by
    have dropped : path.parent.anchor = path.anchor ∧ path.parent.names ++ [name] = path.names := by
      simp [Path.parent, split]
    rw [Path.child_eq named, dropped.1, dropped.2, Path.ofNames_names]
  obtain ⟨front, text⟩ : ∃ front, path.text = front ++ name := ⟨_, by rw [child, Path.text_child named]⟩
  obtain ⟨c, rest, begins, _⟩ := Path.IsName.exists_head named
  refine ⟨fun empty => by simp [text, named.1] at empty, ?_⟩
  rw [← Bool.not_eq_true, ← String.endsWith_toSlice, String.Slice.endsWith_string_iff]
  rintro ⟨before, same⟩
  have last : some '/' = name.toList.getLast? := by
    have last := congrArg List.getLast? same
    have some : name.toList.getLast?.or front.toList.getLast? = name.toList.getLast? := by
      rw [begins, List.getLast?_cons, Option.some_or]
    simpa [text, some] using last
  exact named.2.2 (List.mem_of_getLast? last.symm)

/-- What is left of a circle at a link, behind which nothing stands. -/
theorem circleText_arrive (filled : path.names ≠ []) :
    circleText path [.arrive path] = path.text ++ "/" := by
  obtain ⟨some, open'⟩ := not_endsWith_slash filled
  have closed : (path.text ++ "/").endsWith "/" = true := by
    rw [← String.endsWith_toSlice, String.Slice.endsWith_string_iff]
    simp
  simp [circleText, leftover, joinTexts, some, open', closed]

theorem absolute_text_slash (root : path.anchor = .root) (filled : path.names ≠ [])
    (plain : ∀ name ∈ path.names, IsPlain name) : tree.absolute (path.text ++ "/") = path := by
  have parts : path.text ++ "/" = "/".intercalate ([""] ++ (path.names ++ [""])) := by
    rw [Path.text_of_ne_nil filled, root, String.intercalate_append_of_ne_nil (by simp) (by simp),
      String.intercalate_append_of_ne_nil filled (by simp)]
    simp [Anchor.text, String.append_assoc]
  have anchor : Path.anchorOf (path.text ++ "/").toList = .root := by
    obtain ⟨name, rest, split⟩ := List.exists_cons_of_ne_nil filled
    obtain ⟨c, more, begins, different⟩ := Path.IsName.exists_head (path.named name (by simp [split]))
    obtain ⟨others, text⟩ : ∃ others, (path.text ++ "/").toList = '/' :: c :: others := by
      rw [String.toList_append, Path.toList_text_of_ne_nil filled, root, split]
      cases rest <;> simp [Anchor.text, begins]
    rw [text]
    exact (Path.anchorOf_of_ne different others).2.1
  have names : slashNames (path.text ++ "/") = [""] ++ (path.names ++ [""]) := by
    rw [parts, slashNames_intercalate (by simp)]
    intro name member
    simp only [List.mem_append, List.mem_singleton] at member
    rcases member with rfl | inside | rfl
    · simp
    · exact (plain name inside).1.2.2
    · simp
  have place : plainPlace [] ([""] ++ (path.names ++ [""])) = path.names := by
    rw [List.singleton_append, plainPlace, if_pos (by decide), plainPlace_append]
    simp [plainPlace_plain plain, plainPlace]
  have whole := path.ofNames_names
  rw [root] at whole
  simp only [absolute, anchor, names, turn, place, reduceCtorEq, if_false]
  exact whole

/-- A path that is caught in a circle at a link is not resolved. -/
theorem resolve_circle {link : Path} (absolute : path.isAbsolute = true)
    (root : link.anchor = .root) (filled : link.names ≠ [])
    (plain : ∀ name ∈ link.names, IsPlain name)
    (caught : tree.resolveFrom tree.linkRoom [] [] (.ofNames .root []) (path.names.map .follow) =
      .ok (.circle (circleText link [.arrive link])))
    (loops : tree.status link = .error .tooManyLinks) :
    tree.resolve path = .error (.linkLoop link.text) := by
  rw [resolve, if_pos absolute, caught]
  simp only [Resolution.toPath, circleText_arrive filled, absolute_text_slash root filled plain,
    hasNullByte_eq_false plain, loops, Bool.false_eq_true, if_false]

theorem resolve_selfLink (loops : tree.IsSelfLink name) :
    tree.resolve (.ofNames .root [name]) = .error (.linkLoop ("/" ++ name)) := by
  have named := loops.plain.1
  have names := names_rootChild named
  have child : (Path.ofNames .root []).child name = .ofNames .root [name] :=
    (Path.child_eq named _).trans (by simp [Path.ofNames])
  have status : tree.status (.ofNames .root [name]) = .error .tooManyLinks := by
    have located : tree.locate .use (.ofNames .root [name]) = .error .tooManyLinks := by
      rw [locate, if_neg (pathLimit_rootChild named loops.short), names]
      exact walk_ownLink rfl loops.plain loops.short loops.found linkLimit
    rw [status, located]
  have link : tree.linkAt? ((Path.ofNames .root []).child name) = some name := by
    rw [child]
    exact linkAt_selfLink loops
  rw [resolve_circle rfl rfl (by simp [names]) (by simpa [names] using loops.plain) ?_ status,
    text_rootChild named]
  obtain ⟨room, enough⟩ := exists_linkRoom loops.entry
  rw [names, enough, List.map_singleton, resolveFrom_ownLink loops.plain link (by simp) rfl, child]

end SelfLink

end Tree

end DocSamples
