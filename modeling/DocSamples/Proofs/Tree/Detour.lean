import DocSamples.Proofs.Tree.WellFormed

namespace DocSamples

open Text

/-! # Detours

Below a directory whose text is long, a name can stand that is reached through a shorter
path only.  Such a path leads somewhere, but its links are not all seen when it is resolved,
because they are looked at by their own text.
-/

namespace Path

variable {path : Path} {name : String}

theorem parent_child (named : IsName name) (path : Path) : (path.child name).parent = path := by
  have kept : path.names.filter (fun text => IsName text) = path.names :=
    List.filter_eq_self.mpr fun other member => by simpa using path.named other member
  rw [child_eq named, parent]
  simp [ofNames, kept, named]

end Path

namespace Tree

/-- The root has a link to a deep directory.  There one link leads back to the root, but its
text is too long, and another one leads to itself, and has the name of a directory at the root. -/
structure IsDetour (tree : Tree) (deep : Place) (far : String) : Prop where
  plain : ∀ name ∈ far :: deep, IsPlain name ∧ name.utf8ByteSize ≤ nameLimit
  filled : deep ≠ []
  beyond : pathLimit ≤ ((Path.ofNames .root deep).child far).text.utf8ByteSize
  near : ((Path.ofNames .root deep).child "x").text.utf8ByteSize < pathLimit
  down : ∀ above below, deep = above ++ below → tree.lookup above = some .directory
  shortcut : tree.lookup ["l"] = some (.link ("/".intercalate deep))
  back : tree.lookup (deep ++ [far]) = some (.link "/")
  loop : tree.lookup (deep ++ ["x"]) = some (.link "x")
  inside : tree.lookup ["x"] = some .directory

/-- The way through the detour. -/
def detourPath (far : String) : Path := .ofNames .root ["l", far, "..", "x"]

variable {tree other : Tree} {aim : Aim} {deep : Place} {far : String} {rest : List String}

theorem walk_link {here : Place} {name target : String} {follows : Nat}
    (top : tree.lookup here = some .directory) (plain : IsPlain name)
    (short : name.utf8ByteSize ≤ nameLimit) (visible : isTrailing rest = false)
    (link : tree.lookup (here ++ [name]) = some (.link target)) :
    tree.walk aim (follows + 1) here (name :: rest) =
      tree.walk aim follows (turn here (Path.anchorOf target.toList))
        (slashNames target ++ rest) := by
  obtain ⟨⟨filled, dot, _⟩, dots, _⟩ := plain
  rw [walk]
  simp only [top, filled, dot, dots, visible, link, Nat.not_lt.mpr short, Bool.and_false,
    Bool.false_eq_true, Bool.or_self, decide_false, if_false]

theorem linkAt_root {names : List String} (plain : ∀ name ∈ names, IsPlain name) :
    tree.linkAt? (.ofNames .root names) =
      if pathLimit ≤ (Path.ofNames .root names).text.utf8ByteSize then none
      else match tree.lookup names with
        | some (.link target) => some target
        | _ => none := by
  have kept : (Path.ofNames .root names).names = names :=
    Path.names_ofNames (fun name member => (plain name member).1) _
  have place : tree.placeOf (.ofNames .root names) = names := by
    rw [placeOf, kept]
    exact plainPlace_plain plain []
  have asked : tree.linkAt? (.ofNames .root names) =
      if pathLimit ≤ (Path.ofNames .root names).text.utf8ByteSize then none
      else match tree.lookup (tree.placeOf (.ofNames .root names)) with
        | some (.link target) => some target
        | _ => none := rfl
  rw [asked, place]

theorem IsDetour.kept (detour : tree.IsDetour deep far) (keeps : tree.KeepsWays other) :
    other.IsDetour deep far where
  plain := detour.plain
  filled := detour.filled
  beyond := detour.beyond
  near := detour.near
  down above below split := keeps.kept _ _ (detour.down above below split) (by simp)
  shortcut := keeps.kept _ _ detour.shortcut (by simp)
  back := keeps.kept _ _ detour.back (by simp)
  loop := keeps.kept _ _ detour.loop (by simp)
  inside := keeps.kept _ _ detour.inside (by simp)

namespace IsDetour

theorem named (detour : tree.IsDetour deep far) : ∀ name ∈ deep, IsName name :=
  fun name member => (detour.plain name (by simp [member])).1.1

theorem names_deep (detour : tree.IsDetour deep far) : (Path.ofNames .root deep).names = deep :=
  Path.names_ofNames detour.named _

theorem names_detourPath (detour : tree.IsDetour deep far) :
    (detourPath far).names = ["l", far, "..", "x"] := by
  have l : IsName "l" := by decide
  have dots : IsName ".." := by decide
  have x : IsName "x" := by decide
  simp [detourPath, Path.ofNames, (detour.plain far (by simp)).1.1, l, dots, x]

theorem slashNames_deep (detour : tree.IsDetour deep far) :
    slashNames ("/".intercalate deep) = deep :=
  slashNames_intercalate detour.filled fun name member => (detour.named name member).2.2

theorem anchorOf_deep (detour : tree.IsDetour deep far) :
    Path.anchorOf ("/".intercalate deep).toList = .here := by
  obtain ⟨name, more, split⟩ := List.exists_cons_of_ne_nil detour.filled
  obtain ⟨c, others, begins, different⟩ :=
    Path.IsName.exists_head (detour.named name (by simp [split]))
  obtain ⟨tail, text⟩ : ∃ tail, ("/".intercalate deep).toList = c :: tail := by
    rw [String.toList_intercalate, split]
    cases more <;> simp [begins]
  rw [text]
  exact (Path.anchorOf_of_ne different tail).1

/-- Followed name by name, the detour comes back to the root. -/
theorem walk_back (detour : tree.IsDetour deep far) :
    tree.walk aim linkLimit [] ("l" :: far :: ".." :: rest) = tree.walk aim 38 [] rest := by
  obtain ⟨plain, short⟩ := detour.plain far (by simp)
  have top : tree.lookup [] = some .directory := rfl
  have deepest : tree.lookup deep = some .directory := detour.down deep [] (by simp)
  have limit : linkLimit = 39 + 1 := rfl
  have through : tree.walk aim 39 [] (deep ++ far :: ".." :: rest) =
      tree.walk aim 39 ([] ++ deep) (far :: ".." :: rest) :=
    walk_through (fun name member => detour.plain name (by simp [member]))
      (fun above below split => by simpa using detour.down above below split)
      (isTrailing_cons plain _)
  have slashes : slashNames "/" = ["", ""] := by decide +kernel
  have root : Path.anchorOf "/".toList = .root := by decide
  rw [limit, walk_link top (by decide) (by decide) (isTrailing_cons plain _) detour.shortcut,
    detour.anchorOf_deep, detour.slashNames_deep, turn, through, List.nil_append,
    walk_link deepest plain short (by simp [isTrailing]) detour.back, root, slashes]
  simp [turn, walk, top]

theorem near_detourPath (detour : tree.IsDetour deep far) :
    (detourPath far).text.utf8ByteSize < pathLimit ∧
      (detourPath far).parent.text.utf8ByteSize < pathLimit ∧
      ((detourPath far).child "s").text.utf8ByteSize < pathLimit := by
  have short := (detour.plain far (by simp)).2
  have names := detour.names_detourPath
  have parent : (detourPath far).parent.names = ["l", far, ".."] := by simp [Path.parent, names]
  have child : ((detourPath far).child "s").names = ["l", far, "..", "x", "s"] := by
    rw [names_child (by decide), names]
    rfl
  have sizes : "l".utf8ByteSize = 1 ∧ "..".utf8ByteSize = 2 ∧ "x".utf8ByteSize = 1 ∧
      "s".utf8ByteSize = 1 := by decide
  rw [Path.utf8ByteSize_text_root rfl (by simp [names]), names,
    Path.utf8ByteSize_text_root rfl (by simp [parent]), parent,
    Path.utf8ByteSize_text_root (anchor_child (by decide)) (by simp [child]), child]
  simp only [nameLimit, pathLimit, List.map_cons, List.map_nil, List.sum_cons, List.sum_nil,
    sizes] at short ⊢
  omega

theorem whole_detourPath (detour : tree.IsDetour deep far) :
    hasNullByte (detourPath far) = false := by
  refine hasNullByte_of_names ?_
  have known : '\x00' ∉ "l".toList ∧ '\x00' ∉ "..".toList ∧ '\x00' ∉ "x".toList := by decide
  simp only [detour.names_detourPath, List.forall_mem_cons, List.not_mem_nil, false_imp_iff,
    implies_true, and_true]
  exact ⟨known.1, (detour.plain far (by simp)).1.2.2, known.2.1, known.2.2⟩

theorem status_detourPath (detour : tree.IsDetour deep far) :
    tree.status (detourPath far) = .ok (["x"], .directory) := by
  have noLink (target : String) : tree.lookup ([] ++ ["x"]) ≠ some (.link target) := by
    simp [detour.inside]
  have located : tree.locate .use (detourPath far) = .ok (["x"], some .directory) := by
    rw [locate, if_neg (Nat.not_le.mpr detour.near_detourPath.1), detour.names_detourPath]
    change tree.walk .use linkLimit [] ("l" :: far :: ".." :: ["x"]) = _
    rw [detour.walk_back, walk_name rfl (by decide) noLink, if_neg (by decide)]
    simp [detour.inside]
  rw [status, located]

/-- The directory at the end of the detour is there already. -/
theorem makeDirectories_detourPath (detour : tree.IsDetour deep far) :
    tree.makeDirectories (detourPath far) = .ok tree := by
  have parent : (detourPath far).parent.names = ["l", far, ".."] := by
    simp [Path.parent, detour.names_detourPath]
  have above : tree.status (detourPath far).parent = .ok ([], .directory) := by
    have located : tree.locate .use (detourPath far).parent = .ok ([], some .directory) := by
      rw [locate, if_neg (Nat.not_le.mpr detour.near_detourPath.2.1), parent]
      change tree.walk .use linkLimit [] ("l" :: far :: ".." :: []) = _
      rw [detour.walk_back, walk]
      rfl
    rw [status, located]
  have once : tree.makeDirectory (detourPath far) = .error .alreadyExists := by
    have size : ¬ nameLimit < "x".utf8ByteSize := by decide
    rw [makeDirectory, detour.names_detourPath, above]
    simp [size, detour.inside]
  have settled : tree.settle (detourPath far) .alreadyExists = .ok tree := by
    rw [settle, isDirectory, leadsTo, if_neg (by simp [detour.whole_detourPath]),
      detour.status_detourPath]
  rw [makeDirectories, if_neg (by simp [detour.whole_detourPath]), once]
  exact settled

theorem names_loop (detour : tree.IsDetour deep far) :
    ((Path.ofNames .root deep).child "x").names = deep ++ ["x"] := by
  rw [names_child (by decide), detour.names_deep]

theorem status_loop (detour : tree.IsDetour deep far) :
    tree.status ((Path.ofNames .root deep).child "x") = .error .tooManyLinks := by
  have deepest : tree.lookup deep = some .directory := detour.down deep [] (by simp)
  have plain : IsPlain "x" := by decide
  have through : tree.walk .use linkLimit [] (deep ++ ["x"]) =
      tree.walk .use linkLimit ([] ++ deep) ["x"] :=
    walk_through (fun name member => detour.plain name (by simp [member]))
      (fun above below split => by simpa using detour.down above below split)
      (isTrailing_cons plain _)
  have located : tree.locate .use ((Path.ofNames .root deep).child "x") = .error .tooManyLinks := by
    rw [locate, if_neg (Nat.not_le.mpr detour.near), detour.names_loop, anchor_child plain]
    exact through.trans (walk_ownLink deepest plain (by decide) detour.loop linkLimit)
  rw [status, located]

theorem isPlain_deep (detour : tree.IsDetour deep far) : ∀ name ∈ deep, IsPlain name :=
  fun name member => (detour.plain name (by simp [member])).1

theorem foldl_deep {above : List String} (plain : ∀ name ∈ above, IsPlain name) :
    above.foldl Path.child (.ofNames .root []) = .ofNames .root above := by
  rw [foldl_child fun name member => (plain name member).1]
  simp [Path.ofNames]

theorem linkAt_deep (detour : tree.IsDetour deep far) (above : List String) (name : String)
    (below : List String) (split : deep = above ++ name :: below) :
    tree.linkAt? ((above ++ [name]).foldl Path.child (.ofNames .root [])) = none := by
  have plain : ∀ other ∈ above ++ [name], IsPlain other := fun other member =>
    detour.isPlain_deep other (by
      rw [split, List.append_cons]
      exact List.mem_append_left below member)
  have there : tree.lookup (above ++ [name]) = some .directory :=
    detour.down (above ++ [name]) below (by simp [split])
  rw [foldl_deep plain, linkAt_root plain, there]
  split <;> rfl

theorem linkAt_loop (detour : tree.IsDetour deep far) :
    tree.linkAt? ((Path.ofNames .root deep).child "x") = some "x" := by
  have plain : ∀ name ∈ deep ++ ["x"], IsPlain name := by
    intro name member
    rcases List.mem_append.mp member with inside | last
    · exact detour.isPlain_deep name inside
    · rw [List.mem_singleton.mp last]
      decide
  have path : (Path.ofNames .root deep).child "x" = .ofNames .root (deep ++ ["x"]) := by
    rw [Path.child_eq (by decide), detour.names_deep]
    rfl
  have near := Nat.not_le.mpr detour.near
  rw [path] at near ⊢
  rw [linkAt_root plain, if_neg near, detour.loop]

theorem linkAt_shortcut (detour : tree.IsDetour deep far) :
    tree.linkAt? ((Path.ofNames .root []).child "l") = some ("/".intercalate deep) := by
  have path : (Path.ofNames .root []).child "l" = .ofNames .root ["l"] :=
    Path.child_eq (by decide) _
  rw [path, linkAt_root (by decide), if_neg (pathLimit_rootChild (by decide) (by decide)),
    detour.shortcut]

theorem resolve_detourPath (detour : tree.IsDetour deep far) :
    tree.resolve (detourPath far) =
      .error (.linkLoop ((Path.ofNames .root deep).child "x").text) := by
  refine resolve_circle rfl rfl (by simp [detour.names_loop]) ?_ ?_ detour.status_loop
  · intro name member
    rw [detour.names_loop, List.mem_append, List.mem_singleton] at member
    rcases member with inside | rfl
    · exact detour.isPlain_deep name inside
    · decide
  · obtain ⟨room, enough⟩ := exists_linkRoom (mem_entries_of_lookup (by simp) detour.shortcut)
    rw [detour.names_detourPath, enough]
    have plain : IsPlain far := (detour.plain far (by simp)).1
    have start : targetStart (.ofNames .root []) ("/".intercalate deep) = .ofNames .root [] := by
      rw [targetStart, detour.anchorOf_deep]
    have beyond : tree.linkAt? ((Path.ofNames .root deep).child far) = none := by
      rw [linkAt?, if_pos detour.beyond]
    rw [List.map_cons, resolveFrom_enter (by decide) detour.linkAt_shortcut rfl, if_neg (by simp),
      start, detour.slashNames_deep, resolveFrom_through detour.isPlain_deep detour.linkAt_deep,
      foldl_deep detour.isPlain_deep, resolveFrom, List.map_cons, resolveFrom_pass plain beyond]
    -- The link behind the long text has not been seen, so the double dots take back its name.
    have up : above ((Path.ofNames .root deep).child far) = .ofNames .root deep := by
      have root : ((Path.ofNames .root deep).child far).anchor = .root := anchor_child plain
      rw [above, root]
      exact Path.parent_child plain.1 _
    have other : (Path.ofNames .root deep).child "x" ≠ (Path.ofNames .root []).child "l" := by
      intro same
      have names := congrArg Path.names same
      rw [detour.names_loop, names_child (by decide)] at names
      have length := congrArg List.length names
      simp [Path.ofNames, detour.filled] at length
    rw [List.map_cons, resolveFrom, if_neg (by decide), if_pos rfl, up]
    refine resolveFrom_ownLink (by decide) detour.linkAt_loop (by simpa using other) ?_
    simp only [List.lookup, beq_eq_false_iff_ne.mpr other]

end IsDetour

end Tree

end DocSamples
