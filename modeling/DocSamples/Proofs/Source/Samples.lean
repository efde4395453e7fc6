import Mathlib
import DocSamples.Proofs.Source.Injection

namespace DocSamples

open Text

/-! # Samples in sources

A sample goes into one source, and its lines stand there together.  They can only
be lost to a later buffer for a region that reaches over them: what a file has
between the markers of a region is replaced, samples included.
-/

namespace Assembly

variable {tree : Tree} {assembly next last : Assembly} {buffer : Buffer} {name : String}
  {source old : Source} {frame : Region.Frame} {run : List String}

/-- The source that has the region of a buffer, with what the buffer leaves of it. -/
def cut? (assembly : Assembly) (buffer : Buffer) : Option (Source × Region.Frame) := do
  let path ← buffer.id.path
  let region ← buffer.id.namedRegion?
  let source ← assembly.sources.find? path.text
  let frame ← Region.frame? source.text region
  return (source, frame)

/-- Wherever lines stand together in an editable source, the buffers leave them so. -/
def Spares (tree : Tree) (run : List String) (assembly : Assembly) : List Buffer → Prop
  | [] => True
  | buffer :: rest =>
      (∀ source frame, assembly.cut? buffer = some (source, frame) → source.editable = true →
        run <:+: lines source.text → run <:+: frame.above ∨ run <:+: frame.below) ∧
      ∀ next, (assembly.addBuffer tree buffer).outcome = .ok next → next.Spares tree run rest

/-- A sample source has the lines, one after the other. -/
def Shows (assembly : Assembly) (name : String) (run : List String) : Prop :=
  ∃ source, assembly.sources.find? name = some source ∧ source.editable = true ∧
    run <:+: lines source.text

theorem cut_eq_some (cut : assembly.cut? buffer = some (old, frame)) :
    ∃ path region, buffer.id.path = some path ∧ buffer.id.namedRegion? = some region ∧
      assembly.sources.find? path.text = some old ∧
      Region.frame? old.text region = some frame := by
  obtain ⟨path, place, cut⟩ := Option.bind_eq_some_iff.mp cut
  obtain ⟨region, named, cut⟩ := Option.bind_eq_some_iff.mp cut
  obtain ⟨source, present, cut⟩ := Option.bind_eq_some_iff.mp cut
  obtain ⟨kept, framed, cut⟩ := Option.bind_eq_some_iff.mp cut
  cases cut
  exact ⟨path, region, place, named, present, framed⟩

theorem addsTo_of_cut (added : (assembly.addBuffer tree buffer).outcome = .ok next)
    (cut : assembly.cut? buffer = some (old, frame)) :
    ∃ name source, assembly.AddsTo tree buffer next name source ∧
      assembly.sources.find? name = some old ∧
      lines source.text =
        frame.above ++ lines (dropEndNewlines buffer.content ++ "\n") ++ frame.below := by
  obtain ⟨path, region, place, named, present, framed⟩ := cut_eq_some cut
  obtain ⟨text, filled⟩ : ∃ text, Region.replace? old.text region buffer.content = some text := by
    obtain ⟨span, found, _⟩ := Option.map_eq_some_iff.mp framed
    exact ⟨_, by rw [Region.replace?, found]; rfl⟩
  obtain ⟨kept, whole, result⟩ := Region.lines_replace filled
  obtain rfl : frame = kept := by simpa [framed] using whole
  have hosted : (assembly.sources.hostText tree path).outcome = .ok (some old.text) :=
    Sources.hostText_of_source present
  have replaced := addBuffer_of_replace place named hosted filled
  obtain rfl := Except.ok.inj (added.symm.trans replaced)
  exact ⟨path.text, _, addsTo_alter (.framed place named rfl (by simp [present])
    (by simp [present]) filled), present, result⟩

/-! ## The source of a sample -/

theorem AddsTo.shows (adds : assembly.AddsTo tree buffer next name source)
    (sample : buffer.editable = true) (carried : run <:+: solidLines buffer.content) :
    next.Shows name run :=
  ⟨source, adds.found, by simp [adds.gives.editable, sample], carried.trans adds.gives.solidLines_infix_lines⟩

theorem Shows.addBuffer {target : String} (shown : assembly.Shows name run)
    (adds : assembly.AddsTo tree buffer next target source)
    (spared : ∀ source frame, assembly.cut? buffer = some (source, frame) →
      source.editable = true → run <:+: lines source.text →
        run <:+: frame.above ∨ run <:+: frame.below) : next.Shows name run := by
  obtain ⟨before, present, sample, inside⟩ := shown
  by_cases same : name = target
  · subst same
    refine ⟨source, adds.found, by simp [adds.gives.editable, present, sample], ?_⟩
    have gives := adds.gives
    rw [present] at gives
    cases gives with
    | appended => exact inside.trans (lines_prefix_joinTexts _ _).isInfix
    | framed place named target kept _ filled =>
        obtain rfl := kept before rfl
        obtain ⟨frame, framed, result⟩ := Region.lines_replace filled
        have cut : assembly.cut? buffer = some (before, frame) := by
          simp [cut?, place, named, target, present, framed]
        rw [result]
        rcases spared before frame cut sample inside with above | below
        · exact above.trans ((List.prefix_append _ _).trans (List.prefix_append _ _)).isInfix
        · exact below.trans (List.suffix_append _ _).isInfix
  · exact ⟨before, (adds.others name same).trans present, sample, inside⟩

theorem Shows.addBuffers {buffers : List Buffer} (shown : assembly.Shows name run)
    (spared : assembly.Spares tree run buffers)
    (added : (assembly.addBuffers tree buffers).outcome = .ok last) : last.Shows name run := by
  induction buffers generalizing assembly with
  | nil =>
      cases added
      exact shown
  | cons buffer rest ih =>
      obtain ⟨next, first, others⟩ := addBuffers_cons_eq_ok.mp added
      obtain ⟨target, source, adds⟩ := exists_addsTo first
      exact ih (shown.addBuffer adds spared.1) (spared.2 next first) others

end Assembly

/-! ## Lines that only a sample has -/

/-- Lines whose ends are not among the given ones.  All of them are so, or none of
them opens a region. -/
structure Text.IsOwn (known : String → Prop) (run : List String) : Prop where
  nonempty : run ≠ []
  first : ∀ line ∈ run.head?, ¬ known line
  last : ∀ line ∈ run.getLast?, ¬ known line
  inner : (∀ line ∈ run, ¬ known line) ∨
    ∀ line ∈ run, ∀ name, Marker.ofLine? line ≠ some (.opening name)

theorem Text.IsOwn.not_infix_known {known : String → Prop} {run others : List String}
    (own : IsOwn known run) (all : ∀ line ∈ others, known line) : ¬ run <:+: others := by
  intro inside
  obtain ⟨line, rest, rfl⟩ := List.exists_cons_of_ne_nil own.nonempty
  exact own.first line (by simp) (all line (inside.subset (by simp)))

namespace Assembly

/-- A source has the lines, one after the other. -/
def Has (assembly : Assembly) (run : List String) (name : String) : Prop :=
  ∃ source, assembly.sources.find? name = some source ∧ run <:+: lines source.text

section Own

variable {tree : Tree} {assembly next last : Assembly} {buffer : Buffer} {buffers : List Buffer}
  {name : String} {source old : Source} {frame : Region.Frame} {run : List String}
  {known : String → Prop} (own : IsOwn known run) (blank : known "")
include own blank

theorem infix_frame {text region : String} (framed : Region.frame? text region = some frame)
    (brought : ∀ line ∈ lines buffer.content, known line)
    (inside : run <:+: frame.above ++ lines (dropEndNewlines buffer.content ++ "\n") ++
      frame.below) : run <:+: frame.above ∨ run <:+: frame.below := by
  have body : ∀ line ∈ lines (dropEndNewlines buffer.content ++ "\n"), known line := by
    intro line member
    obtain ⟨gap, empty, whole⟩ := lines_feed (dropEndNewlines buffer.content)
    rw [whole, List.mem_append] at member
    rcases member with solid | between
    · exact brought line ((solidLines_prefix_lines buffer.content).subset solid)
    · rw [empty line between]
      exact blank
  -- The run does not begin in the new body.  One that came down into it would have a line
  -- of the body and the opening marker above, and it lacks either the one or the other.
  refine infix_of_infix_between own.nonempty (fun line first member =>
    own.first line first (body line member)) ?_ inside
  rcases own.inner with foreign | plain
  · exact .inl ⟨lines_feed_ne_nil _, fun line inRun member => foreign line inRun (body line member)⟩
  · obtain ⟨bound, final, opens⟩ := Region.above_last framed
    refine .inr fun line here inRun => plain line inRun region ?_
    rw [final] at here
    cases here
    exact opens

theorem infix_of_replace {text region result : String}
    (filled : Region.replace? text region buffer.content = some result)
    (brought : ∀ line ∈ lines buffer.content, known line) (inside : run <:+: lines result) :
    run <:+: lines text := by
  obtain ⟨frame, framed, whole⟩ := Region.lines_replace filled
  rcases infix_frame own blank framed brought (whole ▸ inside) with above | below
  · exact above.trans (Region.above_prefix_lines framed).isInfix
  · exact below.trans (Region.below_infix_lines framed)

theorem infix_of_joinTexts {text : String} (brought : ∀ line ∈ lines buffer.content, known line)
    (inside : run <:+: lines (joinTexts text buffer.content)) : run <:+: lines text := by
  obtain ⟨gap, empty, whole⟩ := lines_joinTexts text buffer.content
  rw [whole, List.append_assoc] at inside
  have later : ∀ line ∈ gap ++ lines buffer.content, known line := by
    intro line member
    rcases List.mem_append.mp member with between | content
    · rw [empty line between]
      exact blank
    · exact brought line content
  exact infix_of_infix_append own.nonempty
    (fun line first member => own.first line first (later line member))
    (fun line last member => own.last line last (later line member)) inside

theorem AddsTo.has_of_has (adds : assembly.AddsTo tree buffer next name source)
    (brought : ∀ line ∈ lines buffer.content, known line)
    (read : ∀ path text, tree.readText path = .ok text → ∀ line ∈ lines text, known line)
    {target : String} (has : next.Has run target) : assembly.Has run target := by
  obtain ⟨after, found, inside⟩ := has
  by_cases same : target = name
  · subst same
    obtain rfl : source = after := by simpa [adds.found] using found
    have gives := adds.gives
    cases present : assembly.sources.find? target with
    -- A source that is new has only known lines, from the buffer or from a file.
    | none =>
        rw [present] at gives
        cases gives with
        | begun => exact absurd inside (own.not_infix_known brought)
        | framed place named target kept reads filled =>
            exact absurd (infix_of_replace own blank filled brought inside)
              (own.not_infix_known (read _ _ (reads rfl)))
    | some before =>
        refine ⟨before, present, ?_⟩
        rw [present] at gives
        cases gives with
        | appended => exact infix_of_joinTexts own blank brought inside
        | framed place named target kept reads filled =>
            obtain rfl := kept before rfl
            exact infix_of_replace own blank filled brought inside
  · exact ⟨after, (adds.others target same) ▸ found, inside⟩

theorem has_of_addBuffers (brought : ∀ buffer ∈ buffers, ∀ line ∈ lines buffer.content, known line)
    (read : ∀ path text, tree.readText path = .ok text → ∀ line ∈ lines text, known line)
    (added : (assembly.addBuffers tree buffers).outcome = .ok last) (has : last.Has run name) :
    assembly.Has run name := by
  induction buffers generalizing assembly with
  | nil =>
      cases added
      exact has
  | cons buffer rest ih =>
      obtain ⟨next, first, others⟩ := addBuffers_cons_eq_ok.mp added
      obtain ⟨target, source, adds⟩ := exists_addsTo first
      exact adds.has_of_has own blank (brought buffer (by simp)) read
        (ih (fun later member => brought later (by simp [member])) others)

/-- Lines that stand together at last, and once at first, are spared on the way. -/
theorem spares_of_has (brought : ∀ buffer ∈ buffers, ∀ line ∈ lines buffer.content, known line)
    (read : ∀ path text, tree.readText path = .ok text → ∀ line ∈ lines text, known line)
    (once : ∀ target, assembly.Has run target → target = name)
    (added : (assembly.addBuffers tree buffers).outcome = .ok last) (has : last.Has run name) :
    assembly.Spares tree run buffers := by
  induction buffers generalizing assembly with
  | nil => trivial
  | cons buffer rest ih =>
      have broughtFirst := brought buffer (by simp)
      have broughtLater := fun later member => brought later (List.mem_cons_of_mem buffer member)
      obtain ⟨next, first, others⟩ := addBuffers_cons_eq_ok.mp added
      refine ⟨fun source frame cut _ inside => ?_, fun another same => ?_⟩
      · obtain ⟨target, result, adds, present, whole⟩ := addsTo_of_cut first cut
        obtain rfl := once target ⟨source, present, inside⟩
        obtain ⟨after, found, stays⟩ := has_of_addBuffers own blank broughtLater read others has
        obtain rfl : result = after := by simpa [adds.found] using found
        obtain ⟨path, region, _, _, _, framed⟩ := cut_eq_some cut
        exact infix_frame own blank framed broughtFirst (whole ▸ stays)
      · obtain rfl : next = another := by simpa [first] using same
        obtain ⟨target, result, adds⟩ := exists_addsTo first
        have onceMore (other : String) (stands : next.Has run other) : other = name :=
          once other (adds.has_of_has own blank broughtFirst read stands)
        exact ih broughtLater onceMore others

end Own

end Assembly

/-! ## All samples of a workspace -/

namespace Buffer

/-- A merged buffer is one of a sample when it has its lines together. -/
def Carries (merged sample : Buffer) : Prop :=
  merged.editable = true ∧ solidLines sample.content <:+: solidLines merged.content

/-- The lines of a sample stand together in a source that is compiled for samples. -/
def StandsIn (sample : Buffer) (sources : List Source) : Prop :=
  ∃ source ∈ sources, source.editable = true ∧ solidLines sample.content <:+: lines source.text

theorem IsMergeOf.carries {merged sample : Buffer} {parts : List Buffer}
    (merge : merged.IsMergeOf parts) (member : sample ∈ parts) (editable : sample.editable = true) :
    merged.Carries sample :=
  ⟨merge.editable member editable, merge.solidLines_infix_content member⟩

end Buffer

namespace Workspace

variable {workspace : Workspace} {tree : Tree} {sources : List Source}
  {before after : List Buffer} {sample : Buffer}

/-- No buffer that is added after a sample takes the place of its lines. -/
def Spares (workspace : Workspace) (tree : Tree) (sample : Buffer) : Prop :=
  ∃ before merged after, Buffer.mergeRegions workspace.buffers = before ++ merged :: after ∧
    merged.Carries sample ∧
    ∀ next, (Assembly.addBuffers tree ⟨Sources.ofFiles workspace.files, 0⟩
        (before ++ [merged])).outcome = .ok next →
      next.Spares tree (solidLines sample.content) after

/-- Blank lines, and the lines of all texts apart from one buffer. -/
def Knows (workspace : Workspace) (tree : Tree) (others : List Buffer) (line : String) : Prop :=
  line = "" ∨ (∃ file ∈ workspace.files, line ∈ lines file.content) ∨
    (∃ other ∈ others, line ∈ lines other.content) ∨
    ∃ path text, tree.readText path = .ok text ∧ line ∈ lines text

theorem standsIn_of_spares (assembled : (workspace.sources tree).outcome = .ok sources)
    (spared : workspace.Spares tree sample) : sample.StandsIn sources := by
  obtain ⟨last, added, rfl⟩ := sources_eq_ok.mp assembled
  obtain ⟨before, merged, after, split, ⟨mergedEditable, carried⟩, kept⟩ := spared
  rw [split, List.append_cons] at added
  obtain ⟨next, reached, others⟩ := Assembly.addBuffers_append_eq_ok.mp added
  obtain ⟨previous, _, first⟩ := Assembly.addBuffers_concat_eq_ok.mp reached
  obtain ⟨name, source, adds⟩ := Assembly.exists_addsTo first
  obtain ⟨result, found, flagged, inside⟩ :=
    (adds.shows mergedEditable carried).addBuffers (kept _ reached) others
  have distinct := Sources.keys_nodup_ofFiles workspace.files
  rw [← List.append_cons, ← split] at added
  exact ⟨result, (Assembly.mem_values_addBuffers distinct added).mpr ⟨name, found⟩, flagged, inside⟩

theorem knows_of_find_ofFiles {others : List Buffer} {name : String} {source : Source}
    (found : (Sources.ofFiles workspace.files).find? name = some source) :
    ∀ line ∈ lines source.text, workspace.Knows tree others line := by
  rw [Sources.find?_ofFiles] at found
  obtain ⟨file, last, rfl⟩ := Option.map_eq_some_iff.mp found
  have member := List.mem_of_mem_filter (List.mem_of_getLast? last)
  exact fun line here => .inr (.inl ⟨file, member, here⟩)

theorem spares_of_standsIn (buffers : workspace.buffers = before ++ sample :: after)
    (editable : sample.editable = true)
    (assembled : (workspace.sources tree).outcome = .ok sources)
    (own : IsOwn (workspace.Knows tree (before ++ after)) (solidLines sample.content))
    (stands : sample.StandsIn sources) : workspace.Spares tree sample := by
  obtain ⟨last, added, rfl⟩ := sources_eq_ok.mp assembled
  obtain ⟨source, member, _, inside⟩ := stands
  have distinct := Sources.keys_nodup_ofFiles workspace.files
  obtain ⟨name, found⟩ := (Assembly.mem_values_addBuffers distinct added).mp member
  have blank : workspace.Knows tree (before ++ after) "" := .inl rfl
  have read (path : Path) (text : String) (reads : tree.readText path = .ok text) :
      ∀ line ∈ lines text, workspace.Knows tree (before ++ after) line :=
    fun line here => .inr (.inr (.inr ⟨path, text, reads, here⟩))
  obtain ⟨front, merged, back, parts, split, merge, part, foreign⟩ :=
    Buffer.mergeRegions_split buffers
  have brought : ∀ other ∈ front ++ back, ∀ line ∈ lines other.content,
      workspace.Knows tree (before ++ after) line := by
    intro other here line lineMember
    rcases foreign other here line lineMember with empty | known
    · exact .inl empty
    · exact .inr (.inr (.inl known))
  refine ⟨front, merged, back, split, merge.carries part editable, fun next reached => ?_⟩
  rw [split, List.append_cons] at added
  obtain ⟨same, sameReached, others⟩ := Assembly.addBuffers_append_eq_ok.mp added
  obtain rfl : next = same := by simpa [reached] using sameReached
  have broughtLater := fun other here => brought other (List.mem_append_right front here)
  have broughtFirst := fun other here => brought other (List.mem_append_left back here)
  obtain ⟨previous, fronts, first⟩ := Assembly.addBuffers_concat_eq_ok.mp reached
  obtain ⟨target, placedSource, adds⟩ := Assembly.exists_addsTo first
  -- Neither the files nor the buffers before the sample bring its lines together, so the
  -- source that it goes to is the only one that has them.
  have only (other : String) (has : next.Has (solidLines sample.content) other) :
      other = target := by
    by_contra different
    obtain ⟨kept, keptFound, keptInside⟩ := has
    obtain ⟨begun, begunFound, begunInside⟩ := Assembly.has_of_addBuffers own blank broughtFirst
      read fronts ⟨kept, adds.others other different ▸ keptFound, keptInside⟩
    exact own.not_infix_known (knows_of_find_ofFiles begunFound) begunInside
  have has : last.Has (solidLines sample.content) name := ⟨source, found, inside⟩
  have named := only name (Assembly.has_of_addBuffers own blank broughtLater read others has)
  exact Assembly.spares_of_has own blank broughtLater read (named ▸ only) others has

/-- A sample has its lines in a source when no later buffer takes their place, and,
if its lines are its own, only then. -/
theorem sample_stands_when_spared (buffers : workspace.buffers = before ++ sample :: after)
    (editable : sample.editable = true)
    (assembled : (workspace.sources tree).outcome = .ok sources) :
    (workspace.Spares tree sample → sample.StandsIn sources) ∧
      (IsOwn (workspace.Knows tree (before ++ after)) (solidLines sample.content) →
        sample.StandsIn sources → workspace.Spares tree sample) :=
  ⟨standsIn_of_spares assembled, spares_of_standsIn buffers editable assembled⟩

def sharedSample (region text : String) : Buffer where
  id := ⟨some (.ofNames .root ["docs", "shared.py"]), some region⟩
  content := text
  editable := true

def sharedSource (text : String) : Source where
  name := "/docs/shared.py"
  text := text
  path := some (.ofNames .root ["docs", "shared.py"])
  editable := true

def siblingRegions : Workspace where
  files := [⟨.ofNames .root ["docs", "shared.py"],
    "#region first\n#endregion\n#region second\n#endregion\n"⟩]
  buffers := [sharedSample "first" "x = 1", sharedSample "second" "y = 2"]

def nestedRegions : Workspace where
  files := [⟨.ofNames .root ["docs", "shared.py"],
    "#region outer\n#region inner\n#endregion\n#endregion\n"⟩]
  buffers := [sharedSample "inner" "x = 1", sharedSample "outer" "y = 2"]

/-- Of two regions, one after the other, each keeps its sample. -/
theorem sample_stands_when_spared_siblings :
    ∃ sample other sources, siblingRegions.buffers = [] ++ sample :: [other] ∧
      sample.editable = true ∧ (siblingRegions.sources ⟨[], []⟩).outcome = .ok sources ∧
      IsOwn (siblingRegions.Knows ⟨[], []⟩ [other]) (solidLines sample.content) ∧
      siblingRegions.Spares ⟨[], []⟩ sample ∧ sample.StandsIn sources := by
  have merged : Buffer.mergeRegions siblingRegions.buffers = siblingRegions.buffers := by cbv
  have assembled : (siblingRegions.sources ⟨[], []⟩).outcome = .ok [sharedSource
      "#region first\nx = 1\n#endregion\n#region second\ny = 2\n#endregion\n"] := by
    rw [Workspace.sources, merged]
    exact Except.eq_ok_of_toOption (by decide +kernel)
  have foreign : ¬ siblingRegions.Knows ⟨[], []⟩ [sharedSample "second" "y = 2"] "x = 1" := by
    rintro (empty | ⟨file, member, inside⟩ | ⟨other, member, inside⟩ | ⟨path, text, read, _⟩)
    · simp at empty
    · revert file
      decide +kernel
    · revert other
      decide +kernel
    · obtain ⟨place, bytes, _, found, _⟩ := Tree.exists_file_of_readText read
      simp [Tree.lookup] at found
  have alone : solidLines (sharedSample "first" "x = 1").content = ["x = 1"] := by decide +kernel
  have own : IsOwn (siblingRegions.Knows ⟨[], []⟩ ([] ++ [sharedSample "second" "y = 2"]))
      (solidLines (sharedSample "first" "x = 1").content) := by
    rw [alone]
    exact ⟨by simp, by simpa using foreign, by simpa using foreign, .inl (by simpa using foreign)⟩
  have stands : (sharedSample "first" "x = 1").StandsIn [sharedSource
      "#region first\nx = 1\n#endregion\n#region second\ny = 2\n#endregion\n"] := by
    rw [Buffer.StandsIn]
    decide +kernel
  have spared := (sample_stands_when_spared rfl rfl assembled).2 own stands
  exact ⟨_, _, _, rfl, rfl, assembled, own, spared, stands⟩

/-- A sample for the inner one of two regions is lost to one for the outer region. -/
theorem sample_lost_in_nested_region :
    ∃ sample ∈ nestedRegions.buffers, sample.editable = true ∧
      ∃ sources, (nestedRegions.sources ⟨[], []⟩).outcome = .ok sources ∧
        ¬ sample.StandsIn sources := by
  have merged : Buffer.mergeRegions nestedRegions.buffers = nestedRegions.buffers := by cbv
  have assembled : (nestedRegions.sources ⟨[], []⟩).outcome =
      .ok [sharedSource "#region outer\ny = 2\n#endregion\n"] := by
    rw [Workspace.sources, merged]
    exact Except.eq_ok_of_toOption (by decide +kernel)
  refine ⟨sharedSample "inner" "x = 1", by simp [nestedRegions], rfl, _, assembled, ?_⟩
  rw [Buffer.StandsIn]
  decide +kernel

end Workspace

end DocSamples
