import Mathlib
import DocSamples.Proofs.Document
import DocSamples.Proofs.Isolation
import DocSamples.Proofs.Region.Filling
import DocSamples.Proofs.Source.Injection
import DocSamples.Proofs.Source.Merging

namespace DocSamples

open Text

/-! # Buffers put into one text in any order

Buffers for regions of a text that lie apart fill these regions.  Each is put into the text
that the ones before it have left, and the last of them leaves the same lines in any order.
-/

namespace Buffer

variable {path : Path} {host : String} {buffers : List Buffer} {buffer : Buffer}

/-- The region of a text that a buffer is for. -/
def spanIn? (host : String) (buffer : Buffer) : Option Region.Span :=
  buffer.id.region.bind (Region.find? host)

def fillingIn? (host : String) (buffer : Buffer) : Option Region.Filling :=
  (buffer.spanIn? host).map fun span => ⟨span, Region.bodyOf buffer.content⟩

def fillingsIn (host : String) (buffers : List Buffer) : List Region.Filling :=
  buffers.filterMap (fillingIn? host)

/-- Plain buffers for regions of one text that lie apart, and so have different names. -/
structure FillApart (path : Path) (host : String) (buffers : List Buffer) : Prop where
  place : ∀ buffer ∈ buffers, buffer.id.path = some path
  found : ∀ buffer ∈ buffers, ∃ span, buffer.spanIn? host = some span
  apart : buffers.Pairwise fun one other =>
    ∀ here ∈ one.spanIn? host, ∀ there ∈ other.spanIn? host, here.IsApart there
  plain : ∀ buffer ∈ buffers, Region.IsPlain (lines buffer.content)

theorem FillApart.perm {order : List Buffer} (fills : FillApart path host buffers)
    (reordered : order.Perm buffers) : FillApart path host order where
  place := fun buffer member => fills.place buffer (reordered.subset member)
  found := fun buffer member => fills.found buffer (reordered.subset member)
  apart := by
    refine (reordered.pairwise_iff fun apart => ?_).mpr fills.apart
    intro here inOther there inOne
    exact (apart there inOne here inOther).symm
  plain := fun buffer member => fills.plain buffer (reordered.subset member)

theorem FillApart.tail (fills : FillApart path host (buffer :: buffers)) :
    FillApart path host buffers where
  place := fun other member => fills.place other (by simp [member])
  found := fun other member => fills.found other (by simp [member])
  apart := (List.pairwise_cons.mp fills.apart).2
  plain := fun other member => fills.plain other (by simp [member])

/-- A buffer is for the region that its parts are those of. -/
theorem exists_parts_of_spanIn {span : Region.Span} (found : buffer.spanIn? host = some span) :
    ∃ (name : String) (parts : Region.Parts),
      buffer.id.region = some name ∧ buffer.id.namedRegion? = some name ∧
      parts.AreAt name ∧ parts.all = keptLines host ∧ parts.span = span := by
  obtain ⟨name, given, found⟩ := Option.bind_eq_some_iff.mp found
  obtain ⟨parts, placed, whole, same⟩ := Region.exists_parts_of_find found
  have filled := (Region.solid_of_find found).1
  have named : buffer.id.namedRegion? = some name := by
    simp [BufferId.namedRegion?, given, Option.filter, filled]
  exact ⟨name, parts, given, named, placed, whole, same⟩

theorem FillApart.ids_nodup (fills : FillApart path host buffers) :
    (buffers.map (·.id)).Nodup := by
  rw [List.Nodup, List.pairwise_map]
  refine fills.apart.imp_of_mem fun {one other} first second apart same => ?_
  obtain ⟨span, found⟩ := fills.found one first
  have foundAgain : other.spanIn? host = some span := by
    rw [spanIn?, ← same]
    exact found
  obtain ⟨_, parts, _, _, _, _, rfl⟩ := exists_parts_of_spanIn found
  have reaches := apart _ found _ foundAgain
  simp only [Region.Span.IsApart, Region.Parts.span] at reaches
  omega

theorem fillingIn_eq_some {filling : Region.Filling} :
    buffer.fillingIn? host = some filling ↔
      buffer.spanIn? host = some filling.span ∧ Region.bodyOf buffer.content = filling.body := by
  obtain ⟨span, body⟩ := filling
  simp [fillingIn?]

theorem FillApart.isSeparate (fills : FillApart path host buffers) :
    Region.IsSeparate (fillingsIn host buffers) := by
  rw [Region.IsSeparate, fillingsIn, List.pairwise_filterMap]
  refine fills.apart.imp fun apart one first other second => ?_
  exact apart _ (fillingIn_eq_some.mp first).1 _ (fillingIn_eq_some.mp second).1

theorem FillApart.exists_filling (fills : FillApart path host buffers)
    (member : buffer ∈ buffers) : ∃ filling, buffer.fillingIn? host = some filling := by
  obtain ⟨span, found⟩ := fills.found buffer member
  rw [fillingIn?, found]
  exact ⟨_, Option.map_some ..⟩

theorem FillApart.plain_filling (fills : FillApart path host buffers) {filling : Region.Filling}
    (member : buffer ∈ buffers) (made : buffer.fillingIn? host = some filling) :
    Region.IsPlain filling.body := by
  rw [← (fillingIn_eq_some.mp made).2]
  exact Region.isPlain_bodyOf (fills.plain buffer member)

end Buffer

/-! ## The only source -/

namespace Sources

variable {tree : Tree} {path : Path} {text : String} {editable : Bool} {sources : Sources}

def only (path : Path) (text : String) (editable : Bool) : Sources :=
  ⟨[(path.text, ⟨path.text, text, some path, editable⟩)]⟩

/-- The text of a path is found, and nothing is there beside the source of the path. -/
structure Hosts (tree : Tree) (path : Path) (text : String) (editable : Bool)
    (sources : Sources) : Prop where
  found : (sources.hostText tree path).outcome = .ok (some text)
  alone : ∀ change, sources.alter path.text change =
    ⟨[(path.text, change (sources.find? path.text))]⟩
  editable : (sources.find? path.text).any (·.editable) = editable

theorem find?_only : (only path text editable).find? path.text =
    some ⟨path.text, text, some path, editable⟩ := by
  simp [only, OrderedMap.find?]

theorem hosts_only (tree : Tree) : (only path text editable).Hosts tree path text editable where
  found := hostText_of_source find?_only
  alone := by
    intro change
    rw [find?_only]
    simp [only, OrderedMap.alter, OrderedMap.alterEntries]
  editable := by
    rw [find?_only]
    rfl

theorem hosts_file (read : tree.readText path = .ok text) :
    Hosts tree path text false .empty where
  found := hostText_of_file rfl read
  alone := fun _ => rfl
  editable := rfl

end Sources

namespace Assembly

variable {tree : Tree} {path : Path} {host text : String} {editable : Bool}
  {assembly : Assembly} {buffer : Buffer} {buffers : List Buffer}
  {fillings : List Region.Filling}

/-- The sources are the one text with some of its regions filled. -/
structure HasFilled (tree : Tree) (path : Path) (host : String) (fillings : List Region.Filling)
    (editable : Bool) (text : String) (assembly : Assembly) : Prop where
  hosts : assembly.sources.Hosts tree path text editable
  filled : keptLines text = Region.fill fillings (keptLines host)

theorem exists_addBuffer_filled (begun : assembly.HasFilled tree path host fillings editable text)
    (place : buffer.id.path = some path) {filling : Region.Filling}
    (made : buffer.fillingIn? host = some filling)
    (apart : ∀ other ∈ fillings, filling.span.IsApart other.span)
    (plain : ∀ other ∈ fillings, Region.IsPlain other.body) :
    ∃ result, (assembly.addBuffer tree buffer).outcome =
        .ok ⟨.only path result (buffer.editable || editable), assembly.unplaced⟩ ∧
      lines result = Region.fill (filling :: fillings) (keptLines host) ∧
      keptLines result = lines result := by
  obtain ⟨found, body⟩ := Buffer.fillingIn_eq_some.mp made
  obtain ⟨name, parts, _, named, placed, whole, same⟩ := Buffer.exists_parts_of_spanIn found
  have filled := begun.filled
  rw [← same] at apart
  rw [← whole] at filled ⊢
  obtain ⟨result, replaced, read, kept⟩ :=
    Region.exists_replace_of_fill placed apart plain filled buffer.content
  rw [same, body] at read
  refine ⟨result, ?_, read, kept⟩
  have added := addBuffer_of_replace place named begun.hosts.found replaced
  rw [added, begun.hosts.alone, begun.hosts.editable]
  rfl

/-- Buffers for regions that lie apart all find their region in the text that the ones before
them leave. -/
theorem exists_addBuffers_filled {rest : List Buffer}
    (begun : assembly.HasFilled tree path host fillings editable text)
    (fills : Buffer.FillApart path host rest)
    (separate : Region.IsSeparate ((Buffer.fillingsIn host rest).reverse ++ fillings))
    (plain : ∀ filling ∈ fillings, Region.IsPlain filling.body) (some : rest ≠ []) :
    ∃ last result, (assembly.addBuffers tree rest).outcome = .ok last ∧
      last.sources = .only path result (rest.any (·.editable) || editable) ∧
      lines result =
        Region.fill ((Buffer.fillingsIn host rest).reverse ++ fillings) (keptLines host) ∧
      keptLines result = lines result := by
  induction rest generalizing assembly fillings editable text with
  | nil => exact absurd rfl some
  | cons buffer rest ih =>
      obtain ⟨filling, made⟩ := fills.exists_filling (List.mem_cons_self ..)
      have order : (Buffer.fillingsIn host (buffer :: rest)).reverse ++ fillings =
          (Buffer.fillingsIn host rest).reverse ++ filling :: fillings := by
        simp [Buffer.fillingsIn, made]
      rw [order] at separate ⊢
      have apart := (List.pairwise_cons.mp (List.pairwise_append.mp separate).2.1).1
      obtain ⟨result, added, read, kept⟩ :=
        exists_addBuffer_filled begun (fills.place buffer (by simp)) made apart plain
      by_cases more : rest = []
      · subst more
        refine ⟨_, result, addBuffers_cons_eq_ok.mpr ⟨_, added, rfl⟩, ?_, read, kept⟩
        simp
      · have next : HasFilled tree path host (filling :: fillings) (buffer.editable || editable)
            result ⟨.only path result (buffer.editable || editable), assembly.unplaced⟩ :=
          ⟨Sources.hosts_only tree, kept.trans read⟩
        have plainBodies : ∀ other ∈ filling :: fillings, Region.IsPlain other.body :=
          List.forall_mem_cons.mpr ⟨fills.plain_filling (List.mem_cons_self ..) made, plain⟩
        obtain ⟨last, whole, others, sources, lines, kept⟩ :=
          ih next fills.tail separate plainBodies more
        refine ⟨last, whole, addBuffers_cons_eq_ok.mpr ⟨_, added, others⟩, ?_, lines, kept⟩
        rw [sources, List.any_cons, Bool.or_assoc, Bool.or_left_comm]

end Assembly

/-! ## Reordered buffers -/

/-- A text is that of a path: it is included, or else it is on disk. -/
inductive HostedBy (tree : Tree) (path : Path) (host : String) : List IncludedFile → Prop
  | file : HostedBy tree path host [⟨path, host⟩]
  | disk (read : tree.readText path = .ok host) : HostedBy tree path host []

/-- A source for the path of a host, and nothing else. -/
theorem Workspace.exists_source_of_host {tree : Tree} {path : Path} {host : String}
    {workspace : Workspace} (hosted : HostedBy tree path host workspace.files)
    (fills : Buffer.FillApart path host workspace.buffers)
    (some : workspace.files ≠ [] ∨ workspace.buffers ≠ []) :
    ∃ result, (workspace.sources tree).outcome =
        .ok [⟨path.text, result, Option.some path, workspace.buffers.any (·.editable)⟩] ∧
      (workspace.buffers = [] → result = host) ∧
      (workspace.buffers ≠ [] → keptLines result = lines result ∧ lines result =
        Region.fill (Buffer.fillingsIn host workspace.buffers).reverse (keptLines host)) := by
  obtain ⟨session, project, buffers, files⟩ := workspace
  dsimp only at hosted fills some ⊢
  have begun : Assembly.HasFilled tree path host [] false host ⟨Sources.ofFiles files, 0⟩ := by
    refine ⟨?_, Region.fill_nil.symm⟩
    cases hosted with
    | file => exact Sources.hosts_only tree
    | disk read => exact Sources.hosts_file read
  by_cases none : buffers = []
  · subst none
    cases hosted with
    | file =>
        refine ⟨host, Workspace.sources_eq_ok.mpr ⟨⟨.only path host false, 0⟩, ?_, rfl⟩,
          fun _ => rfl, by simp⟩
        rw [Buffer.mergeRegions_nil]
        rfl
    | disk read => simp at some
  · have separate : Region.IsSeparate ((Buffer.fillingsIn host buffers).reverse ++ []) := by
      rw [List.append_nil]
      exact (List.reverse_perm _).pairwise_iff Region.Span.IsApart.symm |>.mpr fills.isSeparate
    obtain ⟨last, result, added, sources, read, kept⟩ :=
      Assembly.exists_addBuffers_filled begun fills separate (by simp) none
    rw [List.append_nil] at read
    refine ⟨result, Workspace.sources_eq_ok.mpr ⟨last, ?_, ?_⟩,
      fun empty => absurd empty none, fun _ => ⟨kept, read⟩⟩
    · rw [Buffer.mergeRegions_of_nodup fills.ids_nodup]
      exact added
    · rw [sources, Bool.or_false]
      rfl

/-- Each region of the filled text has the body of its buffer. -/
theorem Buffer.FillApart.body_of_fill {path : Path} {host text name : String}
    {buffers : List Buffer} {buffer : Buffer} (fills : FillApart path host buffers)
    (member : buffer ∈ buffers) (named : buffer.id.region = some name)
    (filled : keptLines text = Region.fill (fillingsIn host buffers) (keptLines host)) :
    Region.body? text name = some (joinLines (Region.bodyOf buffer.content)) := by
  obtain ⟨before, after, rfl⟩ := List.append_of_mem member
  have forward := fills.perm List.perm_middle.symm
  obtain ⟨filling, made⟩ := forward.exists_filling (List.mem_cons_self ..)
  obtain ⟨found, body⟩ := fillingIn_eq_some.mp made
  obtain ⟨given, parts, here, _, placed, whole, same⟩ := exists_parts_of_spanIn found
  obtain rfl : given = name := Option.some.inj (here.symm.trans named)
  have order : fillingsIn host (buffer :: (before ++ after)) =
      filling :: fillingsIn host (before ++ after) := by
    simp [fillingsIn, made]
  have separate := forward.isSeparate
  rw [order] at separate
  have first : fillingsIn host (before ++ buffer :: after) |>.Perm
      (filling :: fillingsIn host (before ++ after)) := by
    rw [← order]
    exact List.perm_middle.filterMap _
  have apart := (List.pairwise_cons.mp separate).1
  rw [Region.fill_perm separate first, ← whole] at filled
  rw [← same] at apart
  rw [body]
  refine Region.body_of_fill placed apart (fun other inside => ?_)
    (forward.plain_filling (List.mem_cons_self ..) made) ?_
  · obtain ⟨maker, present, makes⟩ := List.mem_filterMap.mp inside
    exact forward.tail.plain_filling present makes
  · rw [filled, same]

/-- Buffers for regions of one text that lie apart give one source, if there is a buffer or the
text is included.  Its lines do not depend on the order of the buffers, and the body of each
region is what its buffer has put there.  A text on disk alone gives none. -/
theorem injections_commute {tree : Tree} {path : Path} {host : String} {workspace : Workspace}
    (hosted : HostedBy tree path host workspace.files)
    (fills : Buffer.FillApart path host workspace.buffers) :
    (workspace.files = [] ∧ workspace.buffers = [] → (workspace.sources tree).outcome = .ok []) ∧
    (workspace.files ≠ [] ∨ workspace.buffers ≠ [] → ∃ all : List String,
      ∀ order : List Buffer, order.Perm workspace.buffers → ∃ source,
        (Workspace.sources { workspace with buffers := order } tree).outcome = .ok [source] ∧
        source.name = path.text ∧ source.path = some path ∧
        source.editable = workspace.buffers.any (·.editable) ∧
        lines source.text = all ∧
        ∀ buffer ∈ workspace.buffers, ∀ name, buffer.id.region = some name →
          Region.body? source.text name =
            some (joinLines (lines (dropEndNewlines buffer.content ++ "\n")))) := by
  constructor
  · rintro ⟨noFiles, noBuffers⟩
    refine Workspace.sources_eq_ok.mpr ⟨⟨.empty, 0⟩, ?_, rfl⟩
    rw [noFiles, noBuffers, Buffer.mergeRegions_nil]
    rfl
  · intro begun
    by_cases none : workspace.buffers = []
    · refine ⟨lines host, fun order reordered => ?_⟩
      obtain rfl : order = workspace.buffers := by
        rw [none] at reordered ⊢
        exact reordered.eq_nil
      obtain ⟨result, assembled, same, _⟩ := Workspace.exists_source_of_host hosted fills begun
      exact ⟨_, assembled, rfl, rfl, rfl, congrArg lines (same none), by simp [none]⟩
    · refine ⟨Region.fill (Buffer.fillingsIn host workspace.buffers) (keptLines host),
        fun order reordered => ?_⟩
      have filled : order ≠ [] := fun empty => none (by simpa [empty] using reordered.symm)
      have refilled := fills.perm reordered
      let permuted : Workspace := { workspace with buffers := order }
      obtain ⟨result, assembled, _, written⟩ :=
        @Workspace.exists_source_of_host _ _ _ permuted hosted refilled (.inr filled)
      obtain ⟨kept, read⟩ := written filled
      have reversed : (Buffer.fillingsIn host order).reverse.Perm
          (Buffer.fillingsIn host workspace.buffers) :=
        (List.reverse_perm _).trans (reordered.filterMap _)
      rw [Region.fill_perm fills.isSeparate reversed] at read
      refine ⟨_, assembled, rfl, rfl, ?_, read, ?_⟩
      · exact reordered.any_eq
      · intro buffer member name named
        exact fills.body_of_fill member named (kept.trans read)

/-! ## Two regions, and none -/

def pairPath : Path := .ofNames .root ["pair.py"]

def pairHost : String :=
  joinLines ["#region a", "x = 0", "#endregion", "#region b", "#endregion"] ++ "\n"

def pairSample : Buffer := ⟨⟨some pairPath, some "a"⟩, "x = 1\nx = 2\n\n", true⟩

def pairInclude : Buffer := ⟨⟨some pairPath, some "b"⟩, "y = 2", false⟩

theorem pair_fillApart : Buffer.FillApart pairPath pairHost [pairSample, pairInclude] := by
  have sample : pairSample.spanIn? pairHost = some ⟨0, 2⟩ := by decide +kernel
  have included : pairInclude.spanIn? pairHost = some ⟨3, 4⟩ := by decide +kernel
  refine ⟨?_, ?_, ?_, ?_⟩
  · simp [pairSample, pairInclude]
  · simp [sample, included]
  · simp [sample, included, Region.Span.IsApart]
  · have plain : ∀ line ∈ ["x = 1", "x = 2", "", "y = 2"], Marker.ofLine? line = none := by
      decide +kernel
    have sampleLines : lines pairSample.content = ["x = 1", "x = 2", ""] := by decide +kernel
    have includeLines : lines pairInclude.content = ["y = 2"] := by decide +kernel
    simp only [List.forall_mem_cons, Region.IsPlain, sampleLines, includeLines] at plain ⊢
    simp [plain]

theorem injections_commute_pair :
    ∃ one other : Source,
      (Workspace.sources
        { files := [⟨pairPath, pairHost⟩], buffers := [pairSample, pairInclude] }
        emptyTree).outcome = .ok [one] ∧
      (Workspace.sources
        { files := [⟨pairPath, pairHost⟩], buffers := [pairInclude, pairSample] }
        emptyTree).outcome = .ok [other] ∧
      lines one.text = lines other.text ∧ Region.body? one.text "a" = some "x = 1\nx = 2" := by
  let workspace : Workspace :=
    { files := [⟨pairPath, pairHost⟩], buffers := [pairSample, pairInclude] }
  have hosted : HostedBy emptyTree pairPath pairHost workspace.files := .file
  obtain ⟨all, reordered⟩ :=
    (@injections_commute _ _ _ workspace hosted pair_fillApart).2 (.inl (by simp [workspace]))
  obtain ⟨one, assembled, _, _, _, ofOne, bodies⟩ := reordered _ (.refl _)
  obtain ⟨other, reassembled, _, _, _, ofOther, _⟩ := reordered _ (.swap pairSample pairInclude [])
  have body : joinLines (lines (dropEndNewlines pairSample.content ++ "\n")) = "x = 1\nx = 2" := by
    decide +kernel
  have taken := bodies pairSample (List.mem_cons_self ..) "a" rfl
  rw [body] at taken
  exact ⟨one, other, assembled, reassembled, ofOne.trans ofOther.symm, taken⟩

/-- A text on disk is no source as long as no buffer is put into it. -/
theorem no_source_without_buffers :
    ∃ (tree : Tree) (path : Path) (host : String), tree.readText path = .ok host ∧
      Buffer.FillApart path host [] ∧
      ¬ ∃ source, (Workspace.sources {} tree).outcome = .ok [source] := by
  let tree : Tree := ⟨[], [(["pair.py"], .file (Utf8.encodeText pairHost))]⟩
  have read : tree.readText pairPath = .ok pairHost :=
    Document.readText_rootChild (by decide) (by decide) (by simp [IsLine, isLineEnd])
      (by simp [tree, Tree.lookup, pairHost])
  refine ⟨tree, pairPath, pairHost, read, ⟨by simp, by simp, .nil, by simp⟩, ?_⟩
  rintro ⟨source, assembled⟩
  obtain ⟨last, added, single⟩ := Workspace.sources_eq_ok.mp assembled
  rw [Buffer.mergeRegions_nil] at added
  cases added
  simp [Sources.ofFiles, OrderedMap.empty, OrderedMap.values] at single

end DocSamples
