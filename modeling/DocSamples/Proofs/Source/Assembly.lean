import Mathlib
import DocSamples.Source.Assembly
import DocSamples.Proofs.Attempt
import DocSamples.Proofs.OrderedMap
import DocSamples.Proofs.Region
import DocSamples.Proofs.Source

namespace DocSamples

open Text

/-! # What one buffer does to the sources

A buffer changes one source.  Its content begins the source or follows its text, or
it stands between the markers of its region.
-/

namespace Sources

def ofFile (file : IncludedFile) : Source where
  name := file.path.text
  text := file.content
  path := some file.path

theorem ofFiles_append_singleton (files : List IncludedFile) (file : IncludedFile) :
    ofFiles (files ++ [file]) = (ofFiles files).insert file.path.text (ofFile file) := by
  simp [ofFiles, ofFile]

theorem keys_nodup_ofFiles (files : List IncludedFile) : (ofFiles files).keys.Nodup := by
  induction files using List.reverseRecOn with
  | nil => simp [ofFiles, OrderedMap.empty, OrderedMap.keys]
  | append_singleton files file ih =>
      rw [ofFiles_append_singleton]
      exact OrderedMap.keys_nodup_alter ih

theorem forall_entries_ofFiles {files : List IncludedFile} {motive : String → Source → Prop}
    (own : ∀ file ∈ files, motive file.path.text (ofFile file)) :
    ∀ name source, (name, source) ∈ (ofFiles files).entries → motive name source := by
  induction files using List.reverseRecOn with
  | nil => simp [ofFiles, OrderedMap.empty]
  | append_singleton files file ih =>
      rw [ofFiles_append_singleton]
      intro name source present
      rcases OrderedMap.mem_entries_alter present with before | ⟨rfl, rfl⟩
      · exact ih (fun other member => own other (List.mem_append_left _ member)) name source before
      · exact own file (by simp)

theorem find?_ofFiles (files : List IncludedFile) (name : String) :
    (ofFiles files).find? name =
      (files.filter (·.path.text = name)).getLast?.map ofFile := by
  induction files using List.reverseRecOn with
  | nil => rfl
  | append_singleton files file ih =>
      rw [ofFiles_append_singleton, OrderedMap.insert]
      by_cases same : file.path.text = name
      · simp [← same, OrderedMap.find?_alter_self]
      · rw [OrderedMap.find?_alter_of_ne _ (Ne.symm same), ih]
        simp [same]

end Sources

/-- The source of a name before a buffer and after it. -/
inductive Buffer.Gives (tree : Tree) (buffer : Buffer) (name : String) :
    Option Source → Source → Prop
  | begun : Gives tree buffer name none
      { name, text := buffer.content, path := buffer.id.path, editable := buffer.editable }
  | appended (old : Source) : Gives tree buffer name (some old)
      { old with
        text := joinTexts old.text buffer.content
        editable := old.editable || buffer.editable }
  | framed {old : Option Source} {path : Path} {region host text : String}
      (place : buffer.id.path = some path) (named : buffer.id.namedRegion? = some region)
      (target : path.text = name) (kept : ∀ source ∈ old, source.text = host)
      (read : old = none → tree.readText path = .ok host)
      (filled : Region.replace? host region buffer.content = some text) :
      Gives tree buffer name old
        { name, text, path := some path
          editable := buffer.editable || old.any (·.editable) }

theorem Buffer.Gives.editable {tree : Tree} {buffer : Buffer} {name : String}
    {old : Option Source} {source : Source} (gives : buffer.Gives tree name old source) :
    source.editable = (buffer.editable || old.any (·.editable)) := by
  cases gives with
  | begun => simp
  | appended old => simp [Bool.or_comm]
  | framed => rfl

/-- The lines of a buffer stand together in the source that it gives. -/
theorem Buffer.Gives.solidLines_infix_lines {tree : Tree} {buffer : Buffer} {name : String}
    {old : Option Source} {source : Source} (gives : buffer.Gives tree name old source) :
    solidLines buffer.content <:+: lines source.text := by
  have whole := (solidLines_prefix_lines buffer.content).isInfix
  cases gives with
  | begun => exact whole
  | appended old => exact whole.trans (lines_suffix_joinTexts _ _).isInfix
  | framed _ _ _ _ _ filled =>
      obtain ⟨frame, _, result⟩ := Region.lines_replace filled
      rw [result]
      exact (lines_prefix_feed _).isInfix.trans (List.infix_append _ _ _)

namespace Assembly

variable {tree : Tree} {assembly next last : Assembly} {buffer : Buffer}

/-- The assembly after a buffer differs in the source of one name. -/
structure AddsTo (tree : Tree) (assembly : Assembly) (buffer : Buffer) (next : Assembly)
    (name : String) (source : Source) : Prop where
  gives : buffer.Gives tree name (assembly.sources.find? name) source
  found : next.sources.find? name = some source
  others : ∀ other, other ≠ name → next.sources.find? other = assembly.sources.find? other
  distinct : assembly.sources.keys.Nodup → next.sources.keys.Nodup

theorem addsTo_alter {name : String} {change : Option Source → Source} {unplaced : Nat}
    (gives : buffer.Gives tree name (assembly.sources.find? name)
      (change (assembly.sources.find? name))) :
    assembly.AddsTo tree buffer ⟨assembly.sources.alter name change, unplaced⟩ name
      (change (assembly.sources.find? name)) where
  gives := gives
  found := OrderedMap.find?_alter_self _
  others := fun _ different => OrderedMap.find?_alter_of_ne _ different
  distinct := OrderedMap.keys_nodup_alter

theorem addsTo_add (name : String) (unplaced : Nat) :
    ∃ source, assembly.AddsTo tree buffer ⟨assembly.sources.add name buffer, unplaced⟩
      name source := by
  refine ⟨_, addsTo_alter ?_⟩
  cases assembly.sources.find? name with
  | none => exact .begun
  | some old => exact .appended old

theorem hostText_eq_ok {sources : Sources} {path : Path} {host : String}
    (hosted : (sources.hostText tree path).outcome = .ok (some host)) :
    (∀ source ∈ sources.find? path.text, source.text = host) ∧
      (sources.find? path.text = none → tree.readText path = .ok host) := by
  rw [Sources.hostText] at hosted
  split at hosted
  · rename_i source present
    have same : source.text = host := by simpa using hosted
    simp [present, same]
  · rename_i absent
    obtain ⟨isFile, _, read⟩ := Attempt.bind_eq_ok.mp hosted
    split at read
    · split at read
      · rename_i text reads
        obtain rfl : text = host := by simpa using read
        simp [absent, reads]
      · obtain ⟨_, _, nothing⟩ := Attempt.bind_eq_ok.mp read
        simp at nothing
    · simp at read

/-- Every buffer that is added has its content in one source. -/
theorem exists_addsTo (added : (assembly.addBuffer tree buffer).outcome = .ok next) :
    ∃ name source, assembly.AddsTo tree buffer next name source := by
  rw [addBuffer] at added
  split at added
  · cases added
    exact ⟨_, addsTo_add _ _⟩
  · cases added
    exact ⟨_, addsTo_add _ _⟩
  · rename_i path region place named
    obtain ⟨host, hosted, placed⟩ := Attempt.bind_eq_ok.mp added
    cases filled : assembly.sources.inject? path region buffer host with
    | none =>
        rw [filled] at placed
        cases placed
        exact ⟨_, addsTo_add _ _⟩
    | some sources =>
        rw [filled] at placed
        cases placed
        obtain ⟨before, rfl, after⟩ := Option.bind_eq_some_iff.mp filled
        obtain ⟨text, replaced, changed⟩ := Option.bind_eq_some_iff.mp after
        cases changed
        obtain ⟨kept, read⟩ := hostText_eq_ok hosted
        exact ⟨path.text, _, addsTo_alter (.framed place named rfl kept read replaced)⟩

/-! ## All buffers -/

theorem addBuffers_cons_eq_ok {rest : List Buffer} :
    (assembly.addBuffers tree (buffer :: rest)).outcome = .ok last ↔
      ∃ next, (assembly.addBuffer tree buffer).outcome = .ok next ∧
        (next.addBuffers tree rest).outcome = .ok last :=
  Attempt.bind_eq_ok

theorem addBuffers_append_eq_ok {before after : List Buffer} :
    (assembly.addBuffers tree (before ++ after)).outcome = .ok last ↔
      ∃ next, (assembly.addBuffers tree before).outcome = .ok next ∧
        (next.addBuffers tree after).outcome = .ok last := by
  induction before generalizing assembly with
  | nil => simp [addBuffers]
  | cons buffer before ih =>
      simp only [List.cons_append, addBuffers_cons_eq_ok, ih]
      constructor
      · rintro ⟨first, added, next, others, rest⟩
        exact ⟨next, ⟨first, added, others⟩, rest⟩
      · rintro ⟨next, ⟨first, added, others⟩, rest⟩
        exact ⟨first, added, next, others, rest⟩

theorem addBuffers_concat_eq_ok {before : List Buffer} :
    (assembly.addBuffers tree (before ++ [buffer])).outcome = .ok last ↔
      ∃ next, (assembly.addBuffers tree before).outcome = .ok next ∧
        (next.addBuffer tree buffer).outcome = .ok last := by
  simp only [addBuffers_append_eq_ok, addBuffers_cons_eq_ok]
  simp [addBuffers]

theorem addBuffers_preserves {motive : Assembly → Prop} {buffers : List Buffer}
    (step : ∀ buffer ∈ buffers, ∀ assembly next,
      (assembly.addBuffer tree buffer).outcome = .ok next → motive assembly → motive next)
    (start : motive assembly) (added : (assembly.addBuffers tree buffers).outcome = .ok last) :
    motive last := by
  induction buffers generalizing assembly with
  | nil =>
      cases added
      exact start
  | cons buffer rest ih =>
      obtain ⟨next, first, others⟩ := addBuffers_cons_eq_ok.mp added
      exact ih (fun later member => step later (by simp [member]))
        (step buffer (by simp) assembly next first start) others

theorem mem_values_addBuffers {buffers : List Buffer} {source : Source}
    (distinct : assembly.sources.keys.Nodup)
    (added : (assembly.addBuffers tree buffers).outcome = .ok last) :
    source ∈ last.sources.values ↔ ∃ name, last.sources.find? name = some source := by
  refine OrderedMap.mem_values (addBuffers_preserves (motive := fun assembly =>
    assembly.sources.keys.Nodup) (fun buffer _ assembly next first distinct => ?_) distinct added)
  obtain ⟨name, source, adds⟩ := exists_addsTo first
  exact adds.distinct distinct

end Assembly

theorem Workspace.sources_eq_ok {workspace : Workspace} {tree : Tree} {sources : List Source} :
    (workspace.sources tree).outcome = .ok sources ↔
      ∃ last, (Assembly.addBuffers tree ⟨Sources.ofFiles workspace.files, 0⟩
        (Buffer.mergeRegions workspace.buffers)).outcome = .ok last ∧
        last.sources.values = sources := by
  simp only [Workspace.sources, Attempt.bind_eq_ok, Attempt.outcome_pure, Except.ok.injEq]

end DocSamples
