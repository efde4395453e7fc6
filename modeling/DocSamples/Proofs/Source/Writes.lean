import Mathlib
import DocSamples.Proofs.Source.Injection
import DocSamples.Proofs.Source.Places

namespace DocSamples

/-! # Adding a buffer as one write

A buffer changes the source of one name and looks at no other than that of its own path.
-/

/-- What a buffer makes of the source to which it is added. -/
def Buffer.addTo (buffer : Buffer) (name : String) : Option Source → Source
  | none => { name, text := buffer.content, path := buffer.id.path, editable := buffer.editable }
  | some source =>
      { source with
        text := joinTexts source.text buffer.content
        editable := source.editable || buffer.editable }

namespace Assembly

variable {tree : Tree} {assembly next part last : Assembly} {buffer : Buffer} {name : String}
  {change : Option Source → Source} {unplaced : Nat}

/-- The one write that adds a buffer, with the number of samples after it. -/
inductive Writes (tree : Tree) (assembly : Assembly) (buffer : Buffer) :
    String → (Option Source → Source) → Nat → Prop
  | sample (place : buffer.id.path = none) :
      Writes tree assembly buffer ("<sample " ++ toString (assembly.unplaced + 1) ++ ">")
        (buffer.addTo ("<sample " ++ toString (assembly.unplaced + 1) ++ ">"))
        (assembly.unplaced + 1)
  | whole {path : Path} (place : buffer.id.path = some path)
      (unnamed : buffer.id.namedRegion? = none) :
      Writes tree assembly buffer path.text (buffer.addTo path.text) assembly.unplaced
  | framed {path : Path} {region host text : String} (place : buffer.id.path = some path)
      (named : buffer.id.namedRegion? = some region)
      (hosted : (assembly.sources.hostText tree path).outcome = .ok (some host))
      (filled : Region.replace? host region buffer.content = some text) :
      Writes tree assembly buffer path.text (fun source =>
        { name := path.text, text, path := some path
          editable := buffer.editable || source.any (·.editable) }) assembly.unplaced
  | alone {path : Path} {region : String} {host : Option String}
      (place : buffer.id.path = some path) (named : buffer.id.namedRegion? = some region)
      (hosted : (assembly.sources.hostText tree path).outcome = .ok host)
      (unfilled : (host.bind (Region.replace? · region buffer.content)) = none) :
      Writes tree assembly buffer (path.text ++ "@" ++ region)
        (buffer.addTo (path.text ++ "@" ++ region)) assembly.unplaced

theorem addBuffer_of_unfilled {path : Path} {region : String} {host : Option String}
    (place : buffer.id.path = some path) (named : buffer.id.namedRegion? = some region)
    (hosted : (assembly.sources.hostText tree path).outcome = .ok host)
    (unfilled : (host.bind (Region.replace? · region buffer.content)) = none) :
    (assembly.addBuffer tree buffer).outcome = .ok { assembly with
      sources := assembly.sources.alter (path.text ++ "@" ++ region)
        (buffer.addTo (path.text ++ "@" ++ region)) } := by
  have nothing : assembly.sources.inject? path region buffer host = none := by
    rw [Sources.inject?]
    cases host <;> simp_all
  simp only [addBuffer, place, named]
  refine Attempt.bind_eq_ok.mpr ⟨host, hosted, ?_⟩
  rw [nothing]
  rfl

theorem addBuffer_eq_ok : (assembly.addBuffer tree buffer).outcome = .ok next ↔
    ∃ name change unplaced, assembly.Writes tree buffer name change unplaced ∧
      next = ⟨assembly.sources.alter name change, unplaced⟩ := by
  constructor
  · intro added
    have whole := added
    rw [addBuffer] at added
    split at added
    · rename_i place
      cases added
      exact ⟨_, _, _, .sample place, rfl⟩
    · rename_i path place unnamed
      cases added
      exact ⟨_, _, _, .whole place unnamed, rfl⟩
    · rename_i path region place named
      obtain ⟨host, hosted, _⟩ := Attempt.bind_eq_ok.mp added
      cases filled : host.bind (Region.replace? · region buffer.content) with
      | none =>
          have alone := addBuffer_of_unfilled place named hosted filled
          obtain rfl := Except.ok.inj (whole.symm.trans alone)
          exact ⟨_, _, _, .alone place named hosted filled, rfl⟩
      | some text =>
          obtain ⟨before, rfl, replaced⟩ := Option.bind_eq_some_iff.mp filled
          have injected := addBuffer_of_replace place named hosted replaced
          obtain rfl := Except.ok.inj (whole.symm.trans injected)
          exact ⟨_, _, _, .framed place named hosted replaced, rfl⟩
  · rintro ⟨name, change, unplaced, writes, rfl⟩
    cases writes with
    | sample place =>
        simp only [addBuffer, place]
        rfl
    | whole place unnamed =>
        simp only [addBuffer, place, unnamed]
        rfl
    | framed place named hosted filled => exact addBuffer_of_replace place named hosted filled
    | alone place named hosted unfilled =>
        exact addBuffer_of_unfilled place named hosted unfilled

theorem Writes.keeps_place (writes : assembly.Writes tree buffer name change unplaced)
    {old : Option Source} (same : ∀ source ∈ old, source.path = buffer.id.path) :
    (change old).path = buffer.id.path := by
  have added (name : String) : (buffer.addTo name old).path = buffer.id.path := by
    cases old with
    | none => rfl
    | some source => exact same source rfl
  cases writes with
  | sample place => exact added _
  | whole place unnamed => exact added _
  | framed place named hosted filled => exact place.symm
  | alone place named hosted unfilled => exact added _

theorem Writes.keeps_name (writes : assembly.Writes tree buffer name change unplaced)
    {old : Option Source} (same : ∀ source ∈ old, source.name = name) :
    (change old).name = name := by
  have added (name : String) (same : ∀ source ∈ old, source.name = name) :
      (buffer.addTo name old).name = name := by
    cases old with
    | none => rfl
    | some source => exact same source rfl
  cases writes with
  | sample place => exact added _ same
  | whole place unnamed => exact added _ same
  | framed place named hosted filled => rfl
  | alone place named hosted unfilled => exact added _ same

theorem Writes.mayBegin {workspace : Workspace}
    (writes : assembly.Writes tree buffer name change unplaced)
    (member : buffer.id ∈ workspace.buffers.map (·.id)) :
    workspace.MayBegin buffer.id.path name := by
  cases writes with
  | sample place => exact place ▸ .sample member place _
  | whole place unnamed => exact place ▸ .whole member place
  | framed place named hosted filled => exact place ▸ .whole member place
  | alone place named hosted unfilled => exact place ▸ .region member place named

theorem Writes.unplaced_eq (writes : assembly.Writes tree buffer name change unplaced) :
    unplaced = if buffer.id.path = none then assembly.unplaced + 1 else assembly.unplaced := by
  cases writes with
  | sample place => rw [if_pos place]
  | whole place unnamed => simp [place]
  | framed place named hosted filled => simp [place]
  | alone place named hosted unfilled => simp [place]

theorem Writes.congr (writes : assembly.Writes tree buffer name change unplaced)
    (seen : ∀ path, buffer.id.path = some path →
      part.sources.find? path.text = assembly.sources.find? path.text)
    (counted : buffer.id.path = none → part.unplaced = assembly.unplaced) :
    ∃ unplaced, part.Writes tree buffer name change unplaced := by
  have hosts {path : Path} (place : buffer.id.path = some path) :
      part.sources.hostText tree path = assembly.sources.hostText tree path := by
    rw [Sources.hostText, Sources.hostText, seen path place]
  cases writes with
  | sample place =>
      rw [← counted place]
      exact ⟨_, .sample place⟩
  | whole place unnamed => exact ⟨_, .whole place unnamed⟩
  | framed place named hosted filled =>
      rw [← hosts place] at hosted
      exact ⟨_, .framed place named hosted filled⟩
  | alone place named hosted unfilled =>
      rw [← hosts place] at hosted
      exact ⟨_, .alone place named hosted unfilled⟩

end Assembly

end DocSamples
