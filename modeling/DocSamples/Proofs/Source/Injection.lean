import Mathlib
import DocSamples.Proofs.Source.Assembly
import DocSamples.Proofs.Tree

namespace DocSamples

open Text

/-! # Buffers put into their regions

The host of a region is a source that is there already, or else a file.  A host that has the
region becomes the source of its path, with the buffer between the markers.
-/

variable {tree : Tree} {path : Path}

theorem Tree.isFile_of_readText {text : String} (read : tree.readText path = .ok text) :
    tree.isFile path = .ok true := by
  rw [readText] at read
  split at read
  · simp at read
  · rename_i bytes readBytes
    rw [Tree.readBytes] at readBytes
    split at readBytes
    · simp at readBytes
    · rename_i whole
      rw [isFile, leadsTo, if_neg whole]
      cases reached : tree.status path with
      | error cause => simp [reached] at readBytes
      | ok found =>
          obtain ⟨place, entry⟩ := found
          cases entry <;> simp [reached] at readBytes ⊢

namespace Sources

variable {sources : Sources} {text : String}

theorem hostText_of_source {source : Source} (present : sources.find? path.text = some source) :
    (sources.hostText tree path).outcome = .ok (some source.text) := by
  simp [hostText, present]

theorem hostText_of_file (absent : sources.find? path.text = none)
    (read : tree.readText path = .ok text) :
    (sources.hostText tree path).outcome = .ok (some text) := by
  simp only [hostText, absent, read]
  exact Attempt.bind_eq_ok.mpr ⟨true, Tree.isFile_of_readText read, by simp⟩

end Sources

namespace Assembly

variable {assembly : Assembly} {buffer : Buffer} {region host text : String}

theorem addBuffer_of_replace (place : buffer.id.path = some path)
    (named : buffer.id.namedRegion? = some region)
    (hosted : (assembly.sources.hostText tree path).outcome = .ok (some host))
    (filled : Region.replace? host region buffer.content = some text) :
    (assembly.addBuffer tree buffer).outcome = .ok { assembly with
      sources := assembly.sources.alter path.text fun source =>
        { name := path.text, text, path := some path
          editable := buffer.editable || source.any (·.editable) } } := by
  simp only [addBuffer, place, named]
  refine Attempt.bind_eq_ok.mpr ⟨some host, hosted, ?_⟩
  simp [Sources.inject?, filled]

end Assembly

end DocSamples
