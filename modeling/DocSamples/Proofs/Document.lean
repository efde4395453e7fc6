import Mathlib
import DocSamples.Document
import DocSamples.Proofs.Fence
import DocSamples.Proofs.Linkage
import DocSamples.Proofs.Lists
import DocSamples.Proofs.Text.Lines
import DocSamples.Proofs.Text.Utf8

namespace DocSamples

open Text

/-! # The fragments of a document

The closed blocks whose fences carry options give the fragments of a document, one each
and in their order.  A document has no fragments at all when a path among the options
cannot be followed.
-/

/-- A closed block whose fence carries options, with the number of lines above it. -/
structure AnnotatedBlock where
  line : Nat
  opening : Opening
  body : List String
deriving DecidableEq, Repr

namespace Block

variable {document : List String} {blocks : List Block} {block : Block} {line number : Nat}

def annotated? : Nat × Block → Option AnnotatedBlock
  | (line, .fenced _ opening body _) =>
      if isAnnotated opening.info then some ⟨line, opening, body⟩ else none
  | _ => none

def annotated (blocks : List Block) : List AnnotatedBlock :=
  (numbered 0 blocks).filterMap annotated?

theorem mem_numbered : (number, block) ∈ numbered line blocks ↔
    ∃ before after, blocks = before ++ block :: after ∧
      number = line + (before.flatMap lines).length := by
  induction blocks generalizing line with
  | nil => simp [numbered]
  | cons first rest ih =>
      simp only [numbered, List.mem_cons, Prod.mk.injEq, ih]
      constructor
      · rintro (⟨rfl, rfl⟩ | ⟨before, after, rfl, rfl⟩)
        · exact ⟨[], rest, rfl, by simp⟩
        · exact ⟨first :: before, after, rfl, by simp [Nat.add_assoc]⟩
      · rintro ⟨_ | ⟨other, before⟩, after, same, rfl⟩
        · obtain ⟨rfl, rfl⟩ := List.cons.inj same
          exact .inl ⟨by simp, rfl⟩
        · obtain ⟨rfl, rfl⟩ := List.cons.inj same
          exact .inr ⟨before, after, rfl, by simp [Nat.add_assoc]⟩

/-- A block stands in the document from the line with its number on. -/
theorem getElem?_of_mem_numbered (decomposed : Decompose document blocks)
    (member : (number, block) ∈ numbered 0 blocks) :
    document[number]? = block.lines.head? := by
  obtain ⟨before, after, rfl, rfl⟩ := mem_numbered.mp member
  have some : block.lines ≠ [] := by cases block <;> simp [lines]
  obtain ⟨first, more, split⟩ := List.exists_cons_of_ne_nil some
  rw [← decomposed.whole]
  simp [split]

/-- The line with the number of an annotated block is the one that opens it. -/
theorem opens_of_mem_annotated {annotatedBlock : AnnotatedBlock}
    (decomposed : Decompose document blocks) (member : annotatedBlock ∈ annotated blocks) :
    ∃ line, document[annotatedBlock.line]? = some line ∧ annotatedBlock.opening.Opens line := by
  obtain ⟨⟨number, block⟩, numbered, found⟩ := List.mem_filterMap.mp member
  have inside : block ∈ blocks := by
    obtain ⟨before, after, rfl, _⟩ := mem_numbered.mp numbered
    simp
  cases block with
  | prose line => simp [annotated?] at found
  | unclosed line opening body => simp [annotated?] at found
  | fenced line opening body closing =>
      simp only [annotated?, Option.ite_none_right_eq_some, Option.some.injEq] at found
      obtain ⟨_, rfl⟩ := found
      cases decomposed.grammatical _ inside with
      | fenced opens _ _ => exact ⟨line, getElem?_of_mem_numbered decomposed numbered, opens⟩

end Block

namespace Document

variable {tree : Tree} {document root : Path} {found : List Fragment}

/-- A block gives a fragment when it is an annotated one, and then that which is linked. -/
theorem fragmentOf_eq_ok {item : Nat × Block} {value : Option Fragment} :
    (fragmentOf tree document root item).outcome = .ok value ↔
      Option.Rel (fun block fragment => Fragment.link tree document root block.line
        block.opening.info (joinLines block.body) = .ok fragment) (Block.annotated? item) value := by
  obtain ⟨line, block⟩ := item
  cases block with
  | prose line => cases value <;> simp [fragmentOf, Block.annotated?]
  | unclosed line opening body =>
      simp only [fragmentOf, Attempt.bind_eq_ok, Block.annotated?]
      cases value <;> simp
  | fenced line opening body closing =>
      simp only [fragmentOf, Block.annotated?]
      by_cases carries : isAnnotated opening.info = true
      · simp only [carries, if_true, Attempt.bind_eq_ok, Attempt.outcome_ofExcept,
          Except.mapError_eq_ok, Attempt.outcome_pure, Except.ok.injEq]
        cases value <;> simp
      · cases value <;> simp [carries]

theorem fragments_eq_ok : (fragments tree document root).outcome = .ok found ↔
    ∃ text, readLines tree document = .ok text ∧
      List.Forall₂ (fun block fragment => Fragment.link tree document root block.line
        block.opening.info (joinLines block.body) = .ok fragment)
        (Block.annotated (Block.ofLines text)) found := by
  simp only [fragments, Attempt.bind_eq_ok, Attempt.outcome_ofExcept, Attempt.each_eq_ok,
    fragmentOf_eq_ok, Attempt.outcome_pure, Except.ok.injEq, exists_reduceOption_iff,
    Block.annotated]

theorem exists_link_of_fragmentOf_eq_error {item : Nat × Block} {fault : DocumentFault}
    (failed : (fragmentOf tree document root item).outcome = .error fault) :
    ∃ block, Block.annotated? item = some block ∧ ∃ obstruction,
      Fragment.link tree document root block.line block.opening.info (joinLines block.body) =
        .error obstruction ∧ fault = .path obstruction := by
  obtain ⟨line, block⟩ := item
  cases block with
  | prose line => simp [fragmentOf] at failed
  | unclosed line opening body =>
      simp [fragmentOf, Attempt.bind_eq_error] at failed
  | fenced line opening body closing =>
      by_cases carries : isAnnotated opening.info = true
      · simp only [fragmentOf, carries, if_true, Attempt.bind_eq_error, Attempt.outcome_ofExcept,
          Attempt.outcome_pure, reduceCtorEq, and_false, exists_false, or_false] at failed
        simp only [Block.annotated?, carries, if_true, Option.some.injEq, exists_eq_left']
        exact Except.mapError_eq_error.mp failed
      · simp [fragmentOf, carries] at failed

/-- A fault that ends the fragments of a document that can be read is one of an option. -/
theorem exists_link_of_fragments_eq_error {text : List String} {fault : DocumentFault}
    (read : readLines tree document = .ok text)
    (failed : (fragments tree document root).outcome = .error fault) :
    ∃ block ∈ Block.annotated (Block.ofLines text), ∃ obstruction,
      Fragment.link tree document root block.line block.opening.info (joinLines block.body) =
        .error obstruction ∧ fault = .path obstruction := by
  simp only [fragments, Attempt.bind_eq_error, Attempt.outcome_ofExcept, read, reduceCtorEq,
    false_or, Except.ok.injEq, exists_eq_left', Attempt.outcome_pure, and_false, exists_false,
    or_false] at failed
  obtain ⟨item, member, failed⟩ := Attempt.exists_of_each_eq_error failed
  obtain ⟨block, annotated, obstruction⟩ := exists_link_of_fragmentOf_eq_error failed
  exact ⟨block, List.mem_filterMap.mpr ⟨item, member, annotated⟩, obstruction⟩

/-! ## Guides

A guide is a document in a tree with little else, for the instances below.
-/

def guide : Path := .ofNames .root ["guide.md"]

/-- A tree with the lines of a guide and with what is beside it. -/
def treeOf (document : List String) (beside : List (Place × Entry)) : Tree where
  current := []
  entries := (["guide.md"], .file (Utf8.encodeText (joinLines document ++ "\n"))) :: beside

theorem noLinks_treeOf {document : List String} {beside : List (Place × Entry)}
    (plain : ∀ place target, (place, .link target) ∉ beside) :
    (treeOf document beside).NoLinks :=
  Tree.noLinks_of_entries (by simpa [treeOf] using plain)

theorem readText_rootChild {name : String} {all : List String} (plain : Tree.IsPlain name)
    (short : name.utf8ByteSize ≤ Tree.nameLimit) (single : ∀ line ∈ all, IsLine line)
    (found : tree.lookup [name] = .some (.file (Utf8.encodeText (joinLines all ++ "\n")))) :
    tree.readText (.ofNames .root [name]) = .ok (joinLines all ++ "\n") := by
  rw [Tree.readText, Tree.readBytes_rootChild plain short found]
  simp only [Utf8.decode_encodeText, unifyLineEnds_joinLines_feed single, String.ofList_toList]

theorem readLines_rootChild {name : String} {document : List String} (plain : Tree.IsPlain name)
    (short : name.utf8ByteSize ≤ Tree.nameLimit) (some : document ≠ [])
    (single : ∀ line ∈ document, IsLine line)
    (found : tree.lookup [name] = .some (.file (Utf8.encodeText (joinLines document ++ "\n")))) :
    readLines tree (.ofNames .root [name]) = .ok document := by
  rw [readLines, readText_rootChild plain short single found]
  exact congrArg Except.ok (lines_joinLines_feed single some)

theorem readLines_guide {document : List String} (some : document ≠ [])
    (single : ∀ line ∈ document, IsLine line) (beside : List (Place × Entry)) :
    readLines (treeOf document beside) guide = .ok document :=
  readLines_rootChild (by decide) (by decide) some single (by simp [Tree.lookup, treeOf])

/-- A name in a guide is that of a file beside it. -/
theorem join_guide {name : String} (named : IsName name) :
    guide.parent.join (.ofText name) = .ofNames .root [name] := by
  have parent : guide.parent = .ofNames .root [] := by
    simp [guide, Path.parent, Path.ofNames, show IsName "guide.md" by decide]
  rw [parent]
  exact (Path.child_eq named _).trans (by simp [Path.ofNames])

def sessionInfo : FenceInfo where
  language := "python"
  values := ⟨[(.session, "a")]⟩
  problems := []

theorem ofInfo_session : FenceInfo.ofInfo "python --session a" = sessionInfo := by
  decide +kernel

theorem follows_session (tree : Tree) :
    Linkage.Follows tree guide (.ofNames .root [])
      (FenceInfo.ofInfo "python --session a").values := by
  rw [ofInfo_session]
  exact ⟨by simp [sessionInfo, OrderedMap.find?], by simp [sessionInfo, OrderedMap.find?],
    by simp [sessionInfo, OrderedMap.find?]⟩

/-! ## Blocks and fragments -/

/-- Lines are blocks in one way, and each closed block with options is one fragment. -/
theorem fragments_of_blocks :
    (∀ text : List String, ∃! blocks, Block.Decompose text blocks) ∧
    ∀ (tree : Tree) (document root : Path) (text : List String) (blocks : List Block),
      readLines tree document = .ok text → Block.Decompose text blocks →
      (∀ block ∈ Block.annotated blocks, ∃ fragment,
        Fragment.link tree document root block.line block.opening.info (joinLines block.body) =
          .ok fragment) →
      (∀ block ∈ Block.annotated blocks,
        ∃ line, text[block.line]? = some line ∧ block.opening.Opens line) ∧
      ∃ found, (fragments tree document root).outcome = .ok found ∧
        List.Forall₂ (fun block fragment => fragment.TakenFrom tree document root block.line
          (.ofInfo block.opening.info) (joinLines block.body)) (Block.annotated blocks) found := by
  refine ⟨fun text => ⟨_, Block.decompose_ofLines text, fun _ => Block.eq_ofLines_of_decompose⟩, ?_⟩
  intro tree document root text blocks read decomposed linked
  constructor
  · intro block member
    exact Block.opens_of_mem_annotated decomposed member
  · obtain ⟨found, beside⟩ := exists_forall₂_iff.mpr linked
    obtain rfl := Block.eq_ofLines_of_decompose decomposed
    exact ⟨found, fragments_eq_ok.mpr ⟨text, read, beside⟩,
      beside.imp fun _ _ => Fragment.takenFrom_of_link⟩

/-- A block of tildes with backticks in it, one of backticks without options, and one that is
not closed. -/
def nestedFences : List String :=
  ["~~~ python --session a", "\x60\x60\x60", "x = 1", "~~~", "\x60\x60\x60 python",
    "\x60\x60\x60", "\x60\x60\x60 --session b"]

def nestedBlocks : List Block := [
  .fenced "~~~ python --session a" ⟨.tilde, 3, "python --session a"⟩
    ["\x60\x60\x60", "x = 1"] "~~~",
  .fenced "\x60\x60\x60 python" ⟨.backtick, 3, "python"⟩ [] "\x60\x60\x60",
  .unclosed "\x60\x60\x60 --session b" ⟨.backtick, 3, "--session b"⟩ []]

theorem fragments_of_nestedFences :
    readLines (treeOf nestedFences []) guide = .ok nestedFences ∧
      Block.Decompose nestedFences nestedBlocks ∧
      ∃ fragment, (fragments (treeOf nestedFences []) guide (.ofNames .root [])).outcome =
          .ok [fragment] ∧
        fragment.line = 0 ∧ fragment.session = some "a" ∧
        fragment.text = "\x60\x60\x60\nx = 1" := by
  have read : readLines (treeOf nestedFences []) guide = .ok nestedFences :=
    readLines_guide (by simp [nestedFences]) (by simp [nestedFences, IsLine, isLineEnd]) []
  have decomposed : Block.Decompose nestedFences nestedBlocks :=
    Block.decompose_iff.mpr (by decide +kernel)
  have annotated : Block.annotated nestedBlocks =
      [⟨0, ⟨.tilde, 3, "python --session a"⟩, ["\x60\x60\x60", "x = 1"]⟩] := by decide +kernel
  have linked : ∀ block ∈ Block.annotated nestedBlocks, ∃ fragment,
      Fragment.link (treeOf nestedFences []) guide (.ofNames .root []) block.line
        block.opening.info (joinLines block.body) = .ok fragment := by
    intro block member
    rw [annotated, List.mem_singleton] at member
    rw [Fragment.exists_link_iff, member]
    exact follows_session _
  obtain ⟨_, found, built, beside⟩ := fragments_of_blocks.2 _ _ _ _ _ read decomposed linked
  rw [annotated] at beside
  obtain ⟨fragment, _, taken, ⟨⟩, rfl⟩ := List.forall₂_cons_left_iff.mp beside
  have unsupplied : ¬ ∃ text, Linkage.Supplies (treeOf nestedFences []) guide
      (FenceInfo.ofInfo "python --session a").values text := by
    rintro ⟨_, _, _, _, given, _⟩
    simp [ofInfo_session, sessionInfo, OrderedMap.find?] at given
  refine ⟨read, decomposed, fragment, built, taken.place.2, ?_, ?_⟩
  · rw [taken.names.1, ofInfo_session]
    rfl
  · rw [taken.own unsupplied]
    decide +kernel

/-! ## Options and faults -/

/-- Two blocks, the first of which takes its text from a file. -/
def sourceGuide : List String :=
  ["\x60\x60\x60 python --source-file loop.py", "\x60\x60\x60",
    "\x60\x60\x60 python --session a", "\x60\x60\x60"]

def sourceInfo : FenceInfo where
  language := "python"
  values := ⟨[(.sourceFile, "loop.py")]⟩
  problems := []

theorem ofInfo_source : FenceInfo.ofInfo "python --source-file loop.py" = sourceInfo := by
  decide +kernel

theorem readLines_sourceGuide (beside : List (Place × Entry)) :
    readLines (treeOf sourceGuide beside) guide = .ok sourceGuide :=
  readLines_guide (by simp [sourceGuide]) (by simp [sourceGuide, IsLine, isLineEnd]) beside

theorem annotated_sourceGuide : Block.annotated (Block.ofLines sourceGuide) =
    [⟨0, ⟨.backtick, 3, "python --source-file loop.py"⟩, []⟩,
      ⟨2, ⟨.backtick, 3, "python --session a"⟩, []⟩] := by
  decide +kernel

end Document

end DocSamples
