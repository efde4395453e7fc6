import Mathlib
import DocSamples.Proofs.Document
import DocSamples.Proofs.Text.Ends

namespace DocSamples

open Text

/-! # Fragments as parts of a text

A fragment is what stands between two fences of a document.  Line ends of the document that are no
line feeds are written as line feeds in it, and they count as lines above it.
-/

theorem Text.carriage_not_mem_unifyLineEnds (chars : List Char) : '\r' ∉ unifyLineEnds chars := by
  fun_induction unifyLineEnds chars with
  | case1 => simp
  | case2 rest ih => simpa using ih
  | case3 rest _ ih => simpa using ih
  | case4 c rest _ different ih => simpa [eq_comm] using ⟨different, ih⟩

theorem Tree.carriage_not_mem_of_readText {tree : Tree} {path : Path} {text : String}
    (read : tree.readText path = .ok text) : '\r' ∉ text.toList := by
  obtain ⟨_, _, _, _, _, rfl⟩ := exists_file_of_readText read
  rw [String.toList_ofList]
  exact carriage_not_mem_unifyLineEnds _

/-! ## Blocks among the lines -/

/-- A fenced block stands among the lines of a document: its fences, and the body between them. -/
theorem Block.exists_lines_of_mem_annotated {document : List String} {block : AnnotatedBlock}
    (member : block ∈ annotated (ofLines document)) :
    ∃ above opening closing below, document = above ++ opening :: (block.body ++ closing :: below) ∧
      above.length = block.line ∧ block.opening.Opens opening ∧
      (∀ line ∈ block.body, ¬ block.opening.Closes line) ∧ block.opening.Closes closing := by
  have decomposed := decompose_ofLines document
  obtain ⟨⟨number, found⟩, numbered, selected⟩ := List.mem_filterMap.mp member
  obtain ⟨before, after, split, rfl⟩ := mem_numbered.mp numbered
  have grammatical := decomposed.grammatical found (by simp [split])
  have whole := decomposed.whole
  cases grammatical with
  | prose plain => simp [annotated?] at selected
  | unclosed opens inside => simp [annotated?] at selected
  | fenced opens inside closes =>
      simp only [annotated?, Option.ite_none_right_eq_some, Option.some.injEq] at selected
      obtain ⟨_, rfl⟩ := selected
      refine ⟨before.flatMap lines, _, _, after.flatMap lines, ?_, by simp, opens, inside, closes⟩
      rw [← whole, split]
      simp [lines]

/-! ## Blocks among the characters -/

/-- A text that is parted at two fences. -/
structure Excerpt where
  above : List Char
  opening : String
  /-- The end of the line that opens. -/
  ended : Char
  body : List Char
  closing : String
  below : List Char

namespace Excerpt

variable {excerpt : Excerpt} {text : String} {shown : List Char}

def chars (excerpt : Excerpt) : List Char :=
  excerpt.above ++ excerpt.opening.toList ++
    excerpt.ended :: (excerpt.body ++ excerpt.closing.toList ++ excerpt.below)

/-- All that stands between the two fences, with the line ends there. -/
def between (excerpt : Excerpt) : List Char :=
  excerpt.ended :: excerpt.body

/-- The fences are two lines of the text, the first of which opens a block and the second closes
it. -/
structure IsOf (excerpt : Excerpt) (text : String) (opening : Opening) : Prop where
  whole : excerpt.chars = text.toList
  above : IsClosed excerpt.above
  openingLine : IsLine excerpt.opening
  opens : opening.Opens excerpt.opening
  ended : isLineEnd excerpt.ended = true
  body : IsClosed excerpt.body
  inside : ∀ line ∈ lines (String.ofList excerpt.body), ¬ opening.Closes line
  closingLine : IsLine excerpt.closing
  closes : opening.Closes excerpt.closing
  below : ∀ c ∈ excerpt.below.head?, isLineEnd c = true

/-- Some characters are what stands between the line feed that ends the opening line and the line
feed before the closing one; they are none when that is one line feed. -/
def IsVerbatim (excerpt : Excerpt) (shown : List Char) : Prop :=
  excerpt.between = ['\n'] ∧ shown = [] ∨ excerpt.between = '\n' :: (shown ++ ['\n'])

theorem isVerbatim_iff (ended : isLineEnd excerpt.ended = true) (closed : IsClosed excerpt.body)
    (fed : shown = feedEnds excerpt.body.dropLast) :
    excerpt.IsVerbatim shown ↔ HasOnlyFeeds excerpt.between := by
  subst fed
  have parted : HasOnlyFeeds excerpt.between ↔
      excerpt.ended = '\n' ∧ HasOnlyFeeds excerpt.body := by
    rw [between, HasOnlyFeeds, List.forall_mem_cons]
    simp [ended, HasOnlyFeeds]
  rw [parted, IsVerbatim, between]
  rcases List.eq_nil_or_concat' excerpt.body with nothing | ⟨front, last, split⟩
  · simp [nothing, HasOnlyFeeds, feedEnds]
  · have lastEnded : isLineEnd last = true := closed last (by simp [split])
    have onlyFeeds : HasOnlyFeeds (front ++ [last]) ↔ feedEnds front = front ∧ last = '\n' := by
      rw [feedEnds_eq_self_iff, HasOnlyFeeds, List.forall_mem_append]
      simp [lastEnded, HasOnlyFeeds]
    rw [split, onlyFeeds, List.dropLast_concat]
    constructor
    · rintro (⟨single, _⟩ | same)
      · simp at single
      · obtain ⟨feed, same⟩ := List.cons.inj same
        obtain ⟨same, lastFeed⟩ := List.append_inj' same rfl
        exact ⟨feed, same.symm, List.singleton_inj.mp lastFeed⟩
    · rintro ⟨feed, same, lastFeed⟩
      exact .inr (by rw [feed, same, lastFeed])

/-- A text without carriage returns is parted at any two of its lines. -/
theorem exists_of_lines {above body below : List String} {opening closing : String}
    (plain : '\r' ∉ text.toList)
    (split : lines text = above ++ opening :: (body ++ closing :: below)) :
    ∃ excerpt : Excerpt, excerpt.chars = text.toList ∧ excerpt.opening = opening ∧
      excerpt.closing = closing ∧ IsClosed excerpt.above ∧
      excerpt.above.countP isLineEnd = above.length ∧ isLineEnd excerpt.ended = true ∧
      IsClosed excerpt.body ∧ lines (String.ofList excerpt.body) = body ∧
      ∀ c ∈ excerpt.below.head?, isLineEnd c = true := by
  -- The text is parted before the opening line, after it, and before the closing line.
  have read := splitLines_toList text
  rw [split, List.map_append] at read
  obtain ⟨aboveChars, rest, whole, aboveClosed, readAbove, readRest⟩ :=
    exists_of_splitLines_append plain read (by simp)
  have plainAbove : '\r' ∉ aboveChars := fun inside => plain (by simp [whole, inside])
  have plainRest : '\r' ∉ rest := fun inside => plain (by simp [whole, inside])
  rw [List.map_cons] at readRest
  obtain ⟨_, rfl, ⟨_, nothing⟩ | ⟨c, rest, rfl, ended, read⟩⟩ :=
    exists_of_splitLines_cons plainRest readRest
  · simp at nothing
  · rw [List.map_append] at read
    have plainRest : '\r' ∉ rest := fun inside => plainRest (by simp [inside])
    obtain ⟨bodyChars, rest, rfl, bodyClosed, readBody, readRest⟩ :=
      exists_of_splitLines_append plainRest read (by simp)
    have plainRest : '\r' ∉ rest := fun inside => plainRest (by simp [inside])
    obtain ⟨belowChars, rfl, ends⟩ := exists_of_splitLines_cons plainRest readRest
    refine ⟨⟨aboveChars, opening, c, bodyChars, closing, belowChars⟩, by simp [chars, whole], rfl,
      rfl, aboveClosed, ?_, ended, bodyClosed, lines_ofList readBody, ?_⟩
    · rw [← length_splitLines plainAbove aboveClosed, readAbove, List.length_map]
    · rcases ends with ⟨rfl, _⟩ | ⟨c, _, rfl, ended, _⟩
      · simp
      · intro d there
        rw [List.head?_cons, Option.mem_some] at there
        exact there ▸ ended

/-- A block with options is an excerpt of the text, with its lines between the fences. -/
theorem exists_of_mem_annotated {block : AnnotatedBlock} (plain : '\r' ∉ text.toList)
    (member : block ∈ Block.annotated (Block.ofLines (lines text))) :
    ∃ excerpt : Excerpt, excerpt.IsOf text block.opening ∧
      block.line = excerpt.above.countP isLineEnd ∧
      (joinLines block.body).toList = feedEnds excerpt.body.dropLast := by
  obtain ⟨above, opening, closing, below, split, number, opens, inside, closes⟩ :=
    Block.exists_lines_of_mem_annotated member
  obtain ⟨excerpt, whole, rfl, rfl, aboveClosed, count, ended, bodyClosed, read, belowEnds⟩ :=
    exists_of_lines plain split
  have single (line : String) (member : line ∈ lines text) : IsLine line :=
    isLine_of_mem_lines member
  rw [split] at single
  refine ⟨excerpt, ?_, by rw [count, number], ?_⟩
  · exact {
      whole
      above := aboveClosed
      openingLine := single _ (by simp)
      opens
      ended
      body := bodyClosed
      inside := by rwa [read]
      closingLine := single _ (by simp)
      closes
      below := belowEnds }
  · have plainBody : '\r' ∉ excerpt.body := fun inside => plain (by simp [← whole, chars, inside])
    rw [← read, toList_joinLines_lines_dropLast plainBody bodyClosed]

theorem IsOf.hasOnlyFeeds {opening : Opening} (placed : excerpt.IsOf text opening)
    (feeds : HasOnlyFeeds text.toList) :
    HasOnlyFeeds excerpt.above ∧ HasOnlyFeeds excerpt.between := by
  rw [← placed.whole] at feeds
  exact ⟨fun c inside => feeds c (by simp [chars, inside]),
    fun c inside => feeds c (by
      rw [between, List.mem_cons] at inside
      rcases inside with first | inside
      · simp [chars, first]
      · simp [chars, inside])⟩

end Excerpt

namespace Document

variable {tree : Tree} {document root : Path} {text : String} {found : List Fragment}

/-- Each fragment that no file supplies is what stands between its fences, with a line feed for
each line end, and its line is the number of line ends above.  It is that part of the text
character by character exactly when there are no other line ends in it. -/
theorem text_verbatim_iff (read : tree.readText document = .ok text)
    (built : (fragments tree document root).outcome = .ok found) :
    List.Forall₂ (fun (block : AnnotatedBlock) (fragment : Fragment) =>
      ∃ excerpt : Excerpt, excerpt.IsOf text block.opening ∧
        fragment.line = excerpt.above.countP isLineEnd ∧
        (fragment.line = excerpt.above.count '\n' ↔ HasOnlyFeeds excerpt.above) ∧
        ((¬ ∃ other, Linkage.Supplies tree document (FenceInfo.ofInfo block.opening.info).values
            other) →
          fragment.text.toList = feedEnds excerpt.body.dropLast ∧
          (excerpt.IsVerbatim fragment.text.toList ↔ HasOnlyFeeds excerpt.between)))
      (Block.annotated (Block.ofLines (lines text))) found := by
  obtain ⟨_, readLines, beside⟩ := fragments_eq_ok.mp built
  have same : Document.readLines tree document = .ok (lines text) := by
    rw [Document.readLines, read]
  obtain rfl := Except.ok.inj (readLines.symm.trans same)
  have inside : ∀ block ∈ Block.annotated (Block.ofLines (lines text)), ∃ excerpt : Excerpt,
      excerpt.IsOf text block.opening ∧ block.line = excerpt.above.countP isLineEnd ∧
        (joinLines block.body).toList = feedEnds excerpt.body.dropLast :=
    fun _ => Excerpt.exists_of_mem_annotated (Tree.carriage_not_mem_of_readText read)
  refine ((List.forall₂_and_left _ _).mpr ⟨inside, beside⟩).imp ?_
  rintro block fragment ⟨⟨excerpt, placed, number, body⟩, linked⟩
  have taken := Fragment.takenFrom_of_link linked
  have line : fragment.line = excerpt.above.countP isLineEnd := by rw [taken.place.2, number]
  refine ⟨excerpt, placed, line, ?_, fun unsupplied => ?_⟩
  · rw [line, Nat.cast_inj, eq_comm, count_feed_eq_iff]
  · have shown : fragment.text.toList = feedEnds excerpt.body.dropLast := by
      rw [taken.own unsupplied, body]
    exact ⟨shown, Excerpt.isVerbatim_iff placed.ended placed.body shown⟩

/-! ## A guide with line feeds, and one with other line ends -/

theorem readText_of_not_mem {name : String} (plain : Tree.IsPlain name)
    (short : name.utf8ByteSize ≤ Tree.nameLimit) (single : '\r' ∉ text.toList)
    (file : tree.lookup [name] = some (.file (Utf8.encodeText text))) :
    tree.readText (.ofNames .root [name]) = .ok text := by
  rw [Tree.readText, Tree.readBytes_rootChild plain short file]
  simp only [Utf8.decode_encodeText, unifyLineEnds_of_not_mem single, String.ofList_toList]

theorem not_supplies_session :
    ¬ ∃ other, Linkage.Supplies tree document (FenceInfo.ofInfo "python --session a").values
      other := by
  rintro ⟨_, _, _, _, given, _⟩
  simp [ofInfo_session, sessionInfo, OrderedMap.find?] at given

def sessionOpening : Opening :=
  ⟨.backtick, 3, "python --session a"⟩

theorem fragments_of_session {line : Nat} {body : List String}
    (read : tree.readText guide = .ok text)
    (single : Block.annotated (Block.ofLines (lines text)) = [⟨line, sessionOpening, body⟩]) :
    ∃ fragment, (fragments tree guide (.ofNames .root [])).outcome = .ok [fragment] ∧
      fragment.line = line ∧ fragment.text = joinLines body := by
  have readLines : readLines tree guide = .ok (lines text) := by rw [Document.readLines, read]
  obtain ⟨fragment, linked⟩ :=
    @Fragment.exists_link_iff tree guide (.ofNames .root []) line "python --session a"
      (joinLines body) |>.mpr (follows_session tree)
  have taken := Fragment.takenFrom_of_link linked
  refine ⟨fragment, fragments_eq_ok.mpr ⟨_, readLines, ?_⟩, taken.place.2,
    taken.own not_supplies_session⟩
  rw [single]
  exact .cons linked .nil

def feedText : String :=
  "# A\n\x60\x60\x60python --session a\nx = 1\ny = 2\n\x60\x60\x60\n"

def treeOfText (text : String) : Tree where
  current := []
  entries := [(["guide.md"], .file (Utf8.encodeText text))]

theorem readText_treeOfText (single : '\r' ∉ text.toList) :
    (treeOfText text).readText guide = .ok text :=
  readText_of_not_mem (by decide) (by decide) single (by simp [Tree.lookup, treeOfText])

theorem text_verbatim_feeds :
    ∃ (fragment : Fragment) (excerpt : Excerpt),
      (fragments (treeOfText feedText) guide (.ofNames .root [])).outcome = .ok [fragment] ∧
      excerpt.IsOf feedText sessionOpening ∧ fragment.line = excerpt.above.count '\n' ∧
      excerpt.IsVerbatim fragment.text.toList := by
  have read : (treeOfText feedText).readText guide = .ok feedText :=
    readText_treeOfText (by decide +kernel)
  have annotated : Block.annotated (Block.ofLines (lines feedText)) =
      [⟨1, sessionOpening, ["x = 1", "y = 2"]⟩] := by decide +kernel
  obtain ⟨fragment, built, _, _⟩ := fragments_of_session read annotated
  have shown := text_verbatim_iff read built
  rw [annotated] at shown
  obtain ⟨_, _, ⟨excerpt, placed, _, line, whole⟩, _, same⟩ := List.forall₂_cons_left_iff.mp shown
  obtain ⟨rfl, _⟩ := List.cons.inj same
  have feeds := placed.hasOnlyFeeds (by decide +kernel)
  exact ⟨_, excerpt, built, placed, line.mpr feeds.1,
    (whole not_supplies_session).2.mpr feeds.2⟩

/-- A block with a line separator inside of a text, below a line with a form feed. -/
def separatorExcerpt : Excerpt where
  above := "a\x0cb\n".toList
  opening := "\x60\x60\x60python --session a"
  ended := '\n'
  body := "s = 'a\u2028b'\n".toList
  closing := "\x60\x60\x60"
  below := ['\n']

/-- Other line ends than line feeds are written as line feeds in a fragment, and count above it. -/
theorem text_changed_by_separator :
    ∃ (tree : Tree) (document root : Path) (text : String) (opening : Opening)
      (fragment : Fragment) (excerpt : Excerpt),
      tree.readText document = .ok text ∧
      (fragments tree document root).outcome = .ok [fragment] ∧
      (¬ ∃ other, Linkage.Supplies tree document (FenceInfo.ofInfo opening.info).values other) ∧
      excerpt.IsOf text opening ∧ ¬ excerpt.IsVerbatim fragment.text.toList ∧
      fragment.line ≠ excerpt.above.count '\n' := by
  have read : (treeOfText (.ofList separatorExcerpt.chars)).readText guide =
      .ok (.ofList separatorExcerpt.chars) := readText_treeOfText (by decide +kernel)
  have annotated : Block.annotated (Block.ofLines (lines (.ofList separatorExcerpt.chars))) =
      [⟨2, sessionOpening, ["s = 'a", "b'"]⟩] := by decide +kernel
  obtain ⟨fragment, built, line, shown⟩ := fragments_of_session read annotated
  refine ⟨_, guide, _, _, sessionOpening, fragment, separatorExcerpt, read, built,
    not_supplies_session, ?_, ?_, ?_⟩
  · exact {
      whole := by rw [String.toList_ofList]
      above := by decide +kernel
      openingLine := by simp [separatorExcerpt, IsLine, isLineEnd]
      opens := Opening.ofLine_eq_some_iff.mp (by decide +kernel)
      ended := by decide
      body := by decide +kernel
      inside := by
        have body : lines (String.ofList separatorExcerpt.body) = ["s = 'a", "b'"] := by
          decide +kernel
        simp only [body, List.forall_mem_cons, ← Opening.isClosedBy_iff]
        decide +kernel
      closingLine := by simp [separatorExcerpt, IsLine, isLineEnd]
      closes := Opening.isClosedBy_iff.mp (by decide +kernel)
      below := by simp [separatorExcerpt, isLineEnd] }
  · rw [shown]
    simp only [Excerpt.IsVerbatim]
    decide +kernel
  · rw [line]
    decide +kernel

end Document

end DocSamples
