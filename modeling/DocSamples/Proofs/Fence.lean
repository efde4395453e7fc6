import Mathlib
import DocSamples.Fence

namespace DocSamples

open Text

/-! # The grammar of a document

A document can be read as blocks in one way only: its fences, the blocks that they
enclose and the lines between these are settled by how the lines are written.
-/

/-- A list begins with the whole run of a character in one way. -/
theorem run_iff {c : Char} {count : Nat} {chars rest : List Char} :
    (chars = List.replicate count c ++ rest ∧ rest.head? ≠ some c) ↔
      count = (chars.takeWhile (· == c)).length ∧ rest = chars.dropWhile (· == c) := by
  constructor
  · rintro ⟨rfl, ended⟩
    have stop : rest.takeWhile (· == c) = [] ∧ rest.dropWhile (· == c) = rest := by
      cases rest with
      | nil => simp
      | cons first more =>
          have different : first ≠ c := by simpa using ended
          simp [different]
    have each : ∀ x ∈ List.replicate count c, (x == c) = true := by
      simp +contextual [List.mem_replicate]
    rw [List.takeWhile_append_of_pos each, List.dropWhile_append_of_pos each, stop.1, stop.2]
    simp
  · rintro ⟨rfl, rfl⟩
    have run : chars.takeWhile (· == c) = List.replicate (chars.takeWhile (· == c)).length c :=
      List.eq_replicate_iff.mpr ⟨rfl, fun x member => by simpa using List.mem_takeWhile_imp member⟩
    refine ⟨?_, fun begun => ?_⟩
    · rw [← run, List.takeWhile_append_dropWhile]
    · have := List.head?_dropWhile_not (· == c) chars
      simp [begun] at this

namespace Opening

variable {opening other : Opening} {line : String} {mark : Mark}

/-- How a line is written that opens a block: at most three spaces, the whole run of
at least three marks, and an info string. -/
structure Writes (opening : Opening) (line : String) (indent : Nat) (info : List Char) : Prop where
  line : line.toList =
    List.replicate indent ' ' ++ (List.replicate opening.length opening.mark.char ++ info)
  shallow : indent ≤ 3
  long : 3 ≤ opening.length
  whole : info.head? ≠ some opening.mark.char
  /-- The info string of backticks has none. -/
  plain : opening.mark = .backtick → opening.mark.char ∉ info
  info : opening.info = String.ofList (trimChars info)

/-- The block that a line opens. -/
def Opens (opening : Opening) (line : String) : Prop :=
  ∃ indent info, opening.Writes line indent info

/-- The lines that close a block hold, but for blanks around them, the mark that opens
it at least as many times, and nothing else. -/
def Closes (opening : Opening) (line : String) : Prop :=
  ∃ count, opening.length ≤ count ∧
    trimChars line.toList = List.replicate count opening.mark.char

theorem ofMark_eq_some_iff {chars : List Char} : ofMark? mark chars = some opening ↔
    opening.mark = mark ∧ ∃ info, chars = List.replicate opening.length mark.char ++ info ∧
      info.head? ≠ some mark.char ∧ 3 ≤ opening.length ∧
      (mark = .backtick → mark.char ∉ info) ∧ opening.info = String.ofList (trimChars info) := by
  simp only [ofMark?, Option.ite_none_left_eq_some, Option.some.injEq, Nat.not_lt]
  constructor
  · rintro ⟨long, plain, rfl⟩
    obtain ⟨run, ended⟩ := run_iff.mpr ⟨rfl, rfl⟩
    exact ⟨rfl, _, run, ended, long, by simpa using plain, rfl⟩
  · rintro ⟨rfl, info, run, ended, long, plain, text⟩
    obtain ⟨length, rest⟩ := run_iff.mp ⟨run, ended⟩
    subst rest
    refine ⟨length ▸ long, by simpa using plain, ?_⟩
    rw [← length, ← text]

theorem Mark.char_ne_space (mark : Mark) : mark.char ≠ ' ' := by
  cases mark <;> decide

theorem head_marks (mark : Mark) {count : Nat} (long : 3 ≤ count) (info : List Char) :
    (List.replicate count mark.char ++ info).head? = some mark.char := by
  obtain ⟨more, rfl⟩ := Nat.exists_eq_add_of_le' long
  simp [List.replicate_succ]

/-- The line that opens a block tells all about it. -/
theorem ofLine_eq_some_iff : ofLine? line = some opening ↔ opening.Opens line := by
  simp only [ofLine?, Option.ite_none_left_eq_some, Nat.not_lt]
  constructor
  · rintro ⟨shallow, found⟩
    obtain ⟨spaces, _⟩ := run_iff.mpr
      (⟨rfl, rfl⟩ : _ = (line.toList.takeWhile (· == ' ')).length ∧ _)
    have marked : ∃ mark, ofMark? mark (line.toList.dropWhile (· == ' ')) = some opening := by
      rcases Option.or_eq_some_iff.mp found with here | ⟨_, here⟩
      · exact ⟨_, here⟩
      · exact ⟨_, here⟩
    obtain ⟨_, here⟩ := marked
    obtain ⟨rfl, info, marks, whole, long, plain, text⟩ := ofMark_eq_some_iff.mp here
    exact ⟨_, info, spaces.trans (by rw [marks]), shallow, long, whole, plain, text⟩
  · rintro ⟨indent, info, written, shallow, long, whole, plain, text⟩
    have apart : (List.replicate opening.length opening.mark.char ++ info).head? ≠ some ' ' := by
      rw [head_marks opening.mark long]
      simpa using Mark.char_ne_space opening.mark
    obtain ⟨spaces, rest⟩ := run_iff.mp ⟨written, apart⟩
    refine ⟨spaces ▸ shallow, ?_⟩
    rw [← rest]
    have here := ofMark_eq_some_iff.mpr ⟨rfl, info, rfl, whole, long, plain, text⟩
    cases marked : opening.mark with
    | backtick => rw [← marked, here, Option.some_or]
    | tilde =>
        -- What begins with a tilde is no run of backticks.
        have other : ofMark? .backtick
            (List.replicate opening.length Mark.tilde.char ++ info) = none := by
          refine Option.eq_none_iff_forall_ne_some.mpr fun opened found => ?_
          obtain ⟨_, more, marks, _, enough, _⟩ := ofMark_eq_some_iff.mp found
          have first := congrArg List.head? marks
          rw [head_marks _ long, head_marks _ enough] at first
          exact absurd first (by decide)
        rw [other, Option.none_or, ← marked, here]

theorem isClosedBy_iff : opening.isClosedBy line = true ↔ opening.Closes line := by
  simp only [isClosedBy, Closes, Bool.and_eq_true, decide_eq_true_eq, List.all_eq_true, beq_iff_eq]
  constructor
  · rintro ⟨long, marks⟩
    exact ⟨_, long, List.eq_replicate_iff.mpr ⟨rfl, marks⟩⟩
  · rintro ⟨count, long, written⟩
    rw [written]
    simpa [List.mem_replicate] using long

end Opening

namespace Block

/-- What the lines of a block have to be like. -/
inductive Grammatical : Block → Prop
  | prose {line} (plain : ∀ opening : Opening, ¬ opening.Opens line) : Grammatical (.prose line)
  | fenced {line opening body closing} (opens : opening.Opens line)
      (inside : ∀ line ∈ body, ¬ opening.Closes line) (closes : opening.Closes closing) :
      Grammatical (.fenced line opening body closing)
  | unclosed {line opening body} (opens : opening.Opens line)
      (inside : ∀ line ∈ body, ¬ opening.Closes line) :
      Grammatical (.unclosed line opening body)

def IsUnclosed (block : Block) : Prop :=
  ∃ line opening body, block = .unclosed line opening body

/-- Blocks that make up a document: only the last one may be unclosed. -/
structure Decompose (document : List String) (blocks : List Block) : Prop where
  whole : blocks.flatMap lines = document
  grammatical : ∀ block ∈ blocks, block.Grammatical
  ended : ∀ block ∈ blocks.dropLast, ¬ block.IsUnclosed

variable {document more body : List String} {line closing : String} {opening : Opening}
  {block : Block} {rest blocks : List Block}

theorem decompose_nil : Decompose [] [] :=
  ⟨rfl, by simp, by simp⟩

theorem decompose_cons : Decompose document (block :: rest) ↔
    block.Grammatical ∧ (block.IsUnclosed → rest = []) ∧
      ∃ more, document = block.lines ++ more ∧ Decompose more rest := by
  constructor
  · rintro ⟨rfl, grammatical, ended⟩
    refine ⟨grammatical block (by simp), fun open_ => ?_, _, rfl, rfl,
      fun other member => grammatical other (by simp [member]), fun other member => ?_⟩
    · by_contra some
      exact ended block (by simp [List.dropLast_cons_of_ne_nil some]) open_
    · have some : rest ≠ [] := fun none => by simp [none] at member
      exact ended other (by simp [List.dropLast_cons_of_ne_nil some, member])
  · rintro ⟨first, alone, more, rfl, whole, others, ended⟩
    refine ⟨by simp [whole], by simpa using ⟨first, others⟩, fun other member => ?_⟩
    by_cases none : rest = []
    · simp [none] at member
    · rw [List.dropLast_cons_of_ne_nil none, List.mem_cons] at member
      rcases member with rfl | later
      · exact fun open_ => none (alone open_)
      · exact ended other later

/-! ## The blocks that are read -/

theorem ofLines_prose (plain : Opening.ofLine? line = none) :
    ofLines (line :: more) = .prose line :: ofLines more := by
  rw [ofLines, plain]

theorem ofLines_fenced (opens : Opening.ofLine? line = some opening)
    (inside : ∀ line ∈ body, opening.isClosedBy line = false)
    (closes : opening.isClosedBy closing = true) :
    ofLines (line :: (body ++ closing :: more)) =
      .fenced line opening body closing :: ofLines more := by
  have kept : ∀ line ∈ body, (!opening.isClosedBy line) = true := by simpa using inside
  have reached : (body ++ closing :: more).dropWhile (fun line => !opening.isClosedBy line) =
      closing :: more := by
    simp [List.dropWhile_append_of_pos kept, closes]
  have taken : (body ++ closing :: more).takeWhile (fun line => !opening.isClosedBy line) =
      body := by
    simp [List.takeWhile_append_of_pos kept, closes]
  rw [ofLines, opens]
  simp only [taken]
  split
  · simp_all
  · simp_all

theorem ofLines_unclosed (opens : Opening.ofLine? line = some opening)
    (inside : ∀ line ∈ body, opening.isClosedBy line = false) :
    ofLines (line :: body) = [.unclosed line opening body] := by
  have kept : ∀ line ∈ body, (!opening.isClosedBy line) = true := by simpa using inside
  have reached : body.dropWhile (fun line => !opening.isClosedBy line) = [] :=
    List.dropWhile_eq_nil_iff.mpr kept
  have taken : body.takeWhile (fun line => !opening.isClosedBy line) = body :=
    List.takeWhile_eq_self_iff.mpr kept
  rw [ofLines, opens]
  simp only [taken]
  split
  · rfl
  · simp_all

theorem ofLines_nil : ofLines [] = [] := by
  rw [ofLines]

theorem not_closes_of_mem_takeWhile
    (member : line ∈ more.takeWhile fun line => !opening.isClosedBy line) :
    ¬ opening.Closes line := by
  rw [← Opening.isClosedBy_iff]
  simpa using List.mem_takeWhile_imp member

theorem decompose_ofLines (document : List String) : Decompose document (ofLines document) := by
  fun_induction ofLines document with
  | case1 => exact decompose_nil
  | case2 line more plain ih =>
      have grammatical : (Block.prose line).Grammatical := .prose fun opening opens => by
        simp [Opening.ofLine_eq_some_iff.mpr opens] at plain
      exact decompose_cons.mpr ⟨grammatical, by rintro ⟨_, _, _, ⟨⟩⟩, more, rfl, ih⟩
  | case3 line more opening opens body none =>
      have whole : body = more := List.takeWhile_eq_self_iff.mpr (List.dropWhile_eq_nil_iff.mp none)
      have grammatical : (Block.unclosed line opening body).Grammatical :=
        .unclosed (Opening.ofLine_eq_some_iff.mp opens) fun _ => not_closes_of_mem_takeWhile
      exact decompose_cons.mpr ⟨grammatical, fun _ => rfl, [], by simp [lines, whole], decompose_nil⟩
  | case4 line more opening opens body closing after found ih =>
      have whole : more = body ++ closing :: after := by
        rw [← found, List.takeWhile_append_dropWhile]
      have closes : opening.isClosedBy closing = true := by
        have first := List.head?_dropWhile_not (fun line => !opening.isClosedBy line) more
        simpa [found] using first
      have grammatical : (Block.fenced line opening body closing).Grammatical :=
        .fenced (Opening.ofLine_eq_some_iff.mp opens) (fun _ => not_closes_of_mem_takeWhile)
          (Opening.isClosedBy_iff.mp closes)
      exact decompose_cons.mpr ⟨grammatical, by rintro ⟨_, _, _, ⟨⟩⟩, after,
        by simp [lines, whole], ih⟩

theorem eq_ofLines_of_decompose (decomposed : Decompose document blocks) :
    blocks = ofLines document := by
  induction blocks generalizing document with
  | nil => rw [← decomposed.whole, List.flatMap_nil, ofLines_nil]
  | cons block rest ih =>
      obtain ⟨grammatical, alone, more, rfl, others⟩ := decompose_cons.mp decomposed
      cases grammatical with
      | prose plain =>
          have none := Option.eq_none_iff_forall_ne_some.mpr fun opening opens =>
            plain opening (Opening.ofLine_eq_some_iff.mp opens)
          rw [lines, List.singleton_append, ofLines_prose none, ← ih others]
      | fenced opens inside closes =>
          simp only [← Opening.ofLine_eq_some_iff, ← Opening.isClosedBy_iff,
            Bool.not_eq_true] at opens inside closes
          rw [lines, List.cons_append, List.cons_append, List.append_assoc, List.singleton_append,
            ofLines_fenced opens inside closes, ← ih others]
      | unclosed opens inside =>
          simp only [← Opening.ofLine_eq_some_iff, ← Opening.isClosedBy_iff,
            Bool.not_eq_true] at opens inside
          obtain rfl := alone ⟨_, _, _, rfl⟩
          obtain rfl : more = [] := others.whole.symm
          rw [lines, List.append_nil, ofLines_unclosed opens inside]

theorem decompose_iff : Decompose document blocks ↔ blocks = ofLines document :=
  ⟨eq_ofLines_of_decompose, fun same => same ▸ decompose_ofLines document⟩

end Block

end DocSamples
