import Mathlib
import DocSamples.Proofs.Text.Words
import DocSamples.Text.ShellWords

namespace DocSamples.Text.ShellWords

/-! # How shell words are written

A line is split by a machine that reads one character after the other.  Here the lines that
it accepts are described by what is written in them: gaps, and words made of pieces, each of
which stands for some text.
-/

structure IsOrdinary (c : Char) : Prop where
  solid : isGap c = false
  notSingle : c ≠ singleQuote
  notDouble : c ≠ doubleQuote
  notBackslash : c ≠ backslash

/-- What stands between double quotes.  A backslash before an ordinary character is kept. -/
inductive Inner where
  | plain (c : Char) (inside : c ≠ doubleQuote) (literal : c ≠ backslash)
  | escaped (c : Char) (special : c = doubleQuote ∨ c = backslash)
  | kept (c : Char) (inside : c ≠ doubleQuote) (literal : c ≠ backslash)

def Inner.written : Inner → List Char
  | .plain c _ _ => [c]
  | .escaped c _ => [backslash, c]
  | .kept c _ _ => [backslash, c]

def Inner.value : Inner → List Char
  | .plain c _ _ => [c]
  | .escaped c _ => [c]
  | .kept c _ _ => [backslash, c]

inductive Piece where
  | plain (c : Char) (ordinary : IsOrdinary c)
  | escaped (c : Char)
  | single (body : List Char) (inside : singleQuote ∉ body)
  | double (body : List Inner)

def Piece.written : Piece → List Char
  | .plain c _ => [c]
  | .escaped c => [backslash, c]
  | .single body _ => singleQuote :: (body ++ [singleQuote])
  | .double body => doubleQuote :: (body.flatMap Inner.written ++ [doubleQuote])

def Piece.value : Piece → List Char
  | .plain c _ => [c]
  | .escaped c => [c]
  | .single body _ => body
  | .double body => body.flatMap Inner.value

/-- A word as it is written, piece by piece. -/
abbrev Spelling := List Piece

def Spelling.written (word : Spelling) : List Char :=
  word.flatMap Piece.written

def Spelling.value (word : Spelling) : List Char :=
  word.flatMap Piece.value

/-- A line with gaps before, between and after words. -/
inductive Spells : List Spelling → List Char → Prop
  | nil : Spells [] []
  | gap {words c rest} : isGap c = true → Spells words rest → Spells words (c :: rest)
  | last {word : Spelling} : word ≠ [] → Spells [word] word.written
  | word {word : Spelling} {words c rest} : word ≠ [] → isGap c = true → Spells words rest →
      Spells (word :: words) (word.written ++ c :: rest)

variable {pending : Pending} {text chars rest : List Char} {found : List (List Char)}

/-! ## Words that have begun -/

/-- A word that goes on with some text. -/
def Pending.extend (pending : Pending) (text : List Char) : Pending :=
  some (text.reverse ++ pending.getD [])

theorem Pending.extend_extend (first second : List Char) :
    (pending.extend first).extend second = pending.extend (first ++ second) := by
  simp [extend]

theorem Pending.push_eq_extend (c : Char) : pending.push c = pending.extend [c] := rfl

theorem Pending.push_extend (c : Char) :
    (pending.extend text).push c = pending.extend (text ++ [c]) := by
  rw [push_eq_extend, extend_extend]

theorem Pending.words_extend_none (text : List Char) : (extend none text).words = [text] := by
  simp [words, extend]

/-! ## Single steps -/

section Steps

variable {c d : Char}

theorem splitFrom_gap (gap : isGap c = true) :
    splitFrom .bare pending (c :: rest) =
      (splitFrom .bare none rest).map (pending.words ++ ·) := by
  cases rest <;> exact if_pos gap

theorem exists_of_splitFrom_gap {c : Char} (gap : isGap c = true)
    (accepted : splitFrom .bare pending (c :: chars) = .ok found) :
    ∃ later, splitFrom .bare none chars = .ok later ∧ found = pending.words ++ later := by
  rw [splitFrom_gap gap] at accepted
  cases read : splitFrom .bare none chars with
  | error fault => simp [read, Except.map] at accepted
  | ok later =>
      rw [read] at accepted
      exact ⟨later, rfl, (Except.ok.inj accepted).symm⟩

theorem splitFrom_plain (ordinary : IsOrdinary c) :
    splitFrom .bare pending (c :: rest) = splitFrom .bare (pending.extend [c]) rest := by
  obtain ⟨solid, notSingle, notDouble, notBackslash⟩ := ordinary
  have gap : ¬ isGap c = true := by simp [solid]
  cases rest <;> exact (if_neg gap).trans
    ((if_neg notSingle).trans ((if_neg notDouble).trans (if_neg notBackslash)))

theorem splitFrom_escaped :
    splitFrom .bare pending (backslash :: d :: rest) = splitFrom .bare (pending.extend [d]) rest :=
  rfl

theorem splitFrom_openSingle :
    splitFrom .bare pending (singleQuote :: rest) =
      splitFrom .single (pending.extend []) rest := by
  cases rest <;> rfl

theorem splitFrom_openDouble :
    splitFrom .bare pending (doubleQuote :: rest) =
      splitFrom .double (pending.extend []) rest := by
  cases rest <;> rfl

theorem splitFrom_single_close :
    splitFrom .single pending (singleQuote :: rest) = splitFrom .bare pending rest :=
  rfl

theorem splitFrom_single_plain (inside : c ≠ singleQuote) :
    splitFrom .single pending (c :: rest) = splitFrom .single (pending.push c) rest :=
  if_neg inside

theorem splitFrom_double_close :
    splitFrom .double pending (doubleQuote :: rest) = splitFrom .bare pending rest := by
  cases rest <;> rfl

theorem splitFrom_double_inner (inner : Inner) :
    splitFrom .double (pending.extend text) (inner.written ++ rest) =
      splitFrom .double (pending.extend (text ++ inner.value)) rest := by
  cases inner with
  | plain c inside literal =>
      rw [Inner.value, ← Pending.push_extend]
      cases rest <;> exact (if_neg inside).trans (if_neg literal)
  | escaped c special =>
      rw [Inner.value, ← Pending.push_extend]
      rcases special with rfl | rfl <;> rfl
  | kept c inside literal =>
      have pushed : pending.extend (text ++ [backslash, c]) =
          ((pending.extend text).push backslash).push c := by
        simp [Pending.push_extend]
      have ordinary : ¬ (decide (c = doubleQuote) || decide (c = backslash)) = true := by
        simp [inside, literal]
      rw [Inner.value, pushed]
      exact if_neg ordinary

end Steps

/-! ## Quotes -/

theorem splitFrom_single_complete {body : List Char} (inside : singleQuote ∉ body) :
    splitFrom .single (pending.extend text) (body ++ singleQuote :: rest) =
      splitFrom .bare (pending.extend (text ++ body)) rest := by
  induction body generalizing text with
  | nil => rw [List.nil_append, splitFrom_single_close, List.append_nil]
  | cons c more ih =>
      have other : c ≠ singleQuote := by
        rintro rfl
        exact inside (List.mem_cons_self ..)
      have later : splitFrom .single (pending.extend (text ++ [c])) (more ++ singleQuote :: rest) =
          splitFrom .bare (pending.extend (text ++ [c] ++ more)) rest :=
        ih fun member => inside (List.mem_cons_of_mem c member)
      rw [List.cons_append, splitFrom_single_plain other, Pending.push_extend, later,
        List.append_assoc, List.singleton_append]

theorem splitFrom_single_sound
    (accepted : splitFrom .single (pending.extend text) chars = .ok found) :
    ∃ body rest, singleQuote ∉ body ∧ chars = body ++ singleQuote :: rest ∧
      splitFrom .bare (pending.extend (text ++ body)) rest = .ok found := by
  induction chars generalizing text with
  | nil => cases accepted
  | cons c more ih =>
      by_cases closing : c = singleQuote
      · subst closing
        rw [splitFrom_single_close] at accepted
        exact ⟨[], more, by simp, rfl, by simpa using accepted⟩
      · rw [splitFrom_single_plain closing, Pending.push_extend] at accepted
        obtain ⟨body, rest, inside, rfl, later⟩ := ih accepted
        refine ⟨c :: body, rest, ?_, rfl, by simpa using later⟩
        simp [inside, Ne.symm closing]

theorem splitFrom_double_complete (body : List Inner) :
    splitFrom .double (pending.extend text)
        (body.flatMap Inner.written ++ doubleQuote :: rest) =
      splitFrom .bare (pending.extend (text ++ body.flatMap Inner.value)) rest := by
  induction body generalizing text with
  | nil => simp [splitFrom_double_close]
  | cons inner more ih =>
      rw [List.flatMap_cons, List.append_assoc, splitFrom_double_inner, ih, List.flatMap_cons,
        List.append_assoc]

/-- The text between double quotes begins with an inner piece unless it is at its end. -/
theorem exists_inner {state : Pending}
    (accepted : splitFrom .double state chars = .ok found) :
    (∃ rest, chars = doubleQuote :: rest) ∨ ∃ inner rest, chars = Inner.written inner ++ rest := by
  cases chars with
  | nil => cases accepted
  | cons c more =>
      by_cases closing : c = doubleQuote
      · exact .inl ⟨more, by rw [closing]⟩
      · right
        by_cases literal : c = backslash
        · subst literal
          cases more with
          | nil => cases accepted
          | cons d rest =>
              by_cases special : d = doubleQuote ∨ d = backslash
              · exact ⟨.escaped d special, rest, rfl⟩
              · rw [not_or] at special
                exact ⟨.kept d special.1 special.2, rest, rfl⟩
        · exact ⟨.plain c closing literal, more, rfl⟩

theorem Inner.written_ne_nil (inner : Inner) : inner.written ≠ [] := by
  cases inner <;> simp [written]

theorem splitFrom_double_sound
    (accepted : splitFrom .double (pending.extend text) chars = .ok found) :
    ∃ (body : List Inner) (rest : List Char),
      chars = body.flatMap Inner.written ++ doubleQuote :: rest ∧
      splitFrom .bare (pending.extend (text ++ body.flatMap Inner.value)) rest = .ok found := by
  induction size : chars.length using Nat.strong_induction_on generalizing text chars with
  | _ size ih =>
      subst size
      rcases exists_inner accepted with ⟨rest, rfl⟩ | ⟨inner, rest, rfl⟩
      · refine ⟨[], rest, rfl, ?_⟩
        simpa [splitFrom_double_close] using accepted
      · rw [splitFrom_double_inner] at accepted
        have shorter : rest.length < (inner.written ++ rest).length := by
          simpa using List.length_pos_iff.mpr inner.written_ne_nil
        obtain ⟨body, after, rfl, later⟩ := ih rest.length shorter accepted rfl
        refine ⟨inner :: body, after, by simp, ?_⟩
        simpa using later

/-! ## Pieces and words -/

theorem splitFrom_piece (piece : Piece) :
    splitFrom .bare pending (piece.written ++ rest) =
      splitFrom .bare (pending.extend piece.value) rest := by
  cases piece with
  | plain c ordinary => exact splitFrom_plain ordinary
  | escaped c => exact splitFrom_escaped
  | single body inside =>
      rw [Piece.written, List.cons_append, splitFrom_openSingle, List.append_assoc,
        List.singleton_append, splitFrom_single_complete inside, List.nil_append, Piece.value]
  | double body =>
      rw [Piece.written, List.cons_append, splitFrom_openDouble, List.append_assoc,
        List.singleton_append, splitFrom_double_complete, List.nil_append, Piece.value]

theorem Piece.written_ne_nil (piece : Piece) : piece.written ≠ [] := by
  cases piece <;> simp [written]

theorem exists_piece {c : Char} (solid : isGap c = false)
    (accepted : splitFrom .bare pending (c :: chars) = .ok found) :
    ∃ piece rest, c :: chars = Piece.written piece ++ rest ∧ rest.length < (c :: chars).length := by
  suffices begins : ∃ piece rest, c :: chars = Piece.written piece ++ rest by
    obtain ⟨piece, rest, split⟩ := begins
    refine ⟨piece, rest, split, ?_⟩
    rw [split]
    simpa using List.length_pos_iff.mpr piece.written_ne_nil
  by_cases single : c = singleQuote
  · subst single
    rw [splitFrom_openSingle] at accepted
    obtain ⟨body, rest, inside, rfl, _⟩ := splitFrom_single_sound accepted
    exact ⟨.single body inside, rest, by simp [Piece.written]⟩
  by_cases double : c = doubleQuote
  · subst double
    rw [splitFrom_openDouble] at accepted
    obtain ⟨body, rest, rfl, _⟩ := splitFrom_double_sound accepted
    exact ⟨.double body, rest, by simp [Piece.written]⟩
  by_cases escape : c = backslash
  · subst escape
    cases chars with
    | nil => cases accepted
    | cons d rest => exact ⟨.escaped d, rest, rfl⟩
  · exact ⟨.plain c ⟨solid, single, double, escape⟩, chars, rfl⟩

theorem splitFrom_word {word : Spelling} (filled : word ≠ []) :
    splitFrom .bare pending (word.written ++ rest) =
      splitFrom .bare (pending.extend word.value) rest := by
  induction word generalizing pending with
  | nil => contradiction
  | cons piece more ih =>
      rw [Spelling.written, Spelling.value, List.flatMap_cons, List.flatMap_cons, List.append_assoc,
        splitFrom_piece]
      cases more with
      | nil => simp
      | cons next others =>
          rw [← Pending.extend_extend]
          exact ih (List.cons_ne_nil next others)

/-- A word that has begun goes on to the next gap or to the end. -/
theorem exists_word (accepted : splitFrom .bare (pending.extend text) chars = .ok found) :
    ∃ word : Spelling,
      (chars = word.written ∧ found = (pending.extend (text ++ word.value)).words) ∨
      ∃ c rest later, isGap c = true ∧ chars = word.written ++ c :: rest ∧
        splitFrom .bare none rest = .ok later ∧
        found = (pending.extend (text ++ word.value)).words ++ later := by
  -- Each piece leaves less to read, until a gap or the end comes.
  induction size : chars.length using Nat.strong_induction_on generalizing text chars with
  | _ size ih =>
      subst size
      cases chars with
      | nil =>
          have done := Except.ok.inj accepted
          exact ⟨[], .inl ⟨rfl, by simp [Spelling.value, ← done]⟩⟩
      | cons c more =>
          cases gap : isGap c with
          | true =>
              obtain ⟨later, read, rfl⟩ := exists_of_splitFrom_gap gap accepted
              exact ⟨[], .inr ⟨c, more, later, gap, rfl, read, by simp [Spelling.value]⟩⟩
          | false =>
              obtain ⟨piece, rest, split, shorter⟩ := exists_piece gap accepted
              rw [split, splitFrom_piece, Pending.extend_extend] at accepted
              rw [split]
              obtain ⟨word, ⟨rfl, rfl⟩ | ⟨d, after, later, gap, rfl, read, rfl⟩⟩ :=
                ih rest.length shorter accepted rfl
              · exact ⟨piece :: word, .inl ⟨by simp [Spelling.written], by simp [Spelling.value]⟩⟩
              · exact ⟨piece :: word, .inr ⟨d, after, later, gap, by simp [Spelling.written], read,
                  by simp [Spelling.value]⟩⟩

/-! ## Lines -/

theorem Spells.split {words : List Spelling} (spells : Spells words chars) :
    splitFrom .bare none chars = .ok (words.map Spelling.value) := by
  induction spells with
  | nil => rfl
  | gap gap _ ih => rw [splitFrom_gap gap, ih]; rfl
  | @last word filled =>
      have read : splitFrom .bare none (word.written ++ []) =
          splitFrom .bare (Pending.extend none word.value) [] := splitFrom_word filled
      rw [List.append_nil] at read
      exact read.trans (congrArg Except.ok (Pending.words_extend_none word.value))
  | word filled gap _ ih =>
      rw [splitFrom_word filled, splitFrom_gap gap, ih, Pending.words_extend_none]
      rfl

theorem exists_spells (accepted : splitFrom .bare none chars = .ok found) :
    ∃ words, Spells words chars ∧ found = words.map Spelling.value := by
  induction size : chars.length using Nat.strong_induction_on generalizing chars found with
  | _ size ih =>
      subst size
      cases chars with
      | nil => exact ⟨[], .nil, (Except.ok.inj accepted).symm⟩
      | cons c more =>
          cases gap : isGap c with
          | true =>
              obtain ⟨later, read, rfl⟩ := exists_of_splitFrom_gap gap accepted
              obtain ⟨words, spells, rfl⟩ := ih more.length (by simp) read rfl
              exact ⟨words, .gap gap spells, rfl⟩
          | false =>
              obtain ⟨piece, rest, split, shorter⟩ := exists_piece gap accepted
              rw [split, splitFrom_piece] at accepted
              rw [split]
              obtain ⟨word, ⟨rfl, rfl⟩ | ⟨d, after, later, gap, rfl, read, rfl⟩⟩ :=
                exists_word accepted
              · refine ⟨[piece :: word], Spells.last (List.cons_ne_nil piece word), ?_⟩
                rw [Pending.words_extend_none]
                rfl
              · have shorter : after.length < (c :: more).length := by
                  refine Nat.lt_trans ?_ shorter
                  simp
                  omega
                obtain ⟨words, spells, rfl⟩ := ih after.length shorter read rfl
                have whole := Spells.word (List.cons_ne_nil piece word) gap spells
                refine ⟨(piece :: word) :: words, by simpa [Spelling.written] using whole, ?_⟩
                rw [Pending.words_extend_none]
                rfl

theorem shellWords_eq_ok_iff {line : String} {tokens : List String} :
    shellWords line = .ok tokens ↔
      ∃ words, Spells words line.toList ∧
        tokens = words.map fun word => String.ofList word.value := by
  constructor
  · intro accepted
    cases read : splitFrom .bare none line.toList with
    | error fault => simp [shellWords, read, Except.map] at accepted
    | ok found =>
        obtain ⟨words, spells, rfl⟩ := exists_spells read
        refine ⟨words, spells, ?_⟩
        have split : shellWords line = .ok ((words.map Spelling.value).map String.ofList) := by
          rw [shellWords, read]
          rfl
        rw [split, List.map_map] at accepted
        exact (Except.ok.inj accepted).symm
  · rintro ⟨words, spells, rfl⟩
    rw [shellWords, spells.split, Except.map, List.map_map]
    rfl

/-! ## Marks in a line -/

section Marks

variable {mark : List Char} {words : List Spelling}

theorem isBlank_of_isGap {c : Char} (gap : isGap c = true) : isBlank c = true := by
  simp only [isGap, Bool.or_eq_true, decide_eq_true_eq] at gap
  rcases gap with ((rfl | rfl) | rfl) | rfl <;> decide +kernel

/-- A mark stands at the beginning of a line or after a blank where it does so in a word. -/
theorem Spells.mark_iff (filled : mark ≠ []) (solid : ∀ d ∈ mark, isBlank d = false)
    (spells : Spells words chars) :
    mark <+: chars ∨ FollowsBlank mark chars ↔
      ∃ word ∈ words, mark <+: word.written ∨ FollowsBlank mark word.written := by
  have none : ¬ (mark <+: [] ∨ FollowsBlank mark []) := by
    simp [filled, not_followsBlank]
  induction spells with
  | nil => simpa using none
  | @gap words c rest gap _ ih =>
      have blank := isBlank_of_isGap gap
      have apart := @prefix_append_blank_iff c [] rest mark solid blank
      have follows := @followsBlank_append_blank_iff c [] rest mark solid blank
      rw [List.nil_append] at apart follows
      rw [apart, follows, ← or_assoc, or_iff_right none]
      exact ih
  | last _ => simp
  | word _ gap _ ih =>
      have blank := isBlank_of_isGap gap
      rw [prefix_append_blank_iff solid blank, followsBlank_append_blank_iff solid blank,
        ← or_assoc, List.exists_mem_cons_iff]
      exact or_congr_right ih

/-- Marks without quotes and backslashes can be read off a word as it is written. -/
theorem Spelling.prefix_value {word : Spelling}
    (bare : ∀ d ∈ mark, d ≠ singleQuote ∧ d ≠ doubleQuote ∧ d ≠ backslash)
    (begins : mark <+: word.written) : mark <+: word.value := by
  induction word generalizing mark with
  | nil => simpa [written, value] using begins
  | cons piece more ih =>
      cases mark with
      | nil => exact List.nil_prefix
      | cons d rest =>
          obtain ⟨notSingle, notDouble, notBackslash⟩ := bare d (by simp)
          rw [written, List.flatMap_cons] at begins
          rw [value, List.flatMap_cons]
          cases piece with
          | plain c ordinary =>
              obtain ⟨rfl, tail⟩ := List.cons_prefix_cons.mp begins
              have later := ih (fun e member => bare e (List.mem_cons_of_mem d member)) tail
              exact List.cons_prefix_cons.mpr ⟨rfl, later⟩
          | escaped c => exact absurd (List.cons_prefix_cons.mp begins).1 notBackslash
          | single body inside => exact absurd (List.cons_prefix_cons.mp begins).1 notSingle
          | double body => exact absurd (List.cons_prefix_cons.mp begins).1 notDouble

end Marks

/-! ## Lines without quotes -/

theorem Spells.mem_of_mem_written {words : List Spelling} {word : Spelling} {c : Char}
    (spells : Spells words chars) (member : word ∈ words) (inside : c ∈ word.written) :
    c ∈ chars := by
  induction spells with
  | nil => cases member
  | gap _ _ ih => exact List.mem_cons_of_mem _ (ih member)
  | last _ =>
      rw [List.mem_singleton.mp member] at inside
      exact inside
  | word _ _ _ ih =>
      rcases List.mem_cons.mp member with rfl | member
      · exact List.mem_append_left _ inside
      · exact List.mem_append_right _ (List.mem_cons_of_mem _ (ih member))

theorem Piece.of_literal {piece : Piece}
    (literal : ∀ c ∈ piece.written, c ≠ singleQuote ∧ c ≠ doubleQuote ∧ c ≠ backslash) :
    ∃ c ordinary, piece = .plain c ordinary := by
  cases piece with
  | plain c ordinary => exact ⟨c, ordinary, rfl⟩
  | escaped c => exact absurd rfl (literal backslash (by simp [written])).2.2
  | single body inside => exact absurd rfl (literal singleQuote (by simp [written])).1
  | double body => exact absurd rfl (literal doubleQuote (by simp [written])).2.1

/-- A word without quotes and backslashes says what is written and holds no gap. -/
theorem Spelling.of_literal {word : Spelling}
    (literal : ∀ c ∈ word.written, c ≠ singleQuote ∧ c ≠ doubleQuote ∧ c ≠ backslash) :
    word.value = word.written ∧ ∀ c ∈ word.written, isGap c = false := by
  induction word with
  | nil => simp [value, written]
  | cons piece more ih =>
      simp only [written, List.flatMap_cons, List.mem_append] at literal
      obtain ⟨c, ordinary, rfl⟩ := Piece.of_literal fun d member => literal d (.inl member)
      obtain ⟨same, solid⟩ := ih fun d member => literal d (.inr member)
      simp only [value, written, List.flatMap_cons, Piece.value, Piece.written] at same solid ⊢
      refine ⟨by rw [same], ?_⟩
      intro d member
      rcases List.mem_append.mp member with member | member
      · rw [List.mem_singleton.mp member]
        exact ordinary.solid
      · exact solid d member

end DocSamples.Text.ShellWords
