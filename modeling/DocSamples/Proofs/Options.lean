import DocSamples.Options
import DocSamples.Proofs.OrderedMap
import DocSamples.Proofs.Text.ShellWords
import DocSamples.Proofs.Text.Words

namespace DocSamples

open Text

/-! # Which info strings carry options -/

variable {word : String} {next : Option String} {tokens : List String} {items : List OptionItem}

/-! ## Options that are seen -/

/-- Whether an item is an option, be it one that is known or not. -/
def OptionItem.IsOption (item : OptionItem) : Prop :=
  ∀ word, item ≠ .stray word

def OptionProblem.IsOfOption : OptionProblem → Prop
  | .unknownOption _ => True
  | .missingValue _ => True
  | _ => False

/-- At least one option was seen: it left a value or a problem. -/
def FenceInfo.HasOption (read : FenceInfo) : Prop :=
  read.values.keys ≠ [] ∨ ∃ problem ∈ read.problems, problem.IsOfOption

theorem isDashed_iff : isDashed word = true ↔ "--".toList <+: word.toList := by
  rw [isDashed, List.isPrefixOf_iff_prefix]

theorem isDashed_eq_false_of_isTruthWord (truth : isTruthWord word = true) :
    isDashed word = false := by
  rw [← Bool.not_eq_true, isDashed_iff]
  rintro ⟨rest, split⟩
  have lower : word.toLower.toList = '-' :: '-' :: rest.map Char.toLower := by
    rw [String.toLower, String.toList_map, ← split]
    rfl
  simp only [isTruthWord, Bool.or_eq_true, decide_eq_true_eq] at truth
  rcases truth with same | same <;> simp [same] at lower

theorem OptionName.not_isDashed_of_takes {option : OptionName} (takes : option.takes word = true) :
    isDashed word = false := by
  cases option
  case editable => exact isDashed_eq_false_of_isTruthWord takes
  all_goals simpa [OptionName.takes] using takes

theorem OptionItem.alone_ne_stray (option : OptionName) (word : String) :
    OptionItem.alone option ≠ .stray word := by
  rw [alone]
  split <;> simp

theorem OptionItem.alone_ne_separate (option other : OptionName) (value : String) :
    OptionItem.alone option ≠ .separate other value := by
  rw [alone]
  split <;> simp

theorem OptionItem.isOption_ofWord :
    (OptionItem.ofWord word next).IsOption ↔ isDashed word = true := by
  unfold IsOption ofWord
  cases dashed : isDashed word with
  | false => simp
  | true =>
      simp only [Bool.not_true, Bool.false_eq_true, if_false, iff_true]
      intro other
      split
      · simp
      · simp
      · exact alone_ne_stray _ other
      · split
        · simp
        · exact alone_ne_stray _ other

/-- Only a word that has no dashes is taken as a value. -/
theorem OptionItem.ofWord_separate {option : OptionName} {value : String} {following : String}
    (read : OptionItem.ofWord word (some following) = .separate option value) :
    isDashed word = true ∧ isDashed following = false := by
  have dashed : isDashed word = true := by
    rw [← @isOption_ofWord word (some following), read]
    simp [IsOption]
  refine ⟨dashed, ?_⟩
  unfold ofWord at read
  simp only [dashed, Bool.not_true, Bool.false_eq_true, if_false] at read
  split at read
  · cases read
  · cases read
  · exact absurd read (alone_ne_separate _ _ _)
  · rename_i found
    cases found
    split at read
    · rename_i takes
      exact OptionName.not_isDashed_of_takes takes
    · exact absurd read (alone_ne_separate _ _ _)

/-- Each word with two dashes is read as an option, and no other word is. -/
theorem exists_option_item :
    (∃ item ∈ optionItems tokens, item.IsOption) ↔ ∃ token ∈ tokens, isDashed token = true := by
  induction tokens using optionItems.induct with
  | case1 => simp [optionItems]
  | case2 word => simp [optionItems, OptionItem.isOption_ofWord]
  | case3 word following rest option value read ih =>
      -- The value is passed over together with its name, and it has no dashes.
      obtain ⟨dashed, undashed⟩ := OptionItem.ofWord_separate read
      simp [optionItems, read, dashed, OptionItem.IsOption]
  | case4 word following rest apart ih =>
      have first : optionItems (word :: following :: rest) =
          .ofWord word (some following) :: optionItems (following :: rest) := by
        rw [optionItems]
        split
        · rename_i option value read
          exact (apart option value read).elim
        · rfl
      rw [first, List.exists_mem_cons_iff, List.exists_mem_cons_iff, ih, OptionItem.isOption_ofWord]

theorem FenceInfo.hasOption_ofItems (language : String) :
    (FenceInfo.ofItems language items).HasOption ↔ ∃ item ∈ items, item.IsOption := by
  have problem (item : OptionItem) : item.IsOption ↔
      item.assignment? ≠ none ∨ ∃ problem, item.problem? = some problem ∧ problem.IsOfOption := by
    cases item <;> simp [OptionItem.IsOption, OptionItem.assignment?, OptionItem.problem?,
      OptionProblem.IsOfOption]
  have written : (ofItems language items).values.keys ≠ [] ↔
      items.filterMap OptionItem.assignment? ≠ [] := by
    refine (OrderedMap.keys_foldl_ne_nil_iff ?_).trans ?_
    · exact fun values _ => OrderedMap.keys_alter_ne_nil values
    · simp [OrderedMap.keys, OrderedMap.empty]
  rw [HasOption, written]
  simp only [ofItems, problem, ne_eq, List.filterMap_eq_nil_iff, List.mem_filterMap, not_forall]
  constructor
  · rintro (⟨item, member, assigned⟩ | ⟨problem, ⟨item, member, found⟩, seen⟩)
    · exact ⟨item, member, .inl assigned⟩
    · exact ⟨item, member, .inr ⟨problem, found, seen⟩⟩
  · rintro ⟨item, member, assigned | ⟨problem, found, seen⟩⟩
    · exact .inl ⟨item, member, assigned⟩
    · exact .inr ⟨problem, ⟨item, member, found⟩, seen⟩

theorem FenceInfo.hasOption_ofInfo {info : String} (accepted : shellWords info = .ok tokens) :
    (FenceInfo.ofInfo info).HasOption ↔ ∃ token ∈ tokens, isDashed token = true := by
  rw [ofInfo, accepted]
  cases tokens with
  | nil => simp [ofWords, hasOption_ofItems]
  | cons word rest =>
      simp only [ofWords]
      split
      · rw [hasOption_ofItems, exists_option_item]
      · rename_i undashed
        rw [hasOption_ofItems, exists_option_item]
        simp [undashed]

/-! ## Options that are detected -/

theorem eq_of_mem_dashes {d : Char} (member : d ∈ "--".toList) : d = '-' := by
  simpa using member

theorem isBlank_of_mem_dashes : ∀ d ∈ "--".toList, isBlank d = false := by
  intro d member
  rw [eq_of_mem_dashes member]
  decide +kernel

theorem isAnnotated_iff {info : String} :
    isAnnotated info = true ↔
      "--".toList <+: info.toList ∨ FollowsBlank "--".toList info.toList := by
  rw [← exists_word_prefix_iff (by decide) isBlank_of_mem_dashes, isAnnotated, words]
  simp [isDashed_iff]

/-! ## Where the two differ

The detection looks at words between blanks, quotes or not; the options are seen in shell
words.  They differ on what is quoted only.
-/

namespace Text.ShellWords.Spelling

/-- The word begins with dashes as it is written, and so it does as it is read. -/
def IsPlain (word : Spelling) : Prop :=
  "--".toList <+: word.written

/-- Dashes follow a blank inside the word. -/
def Hides (word : Spelling) : Prop :=
  FollowsBlank "--".toList word.written

/-- The word is read with dashes at its beginning that are not written there. -/
def IsDisguised (word : Spelling) : Prop :=
  "--".toList <+: word.value ∧ ¬ "--".toList <+: word.written

theorem prefix_value_iff {word : Spelling} :
    "--".toList <+: word.value ↔ word.IsPlain ∨ word.IsDisguised := by
  have plain : word.IsPlain → "--".toList <+: word.value := by
    apply prefix_value
    intro d member
    rw [eq_of_mem_dashes member]
    decide
  unfold IsDisguised
  unfold IsPlain at plain ⊢
  tauto

end Text.ShellWords.Spelling

open Text.ShellWords

section Detection

variable {info : String} {words : List Spelling}

theorem isAnnotated_iff_exists_word (spells : Spells words info.toList) :
    isAnnotated info = true ↔ ∃ word ∈ words, word.IsPlain ∨ word.Hides := by
  rw [isAnnotated_iff]
  exact spells.mark_iff (by decide) isBlank_of_mem_dashes

theorem exists_dashed_iff_exists_word (spells : Spells words info.toList)
    (accepted : shellWords info = .ok tokens) :
    (∃ token ∈ tokens, isDashed token = true) ↔
      ∃ word ∈ words, word.IsPlain ∨ word.IsDisguised := by
  have read := shellWords_eq_ok_iff.mpr ⟨words, spells, rfl⟩
  obtain rfl := Except.ok.inj (accepted.symm.trans read)
  simp [isDashed_iff, ← Spelling.prefix_value_iff]

/-- There are no quotes, and each blank parts words for the shell as well. -/
def IsPlainInfo (info : String) : Prop :=
  ∀ c ∈ info.toList, c ≠ singleQuote ∧ c ≠ doubleQuote ∧ c ≠ backslash ∧
    (isBlank c = true → isGap c = true)

theorem IsPlainInfo.of_mem {word : Spelling} (plain : IsPlainInfo info)
    (spells : Spells words info.toList) (member : word ∈ words) :
    ¬ word.Hides ∧ ¬ word.IsDisguised := by
  have inside (c : Char) (written : c ∈ word.written) :=
    plain c (spells.mem_of_mem_written member written)
  obtain ⟨same, solid⟩ := Spelling.of_literal fun c written =>
    ⟨(inside c written).1, (inside c written).2.1, (inside c written).2.2.1⟩
  constructor
  · refine not_followsBlank fun c written => ?_
    have gap := (inside c written).2.2.2
    rw [solid c written] at gap
    simpa using gap
  · rintro ⟨begins, other⟩
    rw [same] at begins
    exact other begins

/-- Options are detected where they are seen, except that dashes after a blank inside a quoted
word are detected and dashes written with quotes or backslashes are not. -/
theorem detection_agrees_iff (accepted : shellWords info = .ok tokens) :
    ((FenceInfo.ofInfo info).HasOption ↔ ∃ token ∈ tokens, isDashed token = true) ∧
      (∃ words, Spells words info.toList) ∧
      (∀ words, Spells words info.toList →
        tokens = words.map (fun word => String.ofList word.value) ∧
        ((isAnnotated info = true ↔ ∃ token ∈ tokens, isDashed token = true) ↔
          (∃ word ∈ words, word.IsPlain) ∨
            ((∃ word ∈ words, word.Hides) ↔ ∃ word ∈ words, word.IsDisguised))) ∧
      (IsPlainInfo info →
        (isAnnotated info = true ↔ ∃ token ∈ tokens, isDashed token = true)) := by
  have agree (words : List Spelling) (spells : Spells words info.toList) :
      (isAnnotated info = true ↔ ∃ token ∈ tokens, isDashed token = true) ↔
        (∃ word ∈ words, word.IsPlain) ∨
          ((∃ word ∈ words, word.Hides) ↔ ∃ word ∈ words, word.IsDisguised) := by
    rw [isAnnotated_iff_exists_word spells, exists_dashed_iff_exists_word spells accepted]
    simp only [and_or_left, exists_or]
    -- A plain word settles both sides; without one each side has its own words left.
    by_cases plain : ∃ word ∈ words, word.IsPlain <;> simp [plain]
  obtain ⟨spelled, spells, same⟩ := shellWords_eq_ok_iff.mp accepted
  refine ⟨FenceInfo.hasOption_ofInfo accepted, ⟨spelled, spells⟩, fun words spells => ?_, ?_⟩
  · have read := shellWords_eq_ok_iff.mpr ⟨words, spells, rfl⟩
    exact ⟨Except.ok.inj (accepted.symm.trans read), agree words spells⟩
  · intro plain
    have unhidden : ¬ ∃ word ∈ spelled, word.Hides := by
      rintro ⟨word, member, hides⟩
      exact (plain.of_mem spells member).1 hides
    have undisguised : ¬ ∃ word ∈ spelled, word.IsDisguised := by
      rintro ⟨word, member, disguised⟩
      exact (plain.of_mem spells member).2 disguised
    exact (agree spelled spells).mpr (.inr (by simp [unhidden, undisguised]))

theorem detection_agrees_session :
    shellWords "python --session a" = .ok ["python", "--session", "a"] ∧
      (isAnnotated "python --session a" = true ↔
        ∃ token ∈ ["python", "--session", "a"], isDashed token = true) := by
  have accepted : shellWords "python --session a" = .ok ["python", "--session", "a"] := by
    decide +kernel
  refine ⟨accepted, (detection_agrees_iff accepted).2.2.2 fun c member => ?_⟩
  have plain : "python --session a".toList.all fun c => decide (c ≠ singleQuote ∧
      c ≠ doubleQuote ∧ c ≠ backslash ∧ (isBlank c = true → isGap c = true)) := by
    decide +kernel
  exact of_decide_eq_true (List.all_eq_true.mp plain c member)

/-- A quoted word that only mentions an option is detected, a quoted option is not. -/
theorem detection_differs :
    (shellWords "python \"a --b\"" = .ok ["python", "a --b"] ∧
      isAnnotated "python \"a --b\"" = true ∧
      ¬ ∃ token ∈ ["python", "a --b"], isDashed token = true) ∧
    (shellWords "python \"--session\" a" = .ok ["python", "--session", "a"] ∧
      isAnnotated "python \"--session\" a" = false ∧
      ∃ token ∈ ["python", "--session", "a"], isDashed token = true) := by
  decide +kernel

end Detection

end DocSamples
