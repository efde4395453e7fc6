import DocSamples.Proofs.Options.Grammar

namespace DocSamples

open Text

/-! # Options in quotes

Whatever text is put between single quotes comes back as it was.  A single quote in it ends the
quotes, stands between double ones, and the single quotes begin again.
-/

namespace Text.ShellWords

def quotedChar (c : Char) : List Char :=
  if c = singleQuote then [singleQuote, doubleQuote, singleQuote, doubleQuote, singleQuote]
  else [c]

def quoted (text : List Char) : List Char :=
  singleQuote :: (text.flatMap quotedChar ++ [singleQuote])

theorem Spelling.written_append (first second : Spelling) :
    (first ++ second : Spelling).written = first.written ++ second.written :=
  List.flatMap_append

theorem Spelling.value_append (first second : Spelling) :
    (first ++ second : Spelling).value = first.value ++ second.value :=
  List.flatMap_append

theorem exists_spelling_of_ordinary {text : List Char} (ordinary : ∀ c ∈ text, IsOrdinary c) :
    ∃ word : Spelling, word.written = text ∧ word.value = text := by
  induction text with
  | nil => exact ⟨[], rfl, rfl⟩
  | cons c rest ih =>
      obtain ⟨word, written, value⟩ := ih fun d member => ordinary d (by simp [member])
      exact ⟨.plain c (ordinary c (by simp)) :: word, congrArg _ written, congrArg _ value⟩

/-- Between the single quotes of a text there are pieces in single quotes. -/
theorem exists_spelling_of_quoted (text : List Char) :
    ∃ (body : List Char) (inside : singleQuote ∉ body) (more : Spelling),
      Spelling.written (.single body inside :: more) = quoted text ∧
        Spelling.value (.single body inside :: more) = text := by
  induction text with
  | nil => exact ⟨[], by simp, [], rfl, rfl⟩
  | cons c rest ih =>
      obtain ⟨body, inside, more, written, value⟩ := ih
      simp only [Spelling.written, Spelling.value, List.flatMap_cons, Piece.written, Piece.value,
        quoted, List.cons_append, List.cons.injEq, true_and] at written value ⊢
      by_cases quote : c = singleQuote
      · subst quote
        have literal : singleQuote ≠ doubleQuote ∧ singleQuote ≠ backslash := by decide
        refine ⟨[], by simp, .double [.plain singleQuote literal.1 literal.2] ::
          .single body inside :: more, ?_, ?_⟩
        · simp [Piece.written, Inner.written, quotedChar, written]
        · simp [Piece.value, Inner.value, value]
      · refine ⟨c :: body, by simp [inside, Ne.symm quote], more, ?_, ?_⟩
        · simp [quotedChar, quote, ← written]
        · simp [value]

end Text.ShellWords

open Text.ShellWords

variable {option : OptionName} {language value : String} {options : List (OptionName × String)}

theorem OptionName.isOrdinary_text : ∀ c ∈ option.text.toList ++ ['='], IsOrdinary c := by
  have ordinary : (option.text.toList ++ ['=']).all (fun c => decide (isGap c = false ∧
      c ≠ singleQuote ∧ c ≠ doubleQuote ∧ c ≠ backslash)) = true := by
    cases option <;> decide
  intro c member
  obtain ⟨solid, single, double, escape⟩ :=
    of_decide_eq_true (List.all_eq_true.mp ordinary c member)
  exact ⟨solid, single, double, escape⟩

/-- The characters of an option whose value is in quotes. -/
def OptionName.quotedWith (option : OptionName) (value : String) : List Char :=
  option.text.toList ++ ['='] ++ quoted value.toList

theorem exists_spelling_of_option (option : OptionName) (value : String) :
    ∃ word : Spelling, word ≠ [] ∧ word.written = option.quotedWith value ∧
      String.ofList word.value = option.text ++ "=" ++ value := by
  obtain ⟨front, frontWritten, frontValue⟩ :=
    exists_spelling_of_ordinary (@OptionName.isOrdinary_text option)
  obtain ⟨body, inside, more, written, read⟩ := exists_spelling_of_quoted value.toList
  refine ⟨front ++ .single body inside :: more, by simp, ?_, String.toList_inj.mp ?_⟩
  · rw [Spelling.written_append, frontWritten, written, OptionName.quotedWith]
  · rw [String.toList_ofList, Spelling.value_append, frontValue, read]
    simp

/-- An info string with a language and options, all of them in quotes. -/
def FenceInfo.written (language : String) (options : List (OptionName × String)) : String :=
  String.ofList (quoted language.toList ++
    options.flatMap fun (option, value) => ' ' :: option.quotedWith value)

/-- Words with one space before each are read one by one. -/
theorem exists_spells_of_options {word : Spelling} (filled : word ≠ []) :
    ∃ words, Spells words (word.written ++
        options.flatMap fun (option, value) => ' ' :: option.quotedWith value) ∧
      words.map (fun word => String.ofList word.value) = String.ofList word.value ::
        options.map fun (option, value) => option.text ++ "=" ++ value := by
  induction options generalizing word with
  | nil => exact ⟨[word], by simpa using Spells.last filled, rfl⟩
  | cons first rest ih =>
      obtain ⟨option, given⟩ := first
      obtain ⟨next, nextFilled, written, value⟩ := exists_spelling_of_option option given
      obtain ⟨words, spells, values⟩ := ih nextFilled
      rw [written] at spells
      refine ⟨word :: words, .word filled (by decide) spells, ?_⟩
      rw [List.map_cons, values, value, List.map_cons]

theorem shellWords_written : shellWords (FenceInfo.written language options) = .ok
    (language :: options.map fun (option, value) => option.text ++ "=" ++ value) := by
  obtain ⟨body, inside, more, written, read⟩ := exists_spelling_of_quoted language.toList
  obtain ⟨words, spells, values⟩ := @exists_spells_of_options options _
    (List.cons_ne_nil (Piece.single body inside) more)
  refine shellWords_eq_ok_iff.mpr ⟨words, ?_, ?_⟩
  · rw [FenceInfo.written, String.toList_ofList, ← written]
    exact spells
  · rw [values, read, String.ofList_toList]

theorem optionItems_joined :
    optionItems (options.map fun (option, value) => option.text ++ "=" ++ value) =
      options.map fun (option, value) => .joined option value := by
  induction options with
  | nil => rfl
  | cons first rest ih =>
      rw [List.map_cons, optionItems_cons (by simp [OptionItem.ofWord_joined]),
        OptionItem.ofWord_joined, ih, List.map_cons]

/-- Options in quotes are read with just the values that were written. -/
theorem ofInfo_written (undashed : isDashed language = false)
    (distinct : (options.map Prod.fst).Nodup) :
    FenceInfo.ofInfo (FenceInfo.written language options) = ⟨language, ⟨options⟩, []⟩ := by
  have assigned : (options.map fun (option, value) => OptionItem.joined option value).filterMap
      OptionItem.assignment? = options := by
    simp [List.filterMap_map, Function.comp_def, OptionItem.assignment?]
  have problems : (options.map fun (option, value) => OptionItem.joined option value).filterMap
      OptionItem.problem? = [] := by
    simp [OptionItem.problem?]
  rw [FenceInfo.ofInfo_of_shellWords shellWords_written]
  simp only [splitLanguage, undashed, Bool.false_eq_true, if_false, optionItems_joined,
    FenceInfo.ofItems, assigned, problems, FenceInfo.mk.injEq, true_and, and_true]
  exact OrderedMap.foldl_insert_of_nodup distinct

theorem ofInfo_written_hostile :
    isDashed "it\x27s" = false ∧
      FenceInfo.ofInfo
          (FenceInfo.written "it\x27s" [(.region, "--a=\x27 \x22b\\ "), (.session, "")]) =
        ⟨"it\x27s", ⟨[(.region, "--a=\x27 \x22b\\ "), (.session, "")]⟩, []⟩ :=
  ⟨by decide, ofInfo_written (by decide) (by decide)⟩

end DocSamples
