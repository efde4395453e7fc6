import DocSamples.Compiler.OutputLine
import DocSamples.Proofs.Lists
import DocSamples.Proofs.TempFile
import DocSamples.Proofs.Text.Blank

namespace DocSamples

open Text

/-! # Remarks of a compiler

What a compiler remarks about a temporary file is read back in all its parts, and it goes to the
source that was written to that file and to no other.
-/

/-! ## Blanks at the ends of a line -/

namespace Text

variable {chars message : List Char}

theorem isBlank_colon : isBlank ':' = false := by
  decide +kernel

theorem isBlank_space : isBlank ' ' = true := by
  decide +kernel

theorem toNat_of_isBlank {c : Char} (blank : isBlank c = true) :
    c.toNat ≤ 0x20 ∨ 0x85 ≤ c.toNat := by
  have outside : ∀ range ∈ blanks, range.2 ≤ 0x20 ∨ 0x85 ≤ range.1 := by decide
  obtain ⟨range, member, low, high⟩ := (CharRanges.contains_iff _ c).mp blank
  have here := outside range member
  omega

theorem toLower_of_isBlank {c : Char} (blank : isBlank c = true) : c.toLower = c := by
  have noLetter : ¬ (65 ≤ c.toNat ∧ c.toNat ≤ 90) := by
    have bounds := toNat_of_isBlank blank
    omega
  rw [Char.toLower, dif_neg]
  exact noLetter

theorem isBlank_of_isSafe {c : Char} (safe : TempFile.isSafe c = true) : isBlank c = false := by
  have bounds := TempFile.toNat_of_isSafe safe
  by_contra blank
  have outside := toNat_of_isBlank (Bool.not_eq_false _ ▸ blank)
  omega

/-- Trimming stops at a colon from either end. -/
theorem dropEndBlanks_append_colon (front rest : List Char) :
    dropEndBlanks (front ++ ':' :: rest) = front ++ ':' :: dropEndBlanks rest := by
  rw [dropEndBlanks, dropEndBlanks, List.reverse_append, List.reverse_cons, List.append_assoc,
    List.dropWhile_append]
  split
  · next gone =>
      rw [List.isEmpty_iff] at gone
      simp [gone, isBlank_colon]
  · simp

theorem dropBlanks_append_colon (front rest : List Char) :
    dropBlanks (front ++ ':' :: rest) = dropBlanks front ++ ':' :: rest := by
  rw [dropBlanks, List.dropWhile_append]
  split
  · next gone =>
      rw [List.isEmpty_iff] at gone
      simp [dropBlanks, gone, isBlank_colon]
  · rfl

theorem trimChars_append_colon (front rest : List Char) :
    trimChars (front ++ ':' :: rest) = dropBlanks front ++ ':' :: dropEndBlanks rest := by
  rw [trimChars, dropBlanks_append_colon, dropEndBlanks_append_colon]

/-- The space before an empty message is lost at the end of a line. -/
theorem IsTrimmed.trimChars_dropEndBlanks (trimmed : IsTrimmed message) :
    trimChars (dropEndBlanks (' ' :: message)) = message := by
  by_cases empty : message = []
  · subst empty
    simp [trimChars, dropEndBlanks, dropBlanks, isBlank_space]
  · have last : ∀ c ∈ (' ' :: message).getLast?, isBlank c = false := by
      rw [List.getLast?_cons, List.getLast?_eq_some_getLast empty]
      simpa using trimmed.last _ (List.getLast?_eq_some_getLast empty)
    rw [dropEndBlanks_eq_self last, trimChars, dropBlanks_cons_blank _ isBlank_space]
    exact trimmed.trimChars_eq

end Text

/-! ## Remarks -/

/-- Decimal digits, at least one. -/
def IsNumber (text : String) : Prop :=
  text ≠ "" ∧ ∀ c ∈ text.toList, isDecimalDigit c = true

/-- What a compiler says about a line of a file. -/
structure Remark where
  line : String
  column : Option String
  /-- The word for the severity, as it is written. -/
  word : String
  severity : Severity
  code : Option String
  message : String
  lineNumber : IsNumber line
  columnNumber : ∀ text ∈ column, IsNumber text
  known : (word.toLower, severity) ∈ OutputLine.severityWords
  codeCloses : ∀ text ∈ code, ']' ∉ text.toList
  oneLine : '\n' ∉ message.toList
  trimmed : IsTrimmed message.toList

namespace Remark

def columnText (remark : Remark) : String :=
  match remark.column with
  | none => ""
  | some column => ":" ++ column

def codeText (remark : Remark) : String :=
  match remark.code with
  | none => ""
  | some code => "[" ++ code ++ "]"

/-- The remark as a line about a file. -/
def about (remark : Remark) (file : String) : String :=
  file ++ ":" ++ remark.line ++ remark.columnText ++ ": " ++ remark.word ++ remark.codeText ++
    ": " ++ remark.message

end Remark

namespace OutputLine

variable {rest : List Char} {remark : Remark} {file : String}

/-- What can stand for a file in a line of output. -/
structure IsFileText (text : String) : Prop where
  noColon : ':' ∉ text.toList
  oneLine : '\n' ∉ text.toList
  trimmed : IsTrimmed text.toList

/-! ## Reading the parts -/

theorem number?_digits {digits : String} (number : IsNumber digits) :
    number? (digits.toList ++ ':' :: rest) = some (digits, rest) := by
  have colon : isDecimalDigit ':' = false := by decide +kernel
  have digit : (digits.toList ++ ':' :: rest).takeWhile isDecimalDigit = digits.toList := by
    rw [List.takeWhile_append_of_pos number.2, List.takeWhile_cons_of_neg (by simp [colon]),
      List.append_nil]
  have after : (digits.toList ++ ':' :: rest).dropWhile isDecimalDigit = ':' :: rest := by
    rw [List.dropWhile_append_of_pos number.2, List.dropWhile_cons_of_neg (by simp [colon])]
  obtain ⟨c, more, split⟩ := List.exists_cons_of_ne_nil
    (fun empty => number.1 (String.toList_eq_nil_iff.mp empty))
  rw [number?, digit, after, split]
  exact congrArg some (by rw [← split, String.ofList_toList])

theorem number?_space : number? (' ' :: rest) = none := by
  have space : isDecimalDigit ' ' = false := by decide +kernel
  simp [number?, space]

theorem afterCode?_codeText (remark : Remark) :
    afterCode? (remark.codeText.toList ++ ':' :: rest) = some (':' :: rest) := by
  cases given : remark.code with
  | none => simp [Remark.codeText, given, afterCode?]
  | some code =>
      simp [Remark.codeText, given, afterCode?,
        dropWhile_append_of_not_mem (remark.codeCloses code given)]

theorem dropBlanks_codeText (remark : Remark) :
    dropBlanks (remark.codeText.toList ++ ':' :: rest) = remark.codeText.toList ++ ':' :: rest := by
  have bracket : isBlank '[' = false := by decide +kernel
  apply dropBlanks_eq_self
  cases given : remark.code <;> simp [Remark.codeText, given, bracket, isBlank_colon]

/-! ## Severity words -/

/-- No severity word begins with the letter of another. -/
theorem severityWords_apart : severityWords.Pairwise fun first second =>
    first.1.toList.head? ≠ second.1.toList.head? := by
  decide

theorem dotted_of_mem_severityWords : ∀ entry ∈ severityWords, ∀ c ∈ entry.1.toList,
    c ≠ '\u0130' ∧ c ≠ '\u0131' := by
  have plain : severityWords.all (fun entry =>
      entry.1.toList.all fun c => c ≠ '\u0130' ∧ c ≠ '\u0131') = true := by decide
  simpa only [List.all_eq_true, decide_eq_true_eq] using plain

theorem head_of_mem_severityWords : ∀ entry ∈ severityWords,
    ∃ c, entry.1.toList.head? = some c ∧ isBlank c = false := by
  have heads : severityWords.all (fun entry => entry.1.toList.head?.any (!isBlank ·)) = true := by
    decide +kernel
  intro entry member
  have solid := List.all_eq_true.mp heads entry member
  rw [Option.any_eq_true] at solid
  simpa using solid

theorem lowerLetter_of_toLower {c : Char} (dotted : c.toLower ≠ '\u0130' ∧ c.toLower ≠ '\u0131') :
    lowerLetter c = c.toLower := by
  have other : c ≠ '\u0130' ∧ c ≠ '\u0131' := by
    constructor <;> rintro rfl
    · exact dotted.1 (by decide)
    · exact dotted.2 (by decide)
  simp [lowerLetter, other]

/-- A word in whatever case is the one that is known, letter by letter. -/
theorem lowerLetters_word (remark : Remark) :
    remark.word.toList.map lowerLetter = remark.word.toLower.toList := by
  have dotted := dotted_of_mem_severityWords _ remark.known
  rw [String.toLower, String.toList_map] at dotted ⊢
  exact List.map_congr_left fun c member =>
    lowerLetter_of_toLower (dotted c.toLower (List.mem_map_of_mem member))

theorem afterWord?_of_head_ne {word chars : List Char} (filled : word ≠ [])
    (apart : word.head? ≠ (chars.map lowerLetter).head?) : afterWord? word chars = none := by
  have unequal : (chars.take word.length).map lowerLetter ≠ word := by
    intro same
    cases chars with
    | nil => exact filled (by simpa using same.symm)
    | cons c rest =>
        obtain ⟨first, more, rfl⟩ := List.exists_cons_of_ne_nil filled
        simp only [List.length_cons, List.take_succ_cons, List.map_cons, List.cons.injEq] at same
        simp [same.1] at apart
  exact if_neg unequal

theorem severity?_word (remark : Remark) :
    severity? (remark.word.toList ++ (remark.codeText.toList ++ ':' :: rest)) =
      some (remark.severity, rest) := by
  have letters := lowerLetters_word remark
  have lower : remark.word.toLower.toList = remark.word.toList.map Char.toLower := by
    rw [String.toLower, String.toList_map]
  have filled (entry : String × Severity) (member : entry ∈ severityWords) :
      entry.1.toList ≠ [] := by
    obtain ⟨c, head, _⟩ := head_of_mem_severityWords entry member
    intro empty
    simp [empty] at head
  obtain ⟨before, after, split⟩ := List.append_of_mem remark.known
  refine List.findSome?_eq_some_iff.mpr ⟨before, _, after, split, ?_, fun entry member => ?_⟩
  · simp [afterWord?, letters, dropBlanks_codeText, afterCode?_codeText, afterColon?,
      dropBlanks_cons_solid _ isBlank_colon, lower]
  · have apart := severityWords_apart
    rw [split, List.pairwise_append] at apart
    have other := apart.2.2 entry member _ List.mem_cons_self
    have none : afterWord? entry.1.toList
        (remark.word.toList ++ (remark.codeText.toList ++ ':' :: rest)) = none := by
      refine afterWord?_of_head_ne (filled entry (by rw [split]; simp [member])) ?_
      rwa [List.map_append, letters, List.head?_append_of_ne_nil _ (filled _ remark.known)]
    simp [none]

/-! ## Reading a remark -/

theorem numbers_about (remark : Remark) (rest : List Char) : ∃ after,
    number? (remark.line.toList ++ (remark.columnText.toList ++ ':' :: ' ' :: rest)) =
        some (remark.line, after) ∧
      number? after = remark.column.map (·, ' ' :: rest) ∧
      (remark.column = none → after = ' ' :: rest) := by
  cases given : remark.column with
  | none =>
      refine ⟨' ' :: rest, ?_, number?_space, fun _ => rfl⟩
      simpa [Remark.columnText, given] using number?_digits remark.lineNumber
  | some column =>
      refine ⟨column.toList ++ ':' :: ' ' :: rest, ?_, ?_, nofun⟩
      · simpa [Remark.columnText, given] using number?_digits remark.lineNumber
      · exact number?_digits (remark.columnNumber column given)

theorem isBlank_head_word (remark : Remark) :
    ∀ c ∈ (remark.word.toList ++ rest).head?, isBlank c = false := by
  obtain ⟨first, head, solid⟩ := head_of_mem_severityWords _ remark.known
  rw [String.toLower, String.toList_map, List.head?_map, Option.map_eq_some_iff] at head
  obtain ⟨c, head, rfl⟩ := head
  have whole : (remark.word.toList ++ rest).head? = some c := by
    rw [List.head?_append, head, Option.some_or]
  intro d begun
  obtain rfl := Option.some.inj (whole.symm.trans begun)
  by_contra blank
  rw [Bool.not_eq_false] at blank
  rw [toLower_of_isBlank blank, blank] at solid
  cases solid

theorem exists_trimChars_about (remark : Remark) (plain : IsFileText file) : ∃ tail,
    trimChars (remark.about file).toList =
        file.toList ++ ':' :: (remark.line.toList ++ (remark.columnText.toList ++
          ':' :: ' ' :: (remark.word.toList ++ (remark.codeText.toList ++ ':' :: tail)))) ∧
      trimChars tail = remark.message.toList := by
  have written : (remark.about file).toList =
      file.toList ++ ':' :: ((remark.line.toList ++ (remark.columnText.toList ++
        ':' :: ' ' :: (remark.word.toList ++ remark.codeText.toList))) ++
          ':' :: ' ' :: remark.message.toList) := by
    simp [Remark.about]
  refine ⟨_, ?_, remark.trimmed.trimChars_dropEndBlanks⟩
  rw [written, trimChars_append_colon, dropBlanks_eq_self plain.trimmed.first,
    dropEndBlanks_append_colon]
  simp

theorem parse?_about (remark : Remark) (filled : file ≠ "") (plain : IsFileText file) :
    parse? (remark.about file) =
      some ⟨file, remark.line, remark.column, remark.severity, remark.message⟩ := by
  obtain ⟨tail, chars, message⟩ := exists_trimChars_about remark plain
  obtain ⟨after, line, column, columnless⟩ :=
    numbers_about remark (remark.word.toList ++ (remark.codeText.toList ++ ':' :: tail))
  have body : dropBlanks (' ' :: (remark.word.toList ++ (remark.codeText.toList ++ ':' :: tail))) =
      remark.word.toList ++ (remark.codeText.toList ++ ':' :: tail) := by
    rw [dropBlanks_cons_blank _ isBlank_space, dropBlanks_eq_self (isBlank_head_word remark)]
  have named : trim file = file := by
    rw [trim, plain.trimmed.trimChars_eq, String.ofList_toList]
  have begins : (decide (file.toList = []) || file.toList.contains '\n') = false := by
    simpa [String.toList_eq_nil_iff, filled] using plain.oneLine
  have ended : (remark.message.toList).contains '\n' = false := by
    simpa using remark.oneLine
  rw [parse?, chars]
  simp only [takeWhile_append_of_not_mem plain.noColon, dropWhile_append_of_not_mem plain.noColon,
    begins, Bool.false_eq_true, if_false, line, Option.bind_eq_bind, Option.bind_some, column]
  cases given : remark.column with
  | none =>
      simp only [columnless given, Option.map_none, body, severity?_word, Option.getD_some, message,
        ended, Bool.false_eq_true, if_false, named, String.ofList_toList]
      rfl
  | some column =>
      simp only [Option.map_some, body, severity?_word, Option.getD_some, message,
        ended, Bool.false_eq_true, if_false, named, String.ofList_toList]
      rfl

/-- The file of a line is what stands before its first colon. -/
theorem file_of_parse? {front after : String} {output : OutputLine} (plain : ':' ∉ front.toList)
    (found : parse? (front ++ ":" ++ after) = some output) : output.file = trim front := by
  have absent : ':' ∉ dropBlanks front.toList :=
    fun member => plain ((List.dropWhile_suffix isBlank).subset member)
  have chars : trimChars (front ++ ":" ++ after).toList =
      dropBlanks front.toList ++ ':' :: dropEndBlanks after.toList := by
    simpa using trimChars_append_colon front.toList after.toList
  have again : dropBlanks (dropBlanks front.toList) = dropBlanks front.toList :=
    List.dropWhile_idempotent ..
  rw [parse?, chars] at found
  simp only [takeWhile_append_of_not_mem absent, dropWhile_append_of_not_mem absent,
    Option.ite_none_left_eq_some] at found
  obtain ⟨_, ⟨line, rest⟩, _, found⟩ := found.imp_right Option.bind_eq_some_iff.mp
  obtain ⟨_, found⟩ := Option.ite_none_left_eq_some.mp found
  obtain rfl := Option.some.inj found
  simp [trim, trimChars, again]

/-! ## Whom a remark is about -/

/-- How a line of output, which has no line feed in it, may name a temporary file of a directory:
by its path, or by another path with the same last name. -/
inductive Names (directory : Path) (file : TempFile) : String → Prop
  | whole (noColon : ':' ∉ directory.text.toList) (trimmed : IsTrimmed directory.text.toList)
      (oneLine : '\n' ∉ (file.path directory).text.toList) :
      Names directory file (file.path directory).text
  | base {text : String} (plain : IsFileText text) (same : (Path.ofText text).name = file.name) :
      Names directory file text

variable {suffix text : String} {sources : List Source} {directory : Path} {temp : TempFile}
  {output : OutputLine}

theorem isFileText_path (member : temp ∈ TempFile.ofSources suffix sources)
    (noColon : ':' ∉ directory.text.toList) (trimmed : IsTrimmed directory.text.toList)
    (oneLine : '\n' ∉ (temp.path directory).text.toList) :
    IsFileText (temp.path directory).text := by
  have plain := TempFile.isPlain_name member
  have filled : temp.name.toList ≠ [] := fun empty => plain.1.1 (String.toList_eq_nil_iff.mp empty)
  have safe : ∀ c ∈ temp.name.toList, TempFile.isSafe c = true := by
    obtain ⟨number, source, _, rfl⟩ := TempFile.mem_ofSources_iff.mp member
    exact fun c inside => TempFile.isSafe_name inside
  have whole : (temp.path directory).text.toList =
      (if directory.names = [] then directory.anchor.text else directory.text ++ "/").toList ++
        temp.name.toList := by
    rw [TempFile.path, Path.text_child plain.1, String.toList_append]
  refine ⟨?_, oneLine, ?_⟩
  · rw [whole, List.mem_append]
    rintro (front | back)
    · split at front
      · cases anchor : directory.anchor <;> simp [anchor, Anchor.text] at front
      · exact noColon (by simpa using front)
    · exact absurd (safe _ back) (by decide)
  · rw [whole]
    refine isTrimmed_append ?_ filled fun c inside => isBlank_of_isSafe (safe c inside)
    split
    · have slash : isBlank '/' = false := by decide +kernel
      cases directory.anchor <;> simp [Anchor.text, slash]
    · next named =>
        have some : directory.text.toList ≠ [] := by
          intro empty
          have read := Path.ofText_text directory
          rw [String.toList_eq_nil_iff.mp empty] at read
          exact named (read ▸ rfl)
        rw [String.toList_append, List.head?_append_of_ne_nil _ some]
        exact trimmed.first

theorem Names.isFileText (member : temp ∈ TempFile.ofSources suffix sources)
    (named : Names directory temp text) : IsFileText text := by
  cases named with
  | whole noColon trimmed oneLine => exact isFileText_path member noColon trimmed oneLine
  | base plain _ => exact plain

theorem Names.name_eq (member : temp ∈ TempFile.ofSources suffix sources)
    (named : Names directory temp text) : (Path.ofText text).name = temp.name := by
  cases named with
  | whole _ _ _ => rw [Path.ofText_text, TempFile.name_path member]
  | base _ same => exact same

theorem ne_empty_of_name_eq (member : temp ∈ TempFile.ofSources suffix sources)
    (same : (Path.ofText text).name = temp.name) : text ≠ "" := by
  rintro rfl
  exact (TempFile.isPlain_name member).1.1 same.symm

/-- A path of a temporary file has its name at the end, so both ways to look a file up agree. -/
theorem source?_eq_some (member : temp ∈ TempFile.ofSources suffix sources)
    (same : (Path.ofText output.file).name = temp.name) :
    output.source? directory (TempFile.ofSources suffix sources) = some temp.source := by
  have unique : ∀ file ∈ TempFile.ofSources suffix sources,
      (file.path directory).name = (Path.ofText output.file).name → file = temp := by
    intro file fileMember found
    rw [TempFile.name_path fileMember, same] at found
    exact TempFile.eq_of_name_eq fileMember member found
  have named : (TempFile.ofSources suffix sources).find? (fun file =>
      (file.path directory).name = (Path.ofText output.file).name) = some temp :=
    find?_eq_some_of_unique member (by simp [TempFile.name_path member, same])
      fun file inside found => unique file inside (by simpa using found)
  have reported : (TempFile.ofSources suffix sources).find? (fun file =>
      (file.path directory).text = output.file) = none ∨
      (TempFile.ofSources suffix sources).find? (fun file =>
        (file.path directory).text = output.file) = some temp := by
    refine Option.eq_none_or_eq_some _ |>.imp_right fun ⟨file, found⟩ => ?_
    have holds : (file.path directory).text = output.file := by
      simpa using List.find?_some found
    rw [found, unique file (List.mem_of_find?_eq_some found) (by rw [← holds, Path.ofText_text])]
  rw [source?, named]
  rcases reported with none | some
  · simp [none]
  · simp [some]

theorem source?_eq_none
    (unnamed : ∀ file ∈ TempFile.ofSources suffix sources,
      (Path.ofText output.file).name ≠ file.name) :
    output.source? directory (TempFile.ofSources suffix sources) = none := by
  have apart : ∀ file ∈ TempFile.ofSources suffix sources,
      (file.path directory).name ≠ (Path.ofText output.file).name := by
    intro file member
    rw [TempFile.name_path member]
    exact (unnamed file member).symm
  have named : (TempFile.ofSources suffix sources).find? (fun file =>
      (file.path directory).name = (Path.ofText output.file).name) = none :=
    List.find?_eq_none.mpr fun file member => by simpa using apart file member
  have reported : (TempFile.ofSources suffix sources).find? (fun file =>
      (file.path directory).text = output.file) = none := by
    refine List.find?_eq_none.mpr fun file member => ?_
    simp only [decide_eq_true_eq]
    intro same
    exact apart file member (by rw [← same, Path.ofText_text])
  rw [source?, reported, named]
  rfl

theorem finding?_about {number : Nat} {source : Source} (found : sources[number]? = some source)
    (named : Names directory (TempFile.ofSource suffix number source) text) (remark : Remark) :
    finding? directory (TempFile.ofSources suffix sources) (remark.about text) = some {
      source
      diagnostic := {
        message := remark.message
        location := some
          (source.name ++ "(" ++ remark.line ++ "," ++ remark.column.getD "0" ++ ")")
        severity := remark.severity } } := by
  have member := TempFile.ofSource_mem suffix found
  have same := named.name_eq member
  have read := parse?_about remark (ne_empty_of_name_eq member same) (named.isFileText member)
  have attributed := @source?_eq_some suffix sources directory _
    ⟨text, remark.line, remark.column, remark.severity, remark.message⟩ member same
  rw [finding?, read, Option.bind_eq_bind, Option.bind_some, attributed]
  rfl

theorem number_eq_of_names {number other : Nat} {source otherSource : Source}
    (found : sources[number]? = some source) (otherFound : sources[other]? = some otherSource)
    (named : Names directory (TempFile.ofSource suffix number source) text)
    (otherNamed : Names directory (TempFile.ofSource suffix other otherSource) text) :
    other = number := by
  have member := TempFile.ofSource_mem suffix found
  have otherMember := TempFile.ofSource_mem suffix otherFound
  exact TempFile.number_eq_of_name_eq
    ((otherNamed.name_eq otherMember).symm.trans (named.name_eq member))

theorem finding?_unnamed {front : String} (after : String) (plain : ':' ∉ front.toList)
    (unnamed : ∀ file ∈ TempFile.ofSources suffix sources,
      (Path.ofText (trim front)).name ≠ file.name) :
    finding? directory (TempFile.ofSources suffix sources) (front ++ ":" ++ after) = none := by
  rw [finding?]
  cases read : parse? (front ++ ":" ++ after) with
  | none => rfl
  | some output =>
      rw [← file_of_parse? plain read] at unnamed
      rw [Option.bind_eq_bind, Option.bind_some, source?_eq_none unnamed]
      rfl

/-- A remark that names the file of a source is a finding about that source, whole and in its
place.  A line that names no file of a source is none. -/
theorem finding_of_remark (suffix : String) (sources : List Source) (directory : Path) :
    (∀ number source, sources[number]? = some source →
      ∀ text, Names directory (TempFile.ofSource suffix number source) text →
        (∀ remark : Remark,
          finding? directory (TempFile.ofSources suffix sources) (remark.about text) = some {
            source
            diagnostic := {
              message := remark.message
              location := some
                (source.name ++ "(" ++ remark.line ++ "," ++ remark.column.getD "0" ++ ")")
              severity := remark.severity } }) ∧
        ∀ other otherSource, sources[other]? = some otherSource →
          Names directory (TempFile.ofSource suffix other otherSource) text → other = number) ∧
    ∀ front after, ':' ∉ front.toList →
      (∀ file ∈ TempFile.ofSources suffix sources, (Path.ofText (trim front)).name ≠ file.name) →
      finding? directory (TempFile.ofSources suffix sources) (front ++ ":" ++ after) = none := by
  refine ⟨fun number source found text named => ⟨finding?_about found named, ?_⟩, ?_⟩
  · intro other otherSource otherFound otherNamed
    exact number_eq_of_names found otherFound named otherNamed
  · exact fun front after plain unnamed => finding?_unnamed after plain unnamed

/-- A remark with all its parts, the severity in capitals and a colon in the message. -/
def nameGone : Remark where
  line := "3"
  column := some "5"
  word := "Fatal ERROR"
  severity := .error
  code := some "E1"
  message := "name 'x': gone"
  lineNumber := by simp [IsNumber, show isDecimalDigit '3' = true by decide]
  columnNumber := by simp [IsNumber, show isDecimalDigit '5' = true by decide]
  known := by decide +kernel
  codeCloses := by simp
  oneLine := by simp
  trimmed := {
    first := by simp [show isBlank 'n' = false by decide]
    last := by simp [show isBlank 'e' = false by decide] }

def pageSource : Source where
  name := "/docs/my page.py"
  text := "x = 1"
  path := some (.ofText "/docs/my page.py")

def sampleSource : Source where
  name := "<sample 1>"
  text := "y = 2"

theorem finding_of_remark_nameGone :
    let directory := Path.ofText "/tmp/check"
    let files := TempFile.ofSources ".py" [pageSource, sampleSource]
    finding? directory files "/tmp/check/000_my_page.py:3:5: Fatal ERROR[E1]: name 'x': gone" =
        some ⟨pageSource,
          { message := "name 'x': gone", location := some "/docs/my page.py(3,5)" }⟩ ∧
      finding? directory files "../001_sample.py:3:5: Fatal ERROR[E1]: name 'x': gone" =
        some ⟨sampleSource,
          { message := "name 'x': gone", location := some "<sample 1>(3,5)" }⟩ ∧
      finding? directory files "sample.py:3:5: error: not ours" = none := by
  intro directory files
  have claim := finding_of_remark ".py" [pageSource, sampleSource] directory
  have text : directory.text = "/tmp/check" := by decide +kernel
  have solid : isBlank '/' = false ∧ isBlank 'k' = false ∧ isBlank '.' = false ∧
      isBlank 'y' = false := by
    decide
  have page : Names directory (TempFile.ofSource ".py" 0 pageSource)
      ((TempFile.ofSource ".py" 0 pageSource).path directory).text :=
    .whole (by simp [text]) ⟨by simp [text, solid], by simp [text, solid]⟩ (by decide +kernel)
  have sample : Names directory (TempFile.ofSource ".py" 1 sampleSource) "../001_sample.py" :=
    .base ⟨by simp, by simp, by simp [solid], by simp [solid]⟩ (by decide +kernel)
  have pageLine : nameGone.about ((TempFile.ofSource ".py" 0 pageSource).path directory).text =
      "/tmp/check/000_my_page.py:3:5: Fatal ERROR[E1]: name 'x': gone" := by
    decide +kernel
  have sampleLine : nameGone.about "../001_sample.py" =
      "../001_sample.py:3:5: Fatal ERROR[E1]: name 'x': gone" := by
    decide +kernel
  have pagePlace : pageSource.name ++ "(" ++ nameGone.line ++ "," ++
      nameGone.column.getD "0" ++ ")" = "/docs/my page.py(3,5)" := by
    decide +kernel
  have samplePlace : sampleSource.name ++ "(" ++ nameGone.line ++ "," ++
      nameGone.column.getD "0" ++ ")" = "<sample 1>(3,5)" := by
    decide +kernel
  have otherLine : "sample.py" ++ ":" ++ "3:5: error: not ours" =
      "sample.py:3:5: error: not ours" := by
    decide +kernel
  rw [← pageLine, ← sampleLine, ← pagePlace, ← samplePlace, ← otherLine]
  exact ⟨(claim.1 0 pageSource rfl _ page).1 nameGone,
    (claim.1 1 sampleSource rfl _ sample).1 nameGone, claim.2 _ _ (by simp) (by decide +kernel)⟩

end OutputLine

end DocSamples
