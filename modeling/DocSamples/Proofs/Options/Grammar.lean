import DocSamples.Proofs.Lists
import DocSamples.Proofs.Options

namespace DocSamples

open Text

/-! # The grammar of options

The words after the language are options with values.  Where they are not, each word that is
out of place is a problem of its own, so no word of an info string is passed over.
-/

variable {option : OptionName} {word name value : String} {next : Option String}
  {tokens rest : List String}

/-! ## Names and values in one word -/

theorem OptionName.equals_not_mem_text : '=' ∉ option.text.toList := by
  cases option <;> decide

theorem OptionName.isDashed_text : isDashed option.text = true := by
  cases option <;> decide

theorem OptionName.ofText?_text : ofText? option.text = some option := by
  cases option <;> decide

theorem OptionName.text_eq_of_ofText? (found : ofText? name = some option) :
    option.text = name := by
  simpa using List.find?_some found

theorem isDashed_append (dashed : isDashed word = true) : isDashed (word ++ name) = true := by
  rw [isDashed_iff] at dashed ⊢
  exact dashed.trans (by simp)

theorem splitEquals_of_not_mem (plain : '=' ∉ name.toList) : splitEquals name = (name, none) := by
  have inside := bne_of_not_mem plain
  simp [splitEquals, List.takeWhile_eq_self_iff.mpr inside, List.dropWhile_eq_nil_iff.mpr inside]

theorem splitEquals_joined (plain : '=' ∉ name.toList) :
    splitEquals (name ++ "=" ++ value) = (name, some value) := by
  have written : (name ++ "=" ++ value).toList = name.toList ++ '=' :: value.toList := by simp
  simp [splitEquals, written, takeWhile_append_of_not_mem plain, dropWhile_append_of_not_mem plain]

/-- A word is a name, or a name with a value behind an equals sign. -/
theorem exists_name (word : String) : ∃ name, '=' ∉ name.toList ∧
    (word = name ∨ ∃ value, word = name ++ "=" ++ value) := by
  have whole := (List.takeWhile_append_dropWhile (p := (· != '=')) (l := word.toList)).symm
  refine ⟨String.ofList (word.toList.takeWhile (· != '=')), ?_, ?_⟩
  · intro member
    rw [String.toList_ofList] at member
    simpa using List.mem_takeWhile_imp member
  · cases after : word.toList.dropWhile (· != '=') with
    | nil =>
        rw [after, List.append_nil] at whole
        exact .inl (by rw [← whole, String.ofList_toList])
    | cons c value =>
        obtain rfl : c = '=' := by
          have stops := List.head?_dropWhile_not (· != '=') word.toList
          simpa [after] using stops
        rw [after] at whole
        exact .inr ⟨String.ofList value, String.toList_inj.mp (by simpa using whole)⟩

theorem splitEquals_fst (plain : '=' ∉ name.toList)
    (written : word = name ∨ ∃ value, word = name ++ "=" ++ value) :
    (splitEquals word).1 = name := by
  rcases written with rfl | ⟨value, rfl⟩
  · rw [splitEquals_of_not_mem plain]
  · rw [splitEquals_joined plain]

/-! ## Items and their words -/

namespace OptionItem

theorem ofWord_joined : ofWord (option.text ++ "=" ++ value) next = .joined option value := by
  have dashed : isDashed (option.text ++ "=" ++ value) = true :=
    isDashed_append (isDashed_append OptionName.isDashed_text)
  simp [ofWord, dashed, splitEquals_joined OptionName.equals_not_mem_text, OptionName.ofText?_text]

theorem ofWord_text : ofWord option.text next =
    match next with
    | none => .alone option
    | some value => if option.takes value then .separate option value else .alone option := by
  simp only [ofWord, OptionName.isDashed_text, Bool.not_true, Bool.false_eq_true, if_false,
    splitEquals_of_not_mem OptionName.equals_not_mem_text, OptionName.ofText?_text]
  cases next <;> rfl

theorem ofWord_stray (undashed : isDashed word = false) : ofWord word next = .stray word := by
  simp [ofWord, undashed]

theorem ofWord_unknown (dashed : isDashed word = true)
    (unknown : ∀ option : OptionName, option.text ≠ (splitEquals word).1) :
    ofWord word next = .unknown word := by
  have none : OptionName.ofText? (splitEquals word).1 = none :=
    Option.eq_none_iff_forall_ne_some.mpr fun option found =>
      unknown option (OptionName.text_eq_of_ofText? found)
  simp [ofWord, dashed, none]

end OptionItem

theorem optionItems_cons
    (single : ∀ option value, OptionItem.ofWord word rest.head? ≠ .separate option value) :
    optionItems (word :: rest) = .ofWord word rest.head? :: optionItems rest := by
  cases rest with
  | nil => rfl
  | cons next more =>
      rw [optionItems]
      split
      · rename_i option value read
        exact absurd read (single option value)
      · rfl

theorem optionItems_separate (takes : option.takes value = true) :
    optionItems (option.text :: value :: rest) = .separate option value :: optionItems rest := by
  rw [optionItems, OptionItem.ofWord_text]
  simp [takes]

theorem optionItems_alone (free : ∀ value ∈ rest.head?, option.takes value = false) :
    optionItems (option.text :: rest) = .alone option :: optionItems rest := by
  have read : OptionItem.ofWord option.text rest.head? = .alone option := by
    rw [OptionItem.ofWord_text]
    cases rest with
    | nil => rfl
    | cons next more => simp [free next (by simp)]
  rw [optionItems_cons, read]
  rw [read]
  exact OptionItem.alone_ne_separate option

/-! ## The role of each word -/

/-- True or false in whatever case. -/
def IsTruth (value : String) : Prop :=
  value.toLower = "true" ∨ value.toLower = "false"

theorem isTruthWord_iff : isTruthWord value = true ↔ IsTruth value := by
  simp [isTruthWord, IsTruth]

theorem isTruthWord_eq_false_iff : isTruthWord value = false ↔ ¬ IsTruth value := by
  rw [← isTruthWord_iff, Bool.not_eq_true]

theorem OptionName.takes_of_ne (needs : option ≠ .editable) :
    option.takes value = !isDashed value := by
  cases option with
  | editable => contradiction
  | _ => rfl

theorem OptionItem.alone_of_ne (needs : option ≠ .editable) : alone option = .missing option :=
  if_neg needs

theorem not_isTruth_of_isDashed (dashed : isDashed value = true) : ¬ IsTruth value := by
  rw [← isTruthWord_eq_false_iff]
  by_contra truth
  simp [isDashed_eq_false_of_isTruthWord (Bool.not_eq_false _ |>.mp truth)] at dashed

/-- What a word is among the options. -/
inductive WordRole where
  /-- It names an option that gets a value: its own, the next word or none at all. -/
  | assigns (option : OptionName) (value : String)
  /-- It is the value of the option before it. -/
  | value
  | problem (told : OptionProblem)
deriving DecidableEq, Repr

namespace WordRole

def assignment? : WordRole → Option (OptionName × String)
  | .assigns option value => some (option, value)
  | _ => none

def problem? : WordRole → Option OptionProblem
  | .problem told => some told
  | _ => none

end WordRole

/-- Words side by side with their roles. -/
inductive Accounts : List String → List WordRole → Prop
  | nil : Accounts [] []
  | joined {rest roles} (option : OptionName) (value : String) : Accounts rest roles →
      Accounts ((option.text ++ "=" ++ value) :: rest) (.assigns option value :: roles)
  | separate {rest roles} {option : OptionName} {value : String} (needs : option ≠ .editable)
      (undashed : isDashed value = false) : Accounts rest roles →
      Accounts (option.text :: value :: rest) (.assigns option value :: .value :: roles)
  | missing {rest roles} {option : OptionName} (needs : option ≠ .editable)
      (none : ∀ next ∈ rest.head?, isDashed next = true) : Accounts rest roles →
      Accounts (option.text :: rest) (.problem (.missingValue option) :: roles)
  | truth {rest roles} {value : String} (truth : IsTruth value) : Accounts rest roles →
      Accounts (OptionName.editable.text :: value :: rest)
        (.assigns .editable value :: .value :: roles)
  | bare {rest roles} (none : ∀ next ∈ rest.head?, ¬ IsTruth next) : Accounts rest roles →
      Accounts (OptionName.editable.text :: rest) (.assigns .editable "true" :: roles)
  | unknown {rest roles} {word name : String} (dashed : isDashed word = true)
      (plain : '=' ∉ name.toList) (named : word = name ∨ ∃ value, word = name ++ "=" ++ value)
      (unknown : ∀ option : OptionName, option.text ≠ name) : Accounts rest roles →
      Accounts (word :: rest) (.problem (.unknownOption name) :: roles)
  | stray {rest roles} {word : String} (undashed : isDashed word = false) : Accounts rest roles →
      Accounts (word :: rest) (.problem (.strayWord word) :: roles)

/-- The roles of the words of an item. -/
def OptionItem.roles : OptionItem → List WordRole
  | .joined option value => [.assigns option value]
  | .separate option value => [.assigns option value, .value]
  | .bare => [.assigns .editable "true"]
  | .missing option => [.problem (.missingValue option)]
  | .unknown word => [.problem (.unknownOption (splitEquals word).1)]
  | .stray word => [.problem (.strayWord word)]

variable {roles : List WordRole}

theorem Accounts.alone (none : ∀ next ∈ rest.head?, option.takes next = false)
    (accounts : Accounts rest roles) :
    Accounts (option.text :: rest) ((OptionItem.alone option).roles ++ roles) := by
  by_cases optional : option = .editable
  · subst optional
    exact .bare (fun next member => isTruthWord_eq_false_iff.mp (none next member)) accounts
  · rw [OptionItem.alone_of_ne optional]
    refine .missing optional (fun next member => ?_) accounts
    simpa [OptionName.takes_of_ne optional] using none next member

theorem Accounts.taken (takes : option.takes value = true) (accounts : Accounts rest roles) :
    Accounts (option.text :: value :: rest)
      ((OptionItem.separate option value).roles ++ roles) := by
  by_cases optional : option = .editable
  · subst optional
    exact .truth (isTruthWord_iff.mp takes) accounts
  · exact .separate optional (by simpa [OptionName.takes_of_ne optional] using takes) accounts

/-- The roles of a list of words are those of its items. -/
theorem accounts_optionItems (tokens : List String) :
    Accounts tokens ((optionItems tokens).flatMap OptionItem.roles) := by
  -- An item may take two words, so what is left after it need not be the next tail.
  induction size : tokens.length using Nat.strong_induction_on generalizing tokens with
  | _ size ih =>
      subst size
      cases tokens with
      | nil => exact .nil
      | cons word rest =>
          have later := ih rest.length (by simp) rest rfl
          cases dashed : isDashed word with
          | false =>
              have read := @OptionItem.ofWord_stray word rest.head? dashed
              rw [optionItems_cons (by simp [read]), read]
              exact .stray dashed later
          | true =>
              obtain ⟨name, plain, named⟩ := exists_name word
              by_cases known : ∃ option : OptionName, option.text = name
              · obtain ⟨option, rfl⟩ := known
                rcases named with rfl | ⟨value, rfl⟩
                · by_cases free : ∀ next ∈ rest.head?, option.takes next = false
                  · rw [optionItems_alone free]
                    exact .alone free later
                  · push Not at free
                    obtain ⟨value, first, takes⟩ := free
                    obtain ⟨more, rfl⟩ := List.head?_eq_some_iff.mp first
                    rw [optionItems_separate (by simpa using takes)]
                    exact .taken (by simpa using takes) (ih more.length (by simp) more rfl)
                · rw [optionItems_cons (by simp [OptionItem.ofWord_joined]),
                    OptionItem.ofWord_joined]
                  exact .joined option value later
              · have unknown : ∀ option : OptionName, option.text ≠ name := not_exists.mp known
                have same := splitEquals_fst plain named
                have read := @OptionItem.ofWord_unknown word rest.head? dashed (same ▸ unknown)
                rw [optionItems_cons (by simp [read]), read, List.flatMap_cons, OptionItem.roles,
                  same]
                exact .unknown dashed plain named unknown later

theorem Accounts.eq_roles (accounts : Accounts tokens roles) :
    roles = (optionItems tokens).flatMap OptionItem.roles := by
  induction accounts with
  | nil => rfl
  | joined option value _ ih =>
      rw [optionItems_cons (by simp [OptionItem.ofWord_joined]), OptionItem.ofWord_joined, ih]
      rfl
  | @separate _ _ option value needs undashed _ ih =>
      have takes : option.takes value = true := by simp [OptionName.takes_of_ne needs, undashed]
      rw [optionItems_separate takes, ih]
      rfl
  | @missing rest _ option needs none _ ih =>
      have free : ∀ next ∈ rest.head?, option.takes next = false := fun next member => by
        simp [OptionName.takes_of_ne needs, none next member]
      rw [optionItems_alone free, OptionItem.alone_of_ne needs, ih]
      rfl
  | @truth _ _ value truth _ ih =>
      have takes : OptionName.editable.takes value = true := isTruthWord_iff.mpr truth
      rw [optionItems_separate takes, ih]
      rfl
  | @bare rest _ none _ ih =>
      have free : ∀ next ∈ rest.head?, OptionName.editable.takes next = false :=
        fun next member => isTruthWord_eq_false_iff.mpr (none next member)
      rw [optionItems_alone free, ih]
      rfl
  | @unknown rest _ word name dashed plain named unknown _ ih =>
      have same := splitEquals_fst plain named
      have read := @OptionItem.ofWord_unknown word rest.head? dashed (same ▸ unknown)
      rw [optionItems_cons (by simp [read]), read, ih, List.flatMap_cons, OptionItem.roles, same]
      rfl
  | @stray rest _ word undashed _ ih =>
      have read := @OptionItem.ofWord_stray word rest.head? undashed
      rw [optionItems_cons (by simp [read]), read, ih]
      rfl

theorem Accounts.length_eq (accounts : Accounts tokens roles) : roles.length = tokens.length := by
  induction accounts <;> simp_all

/-! ## What is as it should be -/

/-- The words of an item that is as it should be. -/
inductive IsOptionItem : List String → Prop
  | joined (option : OptionName) (value : String) : IsOptionItem [option.text ++ "=" ++ value]
  | separate {option : OptionName} {value : String} (needs : option ≠ .editable)
      (undashed : isDashed value = false) : IsOptionItem [option.text, value]
  | truth {value : String} (truth : IsTruth value) :
      IsOptionItem [OptionName.editable.text, value]
  | bare : IsOptionItem [OptionName.editable.text]

/-- Words that consist of such items. -/
def IsOptionList (tokens : List String) : Prop :=
  ∃ items : List (List String), (∀ item ∈ items, IsOptionItem item) ∧ items.flatten = tokens

theorem isOptionList_append {item : List String} (well : IsOptionItem item)
    (list : IsOptionList rest) : IsOptionList (item ++ rest) := by
  obtain ⟨items, all, rfl⟩ := list
  exact ⟨item :: items, by simpa using ⟨well, all⟩, rfl⟩

theorem isDashed_of_isOptionItem {item : List String} (well : IsOptionItem item) :
    ∃ first more, item = first :: more ∧ isDashed first = true := by
  cases well with
  | joined option value =>
      exact ⟨_, _, rfl, isDashed_append (isDashed_append OptionName.isDashed_text)⟩
  | _ => exact ⟨_, _, rfl, OptionName.isDashed_text⟩

theorem IsOptionList.isDashed_head (list : IsOptionList tokens) :
    ∀ next ∈ tokens.head?, isDashed next = true := by
  obtain ⟨items, all, rfl⟩ := list
  cases items with
  | nil => simp
  | cons item more =>
      obtain ⟨first, others, rfl, dashed⟩ := isDashed_of_isOptionItem (all item (by simp))
      simpa using dashed

theorem isOptionList_of_accounts (accounts : Accounts tokens roles)
    (well : roles.filterMap WordRole.problem? = []) : IsOptionList tokens := by
  induction accounts with
  | nil => exact ⟨[], by simp, rfl⟩
  | joined option value _ ih => exact isOptionList_append (.joined option value) (ih well)
  | separate needs undashed _ ih => exact isOptionList_append (.separate needs undashed) (ih well)
  | truth truth _ ih => exact isOptionList_append (.truth truth) (ih well)
  | bare _ _ ih => exact isOptionList_append .bare (ih well)
  | missing _ _ _ _ => simp [WordRole.problem?] at well
  | unknown _ _ _ _ _ _ => simp [WordRole.problem?] at well
  | stray _ _ _ => simp [WordRole.problem?] at well

theorem exists_accounts_of_isOptionList (list : IsOptionList tokens) :
    ∃ roles, Accounts tokens roles ∧ roles.filterMap WordRole.problem? = [] := by
  obtain ⟨items, all, rfl⟩ := list
  induction items with
  | nil => exact ⟨[], .nil, rfl⟩
  | cons item items ih =>
      have rest : ∀ item ∈ items, IsOptionItem item :=
        fun item member => all item (by simp [member])
      obtain ⟨roles, accounts, well⟩ := ih rest
      rw [List.flatten_cons]
      cases all item (by simp) with
      | joined option value => exact ⟨_, .joined option value accounts, well⟩
      | separate needs undashed => exact ⟨_, .separate needs undashed accounts, well⟩
      | truth truth => exact ⟨_, .truth truth accounts, well⟩
      | bare =>
          -- The next item begins with dashes, so it is no value of this one.
          have dashed := IsOptionList.isDashed_head ⟨items, rest, rfl⟩
          exact ⟨_, .bare (fun next member => not_isTruth_of_isDashed (dashed next member)) accounts,
            well⟩

theorem Accounts.problems_eq_nil_iff (accounts : Accounts tokens roles) :
    roles.filterMap WordRole.problem? = [] ↔ IsOptionList tokens := by
  refine ⟨isOptionList_of_accounts accounts, fun list => ?_⟩
  obtain ⟨other, accountsOther, well⟩ := exists_accounts_of_isOptionList list
  rwa [accounts.eq_roles, ← accountsOther.eq_roles]

/-! ## What is read -/

/-- A first word without dashes is the language. -/
def splitLanguage : List String → String × List String
  | [] => ("", [])
  | word :: rest => if isDashed word then ("", word :: rest) else (word, rest)

namespace FenceInfo

theorem ofInfo_of_shellWords {info : String} (accepted : shellWords info = .ok tokens) :
    ofInfo info = ofItems (splitLanguage tokens).1 (optionItems (splitLanguage tokens).2) := by
  rw [ofInfo, accepted]
  cases tokens with
  | nil => rfl
  | cons word rest =>
      simp only [ofWords, splitLanguage]
      split <;> rfl

theorem problems_ofItems (language : String) (items : List OptionItem) :
    (ofItems language items).problems =
      (items.flatMap OptionItem.roles).filterMap WordRole.problem? := by
  have told : (ofItems language items).problems = items.filterMap OptionItem.problem? := rfl
  rw [told, List.filterMap_flatMap, List.filterMap_eq_flatMap_toList]
  exact List.flatMap_congr fun item _ => by cases item <;> rfl

theorem find?_values_ofItems (language : String) (items : List OptionItem) :
    (ofItems language items).values.find? option = some value ↔
      ∃ before after, items.flatMap OptionItem.roles = before ++ .assigns option value :: after ∧
        ∀ other, .assigns option other ∉ after := by
  have assigned : items.filterMap OptionItem.assignment? =
      (items.flatMap OptionItem.roles).filterMap WordRole.assignment? := by
    rw [List.filterMap_flatMap, List.filterMap_eq_flatMap_toList]
    exact List.flatMap_congr fun item _ => by cases item <;> rfl
  have assigns (role : WordRole) (value : String) :
      role.assignment? = some (option, value) ↔ role = .assigns option value := by
    cases role <;> simp [WordRole.assignment?]
  refine OrderedMap.find?_foldl_insert_eq_some_iff.trans ?_
  simp only [assigned, List.filterMap_eq_append_iff, List.filterMap_eq_cons_iff, assigns]
  constructor
  · rintro ⟨_, _, ⟨before, _, split, _, between, _, after, rfl, none, rfl, rfl⟩, last⟩
    exact ⟨before ++ between, after, by simpa using split,
      fun other member => last other (List.mem_filterMap.mpr ⟨_, member, rfl⟩)⟩
  · rintro ⟨before, after, split, last⟩
    rw [split]
    refine ⟨_, _, ⟨before, _, rfl, rfl, [], _, after, rfl, by simp, rfl, rfl⟩, ?_⟩
    intro other found
    obtain ⟨role, member, same⟩ := List.mem_filterMap.mp found
    obtain rfl := (assigns role other).mp same
    exact last other member

/-- An info string has no problem when it can be split and the words behind the language are
items that are as they should be. -/
theorem problems_ofInfo_eq_nil_iff {info : String} : (ofInfo info).problems = [] ↔
    ∃ tokens, shellWords info = .ok tokens ∧ IsOptionList (splitLanguage tokens).2 := by
  cases accepted : shellWords info with
  | error fault => simp [ofInfo, accepted]
  | ok tokens =>
      rw [ofInfo_of_shellWords accepted, problems_ofItems,
        (accounts_optionItems _).problems_eq_nil_iff]
      simp

end FenceInfo

/-- Each word behind the language assigns a value, is one, or has a problem of its own; there
are no problems exactly when the words are items that are as they should be. -/
theorem ofInfo_accounts {info : String} (accepted : shellWords info = .ok tokens) :
    (FenceInfo.ofInfo info).language = (splitLanguage tokens).1 ∧
    ((FenceInfo.ofInfo info).problems = [] ↔ IsOptionList (splitLanguage tokens).2) ∧
    ∃ roles, Accounts (splitLanguage tokens).2 roles ∧
      roles.length = (splitLanguage tokens).2.length ∧
      (∀ others, Accounts (splitLanguage tokens).2 others → others = roles) ∧
      (FenceInfo.ofInfo info).problems = roles.filterMap WordRole.problem? ∧
      ∀ option value, (FenceInfo.ofInfo info).values.find? option = some value ↔
        ∃ before after, roles = before ++ .assigns option value :: after ∧
          ∀ other, .assigns option other ∉ after := by
  have accounts := accounts_optionItems (splitLanguage tokens).2
  rw [FenceInfo.ofInfo_of_shellWords accepted, FenceInfo.problems_ofItems]
  exact ⟨rfl, accounts.problems_eq_nil_iff, _, accounts, accounts.length_eq,
    fun _ => Accounts.eq_roles, rfl, fun _ _ => FenceInfo.find?_values_ofItems _ _⟩

/-- Two values for one option, a word out of place, a value that is missing and an option that
nobody knows. -/
def muddledInfo : String :=
  "python x --editable TRUE --region --session=a --session b --nope=1"

def muddledWords : List String :=
  ["x", "--editable", "TRUE", "--region", "--session=a", "--session", "b", "--nope=1"]

theorem ofInfo_accounts_muddled :
    shellWords muddledInfo = .ok ("python" :: muddledWords) ∧
      (FenceInfo.ofInfo muddledInfo).problems =
        [.strayWord "x", .missingValue .region, .unknownOption "--nope"] ∧
      (FenceInfo.ofInfo muddledInfo).values.find? .session = some "b" ∧
      ¬ IsOptionList muddledWords := by
  have accepted : shellWords muddledInfo = .ok ("python" :: muddledWords) := by decide +kernel
  obtain ⟨_, well, roles, accounts, _, _, problems, values⟩ := ofInfo_accounts accepted
  have found : roles = [.problem (.strayWord "x"), .assigns .editable "TRUE", .value,
      .problem (.missingValue .region), .assigns .session "a"] ++ .assigns .session "b" ::
      [.value, .problem (.unknownOption "--nope")] := by
    rw [accounts.eq_roles]
    decide +kernel
  rw [found] at problems
  refine ⟨accepted, problems, (values .session "b").mpr ⟨_, _, found, by simp⟩, fun list => ?_⟩
  have none := well.mpr list
  rw [problems] at none
  cases none

end DocSamples
