import MakeCheck.Environment.Seed
import MakeCheck.Proofs.Lowercase
import MakeCheck.Proofs.Utf8

namespace MakeCheck

open Text

namespace Environment

section Variable

variable {environment : Environment} {name text : String}

-- A variable has a text where its bytes are those of one.
theorem text?_eq_some_iff :
    environment.text? name = some text ↔ environment.get? name = some (Utf8.encode text) := by
  rw [text?, Option.bind_eq_some_iff]
  constructor
  · rintro ⟨bytes, hbytes, hdecode⟩
    rw [hbytes, Utf8.decode?_eq_some_iff.mp hdecode]
  · exact fun hget => ⟨_, hget, Utf8.decode?_eq_some_iff.mpr rfl⟩

theorem text?_eq_none_iff : environment.text? name = none ↔
    ∀ text, environment.get? name ≠ some (Utf8.encode text) := by
  simp only [Option.eq_none_iff_forall_ne_some, ne_eq, text?_eq_some_iff]

theorem get?_setText (environment : Environment) (name value : String) :
    (environment.setText name value).get? name = some (Utf8.encode value) := by
  rw [setText, set, get?, List.lookup_cons_self]

theorem text?_setText (environment : Environment) (name value : String) :
    (environment.setText name value).text? name = some value :=
  text?_eq_some_iff.mpr (get?_setText environment name value)

end Variable

section Switch

variable {environment : Environment} {name : String} {words : List String}

theorem sameIgnoringAsciiCase_iff {s t : List Char} :
    sameIgnoringAsciiCase s t = true ↔ List.Forall₂ IsCaseOf s t := by
  rw [sameIgnoringAsciiCase, beq_iff_eq, forall₂_isCaseOf_iff]

theorem isOn_eq_true_iff : environment.isOn name words = true ↔
    ∃ text, environment.get? name = some (Utf8.encode text) ∧
      ∃ word ∈ words, List.Forall₂ IsCaseOf word.toList (lowercase (trim text.toList)) := by
  simp only [← text?_eq_some_iff, ← sameIgnoringAsciiCase_iff]
  rw [isOn]
  cases environment.text? name <;> simp

theorem isOn_setText (environment : Environment) (name : String) (value : List Char)
    (words : List String) :
    (environment.setText name (String.ofList value)).isOn name words =
      words.any fun word => sameIgnoringAsciiCase word.toList (lowercase (trim value)) := by
  simp only [isOn, text?_setText, String.toList_ofList]

-- What words of ASCII stand for. The Kelvin sign is one more k, and no other character outside is
-- taken for a letter.
theorem isOn_eq_true_iff_of_ascii (hwords : ∀ word ∈ words, ∀ a ∈ word.toList, a.toNat < 0x80) :
    environment.isOn name words = true ↔
      ∃ text, environment.get? name = some (Utf8.encode text) ∧
        ∃ word ∈ words, List.Forall₂ IsMetBy word.toList (trim text.toList) := by
  rw [isOn_eq_true_iff]
  refine exists_congr fun text => and_congr_right fun _ => exists_congr fun word =>
    and_congr_right fun hword => ?_
  exact forall₂_lowercase_iff (hwords word hword)

-- None of the words has a k, so that the Kelvin sign stands for nothing in them.
theorem ascii_of_mem_truthyWords {word : String} (hword : word ∈ truthyWords) :
    ∀ a ∈ word.toList, a.toNat < 0x80 ∧ ¬ IsCaseOf a 'k' := by
  have hall : (truthyWords.all fun word =>
    word.toList.all fun a => decide (a.toNat < 0x80 ∧ ¬ IsCaseOf a 'k')) = true := by decide
  have hword := List.all_eq_true.mp hall word hword
  simpa using hword

theorem debugMode_eq_true_iff : environment.debugMode = true ↔
    ∃ text, environment.get? "DEBUG" = some (Utf8.encode text) ∧
      ∃ word ∈ truthyWords, List.Forall₂ IsCaseOf word.toList (trim text.toList) := by
  rw [debugMode, isOn_eq_true_iff_of_ascii fun word hword a ha =>
    (ascii_of_mem_truthyWords hword a ha).1]
  refine exists_congr fun text => and_congr_right fun _ => exists_congr fun word =>
    and_congr_right fun hword => ?_
  exact forall₂_isMetBy_iff fun a ha => (ascii_of_mem_truthyWords hword a ha).2

theorem debugMode_of_not_ascii {text : String} {c : Char}
    (hget : environment.get? "DEBUG" = some (Utf8.encode text)) (hmem : c ∈ trim text.toList)
    (hc : 0x80 ≤ c.toNat) : environment.debugMode = false := by
  rw [Bool.eq_false_iff, ne_eq, debugMode_eq_true_iff]
  rintro ⟨other, hother, word, hword, hsame⟩
  have htext : text = other := by
    rw [← text?_eq_some_iff] at hget hother
    exact Option.some.inj (hget.symm.trans hother)
  subst htext
  have hascii := forall_ascii_of_forall₂ (fun a ha => (ascii_of_mem_truthyWords hword a ha).1) hsame
  have := hascii c hmem
  omega

-- Neither blanks around the value nor the case of a letter of ASCII, in the value or in a word,
-- make a difference.
theorem isOn_setText_congr (environment : Environment) (name : String) {words others : List String}
    {value other front back : List Char} (hfront : ∀ c ∈ front, isBlank c = true)
    (hback : ∀ c ∈ back, isBlank c = true) (hvalue : List.Forall₂ IsCaseOf value other)
    (hwords : List.Forall₂ (fun word other => List.Forall₂ IsCaseOf word.toList other.toList)
      words others) :
    (environment.setText name (String.ofList (front ++ other ++ back))).isOn name others =
      (environment.setText name (String.ofList value)).isOn name words := by
  have hlower : lowercase (trim (front ++ other ++ back)) = lowercase (trim value) := by
    rw [trim_append_of_isBlank _ hback, trim_append_of_forall _ hfront,
      ← lowercase_map_toLower (trim other), ← lowercase_map_toLower (trim value),
      ← trim_map_toLower, ← trim_map_toLower, forall₂_isCaseOf_iff.mp hvalue]
  rw [isOn_setText, isOn_setText, hlower]
  induction hwords with
  | nil => rfl
  | cons hword _ ih =>
      rw [List.any_cons, List.any_cons, ih, sameIgnoringAsciiCase, sameIgnoringAsciiCase,
        forall₂_isCaseOf_iff.mp hword]

-- The switch is on for four words in any case of their letters, and for nothing with a character
-- outside ASCII, although all of Unicode is lowered: of words of ASCII, only one with a k would let
-- such a character in. Whatever the words are, blanks around the value and the case of the letters
-- of ASCII do not count.
theorem switch_reads_words (environment : Environment) :
    (environment.debugMode = true ↔
      ∃ text, environment.get? "DEBUG" = some (Utf8.encode text) ∧
        ∃ word ∈ ["true", "t", "on", "1"],
          List.Forall₂ IsCaseOf word.toList (trim text.toList)) ∧
    (∀ text, environment.get? "DEBUG" = some (Utf8.encode text) →
      (∃ c ∈ trim text.toList, 0x80 ≤ c.toNat) → environment.debugMode = false) ∧
    (∀ (name : String) (words : List String),
      (∀ word ∈ words, ∀ a ∈ word.toList, a.toNat < 0x80) →
      (environment.isOn name words = true ↔
        ∃ text, environment.get? name = some (Utf8.encode text) ∧
          ∃ word ∈ words, List.Forall₂ IsMetBy word.toList (trim text.toList))) ∧
    ∀ (name : String) (words others : List String) (value other front back : List Char),
      (∀ c ∈ front, isBlank c = true) → (∀ c ∈ back, isBlank c = true) →
      List.Forall₂ IsCaseOf value other →
      List.Forall₂ (fun word other => List.Forall₂ IsCaseOf word.toList other.toList)
        words others →
      (environment.setText name (String.ofList (front ++ other ++ back))).isOn name others =
        (environment.setText name (String.ofList value)).isOn name words := by
  refine ⟨debugMode_eq_true_iff, fun text hget ⟨c, hmem, hc⟩ => debugMode_of_not_ascii hget hmem hc,
    fun name words hwords => isOn_eq_true_iff_of_ascii hwords, ?_⟩
  intro name words others value other front back hfront hback hvalue hwords
  exact isOn_setText_congr environment name hfront hback hvalue hwords

-- A capital and blanks of all kinds do no harm, a mark on a letter does, and the Kelvin sign passes
-- for a k in a word that has one.
theorem switch_reads_words_kelvin :
    ((⟨[]⟩ : Environment).setText "DEBUG" "\u3000tRuE\t").debugMode = true ∧
      ((⟨[]⟩ : Environment).setText "DEBUG" "o\u0307n").debugMode = false ∧
      ((⟨[]⟩ : Environment).setText "TRACE"
        (String.ofList (['\u00a0'] ++ ['O', '\u212a'] ++ ['\n']))).isOn "TRACE" ["oK"] = true := by
  obtain ⟨hon, -⟩ := switch_reads_words ((⟨[]⟩ : Environment).setText "DEBUG" "\u3000tRuE\t")
  obtain ⟨-, hoff, -⟩ := switch_reads_words ((⟨[]⟩ : Environment).setText "DEBUG" "o\u0307n")
  obtain ⟨-, -, hmet, -⟩ := switch_reads_words
    ((⟨[]⟩ : Environment).setText "TRACE" (String.ofList ['o', '\u212a']))
  obtain ⟨-, -, -, hsame⟩ := switch_reads_words ⟨[]⟩
  refine ⟨hon.mpr ⟨_, get?_setText _ _ _, "true", by simp, by decide⟩,
    hoff _ (get?_setText _ _ _) ⟨'\u0307', by decide, by decide⟩, ?_⟩
  refine (hsame "TRACE" ["ok"] ["oK"] ['o', '\u212a'] ['O', '\u212a'] ['\u00a0'] ['\n']
    (by simp [isBlank, blanks]) (by simp [isBlank, blanks]) (by decide) (by decide)).trans ?_
  refine (hmet "TRACE" ["ok"] (by simp)).mpr
    ⟨_, get?_setText _ _ _, "ok", List.mem_singleton_self _, ?_⟩
  have hletters : List.Forall₂ IsMetBy ['o', 'k'] ['o', '\u212a'] :=
    .cons (.inl (by decide)) (.cons (.inr ⟨by decide, rfl⟩) .nil)
  exact hletters

end Switch

end Environment

section Digits

variable {digits s : List Char} {value n : Nat} {fault : NumberFault}

-- A text for a number in the decimal system, with any number of zeros in front. One plus sign may
-- stand before the digits, of which there is at least one.
def SpellsNumber (s : List Char) (n : Nat) : Prop :=
  ∃ digits, (s = digits ∨ s = '+' :: digits) ∧ digits ≠ [] ∧
    (∀ c ∈ digits, c.isDigit = true) ∧ Nat.ofDigitChars 10 digits 0 = n

-- What has to be digits.
def behindPlus : List Char → List Char
  | '+' :: digits => digits
  | digits => digits

-- The number that the digits up to the first other character stand for.
def leadingNumber (s : List Char) : Nat :=
  Nat.ofDigitChars 10 ((behindPlus s).takeWhile Char.isDigit) 0

-- Why a text is no number of 64 bits. Another character is told only where the digits before it are
-- not too many already.
def NumberFault.Spoils : NumberFault → List Char → Prop
  | empty, s => s = []
  | invalidDigit, s =>
      s = ['+'] ∨ leadingNumber s < 2 ^ 64 ∧ ∃ c ∈ behindPlus s, c.isDigit = false
  | tooLarge, s => 2 ^ 64 ≤ leadingNumber s

-- A further digit never makes a number smaller.
theorem le_ofDigitChars (digits : List Char) (value : Nat) :
    value ≤ Nat.ofDigitChars 10 digits value := by
  rw [Nat.ofDigitChars_eq_ofDigitChars_zero]
  exact Nat.le_add_right_of_le (Nat.le_mul_of_pos_left value (by positivity))

theorem readDigits_cons (value : Nat) (c : Char) (rest : List Char) :
    readDigits value (c :: rest) =
      if c.isDigit then
        if 10 * value + (c.toNat - '0'.toNat) < 2 ^ 64 then
          readDigits (10 * value + (c.toNat - '0'.toNat)) rest
        else .error .tooLarge
      else .error .invalidDigit := by
  rw [readDigits, Nat.mul_comm value]
  rfl

-- The number that is held after each digit fits, so nothing is ever cut off: it is too large at some
-- digit exactly if it is so at the last one.
theorem readDigits_eq (digits : List Char) (hvalue : value < 2 ^ 64) :
    readDigits value digits =
      if 2 ^ 64 ≤ Nat.ofDigitChars 10 (digits.takeWhile Char.isDigit) value then .error .tooLarge
      else if ∀ c ∈ digits, c.isDigit = true then .ok (Nat.ofDigitChars 10 digits value)
      else .error .invalidDigit := by
  induction digits generalizing value with
  | nil =>
      rw [List.takeWhile_nil, Nat.ofDigitChars_nil, if_neg (by omega), if_pos (by simp), readDigits]
  | cons c rest ih =>
      rw [readDigits_cons]
      by_cases hc : c.isDigit = true
      · rw [if_pos hc, List.takeWhile_cons_of_pos hc, Nat.ofDigitChars_cons, Nat.ofDigitChars_cons]
        by_cases hfits : 10 * value + (c.toNat - '0'.toNat) < 2 ^ 64
        · rw [if_pos hfits, ih hfits]
          simp only [List.forall_mem_cons, hc, true_and]
        · have hle := le_ofDigitChars (rest.takeWhile Char.isDigit)
            (10 * value + (c.toNat - '0'.toNat))
          rw [if_neg hfits, if_pos (Nat.le_trans (Nat.le_of_not_lt hfits) hle)]
      · rw [if_neg hc, List.takeWhile_cons_of_neg hc, Nat.ofDigitChars_nil, if_neg (by omega),
          if_neg fun hall => hc (hall c List.mem_cons_self)]

theorem readUnsigned_eq (s : List Char) :
    readUnsigned s =
      if s = [] then .error .empty
      else if s = ['+'] then .error .invalidDigit
      else readDigits 0 (behindPlus s) := by
  unfold readUnsigned behindPlus
  split <;> simp_all

theorem behindPlus_of_forall (hdigits : ∀ c ∈ digits, c.isDigit = true) :
    behindPlus digits = digits := by
  unfold behindPlus
  split
  · exact absurd (hdigits '+' List.mem_cons_self) (by decide)
  · rfl

theorem spellsNumber_iff : SpellsNumber s n ↔ s ≠ [] ∧ s ≠ ['+'] ∧
    (∀ c ∈ behindPlus s, c.isDigit = true) ∧ Nat.ofDigitChars 10 (behindPlus s) 0 = n := by
  constructor
  · rintro ⟨digits, rfl | rfl, hne, hall, hvalue⟩
    · rw [behindPlus_of_forall hall]
      refine ⟨hne, ?_, hall, hvalue⟩
      rintro rfl
      exact absurd (hall '+' List.mem_cons_self) (by decide)
    · exact ⟨List.cons_ne_nil _ _, fun h => hne (List.cons.inj h).2, hall, hvalue⟩
  · rintro ⟨hne, hplus, hall, hvalue⟩
    refine ⟨behindPlus s, ?_, ?_, hall, hvalue⟩
    · unfold behindPlus
      split <;> simp
    · unfold behindPlus
      split <;> simp_all

theorem SpellsNumber.leadingNumber_eq (hs : SpellsNumber s n) : leadingNumber s = n := by
  obtain ⟨-, -, hall, hvalue⟩ := spellsNumber_iff.mp hs
  rw [leadingNumber, List.takeWhile_eq_self_iff.mpr hall, hvalue]

theorem readUnsigned_eq_ok_iff : readUnsigned s = .ok n ↔ SpellsNumber s n ∧ n < 2 ^ 64 := by
  rw [readUnsigned_eq]
  constructor
  · intro hread
    split_ifs at hread with hnil hplus
    rw [readDigits_eq _ (by decide)] at hread
    split_ifs at hread with hlarge hall
    obtain rfl := Except.ok.inj hread
    rw [List.takeWhile_eq_self_iff.mpr hall] at hlarge
    exact ⟨spellsNumber_iff.mpr ⟨hnil, hplus, hall, rfl⟩, Nat.lt_of_not_le hlarge⟩
  · rintro ⟨hs, hn⟩
    have hlead := hs.leadingNumber_eq
    obtain ⟨hnil, hplus, hall, hvalue⟩ := spellsNumber_iff.mp hs
    rw [leadingNumber] at hlead
    rw [if_neg hnil, if_neg hplus, readDigits_eq _ (by decide), hlead, if_neg (by omega),
      if_pos hall, hvalue]

theorem readUnsigned_eq_error_iff : readUnsigned s = .error fault ↔ fault.Spoils s := by
  rw [readUnsigned_eq]
  by_cases hnil : s = []
  · subst hnil
    cases fault <;> simp [NumberFault.Spoils, leadingNumber, behindPlus]
  · by_cases hplus : s = ['+']
    · subst hplus
      cases fault <;> simp [NumberFault.Spoils, leadingNumber, behindPlus]
    · have hdigit : NumberFault.invalidDigit.Spoils s ↔
          ¬ 2 ^ 64 ≤ leadingNumber s ∧ ¬ ∀ c ∈ behindPlus s, c.isDigit = true := by
        simp [NumberFault.Spoils, hplus]
      rw [if_neg hnil, if_neg hplus, readDigits_eq _ (by decide), ← leadingNumber]
      split_ifs with hlarge hall
      · cases fault with
        | empty => exact iff_of_false (by simp) hnil
        | invalidDigit => exact iff_of_false (by simp) fun h => (hdigit.mp h).1 hlarge
        | tooLarge => exact iff_of_true rfl hlarge
      · refine iff_of_false (by simp) ?_
        cases fault with
        | empty => exact hnil
        | invalidDigit => exact fun h => (hdigit.mp h).2 hall
        | tooLarge => exact hlarge
      · cases fault with
        | empty => exact iff_of_false (by simp) hnil
        | invalidDigit => exact iff_of_true rfl (hdigit.mpr ⟨hlarge, hall⟩)
        | tooLarge => exact iff_of_false (by simp) hlarge

theorem spellsNumber_toString (n : Nat) : SpellsNumber (toString n).toList n := by
  rw [Nat.toString_eq_repr, Nat.toList_repr]
  exact ⟨_, .inl rfl, Nat.toDigits_ne_nil,
    fun c hc => Nat.isDigit_of_mem_toDigits (by omega) (by omega) hc, Nat.ofDigitChars_ten_toDigits⟩

theorem trimmed_toString (n : Nat) : Trimmed (toString n).toList := by
  refine trimmed_of_forall fun c hc => ?_
  rw [Nat.toString_eq_repr, Nat.toList_repr] at hc
  have hdigit := Char.isDigit_iff_toNat.mp
    (Nat.isDigit_of_mem_toDigits (b := 10) (by omega) (by omega) hc)
  have hzero : '0'.toNat = 0x30 := rfl
  have hnine : '9'.toNat = 0x39 := rfl
  exact isBlank_of_bounds (by omega) (by omega)

end Digits

namespace Seed

variable {environment : Environment} {name text : String} {fault : NumberFault}

-- What is said of a value that is passed over.
def warning (name text : String) (fault : NumberFault) : Record :=
  ⟨.warn, .switches, "Ignoring " ++ name ++ "=" ++ quoted text ++ ": " ++ fault.message⟩

theorem ofVariable_of_spells (now : UInt64) {n : UInt64}
    (hget : environment.get? name = some (Utf8.encode text))
    (hspells : SpellsNumber (trim text.toList) n.toNat) :
    ofVariable environment now name = (given n, []) := by
  have hread := readUnsigned_eq_ok_iff.mpr ⟨hspells, n.toNat_lt⟩
  rw [ofVariable, Environment.text?_eq_some_iff.mpr hget]
  simp only [hread, UInt64.ofNat_toNat]

theorem ofVariable_of_spoils (now : UInt64)
    (hget : environment.get? name = some (Utf8.encode text))
    (hspoils : fault.Spoils (trim text.toList)) :
    ofVariable environment now name = (clock now, [warning name text fault]) := by
  have hread := readUnsigned_eq_error_iff.mpr hspoils
  rw [ofVariable, Environment.text?_eq_some_iff.mpr hget]
  simp only [hread, warning]

theorem ofVariable_of_forall_ne (now : UInt64)
    (hget : ∀ text, environment.get? name ≠ some (Utf8.encode text)) :
    ofVariable environment now name = (clock now, []) := by
  rw [ofVariable, Environment.text?_eq_none_iff.mpr hget]

-- A text either spells a number of 64 bits or is spoilt by something.
theorem spells_or_spoils (s : List Char) :
    (∃ n : UInt64, SpellsNumber s n.toNat) ∨ ∃ fault : NumberFault, fault.Spoils s := by
  cases hread : readUnsigned s with
  | ok n =>
      obtain ⟨hspells, hn⟩ := readUnsigned_eq_ok_iff.mp hread
      refine .inl ⟨UInt64.ofNat n, ?_⟩
      rwa [UInt64.toNat_ofNat_of_lt' hn]
  | error fault => exact .inr ⟨fault, readUnsigned_eq_error_iff.mp hread⟩

theorem value_of_variable_iff (now : UInt64) (n : UInt64)
    (hget : environment.get? name = some (Utf8.encode text)) :
    (ofVariable environment now name).1.value = n ∧ (ofVariable environment now name).2 = [] ↔
      SpellsNumber (trim text.toList) n.toNat := by
  constructor
  · rintro ⟨hvalue, hsilent⟩
    rcases spells_or_spoils (trim text.toList) with ⟨m, hspells⟩ | ⟨fault, hspoils⟩
    · rw [ofVariable_of_spells now hget hspells] at hvalue
      obtain rfl : m = n := hvalue
      exact hspells
    · rw [ofVariable_of_spoils now hget hspoils] at hsilent
      cases hsilent
  · intro hspells
    rw [ofVariable_of_spells now hget hspells]
    exact ⟨rfl, rfl⟩

-- A number of 64 bits in a variable is the seed, with blanks around it or not. Everything else that
-- is a text is passed over with one warning for the clock, a number that is too large as well, and a
-- variable without a text is passed over in silence.
theorem seed_of_variable (environment : Environment) (now : UInt64) (name : String) :
    (∀ text, environment.get? name = some (Utf8.encode text) →
      (∀ n : UInt64, (ofVariable environment now name).1.value = n ∧
          (ofVariable environment now name).2 = [] ↔ SpellsNumber (trim text.toList) n.toNat) ∧
      ((∀ n < 2 ^ 64, ¬ SpellsNumber (trim text.toList) n) →
        ∃ fault : NumberFault, fault.Spoils (trim text.toList) ∧
          ofVariable environment now name = (clock now, [warning name text fault])) ∧
      ∀ n, 2 ^ 64 ≤ n → SpellsNumber (trim text.toList) n →
        ofVariable environment now name = (clock now, [warning name text .tooLarge])) ∧
    ((∀ text, environment.get? name ≠ some (Utf8.encode text)) →
      ofVariable environment now name = (clock now, [])) ∧
    ∀ (n : UInt64) (front back : List Char), (∀ c ∈ front, isBlank c = true) →
      (∀ c ∈ back, isBlank c = true) →
      ofVariable (environment.setText name
        (String.ofList (front ++ (toString n).toList ++ back))) now name = (given n, []) := by
  refine ⟨fun text hget => ⟨fun n => value_of_variable_iff now n hget, fun hnone => ?_,
    fun n hn hspells => ?_⟩, ofVariable_of_forall_ne now, fun n front back hfront hback => ?_⟩
  · rcases spells_or_spoils (trim text.toList) with ⟨n, hspells⟩ | ⟨fault, hspoils⟩
    · exact absurd hspells (hnone _ n.toNat_lt)
    · exact ⟨fault, hspoils, ofVariable_of_spoils now hget hspoils⟩
  · have hspoils : NumberFault.tooLarge.Spoils (trim text.toList) := by
      rwa [NumberFault.Spoils, hspells.leadingNumber_eq]
    exact ofVariable_of_spoils now hget hspoils
  · refine ofVariable_of_spells now (Environment.get?_setText environment name _) ?_
    have hsame : (toString n).toList = (toString n.toNat).toList := rfl
    rw [String.toList_ofList, trim_append_of_isBlank _ hback, trim_append_of_forall _ hfront,
      hsame, trim_of_trimmed (trimmed_toString n.toNat)]
    exact spellsNumber_toString n.toNat

-- The largest number comes with blanks, a sign and zeros, and the next one is too large. A sign of
-- the other kind is no part of a number, and a stray byte is no text.
theorem seed_of_variable_largest :
    (ofVariable ((⟨[]⟩ : Environment).setText "SEED" "\u3000+0018446744073709551615\n") 7
        "SEED").1.value = 18446744073709551615 ∧
      ofVariable ((⟨[]⟩ : Environment).setText "SEED" "18446744073709551616") 7 "SEED" =
        (clock 7, [warning "SEED" "18446744073709551616" .tooLarge]) ∧
      (∃ fault, ofVariable ((⟨[]⟩ : Environment).setText "SEED" "-1") 7 "SEED" =
        (clock 7, [warning "SEED" "-1" fault])) ∧
      ofVariable ⟨[("SEED", [255])]⟩ 7 "SEED" = (clock 7, []) ∧
      ofVariable ((⟨[]⟩ : Environment).setText "SEED"
        (String.ofList ([' '] ++ (toString (5 : UInt64)).toList ++ ['\u0085']))) 7 "SEED" =
        (given 5, []) := by
  obtain ⟨hlargest, -⟩ := seed_of_variable
    ((⟨[]⟩ : Environment).setText "SEED" "\u3000+0018446744073709551615\n") 7 "SEED"
  obtain ⟨hnext, -⟩ := seed_of_variable
    ((⟨[]⟩ : Environment).setText "SEED" "18446744073709551616") 7 "SEED"
  obtain ⟨hminus, -⟩ := seed_of_variable ((⟨[]⟩ : Environment).setText "SEED" "-1") 7 "SEED"
  obtain ⟨-, hstray, -⟩ := seed_of_variable ⟨[("SEED", [255])]⟩ 7 "SEED"
  obtain ⟨-, -, hprinted⟩ := seed_of_variable ⟨[]⟩ 7 "SEED"
  refine ⟨?_, ?_, ?_, ?_, ?_⟩
  · refine (((hlargest _ (Environment.get?_setText _ _ _)).1 _).mpr ?_).1
    exact spellsNumber_iff.mpr ⟨by decide, by decide, List.all_eq_true.mp (by decide), by decide⟩
  · refine (hnext _ (Environment.get?_setText _ _ _)).2.2 18446744073709551616 (by decide) ?_
    exact spellsNumber_iff.mpr ⟨by decide, by decide, List.all_eq_true.mp (by decide), by decide⟩
  · obtain ⟨fault, -, hwarned⟩ :=
      (hminus _ (Environment.get?_setText _ _ _)).2.1 fun n _ hspells =>
        absurd ((spellsNumber_iff.mp hspells).2.2.1 '-' (by decide)) (by decide)
    exact ⟨fault, hwarned⟩
  · exact hstray (Environment.text?_eq_none_iff.mp (by decide))
  · exact hprinted 5 [' '] ['\u0085'] (by simp [isBlank, blanks]) (by simp [isBlank, blanks])

end Seed

end MakeCheck
