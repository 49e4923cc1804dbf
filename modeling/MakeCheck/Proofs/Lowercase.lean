import Mathlib
import MakeCheck.Proofs.Text
import MakeCheck.Text.Lowercase

namespace MakeCheck.Text

section Case

variable {a b c : Char} {s t : List Char}

-- The same character, or the same letter of the ASCII block in its other case.
def IsCaseOf (a b : Char) : Prop :=
  b = a ∨ b = a.toLower ∨ b = a.toUpper

instance : DecidableRel IsCaseOf := fun a b => by
  unfold IsCaseOf
  infer_instance

theorem isUpper_iff_toNat : c.isUpper = true ↔ 0x41 ≤ c.toNat ∧ c.toNat ≤ 0x5A := by
  simp [Char.isUpper, UInt32.le_iff_toNat_le, ← Char.toNat_val]

theorem toNat_toLower_of_isUpper (hc : c.isUpper = true) :
    c.toLower.toNat = c.toNat + 0x20 := by
  have hbounds := isUpper_iff_toNat.mp hc
  have hvalid : (c.toNat + 0x20).isValidChar := .inl (by omega)
  rw [Char.toLower_eq_of_isUpper hc, Char.toNat_ofNat, if_pos hvalid]

-- Letters change their case inside of ASCII only.
theorem toNat_toLower_lt_iff : c.toLower.toNat < 0x80 ↔ c.toNat < 0x80 := by
  by_cases hc : c.isUpper = true
  · have hbounds := isUpper_iff_toNat.mp hc
    rw [toNat_toLower_of_isUpper hc]
    omega
  · rw [Char.toLower_eq_of_not_isUpper hc]

theorem isCaseOf_iff : IsCaseOf a b ↔ a.toLower = b.toLower := by
  constructor
  · rintro (rfl | rfl | rfl)
    · rfl
    · exact (Char.toLower_toLower_eq_toLower a).symm
    · exact (Char.toLower_toUpper_eq_toLower a).symm
  · intro hsame
    by_cases hb : b.isUpper = true
    · have hupper : b.toUpper = b :=
        Char.toUpper_eq_of_not_isLower (Char.not_isLower_of_isUpper hb)
      refine .inr (.inr ?_)
      rw [← hupper, ← Char.toUpper_toLower_eq_toUpper b, ← hsame, Char.toUpper_toLower_eq_toUpper]
    · refine .inr (.inl ?_)
      rw [hsame, Char.toLower_eq_of_not_isUpper hb]

theorem IsCaseOf.toNat_lt_iff (h : IsCaseOf a b) : a.toNat < 0x80 ↔ b.toNat < 0x80 := by
  rw [← toNat_toLower_lt_iff, isCaseOf_iff.mp h, toNat_toLower_lt_iff]

theorem isCaseOf_toLower_iff : IsCaseOf a b.toLower ↔ IsCaseOf a b := by
  rw [isCaseOf_iff, isCaseOf_iff, Char.toLower_toLower_eq_toLower]

theorem forall₂_isCaseOf_iff :
    List.Forall₂ IsCaseOf s t ↔ s.map Char.toLower = t.map Char.toLower := by
  have hrel : IsCaseOf = fun a b => a.toLower = b.toLower :=
    funext fun a => funext fun b => propext isCaseOf_iff
  rw [hrel, ← List.forall₂_eq_eq_eq, List.forall₂_map_left_iff, List.forall₂_map_right_iff]

theorem toLower_of_not_ascii (hc : 0x80 ≤ c.toNat) : c.toLower = c := by
  refine Char.toLower_eq_of_not_isUpper fun hupper => ?_
  have hbounds := isUpper_iff_toNat.mp hupper
  omega

theorem isBlank_toLower (c : Char) : isBlank c.toLower = isBlank c := by
  by_cases hc : c.isUpper = true
  · have hbounds := isUpper_iff_toNat.mp hc
    have hlower := toNat_toLower_of_isUpper hc
    rw [isBlank_of_bounds (by omega) (by omega), isBlank_of_bounds (by omega) (by omega)]
  · rw [Char.toLower_eq_of_not_isUpper hc]

theorem trim_map_toLower (s : List Char) :
    trim (s.map Char.toLower) = (trim s).map Char.toLower := by
  have hblank : isBlank ∘ Char.toLower = isBlank := funext isBlank_toLower
  simp only [trim, trimEnd, trimStart, List.dropWhile_map, hblank, ← List.map_reverse]

end Case

section Context

variable {c : Char}

-- A set that holds a capital of ASCII together with the small letter, or neither of them.
theorem contains_toLower {set : CharSet}
    (hset : ((List.range 26).all fun i =>
      rangesContain set.ranges (i + 0x61) == rangesContain set.ranges (i + 0x41)) = true) (c : Char) :
    set.contains c.toLower = set.contains c := by
  by_cases hc : c.isUpper = true
  · obtain ⟨hlow, hhigh⟩ := isUpper_iff_toNat.mp hc
    have hletter := List.all_eq_true.mp hset (c.toNat - 0x41) (List.mem_range.mpr (by omega))
    have hcapital : c.toNat - 0x41 + 0x41 = c.toNat := by omega
    have hsmall : c.toNat - 0x41 + 0x61 = c.toNat + 0x20 := by omega
    rw [hcapital, hsmall, beq_iff_eq] at hletter
    rw [CharSet.contains, CharSet.contains, toNat_toLower_of_isUpper hc, hletter]
  · rw [Char.toLower_eq_of_not_isUpper hc]

theorem casedNext_map_toLower (s : List Char) : casedNext (s.map Char.toLower) = casedNext s := by
  have hignorable : caseIgnorableSet.contains ∘ Char.toLower = caseIgnorableSet.contains :=
    funext (contains_toLower (by decide))
  rw [casedNext, casedNext, List.dropWhile_map, hignorable]
  cases s.dropWhile caseIgnorableSet.contains with
  | nil => rfl
  | cons c rest => exact contains_toLower (by decide) c

theorem toLower_eq_sigma_iff : c.toLower = 'Σ' ↔ c = 'Σ' := by
  constructor
  · intro hc
    have hout : ¬ c.toNat < 0x80 := by
      rw [← toNat_toLower_lt_iff, hc]
      decide
    rwa [toLower_of_not_ascii (by omega)] at hc
  · rintro rfl
    decide

theorem lowerChar_of_ascii (hc : c.toNat < 0x80) : lowerChar c = [c.toLower] := by
  rw [lowerChar, if_pos hc]

theorem lowerChar_toLower (c : Char) : lowerChar c.toLower = lowerChar c := by
  by_cases hc : c.toNat < 0x80
  · rw [lowerChar_of_ascii (toNat_toLower_lt_iff.mpr hc), lowerChar_of_ascii hc,
      Char.toLower_toLower_eq_toLower]
  · rw [toLower_of_not_ascii (by omega)]

-- The neighbours of a sigma weigh the same in either case.
theorem lowerAfter_map_toLower (before s : List Char) :
    lowerAfter (before.map Char.toLower) (s.map Char.toLower) = lowerAfter before s := by
  induction s generalizing before with
  | nil => rfl
  | cons c rest ih =>
      have hrest := ih (c :: before)
      rw [List.map_cons] at hrest
      rw [List.map_cons, lowerAfter, lowerAfter, casedNext_map_toLower, casedNext_map_toLower,
        lowerChar_toLower, hrest]
      simp only [toLower_eq_sigma_iff]

theorem lowercase_map_toLower (s : List Char) : lowercase (s.map Char.toLower) = lowercase s :=
  lowerAfter_map_toLower [] s

end Context

section Ascii

variable {c : Char} {word s : List Char}

-- The distance is that of a run around the point.
theorem lowerShift_cases (runs : List (Nat × Nat × Nat × Int)) (point : Nat) :
    lowerShift runs point = 0 ∨ ∃ first last step distance, (first, last, step, distance) ∈ runs ∧
      first ≤ point ∧ point ≤ last ∧ lowerShift runs point = distance := by
  induction runs with
  | nil => exact .inl rfl
  | cons run runs ih =>
      obtain ⟨first, last, step, distance⟩ := run
      rw [lowerShift]
      split
      · rename_i hlast
        split
        · rename_i hfirst
          exact .inr ⟨first, last, step, distance, List.mem_cons_self, hfirst.1, hlast, rfl⟩
        · exact .inl rfl
      · obtain hzero | ⟨first, last, step, distance, hmem, hrun⟩ := ih
        · exact .inl hzero
        · exact .inr ⟨first, last, step, distance, List.mem_cons_of_mem _ hmem, hrun⟩

-- A run whose lower forms are characters outside ASCII.
def StaysOutside (run : Nat × Nat × Nat × Int) : Prop :=
  0x80 ≤ run.1 + run.2.2.2 ∧ run.2.1 + run.2.2.2 < 0xD800 ∨
    0xDFFF < run.1 + run.2.2.2 ∧ run.2.1 + run.2.2.2 < 0x110000

instance : DecidablePred StaysOutside := fun run => by
  unfold StaysOutside
  infer_instance

theorem staysOutside_of_mem {run : Nat × Nat × Nat × Int} (hrun : run ∈ lowerRuns) :
    StaysOutside run ∨ run = (0x212A, 0x212A, 1, -8383) := by
  have hall : (lowerRuns.all fun run =>
    decide (StaysOutside run) || run == (0x212A, 0x212A, 1, -8383)) = true := by decide +kernel
  have hrun := List.all_eq_true.mp hall run hrun
  simpa using hrun

theorem exists_mem_lowerChar_of_not_ascii (hc : 0x80 ≤ c.toNat) (hkelvin : c ≠ '\u212a') :
    ∃ d ∈ lowerChar c, 0x80 ≤ d.toNat := by
  rw [lowerChar, if_neg (by omega)]
  split
  · exact ⟨'\u0307', by simp, by decide⟩
  · refine ⟨_, List.mem_singleton.mpr rfl, ?_⟩
    rcases lowerShift_cases lowerRuns c.toNat with
      hzero | ⟨first, last, step, distance, hmem, hfirst, hlast, hshift⟩
    · rw [hzero, Int.add_zero, Int.toNat_natCast, Char.ofNat_toNat]
      exact hc
    · rcases staysOutside_of_mem hmem with houtside | hrun
      · simp only [StaysOutside] at houtside
        have hvalid : (c.toNat + distance).toNat.isValidChar := by
          unfold Nat.isValidChar
          omega
        rw [hshift, Char.toNat_ofNat, if_pos hvalid]
        omega
      · obtain ⟨rfl, rfl, rfl, rfl⟩ := by simpa using hrun
        have hpoint : c.toNat = '\u212a'.toNat := Nat.le_antisymm hlast hfirst
        exact absurd (Char.toNat_inj.mp hpoint) hkelvin

-- What the first character of a text gives, whatever stands around it.
theorem lowerAfter_cons (before : List Char) (c : Char) (rest : List Char) :
    ∃ front, lowerAfter before (c :: rest) = front ++ lowerAfter (c :: before) rest ∧
      (c.toNat < 0x80 ∧ front = [c.toLower] ∨ c = '\u212a' ∧ front = ['k'] ∨
        0x80 ≤ c.toNat ∧ c ≠ '\u212a' ∧ ∃ d ∈ front, 0x80 ≤ d.toNat) := by
  refine ⟨_, by rw [lowerAfter], ?_⟩
  by_cases hascii : c.toNat < 0x80
  · have hsigma : c ≠ 'Σ' := by
      rintro rfl
      exact absurd hascii (by decide)
    exact .inl ⟨hascii, by rw [if_neg hsigma, lowerChar_of_ascii hascii]⟩
  · by_cases hkelvin : c = '\u212a'
    · subst hkelvin
      exact .inr (.inl ⟨rfl, by rw [if_neg (by decide)]; decide⟩)
    · refine .inr (.inr ⟨by omega, hkelvin, ?_⟩)
      split
      · refine ⟨_, List.mem_singleton.mpr rfl, ?_⟩
        split <;> decide
      · exact exists_mem_lowerChar_of_not_ascii (by omega) hkelvin

-- What a letter of a word is met by: itself in either case. The Kelvin sign is one more k.
def IsMetBy (a c : Char) : Prop :=
  IsCaseOf a c ∨ IsCaseOf a 'k' ∧ c = '\u212a'

theorem isMetBy_iff_of_ascii {a : Char} (hc : c.toNat < 0x80) :
    IsMetBy a c ↔ IsCaseOf a c := by
  have hkelvin : c ≠ '\u212a' := by
    rintro rfl
    exact absurd hc (by decide)
  exact or_iff_left fun h => hkelvin h.2

theorem isMetBy_iff_of_not_ascii {a : Char} (ha : a.toNat < 0x80) (hc : 0x80 ≤ c.toNat) :
    IsMetBy a c ↔ IsCaseOf a 'k' ∧ c = '\u212a' := by
  refine or_iff_right fun h => ?_
  have hlt := h.toNat_lt_iff.mp ha
  omega

theorem forall_ascii_of_forall₂ (hword : ∀ a ∈ word, a.toNat < 0x80)
    (hsame : List.Forall₂ IsCaseOf word s) : ∀ c ∈ s, c.toNat < 0x80 := by
  induction hsame with
  | nil => exact hword
  | cons hcase _ ih =>
      obtain ⟨ha, hrest⟩ := List.forall_mem_cons.mp hword
      exact List.forall_mem_cons.mpr ⟨hcase.toNat_lt_iff.mp ha, ih hrest⟩

-- The lower form of a text is a word of ASCII only where the text is one, the Kelvin sign apart.
theorem forall₂_lowerAfter_iff (before : List Char) (hword : ∀ a ∈ word, a.toNat < 0x80) :
    List.Forall₂ IsCaseOf word (lowerAfter before s) ↔ List.Forall₂ IsMetBy word s := by
  induction s generalizing before word with
  | nil => rw [lowerAfter, List.forall₂_nil_right_iff, List.forall₂_nil_right_iff]
  | cons c rest ih =>
      -- a character with one character for its lower form is compared by that
      have hone (d : Char) (hd : ∀ a, a.toNat < 0x80 → (IsCaseOf a d ↔ IsMetBy a c)) :
          List.Forall₂ IsCaseOf word (d :: lowerAfter (c :: before) rest) ↔
            List.Forall₂ IsMetBy word (c :: rest) := by
        cases word with
        | nil => simp
        | cons a word =>
            obtain ⟨ha, hrest⟩ := List.forall_mem_cons.mp hword
            rw [List.forall₂_cons, List.forall₂_cons, hd a ha, ih (c :: before) hrest]
      obtain ⟨front, hlower, ⟨hc, rfl⟩ | ⟨rfl, rfl⟩ | ⟨hc, hkelvin, d, hd, hout⟩⟩ :=
        lowerAfter_cons before c rest
      · rw [hlower]
        exact hone _ fun a _ => isCaseOf_toLower_iff.trans (isMetBy_iff_of_ascii hc).symm
      · rw [hlower]
        refine hone _ fun a ha => ?_
        rw [isMetBy_iff_of_not_ascii ha (by decide), and_iff_left rfl]
      · refine iff_of_false (fun hmet => ?_) (fun hmet => ?_)
        · rw [hlower] at hmet
          have hlt := forall_ascii_of_forall₂ hword hmet d (List.mem_append_left _ hd)
          omega
        · obtain ⟨a, more, hcase, -, rfl⟩ := List.forall₂_cons_right_iff.mp hmet
          exact hkelvin ((isMetBy_iff_of_not_ascii (hword a List.mem_cons_self) hc).mp hcase).2

theorem forall₂_lowercase_iff (hword : ∀ a ∈ word, a.toNat < 0x80) :
    List.Forall₂ IsCaseOf word (lowercase s) ↔ List.Forall₂ IsMetBy word s :=
  forall₂_lowerAfter_iff [] hword

-- The sign becomes a letter of ASCII, and the dotted capital I becomes one with a dot behind it.
example : lowercase ['\u212a'] = ['k'] ∧ lowercase ['\u0130'] = ['i', '\u0307'] := by decide

theorem forall₂_isMetBy_iff (hk : ∀ a ∈ word, ¬ IsCaseOf a 'k') :
    List.Forall₂ IsMetBy word s ↔ List.Forall₂ IsCaseOf word s := by
  constructor
  · intro hmet
    refine ((List.forall₂_and_left _ _).mpr ⟨hk, hmet⟩).imp fun a c ⟨ha, hac⟩ => ?_
    exact hac.resolve_right fun h => ha h.1
  · exact fun hsame => hsame.imp fun a c hac => .inl hac

end Ascii

end MakeCheck.Text
