import Mathlib.Data.Nat.Find
import MakeCheck.Proofs.Grammar
import MakeCheck.Proofs.Outline.Detection
import MakeCheck.Proofs.Source

namespace MakeCheck

open Text

-- How these targets are written before the colon of a header. A name with a space in it and a list of
-- fewer than two names cannot be written there.
def Targets.Spells : Targets → List Char → Prop
  | .single name, front => ' ' ∉ name.toList ∧ front = name.toList
  | .multiple names, front => 2 ≤ names.length ∧ (∀ name ∈ names, ' ' ∉ name.toList) ∧
      front = (" ".intercalate names).toList

theorem Targets.spells_iff {targets : Targets} {front : List Char} :
    targets.Spells front ↔ ofText front = targets := by
  constructor
  · intro hspells
    cases targets with
    | single name =>
        obtain ⟨hspace, rfl⟩ := hspells
        rw [ofText_of_not_mem hspace, String.ofList_toList]
    | multiple names =>
        obtain ⟨hlength, hnames, rfl⟩ := hspells
        rw [toList_intercalate_space, ofText_joined hlength hnames]
  · rintro rfl
    by_cases hspace : ' ' ∈ front
    · obtain ⟨names, hmultiple, hnames, hlength⟩ := exists_multiple_of_mem hspace
      have hcount := List.count_pos_iff.mpr hspace
      have htext := toList_text_ofText front
      rw [hmultiple] at htext ⊢
      exact ⟨by omega, hnames, htext.symm⟩
    · rw [ofText_of_not_mem hspace]
      exact ⟨by rwa [String.toList_ofList], String.toList_ofList.symm⟩

theorem Header.targets_of_ofLine? {line : List Char} {header : Header}
    (hf : ofLine? line = some header) :
    header.targets = Targets.ofText (line.takeWhile (· != ':')) := by
  obtain ⟨targets, rest, rfl, -, hall, -, rfl⟩ := ofLine?_eq_some_iff.mp hf
  rw [takeWhile_eq_of_forall (fun c hc => ?_) rest (by decide)]
  rw [bne_iff_ne]
  rintro rfl
  exact colon_not_mem hall hc

namespace Outline

-- What stands before the first colon of a line.
def front (lines : List (List Char)) (i : Nat) : List Char :=
  (text lines i).takeWhile (· != ':')

-- The first header of a kind.
structure IsFirstHeader (detect : Bool) (lines : List (List Char)) (kind : Nat → Prop) (h : Nat) :
    Prop where
  header : IsHeader detect lines h
  isKind : kind h
  first : ∀ j < h, IsHeader detect lines j → ¬kind j

section Find

variable {detect : Bool} {lines : List (List Char)} {kind : Nat → Prop} {h : Nat}

theorem exists_isFirstHeader_iff :
    (∃ h, IsFirstHeader detect lines kind h) ↔ ∃ h, IsHeader detect lines h ∧ kind h := by
  classical
  constructor
  · rintro ⟨h, hfirst⟩
    exact ⟨h, hfirst.header, hfirst.isKind⟩
  · intro hex
    refine ⟨Nat.find hex, (Nat.find_spec hex).1, (Nat.find_spec hex).2, fun j hj hheader hkind => ?_⟩
    exact Nat.find_min hex hj ⟨hheader, hkind⟩

open scoped Classical in
theorem find?_places_eq_some_iff :
    (places lines (IsHeader detect lines)).find? (fun i => decide (kind i)) = some h ↔
      IsFirstHeader detect lines kind h := by
  rw [places, List.find?_filter, List.find?_range_eq_some]
  simp only [decide_eq_true_eq, List.mem_range, Bool.not_eq_true', decide_eq_false_iff_not]
  constructor
  · rintro ⟨⟨hheader, hkind⟩, -, hfirst⟩
    exact ⟨hheader, hkind, fun j hj hj' hkind => hfirst j hj ⟨hj', hkind⟩⟩
  · rintro ⟨hheader, hkind, hfirst⟩
    exact ⟨⟨hheader, hkind⟩, lt_length_of_not_isBlank hheader.not_isBlank,
      fun j hj hboth => hfirst j hj hboth.1 hboth.2⟩

section Rules

variable {makefile : Makefile} {targets : Targets} {rule : Rule}
  (hrules : List.Forall₂ (IsRule detect lines) (places lines (IsHeader detect lines))
    makefile.rules)
  (hkind : ∀ h rule, IsRule detect lines h rule → (kind h ↔ rule.targets = targets))

include hrules hkind

open scoped Classical in
-- A search through the rules is one through the headers.
theorem rel_rule? : Option.Rel (IsRule detect lines)
    ((places lines (IsHeader detect lines)).find? fun i => decide (kind i))
    (makefile.rule? targets) := by
  refine rel_find? hrules fun h rule hrule => ?_
  rw [Bool.eq_iff_iff, decide_eq_true_eq, beq_iff_eq]
  exact hkind h rule hrule

theorem exists_rule?_of_isFirstHeader (hfirst : IsFirstHeader detect lines kind h) :
    ∃ rule, makefile.rule? targets = some rule ∧ IsRule detect lines h rule := by
  have hrel := rel_rule? hrules hkind
  rw [find?_places_eq_some_iff.mpr hfirst] at hrel
  generalize makefile.rule? targets = found at hrel
  cases hrel with
  | some hrule => exact ⟨_, rfl, hrule⟩

theorem rule?_eq_some_iff : makefile.rule? targets = some rule ↔
    ∃ h, IsFirstHeader detect lines kind h ∧ IsRule detect lines h rule := by
  constructor
  · intro hfound
    have hrel := rel_rule? hrules hkind
    rw [hfound] at hrel
    generalize hplace : (places lines (IsHeader detect lines)).find? _ = place at hrel
    cases hrel with
    | some hrule => exact ⟨_, find?_places_eq_some_iff.mp hplace, hrule⟩
  · rintro ⟨h, hfirst, hrule⟩
    obtain ⟨found, hfound, hrule'⟩ := exists_rule?_of_isFirstHeader hrules hkind hfirst
    rw [hfound, isRule_unique detect lines hrule' hrule]

theorem isSome_rule?_iff : (makefile.rule? targets).isSome = true ↔
    ∃ h, IsHeader detect lines h ∧ kind h := by
  rw [← exists_isFirstHeader_iff]
  constructor
  · intro hsome
    obtain ⟨rule, hfound⟩ := Option.isSome_iff_exists.mp hsome
    obtain ⟨h, hfirst, -⟩ := (rule?_eq_some_iff hrules hkind).mp hfound
    exact ⟨h, hfirst⟩
  · rintro ⟨h, hfirst⟩
    obtain ⟨rule, hfound, -⟩ := exists_rule?_of_isFirstHeader hrules hkind hfirst
    exact Option.isSome_iff_exists.mpr ⟨rule, hfound⟩

end Rules

end Find

theorem IsRule.spells_iff {detect : Bool} {lines : List (List Char)} {h : Nat} {rule : Rule}
    {targets : Targets} (hrule : IsRule detect lines h rule) :
    targets.Spells (front lines h) ↔ rule.targets = targets := by
  have htargets : rule.targets = Targets.ofText (front lines h) :=
    Header.targets_of_ofLine? hrule.header
  rw [Targets.spells_iff, htargets]

-- The rule that is found is that of the first header with the text of the targets before its colon.
-- Some targets are found in no file, and those of the rules are told apart by their text.
theorem rule?_parse (options : ParseOptions) (file : String) :
    let detect := options.detectDefinitions
    let lines := physicalLines file
    let makefile := Makefile.parse options file
    (∀ targets, (makefile.rule? targets).isSome = true ↔
      ∃ h, IsHeader detect lines h ∧ targets.Spells (front lines h)) ∧
    (∀ targets rule, makefile.rule? targets = some rule ↔
      ∃ h, IsFirstHeader detect lines (fun i => targets.Spells (front lines i)) h ∧
        IsRule detect lines h rule) ∧
    (∀ name : String, ' ' ∈ name.toList → makefile.rule? (.single name) = none) ∧
    (∀ names : List String, names.length < 2 ∨ (∃ name ∈ names, ' ' ∈ name.toList) →
      makefile.rule? (.multiple names) = none) ∧
    (∀ again other, ∀ rule ∈ makefile.rules, ∀ found ∈ (Makefile.parse again other).rules,
      rule.targets.text = found.targets.text ↔ rule.targets = found.targets) ∧
    ¬Function.Injective Targets.text := by
  intro detect lines makefile
  have hrules := (reads_parse options file).rules
  have hkind (targets : Targets) : ∀ h rule, IsRule detect lines h rule →
      (targets.Spells (front lines h) ↔ rule.targets = targets) := fun _ _ hrule => hrule.spells_iff
  have hsome (targets : Targets) := isSome_rule?_iff hrules (hkind targets)
  have hnone (targets : Targets) (hnot : ∀ front, ¬targets.Spells front) :
      makefile.rule? targets = none := by
    rw [← Option.not_isSome_iff_eq_none, hsome targets]
    rintro ⟨h, -, hspells⟩
    exact hnot _ hspells
  refine ⟨hsome, fun targets rule => rule?_eq_some_iff hrules (hkind targets), ?_, ?_, ?_, ?_⟩
  · exact fun name hspace => hnone _ fun _ hspells => hspells.1 hspace
  · rintro names (hlength | ⟨name, hname, hspace⟩)
    · refine hnone _ fun _ hspells => ?_
      have htwo := hspells.1
      omega
    · exact hnone _ fun _ hspells => hspells.2.1 name hname hspace
  · intro again other rule hrule found hfound
    have hwellFormed := ((wellFormed_parse options file).rules rule hrule).targets
    have hwellFormed' := ((wellFormed_parse again other).rules found hfound).targets
    refine ⟨fun htext => ?_, congrArg Targets.text⟩
    rw [← hwellFormed.ofText_text, htext, hwellFormed'.ofText_text]
  · intro hinjective
    have htext : (Targets.single "a b").text = (Targets.multiple ["a", "b"]).text := by decide
    exact absurd (hinjective htext) (by decide)

-- The second header with the same targets is never reached, nor is one found by its whole text.
theorem rule?_parse_repeated :
    let lines := physicalLines "a b: p\n\tx\na b: q"
    let makefile := Makefile.parse ⟨true, false⟩ "a b: p\n\tx\na b: q"
    (∃ h, IsFirstHeader true lines
        (fun i => (Targets.multiple ["a", "b"]).Spells (front lines i)) h ∧
        IsRule true lines h ⟨.multiple ["a", "b"], ["p"], ["x"]⟩) ∧
      makefile.rule? (.single "a b") = none ∧ makefile.rule? (.multiple ["a b"]) = none ∧
      makefile.rule? (.multiple ["a", "b c"]) = none ∧
      ∀ found ∈ (Makefile.parse ⟨false, false⟩ "a:\na b :").rules,
        (Targets.multiple ["a", "b"]).text = found.targets.text ↔
          Targets.multiple ["a", "b"] = found.targets := by
  intro lines makefile
  obtain ⟨-, hrule, hname, hnames, htexts, -⟩ :=
    rule?_parse ⟨true, false⟩ "a b: p\n\tx\na b: q"
  have hfound : makefile.rule? (.multiple ["a", "b"]) =
      some ⟨.multiple ["a", "b"], ["p"], ["x"]⟩ := by decide
  exact ⟨(hrule _ _).mp hfound, hname "a b" (by decide), hnames ["a b"] (.inl (by decide)),
    hnames ["a", "b c"] (.inr ⟨"b c", by simp, by decide⟩),
    htexts _ _ _ (List.mem_of_find?_eq_some hfound)⟩

end Outline

end MakeCheck
