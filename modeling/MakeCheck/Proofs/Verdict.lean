import MakeCheck.Proofs.Listing
import MakeCheck.Proofs.Outline.Lookup

namespace MakeCheck

open Outline

namespace Outline

-- The line is written like a header with these targets.
def HasTargets (lines : List (List Char)) (targets : Targets) (i : Nat) : Prop :=
  ∃ prerequisites, Header.ofLine? (text lines i) = some ⟨targets, prerequisites⟩

-- Comments and assignments without a tab are all that stands below a header before the next blank
-- line, the next header or the end.
def HasNoCommand (lines : List (List Char)) (h : Nat) : Prop :=
  ∀ i, h < i → Reaches true lines h (i + 1) →
    IsComment lines i ∨
      (VariableDefinition.ofLine? (text lines i)).isSome = true ∧ ¬IsTabbed lines i

section Rules

variable {lines : List (List Char)} {h : Nat} {rule : Rule} {targets : Targets}

theorem IsRule.hasTargets_iff (hrule : IsRule true lines h rule) :
    HasTargets lines targets h ↔ rule.targets = targets := by
  constructor
  · rintro ⟨prerequisites, hheader⟩
    rw [hrule.header, Option.some.injEq, Header.mk.injEq] at hheader
    exact hheader.1
  · rintro rfl
    exact ⟨_, hrule.header⟩

-- Below its header a rule is open, so a tab is what makes a command of an assignment.
theorem isDefinition_iff_of_reaches {i : Nat} (hh : IsHeader true lines h) (hi : h < i)
    (hreaches : Reaches true lines h (i + 1)) (hc : ¬IsComment lines i) :
    IsDefinition true lines i ↔
      (VariableDefinition.ofLine? (text lines i)).isSome = true ∧ ¬IsTabbed lines i := by
  have hopen : IsOpen true lines i := (isOpen_iff _ _ _).mpr
    ⟨h, hi, hh, fun j hj hji => (hreaches j hj (Nat.lt_succ_of_lt hji)).1⟩
  have hb : ¬IsBlank lines i := (hreaches i hi (Nat.lt_succ_self i)).1
  rw [IsDefinition]
  simp only [hb, hc, hopen, not_false_eq_true, true_and]

theorem IsRule.isEmpty_iff (hrule : IsRule true lines h rule) (hh : IsHeader true lines h) :
    rule.isEmpty = true ↔ HasNoCommand lines h := by
  have hplaces : rule.isEmpty = true ↔ ∀ i, ¬InRecipe true lines h i := by
    rw [Rule.isEmpty, List.isEmpty_iff, hrule.recipe, List.map_eq_nil_iff,
      List.eq_nil_iff_forall_not_mem]
    refine forall_congr' fun i => not_congr (mem_places.trans (and_iff_right_of_imp fun hin => ?_))
    exact lt_length_of_not_isBlank (hin.2.1 i hin.1 (Nat.le_refl i)).1
  rw [hplaces]
  refine forall_congr' fun i => ?_
  rw [inRecipe_iff]
  constructor
  · intro hout hi hreaches
    by_cases hc : IsComment lines i
    · exact .inl hc
    · rw [← isDefinition_iff_of_reaches hh hi hreaches hc]
      by_contra hnot
      exact hout ⟨hi, hreaches, hc, fun hd => hnot (.inr hd)⟩
  · rintro hnone ⟨hi, hreaches, hc, hd⟩
    rw [isDefinition_iff_of_reaches hh hi hreaches hc] at hd
    exact (hnone hi hreaches).elim hc hd

end Rules

end Outline

namespace Check

variable {makefile : Makefile} {targets : Targets} {template : String} {rule : Rule}

theorem hasRule_of_some (hrule : makefile.rule? targets = some rule) :
    hasRule makefile targets = .ok rule := by
  rw [hasRule, hrule]

theorem hasRule_of_none (hnone : makefile.rule? targets = none) :
    hasRule makefile targets = .error (.missingRule targets) := by
  rw [hasRule, hnone]

theorem recipeEmpty_of_some (hrule : makefile.rule? targets = some rule) :
    recipeEmpty makefile targets =
      if rule.isEmpty then .ok () else .error (.nonEmptyRecipe targets) := by
  rw [recipeEmpty, hasRule_of_some hrule]

theorem recipeEmpty_of_none (hnone : makefile.rule? targets = none) :
    recipeEmpty makefile targets = .error (.missingRule targets) := by
  rw [recipeEmpty, hasRule_of_none hnone]

-- A template makes no difference to a rule that is there.
theorem hasRuleWith_eq : hasRuleWith makefile targets template =
    (hasRule makefile targets).mapError fun _ => customFor template targets := by
  rw [hasRuleWith]
  cases hasRule makefile targets <;> rfl

-- Other outcomes there are none, and the template belongs to one of them.
theorem recipeEmpty_cases (makefile : Makefile) (targets : Targets) (template : String) :
    recipeEmpty makefile targets = .ok () ∧ recipeEmptyWith makefile targets template = .ok () ∨
    recipeEmpty makefile targets = .error (.missingRule targets) ∧
      recipeEmptyWith makefile targets template = .error (.missingRule targets) ∨
    recipeEmpty makefile targets = .error (.nonEmptyRecipe targets) ∧
      recipeEmptyWith makefile targets template = .error (customFor template targets) := by
  cases hfound : makefile.rule? targets with
  | none =>
      have hmissing := recipeEmpty_of_none hfound
      exact .inr (.inl ⟨hmissing, by rw [recipeEmptyWith, hmissing]⟩)
  | some rule =>
      have hempty := recipeEmpty_of_some hfound
      cases hrule : rule.isEmpty with
      | true =>
          rw [hrule, if_pos rfl] at hempty
          exact .inl ⟨hempty, by rw [recipeEmptyWith, hempty]⟩
      | false =>
          rw [hrule, if_neg Bool.false_ne_true] at hempty
          exact .inr (.inr ⟨hempty, by rw [recipeEmptyWith, hempty]⟩)

theorem hasRule_eq_missing_iff :
    hasRule makefile targets = .error (.missingRule targets) ↔ makefile.rule? targets = none := by
  refine ⟨fun hmissing => ?_, hasRule_of_none⟩
  rw [Option.eq_none_iff_forall_ne_some]
  intro rule hrule
  rw [hasRule_of_some hrule] at hmissing
  cases hmissing

theorem recipeEmpty_eq_missing_iff :
    recipeEmpty makefile targets = .error (.missingRule targets) ↔
      makefile.rule? targets = none := by
  refine ⟨fun hmissing => ?_, recipeEmpty_of_none⟩
  rw [Option.eq_none_iff_forall_ne_some]
  intro rule hrule
  rw [recipeEmpty_of_some hrule] at hmissing
  cases hempty : rule.isEmpty <;> simp [hempty] at hmissing

theorem recipeEmptyWith_iff (makefile : Makefile) (targets : Targets) (template : String) :
    (recipeEmptyWith makefile targets template = .ok () ↔ recipeEmpty makefile targets = .ok ()) ∧
    (recipeEmptyWith makefile targets template = .error (customFor template targets) ↔
      recipeEmpty makefile targets = .error (.nonEmptyRecipe targets)) ∧
    (recipeEmptyWith makefile targets template = .error (.missingRule targets) ↔
      recipeEmpty makefile targets = .error (.missingRule targets)) := by
  rcases recipeEmpty_cases makefile targets template with
    ⟨hplain, hwith⟩ | ⟨hplain, hwith⟩ | ⟨hplain, hwith⟩ <;>
  simp [hplain, hwith, customFor]

end Check

section Verdicts

variable {lines : List (List Char)} {makefile : Makefile} {targets : Targets}
  (hrules : List.Forall₂ (IsRule true lines) (places lines (IsHeader true lines)) makefile.rules)

include hrules

theorem hasRule_of_isFirstHeader {h : Nat}
    (hfirst : IsFirstHeader true lines (HasTargets lines targets) h) :
    ∃ rule, IsRule true lines h rule ∧ Check.hasRule makefile targets = .ok rule := by
  obtain ⟨rule, hfound, hrule⟩ :=
    exists_rule?_of_isFirstHeader hrules (fun _ _ hrule => hrule.hasTargets_iff) hfirst
  exact ⟨rule, hrule, Check.hasRule_of_some hfound⟩

theorem rule?_eq_none_iff : makefile.rule? targets = none ↔
    ¬∃ h, IsFirstHeader true lines (HasTargets lines targets) h := by
  rw [exists_isFirstHeader_iff,
    ← isSome_rule?_iff hrules fun _ _ hrule => hrule.hasTargets_iff, Option.not_isSome_iff_eq_none]

-- The rule of the first header with the targets decides, whatever is said of them further down.
theorem recipeEmpty_of_isFirstHeader {h : Nat}
    (hfirst : IsFirstHeader true lines (HasTargets lines targets) h) :
    Check.recipeEmpty makefile targets = .ok () ∧ HasNoCommand lines h ∨
      Check.recipeEmpty makefile targets = .error (.nonEmptyRecipe targets) ∧
        ¬HasNoCommand lines h := by
  obtain ⟨rule, hfound, hrule⟩ :=
    exists_rule?_of_isFirstHeader hrules (fun _ _ hrule => hrule.hasTargets_iff) hfirst
  rw [Check.recipeEmpty_of_some hfound, ← hrule.isEmpty_iff hfirst.header]
  cases rule.isEmpty with
  | true => exact .inl ⟨rfl, rfl⟩
  | false => exact .inr ⟨rfl, Bool.false_ne_true⟩

theorem exists_isFirstHeader_of_recipeEmpty
    (hchecked : Check.recipeEmpty makefile targets ≠ .error (.missingRule targets)) :
    ∃ h, IsFirstHeader true lines (HasTargets lines targets) h := by
  by_contra hnone
  exact hchecked (Check.recipeEmpty_of_none ((rule?_eq_none_iff hrules).mpr hnone))

theorem recipeEmpty_eq_ok_iff : Check.recipeEmpty makefile targets = .ok () ↔
    ∃ h, IsFirstHeader true lines (HasTargets lines targets) h ∧ HasNoCommand lines h := by
  constructor
  · intro hok
    obtain ⟨h, hfirst⟩ := exists_isFirstHeader_of_recipeEmpty hrules (by rw [hok]; nofun)
    rcases recipeEmpty_of_isFirstHeader hrules hfirst with ⟨-, hnone⟩ | ⟨hfailed, -⟩
    · exact ⟨h, hfirst, hnone⟩
    · cases hok.symm.trans hfailed
  · rintro ⟨h, hfirst, hnone⟩
    rcases recipeEmpty_of_isFirstHeader hrules hfirst with ⟨hok, -⟩ | ⟨-, hnot⟩
    · exact hok
    · exact absurd hnone hnot

theorem recipeEmpty_eq_nonEmpty_iff :
    Check.recipeEmpty makefile targets = .error (.nonEmptyRecipe targets) ↔
      ∃ h, IsFirstHeader true lines (HasTargets lines targets) h ∧ ¬HasNoCommand lines h := by
  constructor
  · intro hfailed
    obtain ⟨h, hfirst⟩ := exists_isFirstHeader_of_recipeEmpty hrules (by rw [hfailed]; nofun)
    rcases recipeEmpty_of_isFirstHeader hrules hfirst with ⟨hok, -⟩ | ⟨-, hnot⟩
    · cases hok.symm.trans hfailed
    · exact ⟨h, hfirst, hnot⟩
  · rintro ⟨h, hfirst, hnot⟩
    rcases recipeEmpty_of_isFirstHeader hrules hfirst with ⟨-, hnone⟩ | ⟨hfailed, -⟩
    · exact absurd hnone hnot
    · exact hfailed

end Verdicts

-- What a case about a file says of some targets is decided by the lines below the first header with
-- these targets, and by whether there is one. A template changes the words of a failure and nothing
-- else, and for a recipe that is not empty only those of that failure.
theorem verdicts_of_readText {host : Host} {path : Path} {file : String}
    (hread : host.files.readText host.directory path = .ok file) (base : BaseCase) :
    ∃ case, ((MakefileCase.load base path).run.run host).1 = .ok case ∧ ∀ targets,
      let lines := physicalLines file
      let IsAsked := IsFirstHeader true lines (HasTargets lines targets)
      let found := Check.hasRule case.makefile targets
      let checked := Check.recipeEmpty case.makefile targets
      (∀ h, IsAsked h → ∃ rule, IsRule true lines h rule ∧ found = .ok rule) ∧
      (found = .error (.missingRule targets) ↔ ¬∃ h, IsAsked h) ∧
      (checked = .ok () ↔ ∃ h, IsAsked h ∧ HasNoCommand lines h) ∧
      (checked = .error (.missingRule targets) ↔ ¬∃ h, IsAsked h) ∧
      (checked = .error (.nonEmptyRecipe targets) ↔ ∃ h, IsAsked h ∧ ¬HasNoCommand lines h) ∧
      ∀ template,
        let found' := Check.hasRuleWith case.makefile targets template
        let checked' := Check.recipeEmptyWith case.makefile targets template
        let custom := Failure.custom (renderTemplate template [("target_name", targets.text)])
        (∀ rule, found' = .ok rule ↔ found = .ok rule) ∧
        (∀ failure, found = .error failure → found' = .error custom) ∧
        (checked' = .ok () ↔ checked = .ok ()) ∧
        (checked' = .error custom ↔ checked = .error (.nonEmptyRecipe targets)) ∧
        (checked' = .error (.missingRule targets) ↔ checked = .error (.missingRule targets)) := by
  have hload := MakefileCase.load_of_readText hread base
  have hrules := (reads_parse (.ofEnvironment host.environment) file).rules
  generalize Makefile.parse (.ofEnvironment host.environment) file = makefile at hload hrules
  refine ⟨_, hload, fun targets => ?_⟩
  intro lines IsAsked found checked
  have hnone : ({ makefile with origin := .path path } : Makefile).rule? targets = none ↔
      ¬∃ h, IsAsked h := rule?_eq_none_iff hrules
  refine ⟨fun h hfirst => hasRule_of_isFirstHeader hrules hfirst,
    Check.hasRule_eq_missing_iff.trans hnone, recipeEmpty_eq_ok_iff hrules,
    Check.recipeEmpty_eq_missing_iff.trans hnone, recipeEmpty_eq_nonEmpty_iff hrules,
    fun template => ?_⟩
  intro found' checked' custom
  have hwith : found' = found.mapError fun _ => custom := Check.hasRuleWith_eq
  refine ⟨fun rule => ?_, fun failure hfailed => ?_, Check.recipeEmptyWith_iff _ targets template⟩
  · rw [hwith]
    cases found <;> simp [Except.mapError]
  · rw [hwith, hfailed]
    rfl

-- The first rule for `a` has nothing but a comment and an assignment below it. What a later one says
-- does not count, and a tab makes a command of the same assignment.
theorem verdicts_of_readText_repeated :
    let file := "a:\n#c\nX=1\n\nb:\n\tX=1\na:\n\tx"
    let host := Host.holding
      [97, 58, 10, 35, 99, 10, 88, 61, 49, 10, 10, 98, 58, 10, 9, 88, 61, 49, 10, 97, 58, 10, 9, 120]
    host.files.readText host.directory ⟨"Makefile"⟩ = .ok file ∧
      ∃ case, ((MakefileCase.load ⟨false, .given 0, none⟩ ⟨"Makefile"⟩).run.run host).1 = .ok case ∧
        Check.recipeEmpty case.makefile (.single "a") = .ok () ∧
        (∃ h rule, IsFirstHeader true (physicalLines file)
            (HasTargets (physicalLines file) (.single "a")) h ∧
          HasNoCommand (physicalLines file) h ∧ IsRule true (physicalLines file) h rule ∧
          Check.hasRule case.makefile (.single "a") = .ok rule) ∧
        Check.recipeEmptyWith case.makefile (.single "b") "\x7btarget_name\x7d: no" =
          .error (.custom "b: no") ∧
        Check.hasRuleWith case.makefile (.single "c") "\x7btarget_name\x7d: no" =
          .error (.custom "c: no") ∧
        Check.recipeEmptyWith case.makefile (.single "c") "\x7btarget_name\x7d: no" =
          .error (.missingRule (.single "c")) := by
  intro file host
  have hread : host.files.readText host.directory ⟨"Makefile"⟩ = .ok file :=
    Host.readText_holding (by decide)
  obtain ⟨case, hload, hverdicts⟩ := verdicts_of_readText hread ⟨false, .given 0, none⟩
  have hcase := Except.ok.inj (hload.symm.trans (MakefileCase.load_of_readText hread _))
  have hempty : Check.recipeEmpty case.makefile (.single "a") = .ok () := by
    rw [hcase]
    decide
  have hfailed : Check.recipeEmpty case.makefile (.single "b") =
      .error (.nonEmptyRecipe (.single "b")) := by
    rw [hcase]
    decide
  have hmissing : Check.recipeEmpty case.makefile (.single "c") =
      .error (.missingRule (.single "c")) := by
    rw [hcase]
    decide
  obtain ⟨hfound, -, hok, -, -, -⟩ := hverdicts (.single "a")
  obtain ⟨h, hfirst, hnone⟩ := hok.mp hempty
  obtain ⟨rule, hrule, hasRule⟩ := hfound h hfirst
  obtain ⟨-, -, -, -, -, hwith⟩ := hverdicts (.single "b")
  obtain ⟨-, hnotFound, -, hmissing', -, hwith'⟩ := hverdicts (.single "c")
  obtain ⟨-, -, -, hcustom, -⟩ := hwith "\x7btarget_name\x7d: no"
  obtain ⟨-, hreplaced, -, -, hkept⟩ := hwith' "\x7btarget_name\x7d: no"
  refine ⟨hread, case, hload, hempty, ⟨h, rule, hfirst, hnone, hrule, hasRule⟩, ?_, ?_,
    hkept.mpr hmissing⟩
  · have htext : renderTemplate "\x7btarget_name\x7d: no" [("target_name", "b")] = "b: no" := by decide
    exact htext ▸ hcustom.mpr hfailed
  · have htext : renderTemplate "\x7btarget_name\x7d: no" [("target_name", "c")] = "c: no" := by decide
    exact htext ▸ hreplaced _ (hnotFound.mpr (hmissing'.mp hmissing))

end MakeCheck
