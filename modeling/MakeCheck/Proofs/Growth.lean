import MakeCheck.Proofs.Scan

namespace MakeCheck

def Rule.addLines (rule : Rule) (lines : List String) : Rule :=
  { rule with recipe := rule.recipe ++ lines }

@[simp]
theorem Rule.addLines_nil (rule : Rule) : rule.addLines [] = rule := by
  simp [addLines]

@[simp]
theorem Rule.addLine_addLines (rule : Rule) (line : String) (lines : List String) :
    (rule.addLine line).addLines lines = rule.addLines (line :: lines) := by
  simp [addLine, addLines]

-- What the lines below a place add to a file: more lines for the rule that is open there, rules
-- of their own, and definitions.
structure Sequel where
  recipe : List String
  rules : List Rule
  definitions : List VariableDefinition

namespace Scan

-- The scan of the whole file, told by the scan down to a place and the lines below it.
def continuedBy (scan : Scan) (sequel : Sequel) : Scan where
  closed := scan.closed ++ ((scan.current.map (·.addLines sequel.recipe)).toList ++ sequel.rules)
  current := none
  definitions := scan.definitions ++ sequel.definitions

-- A line is read in the same way wherever a rule is open, and in the same way wherever none is.
theorem lineOf_congr (detect : Bool) {scan other : Scan} (raw : List Char)
    (hopen : scan.current.isSome = other.current.isSome) :
    scan.lineOf detect raw = other.lineOf detect raw := by
  simp only [lineOf, inRecipe, hopen]

-- What the lines below a place add depends on nothing above it but whether a rule is open there.
theorem exists_sequel (detect : Bool) (place : Scan) (lines : List (List Char)) :
    ∃ sequel : Sequel, ∀ scan : Scan, scan.current.isSome = place.current.isSome →
      (lines.foldl (step detect) scan).close = scan.continuedBy sequel := by
  induction lines generalizing place with
  | nil =>
      refine ⟨⟨[], [], []⟩, fun scan _ => ?_⟩
      simp [continuedBy, close]
  | cons raw lines ih =>
      obtain ⟨sequel, hsequel⟩ := ih (place.step detect raw)
      have hline (scan : Scan) (hopen : scan.current.isSome = place.current.isSome) :
          (lines.foldl (step detect) (scan.step detect raw)).close =
            (scan.add (place.lineOf detect raw)).continuedBy sequel := by
        rw [step, lineOf_congr detect raw hopen]
        refine hsequel _ ?_
        rw [step]
        cases place.lineOf detect raw <;> simp [add, close, hopen]
      simp only [List.foldl_cons]
      cases hplace : place.lineOf detect raw with
      | blank =>
          refine ⟨⟨[], sequel.rules, sequel.definitions⟩, fun scan hopen => ?_⟩
          rw [hline scan hopen, hplace]
          simp [add, close, continuedBy]
      | comment =>
          refine ⟨sequel, fun scan hopen => ?_⟩
          rw [hline scan hopen, hplace, add]
      | definition definition =>
          refine ⟨⟨sequel.recipe, sequel.rules, definition :: sequel.definitions⟩,
            fun scan hopen => ?_⟩
          rw [hline scan hopen, hplace]
          simp [add, continuedBy]
      | header header =>
          refine ⟨⟨[], ⟨header.targets, header.prerequisites, sequel.recipe⟩ :: sequel.rules,
            sequel.definitions⟩, fun scan hopen => ?_⟩
          rw [hline scan hopen, hplace]
          simp [add, close, continuedBy, Rule.addLines]
      | other text =>
          refine ⟨⟨text :: sequel.recipe, sequel.rules, sequel.definitions⟩, fun scan hopen => ?_⟩
          rw [hline scan hopen, hplace]
          simp [add, continuedBy, Function.comp_def]

section Files

variable (detect : Bool) (scan : Scan) (sequel : Sequel)

theorem rules_toMakefile :
    (scan.toMakefile detect).rules = scan.closed ++ scan.current.toList :=
  rfl

theorem rules_continuedBy : ((scan.continuedBy sequel).toMakefile detect).rules =
    scan.closed ++ ((scan.current.map (·.addLines sequel.recipe)).toList ++ sequel.rules) := by
  simp [toMakefile, close, continuedBy]

theorem definitions_continuedBy : ((scan.continuedBy sequel).toMakefile detect).definitions =
    if detect then some (scan.definitions ++ sequel.definitions) else none :=
  rfl

theorem toMakefile_close : scan.close.toMakefile detect = scan.toMakefile detect := by
  rw [toMakefile, close_close]
  rfl

end Files

theorem exists_sequel_toMakefile (detect : Bool) (place : Scan) (lines : List (List Char)) :
    ∃ sequel : Sequel, ∀ scan : Scan, scan.current.isSome = place.current.isSome →
      (lines.foldl (step detect) scan).toMakefile detect =
        (scan.continuedBy sequel).toMakefile detect := by
  obtain ⟨sequel, hsequel⟩ := exists_sequel detect place lines
  refine ⟨sequel, fun scan hopen => ?_⟩
  rw [← toMakefile_close, hsequel scan hopen]

end Scan

-- A rule that may have gained lines below those of its recipe.
structure Rule.Grows (rule grown : Rule) : Prop where
  targets : grown.targets = rule.targets
  prerequisites : grown.prerequisites = rule.prerequisites
  recipe : rule.recipe <+: grown.recipe

theorem Rule.Grows.refl (rule : Rule) : rule.Grows rule :=
  ⟨rfl, rfl, List.prefix_refl _⟩

theorem Rule.grows_addLines (rule : Rule) (lines : List String) :
    rule.Grows (rule.addLines lines) :=
  ⟨rfl, rfl, List.prefix_append _ _⟩

theorem Rule.Grows.isEmpty {rule grown : Rule} (hgrows : rule.Grows grown)
    (hrule : rule.isEmpty = false) : grown.isEmpty = false := by
  rw [Rule.isEmpty, List.isEmpty_eq_false_iff] at hrule ⊢
  exact List.IsPrefix.ne_nil hgrows.recipe hrule

namespace Makefile

-- Only the last rule may take more lines, all others stay as they are.
structure Grows (makefile grown : Makefile) : Prop where
  earlier : ∀ i, i + 1 < makefile.rules.length → grown.rules[i]? = makefile.rules[i]?
  last : ∀ rule ∈ makefile.rules.getLast?, ∃ other,
    grown.rules[makefile.rules.length - 1]? = some other ∧ rule.Grows other
  definitions : Option.Rel (· <+: ·) makefile.definitions grown.definitions

variable {makefile grown : Makefile}

theorem Grows.getElem? (hgrows : makefile.Grows grown) {i : Nat} {rule : Rule}
    (hrule : makefile.rules[i]? = some rule) :
    ∃ other, grown.rules[i]? = some other ∧ rule.Grows other := by
  obtain ⟨hi, -⟩ := List.getElem?_eq_some_iff.mp hrule
  by_cases hlast : i + 1 < makefile.rules.length
  · exact ⟨rule, (hgrows.earlier i hlast).trans hrule, .refl rule⟩
  · obtain rfl : i = makefile.rules.length - 1 := by omega
    rw [← List.getLast?_eq_getElem?] at hrule
    exact hgrows.last rule hrule

-- A rule that is found stays the first one with its targets.
theorem Grows.findIdx?_and_rule? (hgrows : makefile.Grows grown) {targets : Targets} {rule : Rule}
    (hfound : makefile.rule? targets = some rule) :
    ∃ i other, makefile.rules.findIdx? (·.targets == targets) = some i ∧
      makefile.rules[i]? = some rule ∧
      grown.rules.findIdx? (·.targets == targets) = some i ∧ grown.rules[i]? = some other ∧
      grown.rule? targets = some other ∧ rule.Grows other := by
  obtain ⟨htargets, i, hi, hrule, hbefore⟩ := List.find?_eq_some_iff_getElem.mp hfound
  have hrule? : makefile.rules[i]? = some rule := List.getElem?_eq_some_iff.mpr ⟨hi, hrule⟩
  obtain ⟨other, hother?, hother⟩ := hgrows.getElem? hrule?
  obtain ⟨higrown, hotherget⟩ := List.getElem?_eq_some_iff.mp hother?
  have hmatch : (grown.rules[i].targets == targets) = true := by
    rw [hotherget, hother.targets]
    exact htargets
  have hearlier (j : Nat) (hj : j < i) : (grown.rules[j].targets == targets) = false := by
    obtain ⟨earlier, hearlier?, hearlier⟩ :=
      hgrows.getElem? (List.getElem?_eq_getElem (Nat.lt_trans hj hi))
    obtain ⟨_, rfl⟩ := List.getElem?_eq_some_iff.mp hearlier?
    rw [hearlier.targets]
    simpa using hbefore j hj
  refine ⟨i, other, ?_, hrule?, ?_, hother?, ?_, hother⟩
  · refine List.findIdx?_eq_some_iff_getElem.mpr ⟨hi, by rw [hrule]; exact htargets, ?_⟩
    intro j hj
    simpa using hbefore j hj
  · refine List.findIdx?_eq_some_iff_getElem.mpr ⟨higrown, hmatch, fun j hj => ?_⟩
    rw [hearlier j hj]
    exact Bool.false_ne_true
  · refine List.find?_eq_some_iff_getElem.mpr ⟨hotherget ▸ hmatch, i, higrown, hotherget, ?_⟩
    intro j hj
    rw [hearlier j hj]
    rfl

theorem grows_of_append (rest : List Rule) (hrules : grown.rules = makefile.rules ++ rest)
    (hdefinitions : Option.Rel (· <+: ·) makefile.definitions grown.definitions) :
    makefile.Grows grown := by
  have hkept (i : Nat) (hi : i < makefile.rules.length) : grown.rules[i]? = makefile.rules[i]? := by
    rw [hrules, List.getElem?_append_left hi]
  refine ⟨fun i hi => hkept i (by omega), fun rule hrule => ⟨rule, ?_, .refl rule⟩, hdefinitions⟩
  have hlength := List.length_pos_of_ne_nil (List.ne_nil_of_mem (List.mem_of_mem_getLast? hrule))
  rw [hkept _ (by omega), ← List.getLast?_eq_getElem?]
  exact hrule

theorem grows_of_last {front rest : List Rule} {rule other : Rule}
    (hrules : makefile.rules = front ++ [rule]) (hgrown : grown.rules = front ++ other :: rest)
    (hrule : rule.Grows other)
    (hdefinitions : Option.Rel (· <+: ·) makefile.definitions grown.definitions) :
    makefile.Grows grown := by
  refine ⟨fun i hi => ?_, fun last hlast => ⟨other, ?_, ?_⟩, hdefinitions⟩
  · rw [hrules, List.length_append, List.length_singleton] at hi
    rw [hrules, hgrown, List.getElem?_append_left (by omega), List.getElem?_append_left (by omega)]
  · simp [hrules, hgrown]
  · obtain rfl : rule = last := by simpa [hrules] using hlast
    exact hrule

end Makefile

-- Lines further down reach no rule but the one that is open.
theorem Scan.grows_continuedBy (detect : Bool) (scan : Scan) (sequel : Sequel) :
    (scan.toMakefile detect).Grows ((scan.continuedBy sequel).toMakefile detect) := by
  have hdefinitions : Option.Rel (· <+: ·) (scan.toMakefile detect).definitions
      ((scan.continuedBy sequel).toMakefile detect).definitions := by
    cases detect with
    | false => exact .none
    | true => exact .some (List.prefix_append _ _)
  have hrules := rules_toMakefile detect scan
  have hgrown := rules_continuedBy detect scan sequel
  cases hcurrent : scan.current with
  | none =>
      rw [hcurrent] at hrules hgrown
      refine Makefile.grows_of_append sequel.rules ?_ hdefinitions
      rw [hrules, hgrown]
      simp
  | some rule =>
      rw [hcurrent] at hrules hgrown
      exact Makefile.grows_of_last hrules hgrown (rule.grows_addLines sequel.recipe) hdefinitions

-- What is recovered from a text stays when more text is appended. Only the recipe of the last rule
-- may become longer.
theorem parse_append_grows (options : ParseOptions) (above below : String) :
    let makefile := Makefile.parse options above
    let grown := Makefile.parse options (above ++ "\n" ++ below)
    makefile.Grows grown ∧
      ∀ targets rule, makefile.rule? targets = some rule →
        ∃ i other, makefile.rules.findIdx? (·.targets == targets) = some i ∧
          makefile.rules[i]? = some rule ∧
          grown.rules.findIdx? (·.targets == targets) = some i ∧ grown.rules[i]? = some other ∧
          grown.rule? targets = some other ∧ other.prerequisites = rule.prerequisites ∧
          (rule.isEmpty = false → other.isEmpty = false) := by
  intro makefile grown
  have hgrows : makefile.Grows grown := by
    obtain ⟨sequel, hsequel⟩ := Scan.exists_sequel_toMakefile options.detectDefinitions
      (Scan.ofLines options.detectDefinitions (physicalLines above)) (physicalLines below)
    have hgrown : grown = ((Scan.ofLines options.detectDefinitions
        (physicalLines above)).continuedBy sequel).toMakefile options.detectDefinitions := by
      rw [← hsequel _ rfl, Scan.ofLines, ← List.foldl_append, ← physicalLines_append]
      rfl
    rw [hgrown]
    exact Scan.grows_continuedBy _ _ sequel
  refine ⟨hgrows, fun targets rule hfound => ?_⟩
  obtain ⟨i, other, hindex, hrule, hindex', hother, hfound', hgrown⟩ :=
    hgrows.findIdx?_and_rule? hfound
  exact ⟨i, other, hindex, hrule, hindex', hother, hfound', hgrown.prerequisites, hgrown.isEmpty⟩

-- The text ends under a rule, and the lines that follow add to it before they repeat its targets.
theorem parse_append_grows_recipe :
    (Makefile.parse ⟨true, false⟩ "a: b\n\tx").rule? (.single "a") =
        some ⟨.single "a", ["b"], ["x"]⟩ ∧
      ∃ other, (Makefile.parse ⟨true, false⟩ ("a: b\n\tx" ++ "\n" ++ "Y=1\n\tz\na:")).rule?
          (.single "a") = some other ∧
        other.prerequisites = ["b"] ∧ other.isEmpty = false := by
  have hfound : (Makefile.parse ⟨true, false⟩ "a: b\n\tx").rule? (.single "a") =
      some ⟨.single "a", ["b"], ["x"]⟩ := by decide
  obtain ⟨-, other, -, -, -, -, hother, hprerequisites, hnonempty⟩ :=
    (parse_append_grows ⟨true, false⟩ "a: b\n\tx" "Y=1\n\tz\na:").2 _ _ hfound
  exact ⟨hfound, other, hother, hprerequisites, hnonempty rfl⟩

end MakeCheck
