import MakeCheck.Proofs.Listing
import MakeCheck.Proofs.RoundTrip

namespace MakeCheck

open Text

-- All that a listing shows of two rules is the same. Of a recipe it shows the length.
structure Rule.LooksLike (rule other : Rule) : Prop where
  targets : rule.targets = other.targets
  prerequisites : rule.prerequisites = other.prerequisites
  length : rule.recipe.length = other.recipe.length

section RuleLine

variable {rule other : Rule}

theorem Makefile.ruleLine_eq_headerLine (rule : Rule) :
    ruleLine false rule = "  " ++ rule.headerLine ++ "  " ++ rule.mark := by
  simp only [ruleLine_eq, Rule.headerLine, String.append_assoc]

theorem Makefile.toList_ruleLine (rule : Rule) : (ruleLine false rule).toList =
    [' ', ' '] ++ (rule.targets.text.toList ++ ':' :: ' ' ::
      (joined rule.prerequisites ++ ' ' :: ' ' :: rule.mark.toList)) := by
  simp [ruleLine_eq, String.toList_append, joined]

-- No prerequisite is empty, so the first piece without a character comes after all of them.
theorem takeWhile_splitOn_joined {names : List String}
    (hnames : ∀ name ∈ names, name ≠ "" ∧ IsName name) (rest : List Char) :
    ((joined names ++ ' ' :: ' ' :: rest).splitOn ' ').takeWhile (fun piece => !piece.isEmpty) =
      names.map String.toList := by
  have hspaces : (' ' :: rest).splitOn ' ' = [] :: rest.splitOn ' ' := by
    rw [List.splitOn_cons_eq_if_modifyHead, if_pos BEq.rfl]
  rw [List.splitOn_append_cons_self, hspaces]
  cases names with
  | nil => simp [joined]
  | cons name names =>
      have hfilled : ∀ piece ∈ (name :: names).map String.toList, (!piece.isEmpty) = true := by
        intro piece hpiece
        obtain ⟨other, hother, rfl⟩ := List.mem_map.mp hpiece
        simpa using (hnames other hother).1
      rw [splitOn_joined (fun other hother => (hnames other hother).2.space_not_mem)
        (List.cons_ne_nil name names), takeWhile_eq_of_forall hfilled _ rfl]

theorem joined_append_inj {names others : List String} {rest more : List Char}
    (hnames : ∀ name ∈ names, name ≠ "" ∧ IsName name)
    (hothers : ∀ name ∈ others, name ≠ "" ∧ IsName name)
    (heq : joined names ++ ' ' :: ' ' :: rest = joined others ++ ' ' :: ' ' :: more) :
    names = others ∧ rest = more := by
  have hsame : names = others := by
    have hpieces := takeWhile_splitOn_joined hnames rest
    rw [heq, takeWhile_splitOn_joined hothers more] at hpieces
    exact (List.map_inj_right fun _ _ => String.toList_inj.mp).mp hpieces.symm
  subst hsame
  have htail := List.append_cancel_left heq
  exact ⟨rfl, (List.cons.inj (List.cons.inj htail).2).2⟩

-- The targets end at the colon and the prerequisites at the first two spaces after it.
theorem Rule.looksLike_of_ruleLine (hrule : rule.WellFormed) (hother : other.WellFormed)
    (hline : Makefile.ruleLine false rule = Makefile.ruleLine false other) :
    rule.LooksLike other := by
  have hchars := congrArg String.toList hline
  rw [Makefile.toList_ruleLine, Makefile.toList_ruleLine] at hchars
  obtain ⟨htargets, hrest⟩ := eq_of_append_cons_of_forall hrule.targets.isHeaderChar_text
    hother.targets.isHeaderChar_text Header.isHeaderChar_colon (List.append_cancel_left hchars)
  obtain ⟨hprerequisites, hmark⟩ :=
    joined_append_inj hrule.prerequisites hother.prerequisites (List.cons.inj hrest).2
  refine ⟨?_, hprerequisites, length_recipe_of_mark (String.toList_inj.mp hmark)⟩
  rw [← hrule.targets.ofText_text, htargets, hother.targets.ofText_text]

theorem Rule.LooksLike.ruleLine_eq (hlooks : rule.LooksLike other) :
    Makefile.ruleLine false rule = Makefile.ruleLine false other := by
  have hempty : rule.isEmpty = other.isEmpty := by
    rw [Bool.eq_iff_iff, isEmpty, isEmpty, List.isEmpty_iff_length_eq_zero,
      List.isEmpty_iff_length_eq_zero, hlooks.length]
  rw [Makefile.ruleLine_eq, Makefile.ruleLine_eq, mark, mark, hlooks.targets,
    hlooks.prerequisites, hempty, hlooks.length]

theorem Rule.feed_not_mem_mark (rule : Rule) : '\n' ∉ rule.mark.toList := by
  have hdigits (n : Nat) : '\n' ∉ (toString n).toList := by
    rw [Nat.toString_eq_ofList_toDigits, String.toList_ofList]
    intro hfeed
    have hdigit := Nat.isDigit_of_mem_toDigits (by decide) (by decide) hfeed
    exact absurd hdigit (by decide)
  rw [mark]
  split
  · decide
  · rw [String.toList_append, List.mem_append, not_or]
    exact ⟨hdigits _, by decide⟩

theorem Rule.WellFormed.feed_not_mem_ruleLine (hrule : rule.WellFormed) :
    '\n' ∉ (Makefile.ruleLine false rule).toList := by
  simp only [Makefile.ruleLine_eq_headerLine, String.toList_append, List.mem_append, not_or]
  exact ⟨⟨⟨by decide, hrule.headerLine_noEnd.1⟩, by decide⟩, rule.feed_not_mem_mark⟩

end RuleLine

section DefinitionLine

variable {definition other : VariableDefinition}

theorem Makefile.definitionLine_eq (definition : VariableDefinition) :
    definitionLine false definition = "  " ++ definition.sourceLine := by
  simp only [definitionLine, VariableDefinition.sourceLine, String.append_assoc]
  rfl

-- The name ends at the first space, and all after the sign is the value.
theorem VariableDefinition.eq_of_definitionLine (hdef : definition.WellFormed)
    (hother : other.WellFormed)
    (hline : Makefile.definitionLine false definition = Makefile.definitionLine false other) :
    definition = other := by
  have hchars (found : VariableDefinition) : found.sourceLine.toList =
      found.name.toList ++ ' ' :: '=' :: ' ' :: found.value.toList := by
    simp [sourceLine, String.toList_append]
  rw [Makefile.definitionLine_eq, Makefile.definitionLine_eq, String.append_right_inj,
    ← String.toList_inj, hchars, hchars] at hline
  obtain ⟨hname, hrest⟩ := eq_of_append_cons_of_forall hdef.name hother.name (by decide) hline
  have hvalue := (List.cons.inj (List.cons.inj hrest).2).2
  obtain ⟨name, value⟩ := definition
  obtain ⟨name', value'⟩ := other
  rw [mk.injEq]
  exact ⟨String.toList_inj.mp hname, String.toList_inj.mp hvalue⟩

theorem VariableDefinition.WellFormed.feed_not_mem_definitionLine (hdef : definition.WellFormed) :
    '\n' ∉ (Makefile.definitionLine false definition).toList := by
  rw [Makefile.definitionLine_eq, String.toList_append, List.mem_append, not_or]
  exact ⟨by decide, hdef.sourceLine_noEnd.1⟩

end DefinitionLine

section Lines

variable {makefile other : Makefile}

-- Items with the same image are related if the map tells apart all that are not.
theorem forall₂_of_map_eq {α β : Type} {f : α → β} {r : α → α → Prop} {xs ys : List α}
    (hrelated : ∀ x ∈ xs, ∀ y ∈ ys, f x = f y → r x y) (hmap : xs.map f = ys.map f) :
    List.Forall₂ r xs ys := by
  have hsame : List.Forall₂ (fun x y => f x = f y) xs ys := by
    rw [← List.forall₂_map_right_iff, ← List.forall₂_map_left_iff, List.forall₂_eq_eq_eq]
    exact hmap
  obtain ⟨hlength, hpairs⟩ := List.forall₂_iff_zip.mp hsame
  refine List.forall₂_iff_zip.mpr ⟨hlength, fun {x y} hmem => ?_⟩
  obtain ⟨hx, hy⟩ := List.of_mem_zip hmem
  exact hrelated x hx y hy (hpairs hmem)

theorem Makefile.WellFormed.feed_not_mem_line (hmakefile : makefile.WellFormed) :
    ∀ line ∈ makefile.ruleLines false ++ makefile.definitionLines false, '\n' ∉ line.toList := by
  intro line hline
  rcases List.mem_append.mp hline with hline | hline
  · unfold ruleLines at hline
    split at hline
    · rw [List.mem_singleton.mp hline]
      decide
    · obtain ⟨rule, hrule, rfl⟩ := List.mem_map.mp hline
      exact (hmakefile.rules rule hrule).feed_not_mem_ruleLine
  · unfold definitionLines at hline
    split at hline
    · simp at hline
    · rename_i found hfound
      rcases List.mem_cons.mp hline with rfl | hline
      · decide
      · obtain ⟨definition, hdef, rfl⟩ := List.mem_map.mp hline
        exact (hmakefile.definitions found hfound definition hdef).feed_not_mem_definitionLine

-- The head tells where the file comes from. Below it stand the lines of the rules and definitions.
def Makefile.belowHead (makefile : Makefile) : String :=
  String.join ((makefile.ruleLines false ++ makefile.definitionLines false).map (· ++ "\n"))

theorem Makefile.listing_eq (makefile : Makefile) : makefile.listing false =
    "Makefile " ++ makefile.origin.text ++ "\n" ++ makefile.belowHead := by
  rw [listing, listingLines, List.map_cons, String.join_cons, belowHead]
  rfl

theorem Makefile.WellFormed.splitOn_belowHead (hmakefile : makefile.WellFormed) :
    makefile.belowHead.toList.splitOn '\n' =
      (makefile.ruleLines false ++ makefile.definitionLines false).map String.toList ++ [[]] :=
  splitOn_join hmakefile.feed_not_mem_line

-- The lines of the rules are indented, the head of the definitions is not. So it is plain where the
-- rules end.
theorem Makefile.takeWhile_lines (makefile : Makefile) :
    (makefile.ruleLines false ++ makefile.definitionLines false).takeWhile
      (fun line => line.toList.head? == some ' ') = makefile.ruleLines false := by
  have hspace : ∀ line ∈ makefile.ruleLines false, (line.toList.head? == some ' ') = true := by
    intro line hline
    unfold ruleLines at hline
    split at hline
    · rw [List.mem_singleton.mp hline]
      decide
    · obtain ⟨rule, -, rfl⟩ := List.mem_map.mp hline
      rw [toList_ruleLine]
      rfl
  cases hdefs : makefile.definitions with
  | none =>
      rw [definitionLines, hdefs]
      simpa using hspace
  | some found =>
      rw [definitionLines, hdefs]
      exact takeWhile_eq_of_forall hspace _ (by decide)

theorem Makefile.definitions_of_definitionLines (hmakefile : makefile.WellFormed)
    (hother : other.WellFormed)
    (hlines : makefile.definitionLines false = other.definitionLines false) :
    makefile.definitions = other.definitions := by
  unfold definitionLines at hlines
  cases hfound : makefile.definitions with
  | none =>
      cases hnone : other.definitions with
      | none => rfl
      | some more => simp [hfound, hnone] at hlines
  | some found =>
      cases hmore : other.definitions with
      | none => simp [hfound, hmore] at hlines
      | some more =>
          simp only [hfound, hmore] at hlines
          have hsame := forall₂_of_map_eq (fun definition hdef definition' hdef' =>
            VariableDefinition.eq_of_definitionLine (hmakefile.definitions found hfound _ hdef)
              (hother.definitions more hmore _ hdef')) (List.cons.inj hlines).2
          rw [List.forall₂_eq_eq_eq] at hsame
          rw [hsame]

theorem Makefile.rules_of_ruleLines (hmakefile : makefile.WellFormed) (hother : other.WellFormed)
    (hlines : makefile.ruleLines false = other.ruleLines false) :
    List.Forall₂ Rule.LooksLike makefile.rules other.rules :=
  forall₂_of_map_eq (fun _ hrule _ hrule' =>
    Rule.looksLike_of_ruleLine (hmakefile.rules _ hrule) (hother.rules _ hrule'))
    (map_ruleLine_of_ruleLines hlines)

theorem Makefile.ruleLines_of_rules
    (hrules : List.Forall₂ Rule.LooksLike makefile.rules other.rules) :
    makefile.ruleLines false = other.ruleLines false := by
  have hmap : makefile.rules.map (ruleLine false) = other.rules.map (ruleLine false) := by
    rw [← List.forall₂_eq_eq_eq, List.forall₂_map_left_iff, List.forall₂_map_right_iff]
    exact hrules.imp fun _ _ hlooks => hlooks.ruleLine_eq
  have hempty : makefile.rules.isEmpty = other.rules.isEmpty := by
    rw [Bool.eq_iff_iff, List.isEmpty_iff_length_eq_zero, List.isEmpty_iff_length_eq_zero,
      hrules.length_eq]
  rw [ruleLines, ruleLines, hempty, hmap]

theorem Makefile.WellFormed.listing_eq_iff (hmakefile : makefile.WellFormed)
    (hother : other.WellFormed) (horigin : makefile.origin = other.origin) :
    makefile.listing false = other.listing false ↔
      List.Forall₂ Rule.LooksLike makefile.rules other.rules ∧
        makefile.definitions = other.definitions := by
  rw [listing_eq, listing_eq, horigin, String.append_right_inj]
  constructor
  · intro hbelow
    have hlines : makefile.ruleLines false ++ makefile.definitionLines false =
        other.ruleLines false ++ other.definitionLines false := by
      have hsplit := hmakefile.splitOn_belowHead
      rw [hbelow, hother.splitOn_belowHead, List.append_cancel_right_eq] at hsplit
      exact (List.map_inj_right fun _ _ => String.toList_inj.mp).mp hsplit.symm
    have hrules := makefile.takeWhile_lines
    rw [hlines, other.takeWhile_lines] at hrules
    rw [hrules, List.append_cancel_left_eq] at hlines
    exact ⟨rules_of_ruleLines hmakefile hother hrules.symm,
      definitions_of_definitionLines hmakefile hother hlines⟩
  · rintro ⟨hrules, hdefs⟩
    rw [belowHead, belowHead, ruleLines_of_rules hrules, definitionLines, definitionLines, hdefs]

end Lines

-- Files that were read from texts are listed alike if they look alike and for no other reason. What
-- such a file holds makes one line each and cannot break or join lines.
theorem listing_parse_faithful (origin : Origin) (options again : ParseOptions)
    (text other : String) :
    let shown (options : ParseOptions) (text : String) : Makefile :=
      { Makefile.parse options text with origin }
    ((shown options text).listing false = (shown again other).listing false ↔
      List.Forall₂ Rule.LooksLike (shown options text).rules (shown again other).rules ∧
        (shown options text).definitions = (shown again other).definitions) ∧
    ∃ below ruleLines definitionLines,
      (shown options text).listing false = "Makefile " ++ origin.text ++ "\n" ++ below ∧
      below.toList.splitOn '\n' = (ruleLines ++ definitionLines).map String.toList ++ [[]] ∧
      ruleLines = (if (shown options text).rules = [] then ["  no rules found"]
        else (shown options text).rules.map (Makefile.ruleLine false)) ∧
      definitionLines = (shown options text).definitions.elim []
        fun found => "Variables" :: found.map (Makefile.definitionLine false) := by
  intro shown
  have hshown (options : ParseOptions) (text : String) : (shown options text).WellFormed :=
    ⟨(wellFormed_parse options text).rules, (wellFormed_parse options text).definitions⟩
  refine ⟨(hshown options text).listing_eq_iff (hshown again other) rfl, _, _, _,
    Makefile.listing_eq _, (hshown options text).splitOn_belowHead, ?_, ?_⟩
  · rw [Makefile.ruleLines]
    simp only [List.isEmpty_iff]
    rfl
  · rw [Makefile.definitionLines]
    cases (shown options text).definitions <;> rfl

end MakeCheck
