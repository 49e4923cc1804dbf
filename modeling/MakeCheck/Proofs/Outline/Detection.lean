import MakeCheck.Proofs.Outline.Reading

namespace MakeCheck.Outline

open Text

-- A line that counts as a definition under an open rule too.
def isLoose (raw : List Char) : Bool :=
  raw.head? != some '\t' && (VariableDefinition.ofLine? (trim raw)).isSome

-- The lines below a header that its recipe is made of while no definitions are looked for.
noncomputable def recipeLines (lines : List (List Char)) (h : Nat) : List (List Char) :=
  (places lines (InRecipe false lines h)).map fun i => lines.getD i []

-- What the search for definitions takes from the rule of a header: its loose lines, nothing else.
structure Thins (lines : List (List Char)) (h : Nat) (plain found : Rule) : Prop where
  targets : found.targets = plain.targets
  prerequisites : found.prerequisites = plain.prerequisites
  plain_recipe : plain.recipe = (recipeLines lines h).map fun raw => String.ofList (trim raw)
  found_recipe : found.recipe =
    ((recipeLines lines h).filter fun raw => !isLoose raw).map fun raw => String.ofList (trim raw)

-- No line is read as a definition that would be a header otherwise.
def DefinesPlainly (lines : List (List Char)) : Prop :=
  ∀ i, IsDefinition true lines i → Header.ofLine? (text lines i) = none

section Detection

variable {lines : List (List Char)} {h i : Nat}

theorem not_isDefinition_undetected : ¬IsDefinition false lines i := by
  rw [IsDefinition]
  simp

theorem isHeader_undetected_iff : IsHeader false lines i ↔
    ¬IsBlank lines i ∧ ¬IsComment lines i ∧ (Header.ofLine? (text lines i)).isSome := by
  rw [IsHeader]
  simp only [not_isDefinition_undetected, not_false_eq_true, true_and]

-- The search for definitions makes no new headers.
theorem IsHeader.undetected (hh : IsHeader true lines i) : IsHeader false lines i := by
  rw [IsHeader] at hh
  exact isHeader_undetected_iff.mpr ⟨hh.1, hh.2.1, hh.2.2.2⟩

theorem isHeader_detect_iff (hlines : DefinesPlainly lines) :
    IsHeader true lines i ↔ IsHeader false lines i := by
  refine ⟨IsHeader.undetected, fun hh => ?_⟩
  obtain ⟨hb, hc, hsome⟩ := isHeader_undetected_iff.mp hh
  rw [IsHeader]
  refine ⟨hb, hc, fun hd => ?_, hsome⟩
  simp [hlines i hd] at hsome

theorem isOpen_detect_iff (hlines : DefinesPlainly lines) :
    IsOpen true lines i ↔ IsOpen false lines i := by
  rw [isOpen_iff, isOpen_iff]
  simp only [isHeader_detect_iff hlines]

theorem reaches_detect_iff (hlines : DefinesPlainly lines) :
    Reaches true lines h i ↔ Reaches false lines h i := by
  unfold Reaches
  simp only [isHeader_detect_iff hlines]

theorem inRecipe_detect_iff (hlines : DefinesPlainly lines) :
    InRecipe true lines h i ↔ InRecipe false lines h i ∧ ¬IsDefinition true lines i := by
  rw [inRecipe_iff, inRecipe_iff, reaches_detect_iff hlines]
  simp only [not_isDefinition_undetected, not_false_eq_true, and_true, and_assoc]

theorem InRecipe.isOpen {detect : Bool} (hin : InRecipe detect lines h i)
    (hh : IsHeader detect lines h) : IsOpen detect lines i :=
  (isOpen_iff _ _ _).mpr ⟨h, hin.1, hh, fun j hj hji => (hin.2.1 j hj (Nat.le_of_lt hji)).1⟩

-- Under an open rule only the tab keeps a line that looks like a definition in the recipe.
theorem isDefinition_iff_isLoose (hopen : IsOpen true lines i) :
    IsDefinition true lines i ↔ ¬IsBlank lines i ∧ ¬IsComment lines i ∧
      isLoose (lines.getD i []) = true := by
  rw [IsDefinition]
  simp only [hopen, IsTabbed, isLoose, text, Bool.and_eq_true, bne_iff_ne, ne_eq, true_and]
  tauto

theorem places_filter {old new : Nat → Prop} (keep : List Char → Bool)
    (hkind : ∀ i, new i ↔ old i ∧ keep (lines.getD i []) = true) :
    places lines new = (places lines old).filter fun i => keep (lines.getD i []) := by
  rw [places, places, List.filter_filter]
  refine List.filter_congr fun i _ => ?_
  rw [Bool.eq_iff_iff]
  simp [hkind i, and_comm]

-- The recipe below a header loses its loose lines.
theorem places_inRecipe_detect (hlines : DefinesPlainly lines) (hh : IsHeader true lines h) :
    places lines (InRecipe true lines h) =
      (places lines (InRecipe false lines h)).filter fun i => !isLoose (lines.getD i []) := by
  refine places_filter (fun raw => !isLoose raw) fun i => ?_
  rw [inRecipe_detect_iff hlines]
  refine and_congr_right fun hin => ?_
  have hopen := (isOpen_detect_iff hlines).mpr (hin.isOpen (isHeader_detect_iff hlines |>.mp hh))
  rw [isDefinition_iff_isLoose hopen, Bool.not_eq_true']
  have hkept := (hin.2.1 i hin.1 (Nat.le_refl i)).1
  simp [hkept, hin.2.2.1]

theorem IsRule.thins (hlines : DefinesPlainly lines) (hh : IsHeader true lines h)
    {plain found : Rule} (hplain : IsRule false lines h plain)
    (hfound : IsRule true lines h found) :
    Thins lines h plain found := by
  have hheader := hplain.header.symm.trans hfound.header
  rw [Option.some.injEq, Header.mk.injEq] at hheader
  refine ⟨hheader.1.symm, hheader.2.symm, ?_, ?_⟩
  · rw [hplain.recipe, recipeLines, List.map_map]
    rfl
  · rw [hfound.recipe, places_inRecipe_detect hlines hh, recipeLines, List.filter_map, List.map_map]
    rfl

-- A recipe stays whole where no definition stands under an open rule.
theorem isRule_detect_iff (hlines : DefinesPlainly lines)
    (houtside : ∀ i, IsDefinition true lines i → ¬IsOpen true lines i)
    (hh : IsHeader true lines h) (rule : Rule) :
    IsRule true lines h rule ↔ IsRule false lines h rule := by
  have hin : InRecipe true lines h = InRecipe false lines h := by
    funext i
    rw [eq_iff_iff, inRecipe_detect_iff hlines, and_iff_left_iff_imp]
    intro hin hd
    have hopen := hin.isOpen ((isHeader_detect_iff hlines).mp hh)
    exact houtside i hd ((isOpen_detect_iff hlines).mpr hopen)
  constructor
  · rintro ⟨hheader, hrecipe⟩
    exact ⟨hheader, hin ▸ hrecipe⟩
  · rintro ⟨hheader, hrecipe⟩
    exact ⟨hheader, hin ▸ hrecipe⟩

theorem headers_detect (hlines : DefinesPlainly lines) :
    places lines (IsHeader true lines) = places lines (IsHeader false lines) := by
  have hh : IsHeader true lines = IsHeader false lines :=
    funext fun _ => propext (isHeader_detect_iff hlines)
  rw [hh]

end Detection

section Pairs

variable {α β γ : Type} {r : α → β → Prop} {s : α → γ → Prop} {t : β → γ → Prop}

-- Two lists that go with the same list go with each other.
theorem forall₂_zip {xs : List α} {ys : List β} {zs : List γ} (hr : List.Forall₂ r xs ys)
    (hs : List.Forall₂ s xs zs) :
    List.Forall₂ (fun x (pair : β × γ) => r x pair.1 ∧ s x pair.2) xs (ys.zip zs) := by
  induction hr generalizing zs with
  | nil =>
      cases hs
      exact .nil
  | cons hx _ ih =>
      cases hs with
      | cons hy hs => exact .cons ⟨hx, hy⟩ (ih hs)

theorem forall₂_of_zip {xs : List α} {ys : List β} {zs : List γ} (hlength : ys.length = zs.length)
    (hpairs : List.Forall₂ (fun _ (pair : β × γ) => t pair.1 pair.2) xs (ys.zip zs)) :
    List.Forall₂ t ys zs := by
  have hflip : List.Forall₂ (fun (pair : β × γ) _ => t pair.1 pair.2 ∧ True) (ys.zip zs) xs :=
    List.Forall₂.flip (hpairs.imp fun _ _ hpair => ⟨hpair, trivial⟩)
  have hall := ((List.forall₂_and_left _ _).mp hflip).1
  exact List.forall₂_iff_zip.mpr ⟨hlength, fun {y z} hmem => hall (y, z) hmem⟩

-- What holds of two lists item by item holds of the first items that pass the same test.
theorem rel_find? {ys : List β} {zs : List γ} {p : β → Bool} {q : γ → Bool}
    (hpairs : List.Forall₂ t ys zs) (htest : ∀ y z, t y z → p y = q z) :
    Option.Rel t (ys.find? p) (zs.find? q) := by
  induction hpairs with
  | nil => exact .none
  | @cons y z ys zs hyz _ ih =>
      rw [List.find?_cons, List.find?_cons, htest y z hyz]
      cases q z with
      | true => exact .some hyz
      | false => exact ih

end Pairs

section Files

variable (file : String) (verbose again : Bool)

theorem thins_parse (hlines : DefinesPlainly (physicalLines file)) :
    List.Forall₂ (fun h (rules : Rule × Rule) => Thins (physicalLines file) h rules.1 rules.2)
      (places (physicalLines file) (IsHeader false (physicalLines file)))
      ((Makefile.parse ⟨false, verbose⟩ file).rules.zip
        (Makefile.parse ⟨true, again⟩ file).rules) := by
  have hplain := (reads_parse ⟨false, verbose⟩ file).rules
  have hfound := (reads_parse ⟨true, again⟩ file).rules
  simp only [headers_detect hlines] at hfound
  have hboth := (List.forall₂_and_left _ _).mpr
    ⟨fun h hh => (mem_places.mp hh).2, forall₂_zip hplain hfound⟩
  refine hboth.imp fun h rules ⟨hh, hplain, hfound⟩ => ?_
  exact hplain.thins hlines ((isHeader_detect_iff hlines).mpr hh) hfound

theorem length_rules_parse (hlines : DefinesPlainly (physicalLines file)) :
    (Makefile.parse ⟨false, verbose⟩ file).rules.length =
      (Makefile.parse ⟨true, again⟩ file).rules.length := by
  rw [← (reads_parse ⟨false, verbose⟩ file).rules.length_eq,
    ← (reads_parse ⟨true, again⟩ file).rules.length_eq]
  simp only [headers_detect hlines]

-- Rule by rule the targets and what they need are the same.
theorem forall₂_rules_parse (hlines : DefinesPlainly (physicalLines file)) :
    List.Forall₂ (fun rule thinned => thinned.targets = rule.targets ∧
      thinned.prerequisites = rule.prerequisites)
      (Makefile.parse ⟨false, verbose⟩ file).rules (Makefile.parse ⟨true, again⟩ file).rules :=
  forall₂_of_zip (length_rules_parse file verbose again hlines)
    ((thins_parse file verbose again hlines).imp
      fun _ _ hrule => ⟨hrule.targets, hrule.prerequisites⟩)

theorem rules_parse_detect (hlines : DefinesPlainly (physicalLines file))
    (houtside : ∀ i, IsDefinition true (physicalLines file) i →
      ¬IsOpen true (physicalLines file) i) :
    (Makefile.parse ⟨true, again⟩ file).rules = (Makefile.parse ⟨false, verbose⟩ file).rules := by
  have hplain := (reads_parse ⟨false, verbose⟩ file).rules
  have hfound := (reads_parse ⟨true, again⟩ file).rules
  have hall := (List.forall₂_and_left _ _).mpr ⟨fun h hh => (mem_places.mp hh).2, hfound⟩
  have hsame := hall.imp fun h rule ⟨hh, hrule⟩ =>
    (isRule_detect_iff hlines houtside hh rule).mp hrule
  simp only [headers_detect hlines] at hsame
  exact (isRule_unique false (physicalLines file)).forall₂ hsame hplain

end Files

theorem lt_length_of_not_isBlank {lines : List (List Char)} {i : Nat} (hb : ¬IsBlank lines i) :
    i < lines.length := by
  by_contra hi
  refine hb ?_
  rw [IsBlank, text, List.getD_eq_getElem?_getD, List.getElem?_eq_none (Nat.le_of_not_lt hi)]
  rfl

theorem definesPlainly_of_forall {lines : List (List Char)}
    (hlines : ∀ raw ∈ lines, (VariableDefinition.ofLine? (trim raw)).isSome →
      Header.ofLine? (trim raw) = none) : DefinesPlainly lines := by
  intro i hd
  have hi := lt_length_of_not_isBlank hd.not_isBlank
  have htext : text lines i = trim lines[i] := by
    rw [text, List.getD_eq_getElem?_getD, List.getElem?_eq_getElem hi, Option.getD_some]
  rw [IsDefinition, htext] at hd
  rw [htext]
  exact hlines lines[i] (List.getElem_mem hi) hd.2.2.2.1

-- The search for definitions takes the loose lines out of the recipes and changes nothing else of
-- the rules.
theorem parse_undetected_detected (file : String) (verbose again : Bool)
    (hlines : ∀ raw ∈ physicalLines file, (VariableDefinition.ofLine? (trim raw)).isSome →
      Header.ofLine? (trim raw) = none) :
    let lines := physicalLines file
    let plain := Makefile.parse ⟨false, verbose⟩ file
    let found := Makefile.parse ⟨true, again⟩ file
    plain.rules.length = found.rules.length ∧
      List.Forall₂ (fun h (rules : Rule × Rule) => Thins lines h rules.1 rules.2)
        (places lines (IsHeader false lines)) (plain.rules.zip found.rules) ∧
      (∀ targets, Option.Rel (fun rule thinned => thinned.targets = rule.targets ∧
          thinned.prerequisites = rule.prerequisites)
        (plain.rule? targets) (found.rule? targets)) ∧
      List.Forall₂ (fun rule thinned => rule.isEmpty = true → thinned.isEmpty = true)
        plain.rules found.rules ∧
      ((∀ i, IsOpen true lines i → (VariableDefinition.ofLine? (text lines i)).isSome →
          IsTabbed lines i) → found.rules = plain.rules) := by
  intro lines plain found
  have hplainly : DefinesPlainly lines := definesPlainly_of_forall hlines
  have hlength := length_rules_parse file verbose again hplainly
  have hthins := thins_parse file verbose again hplainly
  refine ⟨hlength, hthins, fun targets => ?_, ?_, fun htabs => ?_⟩
  · have hsame := forall₂_rules_parse file verbose again hplainly
    exact rel_find? hsame fun rule thinned hrule => by rw [hrule.1]
  · refine forall₂_of_zip hlength (hthins.imp fun h rules hrule hempty => ?_)
    rw [Rule.isEmpty, List.isEmpty_iff, hrule.plain_recipe, List.map_eq_nil_iff] at hempty
    rw [Rule.isEmpty, List.isEmpty_iff, hrule.found_recipe, hempty]
    rfl
  · refine rules_parse_detect file verbose again hplainly fun i hd hopen => ?_
    rw [IsDefinition] at hd
    exact hd.2.2.2.2 ⟨hopen, htabs i hopen hd.2.2.2.1⟩

-- A definition above the rules and a command that looks like one.
theorem parse_undetected_detected_tab :
    (∀ raw ∈ physicalLines "Z=0\n\na:\n\tX=1", (VariableDefinition.ofLine? (trim raw)).isSome →
        Header.ofLine? (trim raw) = none) ∧
      (∀ i, IsOpen true (physicalLines "Z=0\n\na:\n\tX=1") i →
        (VariableDefinition.ofLine? (text (physicalLines "Z=0\n\na:\n\tX=1") i)).isSome →
        IsTabbed (physicalLines "Z=0\n\na:\n\tX=1") i) ∧
      (Makefile.parse ⟨true, false⟩ "Z=0\n\na:\n\tX=1").rules =
        (Makefile.parse ⟨false, false⟩ "Z=0\n\na:\n\tX=1").rules := by
  have hall : ((physicalLines "Z=0\n\na:\n\tX=1").all fun raw =>
      (VariableDefinition.ofLine? (trim raw)).isNone ||
        (Header.ofLine? (trim raw)).isNone) = true := by
    decide
  have hlines : ∀ raw ∈ physicalLines "Z=0\n\na:\n\tX=1",
      (VariableDefinition.ofLine? (trim raw)).isSome → Header.ofLine? (trim raw) = none := by
    intro raw hraw hsome
    have hone := List.all_eq_true.mp hall raw hraw
    rw [Bool.or_eq_true, Option.isNone_iff_eq_none, Option.isNone_iff_eq_none] at hone
    exact hone.resolve_left fun hnone => by simp [hnone] at hsome
  have htabs : ∀ i, IsOpen true (physicalLines "Z=0\n\na:\n\tX=1") i →
      (VariableDefinition.ofLine? (text (physicalLines "Z=0\n\na:\n\tX=1") i)).isSome →
      IsTabbed (physicalLines "Z=0\n\na:\n\tX=1") i := by
    intro i hopen hsome
    match i with
    | 0 =>
        obtain ⟨h, hh, -⟩ := (isOpen_iff _ _ _).mp hopen
        exact absurd hh (Nat.not_lt_zero h)
    | 1 => exact absurd hsome (by decide)
    | 2 => exact absurd hsome (by decide)
    | 3 => exact rfl
    | i + 4 =>
        have hnone : text (physicalLines "Z=0\n\na:\n\tX=1") (i + 4) = [] := rfl
        rw [hnone] at hsome
        exact absurd hsome (by decide)
  have hboth := parse_undetected_detected "Z=0\n\na:\n\tX=1" false false hlines
  exact ⟨hlines, htabs, hboth.2.2.2.2 htabs⟩

-- Every definition stands outside of rules, on a line that no rule could begin with.
def KeepsApart (lines : List (List Char)) : Prop :=
  ∀ i, IsDefinition true lines i →
    ¬IsOpen true lines i ∧ Header.ofLine? (text lines i) = none

section Lines

variable {detect : Bool} {lines : List (List Char)} {i : Nat}

-- The rule that is open before a line has the last header above it.
theorem exists_header_reaches (hopen : IsOpen detect lines i) :
    ∃ h < i, IsHeader detect lines h ∧ Reaches detect lines h i := by
  induction i with
  | zero =>
      obtain ⟨h, hh, -⟩ := (isOpen_iff _ _ _).mp hopen
      exact absurd hh (Nat.not_lt_zero h)
  | succ i ih =>
      by_cases hi : IsHeader detect lines i
      · exact ⟨i, Nat.lt_succ_self i, hi, fun j hj hji => by omega⟩
      · obtain ⟨hopen, hb⟩ := (isOpen_succ_iff.mp hopen).resolve_left hi
        obtain ⟨h, hh, hheader, hreaches⟩ := ih hopen
        exact ⟨h, Nat.lt_succ_of_lt hh, hheader, (reaches_succ_iff hh).mpr ⟨hreaches, hb, hi⟩⟩

-- The search for definitions may cost headers, but it makes none.
theorem headers_sublist :
    (places lines (IsHeader true lines)).Sublist (places lines (IsHeader false lines)) := by
  refine List.monotone_filter_right _ fun i hi => ?_
  simp only [decide_eq_true_eq] at hi ⊢
  exact hi.undetected

theorem definesPlainly_of_headers
    (hheaders : places lines (IsHeader true lines) = places lines (IsHeader false lines)) :
    DefinesPlainly lines := by
  intro i hd
  rw [← Option.not_isSome_iff_eq_none]
  intro hsome
  have hc : ¬IsComment lines i := by
    rw [IsDefinition] at hd
    exact hd.2.2.1
  have hplain : IsHeader false lines i := isHeader_undetected_iff.mpr ⟨hd.not_isBlank, hc, hsome⟩
  have hmem : i ∈ places lines (IsHeader true lines) :=
    hheaders ▸ mem_places.mpr ⟨lt_length_of_not_isBlank hd.not_isBlank, hplain⟩
  exact hd.not_isHeader (mem_places.mp hmem).2

-- Where no recipe has a loose line, no definition stands under an open rule.
theorem not_isOpen_of_recipeLines (hlines : DefinesPlainly lines)
    (hkept : ∀ h ∈ places lines (IsHeader false lines), ∀ raw ∈ recipeLines lines h,
      isLoose raw = false) (hd : IsDefinition true lines i) : ¬IsOpen true lines i := by
  intro hopen
  obtain ⟨hb, hc, hloose⟩ := (isDefinition_iff_isLoose hopen).mp hd
  have hi := lt_length_of_not_isBlank hb
  obtain ⟨h, hh, hheader, hreaches⟩ :=
    exists_header_reaches ((isOpen_detect_iff hlines).mp hopen)
  have hnot : ¬IsHeader false lines i := by
    rw [← isHeader_detect_iff hlines]
    exact hd.not_isHeader
  have hin : InRecipe false lines h i := inRecipe_iff.mpr
    ⟨hh, (reaches_succ_iff hh).mpr ⟨hreaches, hb, hnot⟩, hc, not_isDefinition_undetected⟩
  have hmem : lines.getD i [] ∈ recipeLines lines h :=
    List.mem_map.mpr ⟨i, mem_places.mpr ⟨hi, hin⟩, rfl⟩
  have hplace : h ∈ places lines (IsHeader false lines) :=
    mem_places.mpr ⟨Nat.lt_trans hh hi, hheader⟩
  exact Bool.false_ne_true ((hkept h hplace _ hmem).symm.trans hloose)

-- A rule that loses nothing has no loose line in its recipe.
theorem Thins.isLoose_eq_false {h : Nat} {plain found : Rule} (hthins : Thins lines h plain found)
    (hlength : plain.recipe.length = found.recipe.length) :
    ∀ raw ∈ recipeLines lines h, isLoose raw = false := by
  rw [hthins.plain_recipe, hthins.found_recipe, List.length_map, List.length_map] at hlength
  intro raw hraw
  simpa using List.length_filter_eq_length_iff.mp hlength.symm raw hraw

end Lines

section Files

variable (file : String) (verbose again : Bool)

theorem KeepsApart.rules_parse_eq (hlines : KeepsApart (physicalLines file)) :
    (Makefile.parse ⟨true, again⟩ file).rules = (Makefile.parse ⟨false, verbose⟩ file).rules :=
  rules_parse_detect file verbose again (fun i hd => (hlines i hd).2) fun i hd => (hlines i hd).1

-- As many rules can only come from the same headers.
theorem definesPlainly_of_length (hlength : (Makefile.parse ⟨false, verbose⟩ file).rules.length =
    (Makefile.parse ⟨true, again⟩ file).rules.length) : DefinesPlainly (physicalLines file) := by
  rw [← (reads_parse ⟨false, verbose⟩ file).rules.length_eq,
    ← (reads_parse ⟨true, again⟩ file).rules.length_eq] at hlength
  exact definesPlainly_of_headers (headers_sublist.eq_of_length hlength.symm)

theorem keepsApart_of_lengths (hlines : DefinesPlainly (physicalLines file))
    (hlengths : ∀ rules ∈ (Makefile.parse ⟨false, verbose⟩ file).rules.zip
      (Makefile.parse ⟨true, again⟩ file).rules, rules.1.recipe.length = rules.2.recipe.length) :
    KeepsApart (physicalLines file) := by
  refine fun i hd => ⟨not_isOpen_of_recipeLines hlines (fun h hh => ?_) hd, hlines i hd⟩
  have hthins := thins_parse file verbose again hlines
  obtain ⟨n, hn, rfl⟩ := List.getElem_of_mem hh
  have hn' : n < ((Makefile.parse ⟨false, verbose⟩ file).rules.zip
      (Makefile.parse ⟨true, again⟩ file).rules).length := hthins.length_eq ▸ hn
  exact (hthins.get hn hn').isLoose_eq_false (hlengths _ (List.getElem_mem hn'))

end Files

end MakeCheck.Outline
