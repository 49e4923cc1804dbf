import MakeCheck.Proofs.Source

namespace MakeCheck

open Text

namespace VariableDefinition

variable {definition : VariableDefinition}

theorem WellFormed.trim_sourceLine (hdef : definition.WellFormed) :
    ∃ rest, trim definition.sourceLine.toList = definition.name.toList ++ ' ' :: '=' :: rest ∧
      trim rest = definition.value.toList := by
  obtain ⟨c, name, hname⟩ :=
    List.exists_cons_of_ne_nil (l := definition.name.toList) (by simpa using hdef.nonempty)
  have hc : isBlank c = false := by
    by_contra hblank
    have hnot := isNameChar_of_isBlank ((Bool.not_eq_false _).mp hblank)
    simp [hdef.name c (by simp [hname])] at hnot
  have hline : definition.sourceLine.toList =
      c :: (name ++ [' ']) ++ '=' :: ' ' :: definition.value.toList := by
    simp [sourceLine, String.toList_append, hname]
  refine ⟨trimEnd (' ' :: definition.value.toList), ?_, trim_trimEnd_cons (by decide) hdef.trimmed⟩
  rw [hline, trim_cons_append_cons _ _ hc (by decide), hname]
  simp

-- A written definition is read as itself, and as nothing where definitions are not looked for.
theorem WellFormed.ofText_sourceLine (hdef : definition.WellFormed) :
    Line.ofText true (trim definition.sourceLine.toList) = .definition definition ∧
      ∃ line, Line.ofText false (trim definition.sourceLine.toList) = .other line := by
  obtain ⟨rest, hline, hvalue⟩ := hdef.trim_sourceLine
  have hne : definition.name.toList ≠ [] := by simpa using hdef.nonempty
  have hfound : ofLine? (trim definition.sourceLine.toList) = some definition := by
    refine ofLine?_eq_some_iff.mpr ⟨definition.name.toList, [' '], [], rest, hline, hne, hdef.name,
      by simp [isBlank, blanks], .inl (by simp), ?_⟩
    rw [hvalue, String.ofList_toList, String.ofList_toList]
  have hheader : Header.ofLine? (trim definition.sourceLine.toList) = none := by
    have hfront : ∀ b ∈ definition.name.toList ++ [' '], Header.isHeaderChar b = true := by
      intro b hb
      rcases List.mem_append.mp hb with hb | hb
      · exact isHeaderChar_of_isNameChar (hdef.name b hb)
      · exact Header.isHeaderChar_iff.mpr (.inr (List.mem_singleton.mp hb))
    have hstop : Header.ofLine? ((definition.name.toList ++ [' ']) ++ '=' :: rest) = none :=
      Header.ofLine?_eq_none_of_stop hfront (by decide) (by decide)
    rwa [List.append_assoc, List.singleton_append, ← hline] at hstop
  have hblank : trim definition.sourceLine.toList ≠ [] := by simp [hline]
  have hcomment : (trim definition.sourceLine.toList).head? ≠ some '#' := by
    rw [hline, List.head?_append_of_ne_nil _ hne]
    intro hhash
    have hname := hdef.name '#' (List.mem_of_mem_head? hhash)
    exact absurd hname (by decide)
  exact ⟨Line.kind_iff.mp (.definition definition hblank hcomment rfl hfound),
    _, Line.kind_iff.mp (.other hblank hcomment (by simp) hheader)⟩

end VariableDefinition

namespace Rule

variable {rule : Rule}

theorem WellFormed.trim_headerLine (hrule : rule.WellFormed) :
    trim rule.headerLine.toList =
      rule.targets.text.toList ++ ':' :: trimEnd (' ' :: joined rule.prerequisites) := by
  obtain ⟨c, front, htext, hc⟩ := hrule.targets.exists_text_eq_cons
  have hline : rule.headerLine.toList =
      c :: front ++ ':' :: ' ' :: joined rule.prerequisites := by
    simp [headerLine, String.toList_append, joined, htext]
  rw [hline, trim_cons_append_cons _ _ hc (by decide), htext]

theorem WellFormed.ofText_headerLine (hrule : rule.WellFormed) (detect : Bool) :
    Line.ofText detect (trim rule.headerLine.toList) =
      .header ⟨rule.targets, rule.prerequisites⟩ := by
  have hline := hrule.trim_headerLine
  obtain ⟨c, front, htext, _⟩ := hrule.targets.exists_text_eq_cons
  have hchars := hrule.targets.isHeaderChar_text
  have hrest := head?_trimEnd_space_cons (joined rule.prerequisites)
  have hoperator : ∀ b ∈ (trimEnd (' ' :: joined rule.prerequisites)).head?, b ≠ ':' ∧ b ≠ '=' := by
    intro b hb
    rw [hrest b hb]
    decide
  have hdef : VariableDefinition.ofLine? (trim rule.headerLine.toList) = none := by
    rw [hline]
    exact VariableDefinition.ofLine?_of_header hchars hoperator
  have hstart : Header.startsAssignment (trimEnd (' ' :: joined rule.prerequisites)) = false := by
    cases hend : trimEnd (' ' :: joined rule.prerequisites) with
    | nil => rfl
    | cons b rest =>
        obtain rfl := hrest b (by simp [hend])
        rfl
  have hheader : Header.ofLine? (trim rule.headerLine.toList) =
      some ⟨rule.targets, rule.prerequisites⟩ := by
    refine Header.ofLine?_eq_some_iff.mpr ⟨_, _, hline, by simp [htext], hchars, hstart, ?_⟩
    rw [hrule.targets.ofText_text, Header.prerequisitesOf_joined hrule.prerequisites]
  have hcomment : (trim rule.headerLine.toList).head? ≠ some '#' := by
    rw [hline, htext, List.cons_append, List.head?_cons]
    intro hhash
    have hc := hchars c (by simp [htext])
    rw [Option.some.inj hhash] at hc
    exact absurd hc (by decide)
  exact Line.kind_iff.mp (.header _ (by simp [hline]) hcomment (fun _ => hdef) hheader)

end Rule

theorem IsRecipeLine.trim_tab {line : String} (hline : IsRecipeLine line) :
    trim ("\t" ++ line).toList = line.toList := by
  rw [String.toList_append]
  exact (trim_cons_of_isBlank line.toList (by decide)).trans (trim_of_trimmed hline.trimmed)

theorem IsRecipeLine.ofText_tab {line : String} (hline : IsRecipeLine line) :
    Line.ofText false (trim ("\t" ++ line).toList) = .other line := by
  rw [hline.trim_tab]
  have hkind : Line.Kind false line.toList (.other (String.ofList line.toList)) :=
    .other (by simpa using hline.nonempty) hline.comment (by simp) hline.header
  rw [String.ofList_toList] at hkind
  exact Line.kind_iff.mp hkind

namespace Scan

variable (detect : Bool) (closed : List Rule) (definitions : List VariableDefinition)

-- Between two rules no rule is open, and every line is read for what it is.
theorem foldl_definitionLines {found : List VariableDefinition}
    (hfound : ∀ definition ∈ found, definition.WellFormed) :
    ((found.map VariableDefinition.sourceLine).map String.toList).foldl (step detect)
        ⟨closed, none, definitions⟩ =
      ⟨closed, none, if detect then definitions ++ found else definitions⟩ := by
  induction found generalizing definitions with
  | nil => simp
  | cons definition found ih =>
      obtain ⟨hdef, hrest⟩ := List.forall_mem_cons.mp hfound
      obtain ⟨hon, line, hoff⟩ := hdef.ofText_sourceLine
      have hstep : step detect ⟨closed, none, definitions⟩ definition.sourceLine.toList =
          ⟨closed, none, if detect then definitions ++ [definition] else definitions⟩ := by
        cases detect with
        | false => simp [step, lineOf, inRecipe, hoff, add]
        | true => simp [step, lineOf, inRecipe, hon, add]
      rw [List.map_cons, List.map_cons, List.foldl_cons, hstep, ih _ hrest]
      cases detect <;> simp

theorem foldl_recipeLines (rule : Rule) {recipe : List String}
    (hrecipe : ∀ line ∈ recipe, IsRecipeLine line) :
    ((recipe.map ("\t" ++ ·)).map String.toList).foldl (step detect)
        ⟨closed, some rule, definitions⟩ =
      ⟨closed, some { rule with recipe := rule.recipe ++ recipe }, definitions⟩ := by
  induction recipe generalizing rule with
  | nil => simp
  | cons line recipe ih =>
      obtain ⟨hline, hrest⟩ := List.forall_mem_cons.mp hrecipe
      have htab : ("\t" ++ line).toList.head? = some '\t' := by
        rw [String.toList_append]
        rfl
      have hstep : step detect ⟨closed, some rule, definitions⟩ ("\t" ++ line).toList =
          ⟨closed, some (rule.addLine line), definitions⟩ := by
        simp only [step, lineOf, inRecipe, htab, Option.isSome_some, BEq.rfl, Bool.and_self,
          Bool.not_true, Bool.and_false, hline.ofText_tab, add, Option.map_some]
      rw [List.map_cons, List.map_cons, List.foldl_cons, hstep, ih _ hrest]
      simp [Rule.addLine]

theorem foldl_ruleLines {rule : Rule} (hrule : rule.WellFormed) :
    (rule.sourceLines.map String.toList).foldl (step detect) ⟨closed, none, definitions⟩ =
      ⟨closed ++ [rule], none, definitions⟩ := by
  have hheader : step detect ⟨closed, none, definitions⟩ rule.headerLine.toList =
      ⟨closed, some ⟨rule.targets, rule.prerequisites, []⟩, definitions⟩ := by
    simp [step, lineOf, hrule.ofText_headerLine, add, close]
  have hblank (scan : Scan) : step detect scan [] = scan.close := rfl
  rw [Rule.sourceLines, List.map_cons, List.foldl_cons, hheader, List.map_append, List.foldl_append,
    foldl_recipeLines detect closed definitions _ hrule.recipe]
  simp [hblank, close]

theorem foldl_rulesLines {rules : List Rule} (hrules : ∀ rule ∈ rules, rule.WellFormed) :
    ((rules.flatMap Rule.sourceLines).map String.toList).foldl (step detect)
        ⟨closed, none, definitions⟩ = ⟨closed ++ rules, none, definitions⟩ := by
  induction rules generalizing closed with
  | nil => simp
  | cons rule rules ih =>
      obtain ⟨hrule, hrest⟩ := List.forall_mem_cons.mp hrules
      rw [List.flatMap_cons, List.map_append, List.foldl_append,
        foldl_ruleLines detect closed definitions hrule, ih _ hrest, List.append_assoc,
        List.singleton_append]

end Scan

section LineEnds

theorem VariableDefinition.WellFormed.sourceLine_noEnd {definition : VariableDefinition}
    (hdef : definition.WellFormed) :
    '\n' ∉ definition.sourceLine.toList ∧ '\r' ∉ definition.sourceLine.toList := by
  have hname : ∀ c ∈ ['\n', '\r'], c ∉ definition.name.toList := by
    intro c hc hmem
    have hblank : ∀ b ∈ ['\n', '\r'], isBlank b = true := by simp [isBlank, blanks]
    simpa [hdef.name c hmem] using isNameChar_of_isBlank (hblank c hc)
  simp only [sourceLine, String.toList_append, List.mem_append, not_or]
  exact ⟨⟨⟨hname '\n' (by simp), by decide⟩, hdef.feed⟩,
    ⟨hname '\r' (by simp), by decide⟩, hdef.carriage⟩

theorem Rule.WellFormed.headerLine_noEnd {rule : Rule} (hrule : rule.WellFormed) :
    '\n' ∉ rule.headerLine.toList ∧ '\r' ∉ rule.headerLine.toList := by
  have hnames := isHeaderChar_of_mem_joined fun name h => (hrule.prerequisites name h).2
  have hends (c : Char) (hc : Header.isHeaderChar c = false) (hcolon : c ∉ [':', ' ']) :
      c ∉ rule.headerLine.toList := by
    have hgap : (": " : String).toList = [':', ' '] := rfl
    simp only [headerLine, String.toList_append, toList_intercalate_space, hgap, List.mem_append,
      not_or]
    exact ⟨⟨VariableDefinition.not_mem_of_isHeaderChar hrule.targets.isHeaderChar_text hc, hcolon⟩,
      VariableDefinition.not_mem_of_isHeaderChar hnames hc⟩
  exact ⟨hends '\n' (by decide) (by decide), hends '\r' (by decide) (by decide)⟩

theorem Rule.WellFormed.sourceLines_noEnd {rule : Rule} (hrule : rule.WellFormed) :
    ∀ line ∈ rule.sourceLines, '\n' ∉ line.toList ∧ '\r' ∉ line.toList := by
  intro line hline
  rcases List.mem_cons.mp hline with rfl | hline
  · exact hrule.headerLine_noEnd
  · rcases List.mem_append.mp hline with hrecipe | hblank
    · obtain ⟨entry, hentry, rfl⟩ := List.mem_map.mp hrecipe
      have hok := hrule.recipe entry hentry
      simp only [String.toList_append, List.mem_append, not_or]
      exact ⟨⟨by decide, hok.feed⟩, by decide, hok.carriage⟩
    · rw [List.mem_singleton.mp hblank]
      decide

end LineEnds

-- A well-formed file comes back from its own text.
theorem Makefile.WellFormed.parse_source {makefile : Makefile} (hmakefile : makefile.WellFormed)
    (options : ParseOptions) :
    Makefile.parse options makefile.source =
      { origin := .memory
        rules := makefile.rules
        definitions :=
          if options.detectDefinitions then some (makefile.definitions.getD []) else none } := by
  have hfound : ∀ definition ∈ makefile.definitions.getD [], definition.WellFormed := by
    intro definition hdef
    cases hnone : makefile.definitions with
    | none => simp [hnone] at hdef
    | some found => exact hmakefile.definitions found hnone definition (by simpa [hnone] using hdef)
  have hends : ∀ line ∈ makefile.sourceLines, '\n' ∉ line.toList ∧ '\r' ∉ line.toList := by
    intro line hline
    rcases List.mem_append.mp hline with hline | hline
    · obtain ⟨definition, hdef, rfl⟩ := List.mem_map.mp hline
      exact (hfound definition hdef).sourceLine_noEnd
    · obtain ⟨rule, hrule, hline⟩ := List.mem_flatMap.mp hline
      exact (hmakefile.rules rule hrule).sourceLines_noEnd line hline
  have hscan : Scan.ofLines options.detectDefinitions (physicalLines makefile.source) =
      ⟨makefile.rules, none,
        if options.detectDefinitions then makefile.definitions.getD [] else []⟩ := by
    have hblank (scan : Scan) : scan.step options.detectDefinitions [] = scan.close := rfl
    rw [source, physicalLines_join hends, Scan.ofLines, sourceLines, List.foldl_append,
      List.map_append, List.foldl_append, Scan.start, Scan.foldl_definitionLines _ _ _ hfound,
      Scan.foldl_rulesLines _ _ _ hmakefile.rules]
    simp [hblank, Scan.close]
  simp only [parse, hscan, Scan.close, Option.toList_none, List.append_nil]
  cases options.detectDefinitions <;> simp

-- Every file that was read comes back from the text that is written for it, whether definitions
-- are looked for again or not.
theorem parse_source_parse (text : String) (verbose again : Bool) :
    let found := Makefile.parse ⟨true, verbose⟩ text
    let plain := Makefile.parse ⟨false, verbose⟩ text
    Makefile.parse ⟨true, again⟩ found.source = found ∧
      Makefile.parse ⟨false, again⟩ found.source = { found with definitions := none } ∧
      Makefile.parse ⟨true, again⟩ plain.source = { plain with definitions := some [] } ∧
      Makefile.parse ⟨false, again⟩ plain.source = plain := by
  intro found plain
  have hfound : found.WellFormed := (Scan.wellFormed_physicalLines true text).toMakefile true
  have hplain : plain.WellFormed := (Scan.wellFormed_physicalLines false text).toMakefile false
  rw [hfound.parse_source, hfound.parse_source, hplain.parse_source, hplain.parse_source]
  exact ⟨rfl, rfl, rfl, rfl⟩

end MakeCheck
