import MakeCheck.Proofs.Insertion

namespace MakeCheck

open Text

namespace Header

-- A gap is made of spaces, or the first blank of another kind in it stops the targets.
theorem spaces_or_stop {gap : List Char} (hgap : ∀ c ∈ gap, isBlank c = true) :
    (∃ count, gap = List.replicate count ' ') ∨
      ∃ count b rest, gap = List.replicate count ' ' ++ b :: rest ∧ isHeaderChar b = false ∧
        b ≠ ':' := by
  have hall : (blanks.all fun b => b == ' ' || (!isHeaderChar b && b != ':')) = true := by
    decide +kernel
  induction gap with
  | nil => exact .inl ⟨0, rfl⟩
  | cons b gap ih =>
      obtain ⟨hb, hrest⟩ := List.forall_mem_cons.mp hgap
      have hkind := List.all_eq_true.mp hall b (by simpa [isBlank] using hb)
      simp only [Bool.or_eq_true, beq_iff_eq, Bool.and_eq_true, Bool.not_eq_true',
        bne_iff_ne] at hkind
      rcases hkind with rfl | ⟨hstop, hcolon⟩
      · rcases ih hrest with ⟨count, rfl⟩ | ⟨count, b, rest, rfl, hb⟩
        · exact .inl ⟨count + 1, rfl⟩
        · exact .inr ⟨count + 1, b, rest, rfl, hb⟩
      · exact .inr ⟨0, b, gap, rfl, hstop, hcolon⟩

theorem startsAssignment_colons (count : Nat) (value : List Char) :
    startsAssignment (List.replicate count ':' ++ '=' :: value) = decide (count < 3) := by
  match count with
  | 0 | 1 | 2 => rfl
  | count + 3 => simp [List.replicate_succ, startsAssignment]

section Assignment

variable {name gap operator : List Char} (value : List Char)
  (hname : ∀ c ∈ name, VariableDefinition.isNameChar c = true)

include hname

theorem isHeaderChar_name_spaces (count : Nat) :
    ∀ c ∈ name ++ List.replicate count ' ', isHeaderChar c = true := by
  intro c hc
  rcases List.mem_append.mp hc with hc | hc
  · exact VariableDefinition.isHeaderChar_of_isNameChar (hname c hc)
  · rw [List.eq_of_mem_replicate hc]
    decide

-- The first colon belongs to the header. With fewer than three behind it an assignment operator
-- begins there.
theorem ofLine?_colons (hne : name ≠ []) (spaces colons : Nat) :
    (ofLine? (name ++ (List.replicate spaces ' ' ++
      (List.replicate colons ':' ++ '=' :: value)))).isSome = true ↔ 4 ≤ colons := by
  have hfront := isHeaderChar_name_spaces hname spaces
  rw [← List.append_assoc]
  cases colons with
  | zero =>
      rw [List.replicate_zero, List.nil_append,
        ofLine?_eq_none_of_stop hfront (by decide) (by decide)]
      simp
  | succ colons =>
      rw [List.replicate_succ, List.cons_append]
      simp only [ofLine?, takeWhile_eq_of_forall hfront _ isHeaderChar_colon,
        dropWhile_eq_of_forall hfront _ isHeaderChar_colon, startsAssignment_colons]
      simp [hne]

-- Any other operator has a character that stops the targets, or is followed by one.
theorem ofLine?_mark {mark : Char} (spaces : Nat) (hmark : mark = '?' ∨ mark = '!' ∨ mark = '+') :
    ofLine? (name ++ (List.replicate spaces ' ' ++ ([mark] ++ '=' :: value))) = none := by
  have hfront := isHeaderChar_name_spaces hname spaces
  rw [← List.append_assoc]
  rcases hmark with rfl | rfl | rfl
  · exact ofLine?_eq_none_of_stop hfront (by decide) (by decide)
  · exact ofLine?_eq_none_of_stop hfront (by decide) (by decide)
  · rw [← List.append_assoc]
    refine ofLine?_eq_none_of_stop (fun c hc => ?_) (by decide) (by decide)
    rcases List.mem_append.mp hc with hc | hc
    · exact hfront c hc
    · rw [List.mem_singleton.mp hc]
      decide

-- When an assignment can be read as a header too.
theorem ofLine?_assignment_isSome_iff (hne : name ≠ []) (hgap : ∀ c ∈ gap, isBlank c = true)
    (hoperator : VariableDefinition.IsOperator operator) :
    (ofLine? (name ++ (gap ++ (operator ++ '=' :: value)))).isSome = true ↔
      (∃ spaces, gap = List.replicate spaces ' ') ∧
        ∃ colons, 4 ≤ colons ∧ operator = List.replicate colons ':' := by
  have hmarked (mark : Char) (colons : Nat) (hfour : 4 ≤ colons) :
      [mark] ≠ List.replicate colons ':' := by
    intro heq
    have hlength := congrArg List.length heq
    simp only [List.length_singleton, List.length_replicate] at hlength
    omega
  rcases spaces_or_stop hgap with ⟨spaces, rfl⟩ | ⟨spaces, b, rest, rfl, hb, hcolon⟩
  · rcases hoperator with hcolons | rfl | rfl | rfl
    · obtain ⟨colons, rfl⟩ : ∃ colons, operator = List.replicate colons ':' :=
        ⟨operator.length, List.eq_replicate_iff.mpr ⟨rfl, hcolons⟩⟩
      rw [ofLine?_colons value hname hne]
      constructor
      · exact fun hfour => ⟨⟨spaces, rfl⟩, colons, hfour, rfl⟩
      · rintro ⟨-, others, hfour, heq⟩
        rwa [List.replicate_left_injective _ heq]
    all_goals
      rw [ofLine?_mark value hname spaces (by simp)]
      simpa using hmarked _
  · have hfront := isHeaderChar_name_spaces hname spaces
    rw [List.append_assoc, List.cons_append, ← List.append_assoc,
      ofLine?_eq_none_of_stop hfront hb hcolon]
    have hspace : isHeaderChar ' ' = true := by decide
    simp only [Option.isSome_none, Bool.false_eq_true, false_iff, not_and]
    rintro ⟨count, heq⟩ -
    have hmem : b ∈ List.replicate count ' ' := by simp [← heq]
    rw [List.eq_of_mem_replicate hmem, hspace] at hb
    contradiction

end Assignment

end Header

namespace VariableDefinition

-- The operators of an assignment.
def operators : List String :=
  ["=", ":=", "::=", ":::=", "?=", "!=", "+="]

-- A name, blanks, an operator and any value.
def IsAssignment (line : List Char) : Prop :=
  ∃ name gap value : List Char, ∃ operator ∈ operators,
    line = name ++ (gap ++ (operator.toList ++ value)) ∧ name ≠ [] ∧
      (∀ c ∈ name, isNameChar c = true) ∧ ∀ c ∈ gap, isBlank c = true

theorem exists_of_mem_operators {operator : String} (hoperator : operator ∈ operators) :
    ∃ front, operator.toList = front ++ ['='] ∧ IsOperator front ∧ front.length < 4 := by
  simp only [operators, List.mem_cons, List.not_mem_nil, or_false] at hoperator
  rcases hoperator with rfl | rfl | rfl | rfl | rfl | rfl | rfl
  · exact ⟨[], rfl, by simp [IsOperator], by decide⟩
  · exact ⟨[':'], rfl, by simp [IsOperator], by decide⟩
  · exact ⟨[':', ':'], rfl, by simp [IsOperator], by decide⟩
  · exact ⟨[':', ':', ':'], rfl, by simp [IsOperator], by decide⟩
  · exact ⟨['?'], rfl, by simp [IsOperator], by decide⟩
  · exact ⟨['!'], rfl, by simp [IsOperator], by decide⟩
  · exact ⟨['+'], rfl, by simp [IsOperator], by decide⟩

-- No operator has four colons, so nothing of the line can be taken for a header.
theorem IsAssignment.definition_and_not_header {line : List Char} (hline : IsAssignment line) :
    (ofLine? line).isSome = true ∧ Header.ofLine? line = none := by
  obtain ⟨name, gap, value, text, htext, rfl, hne, hname, hgap⟩ := hline
  obtain ⟨operator, hsplit, hoperator, hlength⟩ := exists_of_mem_operators htext
  rw [hsplit, List.append_assoc, List.singleton_append]
  constructor
  · exact Option.isSome_iff_exists.mpr
      ⟨_, ofLine?_eq_some_iff.mpr ⟨name, gap, operator, value, rfl, hne, hname, hgap, hoperator, rfl⟩⟩
  · rw [← Option.not_isSome_iff_eq_none, Header.ofLine?_assignment_isSome_iff value hname hne hgap
      hoperator]
    rintro ⟨-, colons, hfour, rfl⟩
    rw [List.length_replicate] at hlength
    omega

theorem definition_and_header_iff (line : List Char) :
    (ofLine? line).isSome = true ∧ (Header.ofLine? line).isSome = true ↔
      ∃ name spaces colons rest,
        line = name ++ (List.replicate spaces ' ' ++ (List.replicate colons ':' ++ '=' :: rest)) ∧
          name ≠ [] ∧ (∀ c ∈ name, isNameChar c = true) ∧ 4 ≤ colons := by
  constructor
  · rintro ⟨hdefinition, hheader⟩
    obtain ⟨definition, hfound⟩ := Option.isSome_iff_exists.mp hdefinition
    obtain ⟨name, gap, operator, value, rfl, hne, hname, hgap, hoperator, -⟩ :=
      ofLine?_eq_some_iff.mp hfound
    obtain ⟨⟨spaces, rfl⟩, colons, hfour, rfl⟩ :=
      (Header.ofLine?_assignment_isSome_iff value hname hne hgap hoperator).mp hheader
    exact ⟨name, spaces, colons, value, rfl, hne, hname, hfour⟩
  · rintro ⟨name, spaces, colons, rest, rfl, hne, hname, hfour⟩
    have hgap : ∀ c ∈ List.replicate spaces ' ', isBlank c = true := by
      intro c hc
      rw [List.eq_of_mem_replicate hc]
      decide
    have hoperator : IsOperator (List.replicate colons ':') :=
      .inl fun c hc => List.eq_of_mem_replicate hc
    refine ⟨Option.isSome_iff_exists.mpr ⟨_, ofLine?_eq_some_iff.mpr
      ⟨name, _, _, rest, rfl, hne, hname, hgap, hoperator, rfl⟩⟩, ?_⟩
    exact (Header.ofLine?_colons rest hname hne spaces colons).mpr hfour

end VariableDefinition

-- Where definitions are not looked for, an assignment is a recipe line.
theorem Scan.step_of_assignment (scan : Scan) {raw : List Char}
    (hassignment : VariableDefinition.IsAssignment (trim raw)) :
    scan.step false raw =
      { scan with current := scan.current.map (·.addLine (String.ofList (trim raw))) } := by
  obtain ⟨hdefinition, hheader⟩ := hassignment.definition_and_not_header
  obtain ⟨definition, hfound⟩ := Option.isSome_iff_exists.mp hdefinition
  obtain ⟨hb, hc⟩ := VariableDefinition.ne_nil_of_ofLine? hfound
  exact step_of_other hb hc (by simp) hheader

-- An assignment and a header are told apart, unless four colons or more stand before the equals
-- sign. So where no definitions are looked for, an assignment neither opens a rule nor closes one.
theorem definition_header_overlap :
    (∀ line : List Char,
      (VariableDefinition.ofLine? line).isSome = true ∧ (Header.ofLine? line).isSome = true ↔
        ∃ name spaces colons rest,
          line = name ++ (List.replicate spaces ' ' ++ (List.replicate colons ':' ++ '=' :: rest)) ∧
            name ≠ [] ∧ (∀ c ∈ name, VariableDefinition.isNameChar c = true) ∧ 4 ≤ colons) ∧
    (∀ line, VariableDefinition.IsAssignment line →
      (VariableDefinition.ofLine? line).isSome = true ∧ Header.ofLine? line = none) ∧
    ∀ (verbose : Bool) (above below : List String) (line : String), '\n' ∉ line.toList →
      let raw := line.toList.filter (· != '\r')
      let file (lines : List String) := Makefile.parse ⟨false, verbose⟩ ("\n".intercalate lines)
      VariableDefinition.IsAssignment (trim raw) →
        (¬EndsOpen false ("\n".intercalate above) →
          file (above ++ line :: below) = file (above ++ below)) ∧
        (EndsOpen false ("\n".intercalate above) →
          ∃ front rule more rest, (file above).rules = front ++ [rule] ∧
            (file (above ++ below)).rules = front ++ rule.addLines more :: rest ∧
            (file (above ++ line :: below)).rules =
              front ++ rule.addLines (String.ofList (trim raw) :: more) :: rest) := by
  refine ⟨VariableDefinition.definition_and_header_iff,
    fun line hline => hline.definition_and_not_header, ?_⟩
  intro verbose above below line hline raw file hassignment
  have hbefore : file above = _ := Scan.parse_eq_toMakefile ⟨false, verbose⟩ _
  have hplain : file (above ++ below) = _ := parse_intercalate ⟨false, verbose⟩ above below
  have hfound : file (above ++ line :: below) = _ :=
    parse_intercalate_line ⟨false, verbose⟩ above below line hline
  rw [endsOpen_iff]
  generalize Scan.ofLines false (physicalLines ("\n".intercalate above)) = place
    at hbefore hplain hfound ⊢
  obtain ⟨sequel, hsequel⟩ := Scan.exists_sequel_toMakefile false place
    (below.flatMap physicalLines)
  rw [Scan.step_of_assignment place hassignment] at hfound
  constructor
  · intro hclosed
    have hnone : place.current = none := Option.not_isSome_iff_eq_none.mp hclosed
    have hsame : { place with current := none } = place := by rw [← hnone]
    rw [hfound, hplain, hnone, Option.map_none, hsame]
  · intro hopen
    obtain ⟨rule, hrule⟩ := Option.isSome_iff_exists.mp hopen
    rw [hsequel _ Option.isSome_map] at hfound
    rw [hsequel place rfl] at hplain
    rw [hfound, hplain, hbefore, Scan.rules_continuedBy, Scan.rules_continuedBy,
      Scan.rules_toMakefile, hrule]
    refine ⟨place.closed, rule, sequel.recipe, sequel.rules, rfl, rfl, ?_⟩
    simp

-- The colon in the value is none of a header. With a fourth colon before the equals sign the line
-- is both.
theorem definition_header_overlap_colons :
    let line := "X\u00a0:::= y: z"
    let file (lines : List String) := Makefile.parse ⟨false, false⟩ ("\n".intercalate lines)
    VariableDefinition.IsAssignment line.toList ∧ Header.ofLine? line.toList = none ∧
      (Header.ofLine? "X ::::= y: z".toList).isSome = true ∧
      ∃ front rule more rest, (file ["a:", "\tb"]).rules = front ++ [rule] ∧
        (file (["a:", "\tb"] ++ ["c"])).rules = front ++ rule.addLines more :: rest ∧
        (file (["a:", "\tb"] ++ line :: ["c"])).rules =
          front ++ rule.addLines (line :: more) :: rest := by
  intro line file
  have hname : ∀ c ∈ ['X'], VariableDefinition.isNameChar c = true := by
    simp [VariableDefinition.isNameChar, isWord]
  have hgap : ∀ c ∈ ['\u00a0'], isBlank c = true := by
    simp [isBlank, blanks]
  have hassignment : VariableDefinition.IsAssignment line.toList :=
    ⟨['X'], ['\u00a0'], " y: z".toList, ":::=", by simp [VariableDefinition.operators], by decide,
      by simp, hname, hgap⟩
  have hraw : trim (line.toList.filter (· != '\r')) = line.toList := by decide
  have hopen : EndsOpen false ("\n".intercalate ["a:", "\tb"]) :=
    (endsOpen_iff _ _).mpr (by decide)
  obtain ⟨hoverlap, hheader, hinsert⟩ := definition_header_overlap
  refine ⟨hassignment, (hheader _ hassignment).2, ?_, ?_⟩
  · exact ((hoverlap _).mpr ⟨['X'], 1, 4, " y: z".toList, rfl, by simp, hname, by decide⟩).2
  · have hgrown := (hinsert false ["a:", "\tb"] ["c"] line (by decide)
      (by rw [hraw]; exact hassignment)).2 hopen
    rwa [hraw, String.ofList_toList] at hgrown

end MakeCheck
