import MakeCheck.Makefile.Line
import MakeCheck.Proofs.Line
import MakeCheck.Proofs.Text

namespace MakeCheck.VariableDefinition

open Text

-- What may stand before the equals sign of an assignment.
def IsOperator (operator : List Char) : Prop :=
  (∀ c ∈ operator, c = ':') ∨ operator = ['?'] ∨ operator = ['!'] ∨ operator = ['+']

theorem afterOperator?_of_colons {colons : List Char} (hcolons : ∀ c ∈ colons, c = ':')
    (value : List Char) : afterOperator? (colons ++ '=' :: value) = some value := by
  have hdrop : (colons ++ '=' :: value).dropWhile (· == ':') = '=' :: value :=
    dropWhile_eq_of_forall (by simpa using hcolons) value (by decide)
  cases colons with
  | nil => rfl
  | cons c colons =>
      obtain rfl := hcolons c List.mem_cons_self
      simp only [List.cons_append] at hdrop ⊢
      simp [afterOperator?, hdrop]

theorem afterOperator?_eq_some_iff {text value : List Char} :
    afterOperator? text = some value ↔
      ∃ operator, IsOperator operator ∧ text = operator ++ '=' :: value := by
  constructor
  · intro hvalue
    unfold afterOperator? at hvalue
    split at hvalue
    · exact ⟨['?'], by simp [IsOperator], by simpa using hvalue⟩
    · exact ⟨['!'], by simp [IsOperator], by simpa using hvalue⟩
    · exact ⟨['+'], by simp [IsOperator], by simpa using hvalue⟩
    · split at hvalue
      · rename_i rest hrest
        obtain rfl := Option.some.inj hvalue
        refine ⟨text.takeWhile (· == ':'), .inl fun c hc => ?_, ?_⟩
        · simpa using List.mem_takeWhile_imp hc
        · rw [← hrest, List.takeWhile_append_dropWhile]
      · simp at hvalue
  · rintro ⟨operator, hcolons | rfl | rfl | rfl, rfl⟩
    · exact afterOperator?_of_colons hcolons value
    · rfl
    · rfl
    · rfl

theorem isNameChar_of_isBlank {c : Char} (hc : isBlank c = true) : isNameChar c = false := by
  have hall : (blanks.all fun b => !(b == '.' || b == '-')) = true := by decide
  have hmark := List.all_eq_true.mp hall c (by simpa [isBlank] using hc)
  simp only [Bool.not_eq_true', Bool.or_eq_false_iff] at hmark
  simp [isNameChar, isWord_of_isBlank hc, hmark]

-- Neither a blank nor an operator can be part of the name.
theorem exists_head_of_operator {operator : List Char} (hoperator : IsOperator operator)
    (value : List Char) :
    ∃ c rest, operator ++ '=' :: value = c :: rest ∧ isNameChar c = false ∧ isBlank c = false := by
  cases operator with
  | nil => exact ⟨'=', value, rfl, by decide, by decide⟩
  | cons c operator =>
      refine ⟨c, operator ++ '=' :: value, rfl, ?_⟩
      rcases hoperator with hcolons | h | h | h
      · obtain rfl := hcolons c List.mem_cons_self
        decide
      all_goals
        obtain rfl := (List.cons.inj h).1
        decide

section Parts

variable {name gap operator : List Char} (hname : ∀ c ∈ name, isNameChar c = true)
  (hgap : ∀ c ∈ gap, isBlank c = true) (hoperator : IsOperator operator) (value : List Char)

include hgap hoperator

theorem trimStart_of_parts :
    trimStart (gap ++ (operator ++ '=' :: value)) = operator ++ '=' :: value := by
  obtain ⟨c, rest, htext, -, hc⟩ := exists_head_of_operator hoperator value
  rw [htext]
  exact dropWhile_eq_of_forall hgap rest hc

include hname

-- The name ends at the gap, or at the operator when there is none.
theorem span_of_parts :
    (name ++ (gap ++ (operator ++ '=' :: value))).takeWhile isNameChar = name ∧
      (name ++ (gap ++ (operator ++ '=' :: value))).dropWhile isNameChar =
        gap ++ (operator ++ '=' :: value) := by
  cases gap with
  | nil =>
      obtain ⟨c, rest, htext, hc, -⟩ := exists_head_of_operator hoperator value
      rw [List.nil_append, htext]
      exact ⟨takeWhile_eq_of_forall hname rest hc, dropWhile_eq_of_forall hname rest hc⟩
  | cons b gap =>
      have hb := isNameChar_of_isBlank (hgap b List.mem_cons_self)
      exact ⟨takeWhile_eq_of_forall hname _ hb, dropWhile_eq_of_forall hname _ hb⟩

end Parts

theorem ofLine?_eq_some_iff {line : List Char} {definition : VariableDefinition} :
    ofLine? line = some definition ↔
      ∃ name gap operator value, line = name ++ (gap ++ (operator ++ '=' :: value)) ∧
        name ≠ [] ∧ (∀ c ∈ name, isNameChar c = true) ∧ (∀ c ∈ gap, isBlank c = true) ∧
        IsOperator operator ∧ definition = ⟨String.ofList name, String.ofList (trim value)⟩ := by
  constructor
  · intro hf
    unfold ofLine? at hf
    simp only at hf
    split at hf
    · simp at hf
    · rename_i hne
      obtain ⟨value, hvalue, rfl⟩ := Option.map_eq_some_iff.mp hf
      obtain ⟨operator, hoperator, htext⟩ := afterOperator?_eq_some_iff.mp hvalue
      refine ⟨line.takeWhile isNameChar, (line.dropWhile isNameChar).takeWhile isBlank, operator,
        value, ?_, by simpa using hne, fun c hc => List.mem_takeWhile_imp hc,
        fun c hc => List.mem_takeWhile_imp hc, hoperator, rfl⟩
      rw [← htext, trimStart, List.takeWhile_append_dropWhile, List.takeWhile_append_dropWhile]
  · rintro ⟨name, gap, operator, value, rfl, hne, hname, hgap, hoperator, rfl⟩
    have hafter : afterOperator? (operator ++ '=' :: value) = some value :=
      afterOperator?_eq_some_iff.mpr ⟨operator, hoperator, rfl⟩
    simp only [ofLine?, span_of_parts hname hgap hoperator value,
      trimStart_of_parts hgap hoperator value, hafter]
    simp [hne]

theorem isHeaderChar_of_isNameChar {c : Char} (hc : isNameChar c = true) :
    Header.isHeaderChar c = true := by
  rw [Header.isHeaderChar_iff, Header.IsNameChar]
  simp only [isNameChar, Bool.or_eq_true, beq_iff_eq] at hc
  rcases hc with (hword | rfl) | rfl
  · exact .inl (.inl hword)
  · exact .inl (.inr (by simp))
  · exact .inl (.inr (by simp))

theorem not_mem_of_isHeaderChar {targets : List Char} {mark : Char}
    (htargets : ∀ c ∈ targets, Header.isHeaderChar c = true)
    (hmark : Header.isHeaderChar mark = false) : mark ∉ targets := by
  intro hmem
  simp [htargets mark hmem] at hmark

-- Where an operator would stand, a header has other characters or a colon with something else
-- behind it.
theorem afterOperator?_of_header {targets rest : List Char}
    (htargets : ∀ c ∈ targets, Header.isHeaderChar c = true)
    (hrest : ∀ c ∈ rest.head?, c ≠ ':' ∧ c ≠ '=') :
    afterOperator? (targets ++ ':' :: rest) = none := by
  have hequals : '=' ∉ targets := not_mem_of_isHeaderChar htargets (by decide)
  rw [Option.eq_none_iff_forall_ne_some]
  intro value hvalue
  obtain ⟨operator, hoperator, htext⟩ := afterOperator?_eq_some_iff.mp hvalue
  cases targets with
  | nil =>
      cases operator with
      | nil => simp at htext
      | cons c operator =>
          rw [List.nil_append, List.cons_append, List.cons.injEq] at htext
          obtain ⟨rfl, rfl⟩ := htext
          have hcolons : ∀ c ∈ operator, c = ':' := by
            rcases hoperator with hcolons | h | h | h
            · exact fun c hc => hcolons c (List.mem_cons_of_mem _ hc)
            all_goals simp at h
          cases operator with
          | nil => simp at hrest
          | cons c operator => simp [hcolons c] at hrest
  | cons c targets =>
      have hquestion : '?' ∉ c :: targets := not_mem_of_isHeaderChar htargets (by decide)
      have hbang : '!' ∉ c :: targets := not_mem_of_isHeaderChar htargets (by decide)
      have hcolon : ':' ∉ c :: targets :=
        not_mem_of_isHeaderChar htargets Header.isHeaderChar_colon
      cases operator with
      | nil => simp_all
      | cons b operator =>
          rw [List.cons_append, List.cons_append, List.cons.injEq] at htext
          obtain ⟨rfl, htext⟩ := htext
          rcases hoperator with hcolons | h | h | h
          · simp [hcolons c] at hcolon
          · simp [(List.cons.inj h).1] at hquestion
          · simp [(List.cons.inj h).1] at hbang
          · obtain ⟨rfl, rfl⟩ := List.cons.inj h
            cases targets with
            | nil => simp at htext
            | cons d targets => simp_all

-- A header whose colon belongs to no operator is no assignment.
theorem ofLine?_of_header {targets rest : List Char}
    (htargets : ∀ c ∈ targets, Header.isHeaderChar c = true)
    (hrest : ∀ c ∈ rest.head?, c ≠ ':' ∧ c ≠ '=') : ofLine? (targets ++ ':' :: rest) = none := by
  have hstart : trimStart ((targets ++ ':' :: rest).dropWhile isNameChar) =
      trimStart (targets.dropWhile isNameChar) ++ ':' :: rest := by
    rw [dropWhile_append_cons_of_not targets rest (by decide), trimStart,
      dropWhile_append_cons_of_not _ rest (by decide), ← trimStart]
  have hsub : ∀ c ∈ trimStart (targets.dropWhile isNameChar), Header.isHeaderChar c = true :=
    fun c hc => htargets c
      ((List.dropWhile_sublist _).subset ((List.dropWhile_sublist _).subset hc))
  simp only [ofLine?, hstart, afterOperator?_of_header hsub hrest, Option.map_none, ite_self]

end MakeCheck.VariableDefinition
