import Mathlib.Data.List.Forall2
import MakeCheck.Makefile.Scan

namespace MakeCheck.Outline

open Text

-- The line at a place without the blanks around it.
def text (lines : List (List Char)) (i : Nat) : List Char :=
  trim (lines.getD i [])

def IsBlank (lines : List (List Char)) (i : Nat) : Prop :=
  text lines i = []

def IsComment (lines : List (List Char)) (i : Nat) : Prop :=
  (text lines i).head? = some '#'

def IsTabbed (lines : List (List Char)) (i : Nat) : Prop :=
  (lines.getD i []).head? = some '\t'

-- What a line is depends on the headers above it and on nothing below it.
mutual

-- A rule is open before a line if an earlier header has no blank line between it and the line.
def IsOpen (detect : Bool) (lines : List (List Char)) (i : Nat) : Prop :=
  ∃ h, ∃ _ : h < i, IsHeader detect lines h ∧ ∀ j, h < j → j < i → ¬IsBlank lines j
termination_by (i, 0)

def IsDefinition (detect : Bool) (lines : List (List Char)) (i : Nat) : Prop :=
  detect = true ∧ ¬IsBlank lines i ∧ ¬IsComment lines i ∧
    (VariableDefinition.ofLine? (text lines i)).isSome ∧ ¬(IsOpen detect lines i ∧ IsTabbed lines i)
termination_by (i, 1)

def IsHeader (detect : Bool) (lines : List (List Char)) (i : Nat) : Prop :=
  ¬IsBlank lines i ∧ ¬IsComment lines i ∧ ¬IsDefinition detect lines i ∧
    (Header.ofLine? (text lines i)).isSome
termination_by (i, 2)

end

theorem isOpen_iff (detect : Bool) (lines : List (List Char)) (i : Nat) :
    IsOpen detect lines i ↔
      ∃ h < i, IsHeader detect lines h ∧ ∀ j, h < j → j < i → ¬IsBlank lines j := by
  rw [IsOpen]
  simp only [exists_prop]

-- A line of the recipe below a header, with no blank line and no other header in between.
def InRecipe (detect : Bool) (lines : List (List Char)) (h i : Nat) : Prop :=
  h < i ∧ (∀ j, h < j → j ≤ i → ¬IsBlank lines j ∧ ¬IsHeader detect lines j) ∧
    ¬IsComment lines i ∧ ¬IsDefinition detect lines i

section Places

open scoped Classical in
-- The lines of a kind in file order.
noncomputable def places (lines : List (List Char)) (kind : Nat → Prop) : List Nat :=
  (List.range lines.length).filter fun i => kind i

-- What the header at a place makes of the lines below it.
structure IsRule (detect : Bool) (lines : List (List Char)) (h : Nat) (rule : Rule) : Prop where
  header : Header.ofLine? (text lines h) = some ⟨rule.targets, rule.prerequisites⟩
  recipe : rule.recipe =
    (places lines (InRecipe detect lines h)).map fun i => String.ofList (text lines i)

def Defines (lines : List (List Char)) (i : Nat) (definition : VariableDefinition) : Prop :=
  VariableDefinition.ofLine? (text lines i) = some definition

-- The reading of a file by the places of its lines: a rule for each header and a definition for
-- each definition line, in file order.
structure Reads (detect : Bool) (lines : List (List Char)) (makefile : Makefile) : Prop where
  origin : makefile.origin = .memory
  rules : List.Forall₂ (IsRule detect lines) (places lines (IsHeader detect lines)) makefile.rules
  definitions : match makefile.definitions with
    | some found => detect = true ∧
        List.Forall₂ (Defines lines) (places lines (IsDefinition detect lines)) found
    | none => detect = false

end Places

section Append

variable (detect : Bool) (lines more : List (List Char)) (raw : List Char)

-- Lines further down change nothing above them.
theorem getD_append_of_lt {i : Nat} (hi : i < lines.length) :
    (lines ++ more).getD i [] = lines.getD i [] := by
  simp only [List.getD_eq_getElem?_getD, List.getElem?_append_left hi]

theorem text_append_of_lt {i : Nat} (hi : i < lines.length) :
    text (lines ++ more) i = text lines i := by
  simp only [text, getD_append_of_lt lines more hi]

theorem isBlank_append_of_lt {i : Nat} (hi : i < lines.length) :
    IsBlank (lines ++ more) i ↔ IsBlank lines i := by
  simp only [IsBlank, text_append_of_lt lines more hi]

theorem isComment_append_of_lt {i : Nat} (hi : i < lines.length) :
    IsComment (lines ++ more) i ↔ IsComment lines i := by
  simp only [IsComment, text_append_of_lt lines more hi]

theorem isTabbed_append_of_lt {i : Nat} (hi : i < lines.length) :
    IsTabbed (lines ++ more) i ↔ IsTabbed lines i := by
  simp only [IsTabbed, getD_append_of_lt lines more hi]

theorem isOpen_congr {i : Nat} (hi : i ≤ lines.length)
    (hheader : ∀ h < i, IsHeader detect (lines ++ more) h ↔ IsHeader detect lines h) :
    IsOpen detect (lines ++ more) i ↔ IsOpen detect lines i := by
  rw [isOpen_iff, isOpen_iff]
  refine exists_congr fun h => and_congr_right fun hh => and_congr (hheader h hh) ?_
  refine forall_congr' fun j => forall_congr' fun _ => forall_congr' fun hj => ?_
  rw [isBlank_append_of_lt lines more (by omega)]

theorem isDefinition_congr {i : Nat} (hi : i < lines.length)
    (hopen : IsOpen detect (lines ++ more) i ↔ IsOpen detect lines i) :
    IsDefinition detect (lines ++ more) i ↔ IsDefinition detect lines i := by
  rw [IsDefinition, IsDefinition, hopen, isBlank_append_of_lt lines more hi,
    isComment_append_of_lt lines more hi, isTabbed_append_of_lt lines more hi,
    text_append_of_lt lines more hi]

-- The three kinds depend on each other, so the headers above carry the induction.
theorem isHeader_append_of_lt {i : Nat} (hi : i < lines.length) :
    IsHeader detect (lines ++ more) i ↔ IsHeader detect lines i := by
  induction i using Nat.strongRecOn with
  | ind i ih =>
      have hopen := isOpen_congr detect lines more (Nat.le_of_lt hi) fun h hh => ih h hh (by omega)
      rw [IsHeader, IsHeader, isDefinition_congr detect lines more hi hopen,
        isBlank_append_of_lt lines more hi, isComment_append_of_lt lines more hi,
        text_append_of_lt lines more hi]

theorem isOpen_append_of_le {i : Nat} (hi : i ≤ lines.length) :
    IsOpen detect (lines ++ more) i ↔ IsOpen detect lines i :=
  isOpen_congr detect lines more hi fun _ hh =>
    isHeader_append_of_lt detect lines more (by omega)

theorem isDefinition_append_of_lt {i : Nat} (hi : i < lines.length) :
    IsDefinition detect (lines ++ more) i ↔ IsDefinition detect lines i :=
  isDefinition_congr detect lines more hi (isOpen_append_of_le detect lines more (Nat.le_of_lt hi))

-- A recipe goes on over a line that is neither blank nor a header.
theorem passes_append_of_lt {i : Nat} (hi : i < lines.length) :
    ¬IsBlank (lines ++ more) i ∧ ¬IsHeader detect (lines ++ more) i ↔
      ¬IsBlank lines i ∧ ¬IsHeader detect lines i := by
  rw [isBlank_append_of_lt lines more hi, isHeader_append_of_lt detect lines more hi]

theorem inRecipe_append_of_lt (h : Nat) {i : Nat} (hi : i < lines.length) :
    InRecipe detect (lines ++ more) h i ↔ InRecipe detect lines h i := by
  unfold InRecipe
  rw [isComment_append_of_lt lines more hi, isDefinition_append_of_lt detect lines more hi]
  refine and_congr_right fun _ => and_congr_left fun _ => ?_
  refine forall_congr' fun j => forall_congr' fun _ => forall_congr' fun hj => ?_
  exact passes_append_of_lt detect lines more (by omega)

theorem defines_append_of_lt {i : Nat} (hi : i < lines.length) (definition : VariableDefinition) :
    Defines (lines ++ more) i definition ↔ Defines lines i definition := by
  rw [Defines, Defines, text_append_of_lt lines more hi]

theorem getD_append_length : (lines ++ [raw]).getD lines.length [] = raw := by
  simp

end Append

section Places

variable {lines : List (List Char)} {old new : Nat → Prop}

theorem mem_places {i : Nat} : i ∈ places lines old ↔ i < lines.length ∧ old i := by
  simp [places]

open scoped Classical in
theorem places_append (raw : List Char) (hkind : ∀ i < lines.length, new i ↔ old i) :
    places (lines ++ [raw]) new =
      places lines old ++ if new lines.length then [lines.length] else [] := by
  have hold : (List.range lines.length).filter (fun i => decide (new i)) = places lines old :=
    List.filter_congr fun i hi => by simp only [hkind i (List.mem_range.mp hi)]
  simp only [places, List.length_append, List.length_singleton, List.range_succ,
    List.filter_append] at hold ⊢
  rw [hold]
  by_cases hlast : new lines.length <;> simp [hlast]

theorem places_append_of_pos (raw : List Char) (hkind : ∀ i < lines.length, new i ↔ old i)
    (hlast : new lines.length) :
    places (lines ++ [raw]) new = places lines old ++ [lines.length] := by
  rw [places_append raw hkind, if_pos hlast]

theorem places_append_of_neg (raw : List Char) (hkind : ∀ i < lines.length, new i ↔ old i)
    (hlast : ¬new lines.length) : places (lines ++ [raw]) new = places lines old := by
  rw [places_append raw hkind, if_neg hlast, List.append_nil]

end Places

end MakeCheck.Outline
