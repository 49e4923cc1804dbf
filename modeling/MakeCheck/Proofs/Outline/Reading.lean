import Mathlib.Data.List.Induction
import MakeCheck.Proofs.Line
import MakeCheck.Proofs.Outline.Places

namespace MakeCheck.Outline

open Text

section Kinds

variable {detect : Bool} {lines : List (List Char)} {i : Nat}

theorem IsComment.not_isBlank (hc : IsComment lines i) : ¬IsBlank lines i := by
  intro hb
  simp only [IsComment, IsBlank] at hc hb
  simp [hb] at hc

theorem IsDefinition.not_isBlank (hd : IsDefinition detect lines i) : ¬IsBlank lines i := by
  rw [IsDefinition] at hd
  exact hd.2.1

theorem IsDefinition.not_isHeader (hd : IsDefinition detect lines i) :
    ¬IsHeader detect lines i := by
  rw [IsHeader]
  exact fun hh => hh.2.2.1 hd

theorem IsHeader.not_isBlank (hh : IsHeader detect lines i) : ¬IsBlank lines i := by
  rw [IsHeader] at hh
  exact hh.1

theorem IsHeader.not_isComment (hh : IsHeader detect lines i) : ¬IsComment lines i := by
  rw [IsHeader] at hh
  exact hh.2.1

-- A line opens a rule, or it leaves an open one open unless it is blank.
theorem isOpen_succ_iff : IsOpen detect lines (i + 1) ↔
    IsHeader detect lines i ∨ IsOpen detect lines i ∧ ¬IsBlank lines i := by
  rw [isOpen_iff, isOpen_iff]
  constructor
  · rintro ⟨h, hh, hheader, hblank⟩
    rcases Nat.lt_succ_iff_lt_or_eq.mp hh with hlt | rfl
    · exact .inr ⟨⟨h, hlt, hheader, fun j hj hji => hblank j hj (by omega)⟩,
        hblank i hlt (by omega)⟩
    · exact .inl hheader
  · rintro (hheader | ⟨⟨h, hh, hheader, hblank⟩, hi⟩)
    · exact ⟨i, by omega, hheader, fun j hj hji => absurd hj (by omega)⟩
    · refine ⟨h, by omega, hheader, fun j hj hji => ?_⟩
      rcases Nat.lt_succ_iff_lt_or_eq.mp hji with hlt | rfl
      · exact hblank j hj hlt
      · exact hi

end Kinds

-- What a line turns out to be, told by its place.
def Fits (detect : Bool) (lines : List (List Char)) (i : Nat) : Line → Prop
  | .blank => IsBlank lines i
  | .comment => IsComment lines i
  | .definition definition => IsDefinition detect lines i ∧ Defines lines i definition
  | .header header =>
      IsHeader detect lines i ∧ Header.ofLine? (text lines i) = some header
  | .other line => ¬IsBlank lines i ∧ ¬IsComment lines i ∧ ¬IsDefinition detect lines i ∧
      ¬IsHeader detect lines i ∧ line = String.ofList (text lines i)

-- The scan and the places agree on a line if they agree on whether a rule is open before it.
theorem lineOf_fits (detect : Bool) (lines : List (List Char)) (i : Nat) (scan : Scan)
    (hopen : scan.current.isSome = true ↔ IsOpen detect lines i) :
    Fits detect lines i (scan.lineOf detect (lines.getD i [])) := by
  have hrecipe : scan.inRecipe (lines.getD i []) = true ↔
      IsOpen detect lines i ∧ IsTabbed lines i := by
    simp only [Scan.inRecipe, Bool.and_eq_true, beq_iff_eq, hopen, IsTabbed]
  have hkind := Line.kind_ofText (detect && !scan.inRecipe (lines.getD i [])) (text lines i)
  have hdetect : (detect && !scan.inRecipe (lines.getD i [])) = true ↔
      detect = true ∧ ¬(IsOpen detect lines i ∧ IsTabbed lines i) := by
    simp only [Bool.and_eq_true, Bool.not_eq_true', ← hrecipe, Bool.not_eq_true]
  change Fits detect lines i (Line.ofText _ (text lines i))
  generalize Line.ofText (detect && !scan.inRecipe (lines.getD i [])) (text lines i) = line at hkind
  have hnot (hd : (detect && !scan.inRecipe (lines.getD i [])) = true →
      VariableDefinition.ofLine? (text lines i) = none) : ¬IsDefinition detect lines i := by
    intro hdef
    rw [IsDefinition] at hdef
    obtain ⟨hon, _, _, hsome, hout⟩ := hdef
    simp [hd (hdetect.mpr ⟨hon, hout⟩)] at hsome
  cases hkind with
  | blank hb => exact hb
  | comment hc => exact hc
  | definition found hb hc hd hf =>
      obtain ⟨hon, hout⟩ := hdetect.mp hd
      refine ⟨?_, hf⟩
      rw [IsDefinition]
      exact ⟨hon, hb, hc, by simp [hf], hout⟩
  | header found hb hc hd hf =>
      refine ⟨?_, hf⟩
      rw [IsHeader]
      exact ⟨hb, hc, hnot hd, by simp [hf]⟩
  | other hb hc hd hf =>
      refine ⟨hb, hc, hnot hd, ?_, rfl⟩
      rw [IsHeader]
      exact fun hh => by simp [hf] at hh

-- The rule of a header still takes lines at a place.
def Reaches (detect : Bool) (lines : List (List Char)) (h i : Nat) : Prop :=
  ∀ j, h < j → j < i → ¬IsBlank lines j ∧ ¬IsHeader detect lines j

-- The headers read so far are those of the closed rules, then that of the open one. A later line
-- can only reach the last one.
def TracksRules (detect : Bool) (lines : List (List Char)) (closed : List Rule)
    (current : Option Rule) : Prop :=
  ∃ past present, places lines (IsHeader detect lines) = past ++ present ∧
    List.Forall₂ (IsRule detect lines) past closed ∧
    List.Forall₂ (IsRule detect lines) present current.toList ∧
    (∀ h ∈ past, ¬Reaches detect lines h lines.length) ∧
    ∀ h ∈ present, Reaches detect lines h lines.length

structure Tracks (detect : Bool) (lines : List (List Char)) (scan : Scan) : Prop where
  isOpen : scan.current.isSome = true ↔ IsOpen detect lines lines.length
  rules : TracksRules detect lines scan.closed scan.current
  definitions :
    List.Forall₂ (Defines lines) (places lines (IsDefinition detect lines)) scan.definitions

section Grow

variable {detect : Bool} {lines : List (List Char)} {raw : List Char} {closed : List Rule}
  {current : Option Rule}

theorem reaches_append_of_le {h i : Nat} (more : List (List Char)) (hi : i ≤ lines.length) :
    Reaches detect (lines ++ more) h i ↔ Reaches detect lines h i := by
  refine forall_congr' fun j => forall_congr' fun _ => forall_congr' fun hj => ?_
  exact passes_append_of_lt detect lines more (by omega)

theorem reaches_succ_iff {h i : Nat} (hi : h < i) : Reaches detect lines h (i + 1) ↔
    Reaches detect lines h i ∧ ¬IsBlank lines i ∧ ¬IsHeader detect lines i := by
  constructor
  · intro hr
    exact ⟨fun j hj hji => hr j hj (by omega), hr i hi (by omega)⟩
  · rintro ⟨hr, hlast⟩ j hj hji
    rcases Nat.lt_succ_iff_lt_or_eq.mp hji with hlt | rfl
    · exact hr j hj hlt
    · exact hlast

theorem inRecipe_iff {h i : Nat} : InRecipe detect lines h i ↔
    h < i ∧ Reaches detect lines h (i + 1) ∧ ¬IsComment lines i ∧ ¬IsDefinition detect lines i := by
  simp only [InRecipe, Reaches, Nat.lt_succ_iff]

theorem map_text_append (kind : Nat → Prop) :
    (places lines kind).map (fun i => String.ofList (text (lines ++ [raw]) i)) =
      (places lines kind).map fun i => String.ofList (text lines i) := by
  refine List.map_congr_left fun i hi => ?_
  rw [text_append_of_lt lines [raw] (mem_places.mp hi).1]

-- A line outside the recipe of a rule leaves the rule as it is.
theorem IsRule.append_of_not {h : Nat} {rule : Rule} (hrule : IsRule detect lines h rule)
    (hh : h < lines.length) (hout : ¬InRecipe detect (lines ++ [raw]) h lines.length) :
    IsRule detect (lines ++ [raw]) h rule := by
  have hplaces := places_append_of_neg raw
    (fun i hi => inRecipe_append_of_lt detect lines [raw] h hi) hout
  refine ⟨by rw [text_append_of_lt lines [raw] hh]; exact hrule.header, ?_⟩
  rw [hplaces, hrule.recipe, map_text_append]

theorem IsRule.append_line {h : Nat} {rule : Rule} (hrule : IsRule detect lines h rule)
    (hin : InRecipe detect (lines ++ [raw]) h lines.length) :
    IsRule detect (lines ++ [raw]) h
      (rule.addLine (String.ofList (text (lines ++ [raw]) lines.length))) := by
  have hplaces := places_append_of_pos raw
    (fun i hi => inRecipe_append_of_lt detect lines [raw] h hi) hin
  refine ⟨by rw [text_append_of_lt lines [raw] hin.1]; exact hrule.header, ?_⟩
  rw [hplaces, List.map_append, map_text_append, List.map_singleton, Rule.addLine, hrule.recipe]

theorem forall_isRule_append_of_not {headers : List Nat} {rules : List Rule}
    (hrules : List.Forall₂ (IsRule detect lines) headers rules)
    (hmem : ∀ h ∈ headers, h < lines.length)
    (hout : ∀ h ∈ headers, ¬InRecipe detect (lines ++ [raw]) h lines.length) :
    List.Forall₂ (IsRule detect (lines ++ [raw])) headers rules := by
  have hboth : List.Forall₂ (fun h rule => (h < lines.length ∧
      ¬InRecipe detect (lines ++ [raw]) h lines.length) ∧ IsRule detect lines h rule)
      headers rules :=
    (List.forall₂_and_left headers rules).mpr ⟨fun h hh => ⟨hmem h hh, hout h hh⟩, hrules⟩
  exact hboth.imp fun h rule ⟨⟨hh, hnot⟩, hrule⟩ => hrule.append_of_not hh hnot

theorem reaches_append_singleton_iff {h : Nat} (hh : h < lines.length) :
    Reaches detect (lines ++ [raw]) h (lines ++ [raw]).length ↔
      Reaches detect lines h lines.length ∧ ¬IsBlank (lines ++ [raw]) lines.length ∧
        ¬IsHeader detect (lines ++ [raw]) lines.length := by
  rw [List.length_append, List.length_singleton, reaches_succ_iff hh,
    reaches_append_of_le [raw] (Nat.le_refl _)]

-- The last line belongs to a recipe that reaches over it.
theorem inRecipe_last_iff {h : Nat} : InRecipe detect (lines ++ [raw]) h lines.length ↔
    h < lines.length ∧ Reaches detect (lines ++ [raw]) h (lines ++ [raw]).length ∧
      ¬IsComment (lines ++ [raw]) lines.length ∧
      ¬IsDefinition detect (lines ++ [raw]) lines.length := by
  rw [List.length_append, List.length_singleton, inRecipe_iff]

theorem headers_lt {past present : List Nat}
    (hheaders : places lines (IsHeader detect lines) = past ++ present) :
    (∀ h ∈ past, h < lines.length) ∧ ∀ h ∈ present, h < lines.length := by
  have hlt : ∀ h ∈ past ++ present, h < lines.length :=
    fun h hh => (mem_places.mp (hheaders ▸ hh)).1
  exact ⟨fun h hh => hlt h (List.mem_append_left _ hh),
    fun h hh => hlt h (List.mem_append_right _ hh)⟩

theorem headers_append_of_not (hlast : ¬IsHeader detect (lines ++ [raw]) lines.length) :
    places (lines ++ [raw]) (IsHeader detect (lines ++ [raw])) =
      places lines (IsHeader detect lines) :=
  places_append_of_neg raw (fun _ hi => isHeader_append_of_lt detect lines [raw] hi) hlast

-- A comment or a definition touches no rule.
theorem TracksRules.append_skipped (htracks : TracksRules detect lines closed current)
    (hb : ¬IsBlank (lines ++ [raw]) lines.length)
    (hh : ¬IsHeader detect (lines ++ [raw]) lines.length)
    (hskip : ∀ h, ¬InRecipe detect (lines ++ [raw]) h lines.length) :
    TracksRules detect (lines ++ [raw]) closed current := by
  obtain ⟨past, present, hheaders, hpast, hpresent, hno, hyes⟩ := htracks
  obtain ⟨hpastlt, hpresentlt⟩ := headers_lt hheaders
  refine ⟨past, present, (headers_append_of_not hh).trans hheaders,
    forall_isRule_append_of_not hpast hpastlt fun h _ => hskip h,
    forall_isRule_append_of_not hpresent hpresentlt fun h _ => hskip h, ?_, ?_⟩
  · intro h hm hr
    exact hno h hm ((reaches_append_singleton_iff (hpastlt h hm)).mp hr).1
  · intro h hm
    exact (reaches_append_singleton_iff (hpresentlt h hm)).mpr ⟨hyes h hm, hb, hh⟩

-- A blank line and a header are in no recipe, and no line below them is in a recipe that began
-- above.
theorem TracksRules.append_closing (htracks : TracksRules detect lines closed current)
    (hstop : IsBlank (lines ++ [raw]) lines.length ∨
      IsHeader detect (lines ++ [raw]) lines.length) :
    List.Forall₂ (IsRule detect (lines ++ [raw])) (places lines (IsHeader detect lines))
        (closed ++ current.toList) ∧
      ∀ h ∈ places lines (IsHeader detect lines),
        ¬Reaches detect (lines ++ [raw]) h (lines ++ [raw]).length := by
  obtain ⟨past, present, hheaders, hpast, hpresent, _, _⟩ := htracks
  have hlt : ∀ h ∈ places lines (IsHeader detect lines), h < lines.length :=
    fun h hm => (mem_places.mp hm).1
  have hend : ∀ h ∈ places lines (IsHeader detect lines),
      ¬Reaches detect (lines ++ [raw]) h (lines ++ [raw]).length := by
    intro h hm hr
    have hrest := ((reaches_append_singleton_iff (hlt h hm)).mp hr).2
    exact hstop.elim hrest.1 hrest.2
  have hout : ∀ h ∈ places lines (IsHeader detect lines),
      ¬InRecipe detect (lines ++ [raw]) h lines.length := by
    intro h hm hin
    exact hend h hm (inRecipe_last_iff.mp hin).2.1
  have hrules : List.Forall₂ (IsRule detect lines) (places lines (IsHeader detect lines))
      (closed ++ current.toList) := hheaders ▸ List.rel_append hpast hpresent
  exact ⟨forall_isRule_append_of_not hrules hlt hout, hend⟩

theorem TracksRules.append_blank (htracks : TracksRules detect lines closed current)
    (hb : IsBlank (lines ++ [raw]) lines.length) :
    TracksRules detect (lines ++ [raw]) (closed ++ current.toList) none := by
  obtain ⟨hpast, hend⟩ := htracks.append_closing (.inl hb)
  have hnot : ¬IsHeader detect (lines ++ [raw]) lines.length := fun hh => hh.not_isBlank hb
  refine ⟨_, [], ?_, hpast, .nil, hend, by simp⟩
  rw [headers_append_of_not hnot, List.append_nil]

theorem TracksRules.append_header (htracks : TracksRules detect lines closed current)
    {header : Header} (hh : IsHeader detect (lines ++ [raw]) lines.length)
    (hf : Header.ofLine? (text (lines ++ [raw]) lines.length) = some header) :
    TracksRules detect (lines ++ [raw]) (closed ++ current.toList)
      (some ⟨header.targets, header.prerequisites, []⟩) := by
  obtain ⟨hpast, hend⟩ := htracks.append_closing (.inr hh)
  have hempty : places (lines ++ [raw]) (InRecipe detect (lines ++ [raw]) lines.length) = [] := by
    refine List.eq_nil_iff_forall_not_mem.mpr fun i hi => ?_
    obtain ⟨hlt, hin⟩ := mem_places.mp hi
    have hbelow := hin.1
    simp only [List.length_append, List.length_singleton] at hlt
    omega
  have hnew : IsRule detect (lines ++ [raw]) lines.length
      ⟨header.targets, header.prerequisites, []⟩ := ⟨hf, by rw [hempty, List.map_nil]⟩
  refine ⟨_, [lines.length], ?_, hpast, .cons hnew .nil, hend, ?_⟩
  · exact places_append_of_pos raw (fun _ hi => isHeader_append_of_lt detect lines [raw] hi) hh
  · intro h hm j hj hji
    rw [List.mem_singleton.mp hm] at hj
    simp only [List.length_append, List.length_singleton] at hji
    omega

-- Any other line belongs to the rule that is open.
theorem TracksRules.append_other (htracks : TracksRules detect lines closed current)
    (hb : ¬IsBlank (lines ++ [raw]) lines.length)
    (hc : ¬IsComment (lines ++ [raw]) lines.length)
    (hd : ¬IsDefinition detect (lines ++ [raw]) lines.length)
    (hh : ¬IsHeader detect (lines ++ [raw]) lines.length) :
    TracksRules detect (lines ++ [raw]) closed
      (current.map (·.addLine (String.ofList (text (lines ++ [raw]) lines.length)))) := by
  obtain ⟨past, present, hheaders, hpast, hpresent, hno, hyes⟩ := htracks
  obtain ⟨hpastlt, hpresentlt⟩ := headers_lt hheaders
  have hpastend : ∀ h ∈ past, ¬Reaches detect (lines ++ [raw]) h (lines ++ [raw]).length :=
    fun h hm hr => hno h hm ((reaches_append_singleton_iff (hpastlt h hm)).mp hr).1
  have hpresentend : ∀ h ∈ present, Reaches detect (lines ++ [raw]) h (lines ++ [raw]).length :=
    fun h hm => (reaches_append_singleton_iff (hpresentlt h hm)).mpr ⟨hyes h hm, hb, hh⟩
  refine ⟨past, present, (headers_append_of_not hh).trans hheaders, ?_, ?_, hpastend, hpresentend⟩
  · refine forall_isRule_append_of_not hpast hpastlt fun h hm hin => hpastend h hm ?_
    exact (inRecipe_last_iff.mp hin).2.1
  · have hin : ∀ h ∈ present, InRecipe detect (lines ++ [raw]) h lines.length :=
      fun h hm => inRecipe_last_iff.mpr ⟨hpresentlt h hm, hpresentend h hm, hc, hd⟩
    have hboth : List.Forall₂ (fun h rule => InRecipe detect (lines ++ [raw]) h lines.length ∧
        IsRule detect lines h rule) present current.toList :=
      (List.forall₂_and_left _ _).mpr ⟨hin, hpresent⟩
    rw [Option.toList_map, List.forall₂_map_right_iff]
    exact hboth.imp fun h rule ⟨hin, hrule⟩ => hrule.append_line hin

-- What the definition lines above define does not depend on a line below them.
theorem forall_defines_append {found : List VariableDefinition}
    (hfound : List.Forall₂ (Defines lines) (places lines (IsDefinition detect lines)) found) :
    List.Forall₂ (Defines (lines ++ [raw])) (places lines (IsDefinition detect lines)) found := by
  have hboth : List.Forall₂ (fun i definition => i < lines.length ∧ Defines lines i definition)
      (places lines (IsDefinition detect lines)) found :=
    (List.forall₂_and_left _ _).mpr ⟨fun i hi => (mem_places.mp hi).1, hfound⟩
  exact hboth.imp fun i _ ⟨hi, hdef⟩ => (defines_append_of_lt lines [raw] hi _).mpr hdef

theorem defines_append_of_not {found : List VariableDefinition}
    (hfound : List.Forall₂ (Defines lines) (places lines (IsDefinition detect lines)) found)
    (hlast : ¬IsDefinition detect (lines ++ [raw]) lines.length) :
    List.Forall₂ (Defines (lines ++ [raw]))
      (places (lines ++ [raw]) (IsDefinition detect (lines ++ [raw]))) found := by
  rw [places_append_of_neg raw (fun _ hi => isDefinition_append_of_lt detect lines [raw] hi) hlast]
  exact forall_defines_append hfound

theorem defines_append_line {found : List VariableDefinition} {definition : VariableDefinition}
    (hfound : List.Forall₂ (Defines lines) (places lines (IsDefinition detect lines)) found)
    (hlast : IsDefinition detect (lines ++ [raw]) lines.length)
    (hdef : Defines (lines ++ [raw]) lines.length definition) :
    List.Forall₂ (Defines (lines ++ [raw]))
      (places (lines ++ [raw]) (IsDefinition detect (lines ++ [raw]))) (found ++ [definition]) := by
  rw [places_append_of_pos raw (fun _ hi => isDefinition_append_of_lt detect lines [raw] hi) hlast]
  exact List.rel_append (forall_defines_append hfound) (.cons hdef .nil)

-- Each kind of line keeps the scan in step with the places of the lines read so far.
theorem Tracks.step {scan : Scan} (htracks : Tracks detect lines scan) (raw : List Char) :
    Tracks detect (lines ++ [raw]) (scan.step detect raw) := by
  have hopen : scan.current.isSome = true ↔ IsOpen detect (lines ++ [raw]) lines.length :=
    htracks.isOpen.trans (isOpen_append_of_le detect lines [raw] (Nat.le_refl _)).symm
  have hnext : IsOpen detect (lines ++ [raw]) (lines ++ [raw]).length ↔
      IsHeader detect (lines ++ [raw]) lines.length ∨
        scan.current.isSome = true ∧ ¬IsBlank (lines ++ [raw]) lines.length := by
    rw [List.length_append, List.length_singleton, isOpen_succ_iff, hopen]
  have hfits := lineOf_fits detect (lines ++ [raw]) lines.length scan hopen
  rw [getD_append_length] at hfits
  unfold Scan.step
  generalize scan.lineOf detect raw = line at hfits
  cases line with
  | blank =>
      have hblank : IsBlank (lines ++ [raw]) lines.length := hfits
      have hnot : ¬IsHeader detect (lines ++ [raw]) lines.length := fun hh => hh.not_isBlank hblank
      have hdef : ¬IsDefinition detect (lines ++ [raw]) lines.length :=
        fun hd => hd.not_isBlank hblank
      refine ⟨?_, htracks.rules.append_blank hblank, defines_append_of_not htracks.definitions hdef⟩
      rw [hnext]
      simp [Scan.add, Scan.close, hnot, hblank]
  | comment =>
      have hblank := IsComment.not_isBlank hfits
      have hnot : ¬IsHeader detect (lines ++ [raw]) lines.length :=
        fun hh => hh.not_isComment hfits
      have hdef : ¬IsDefinition detect (lines ++ [raw]) lines.length := by
        rw [IsDefinition]
        exact fun hd => hd.2.2.1 hfits
      refine ⟨?_, htracks.rules.append_skipped hblank hnot fun h hin => ?_,
        defines_append_of_not htracks.definitions hdef⟩
      · rw [hnext]
        simp [Scan.add, hnot, hblank]
      · exact (inRecipe_last_iff.mp hin).2.2.1 hfits
  | definition definition =>
      obtain ⟨hdef, hfound⟩ := hfits
      refine ⟨?_, htracks.rules.append_skipped hdef.not_isBlank hdef.not_isHeader fun h hin => ?_,
        defines_append_line htracks.definitions hdef hfound⟩
      · rw [hnext]
        simp [Scan.add, hdef.not_isHeader, hdef.not_isBlank]
      · exact (inRecipe_last_iff.mp hin).2.2.2 hdef
  | header header =>
      obtain ⟨hh, hf⟩ := hfits
      have hdef : ¬IsDefinition detect (lines ++ [raw]) lines.length := fun hd => hd.not_isHeader hh
      refine ⟨?_, htracks.rules.append_header hh hf,
        defines_append_of_not htracks.definitions hdef⟩
      rw [hnext]
      simp [Scan.add, hh]
  | other line =>
      obtain ⟨hb, hc, hd, hh, rfl⟩ := hfits
      refine ⟨?_, htracks.rules.append_other hb hc hd hh,
        defines_append_of_not htracks.definitions hd⟩
      rw [hnext]
      simp [Scan.add, hh, hb]

end Grow

theorem tracks_ofLines (detect : Bool) (lines : List (List Char)) :
    Tracks detect lines (Scan.ofLines detect lines) := by
  induction lines using List.reverseRecOn with
  | nil =>
      have hplaces (kind : Nat → Prop) : places [] kind = [] := rfl
      refine ⟨?_, ⟨[], [], hplaces _, .nil, .nil, by simp, by simp⟩, ?_⟩
      · rw [isOpen_iff]
        simp [Scan.ofLines, Scan.start]
      · rw [hplaces]
        exact .nil
  | append_singleton lines raw ih =>
      rw [Scan.ofLines, List.foldl_append]
      exact ih.step raw

theorem isRule_unique (detect : Bool) (lines : List (List Char)) :
    Relator.RightUnique (IsRule detect lines) := by
  rintro h ⟨targets, prerequisites, recipe⟩ ⟨targets', prerequisites', recipe'⟩ hrule hrule'
  have hheader := hrule.header.symm.trans hrule'.header
  have hrecipe := hrule.recipe.trans hrule'.recipe.symm
  simp only [Option.some.injEq, Header.mk.injEq] at hheader hrecipe
  obtain ⟨rfl, rfl⟩ := hheader
  rw [hrecipe]

theorem defines_unique (lines : List (List Char)) : Relator.RightUnique (Defines lines) :=
  fun _ _ _ hdef hdef' => Option.some.inj (hdef.symm.trans hdef')

-- A file has no two readings.
theorem Reads.unique {detect : Bool} {lines : List (List Char)} {makefile other : Makefile}
    (hreads : Reads detect lines makefile) (hother : Reads detect lines other) :
    makefile = other := by
  obtain ⟨origin, rules, definitions⟩ := makefile
  obtain ⟨origin', rules', definitions'⟩ := other
  have horigin : origin = origin' := hreads.origin.trans hother.origin.symm
  have hrules : rules = rules' := (isRule_unique detect lines).forall₂ hreads.rules hother.rules
  have hdefinitions : definitions = definitions' := by
    have hfound := hreads.definitions
    have hfound' := hother.definitions
    cases definitions <;> cases definitions' <;> simp only at hfound hfound'
    · rfl
    · simp [hfound] at hfound'
    · simp [hfound'] at hfound
    · rw [(defines_unique lines).forall₂ hfound.2 hfound'.2]
  rw [horigin, hrules, hdefinitions]

theorem reads_parse (options : ParseOptions) (text : String) :
    Reads options.detectDefinitions (physicalLines text) (Makefile.parse options text) := by
  have htracks := tracks_ofLines options.detectDefinitions (physicalLines text)
  obtain ⟨past, present, hheaders, hpast, hpresent, _, _⟩ := htracks.rules
  refine ⟨rfl, ?_, ?_⟩
  · rw [hheaders]
    exact List.rel_append hpast hpresent
  · unfold Makefile.parse
    cases hdetect : options.detectDefinitions with
    | false => simp
    | true =>
        rw [hdetect] at htracks
        exact ⟨rfl, htracks.definitions⟩

-- The scan of a text is its reading by places, and there is no other one.
theorem reads_iff_eq_parse (options : ParseOptions) (text : String) (makefile : Makefile) :
    Reads options.detectDefinitions (physicalLines text) makefile ↔
      makefile = Makefile.parse options text := by
  constructor
  · intro hreads
    exact hreads.unique (reads_parse options text)
  · rintro rfl
    exact reads_parse options text

end MakeCheck.Outline
