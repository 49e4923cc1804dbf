import MakeCheck.Makefile.Note
import MakeCheck.Proofs.Verdict

namespace MakeCheck

open Text

namespace Note

-- What a remark of one kind is about.
def opened? : Note → Option Targets
  | opens targets => some targets
  | _ => none

def closed? : Note → Option Targets
  | blankCloses targets => some targets
  | _ => none

def defined? : Note → Option String
  | defines name => some name
  | _ => none

def part? : Note → Option Unit
  | partOfRule => some ()
  | _ => none

end Note

namespace Scan

variable (detect : Bool) (scan : Scan) (lines more : List (List Char)) (raw : List Char)

-- What is said while one line is read.
def noted : List Note :=
  .reading (String.ofList (trim raw)) :: (scan.remark? (scan.lineOf detect raw)).toList

theorem notes_append : scan.notes detect (lines ++ more) =
    scan.notes detect lines ++ (lines.foldl (step detect) scan).notes detect more := by
  induction lines generalizing scan with
  | nil => rfl
  | cons raw lines ih =>
      rw [List.cons_append, notes, notes, ih, List.foldl_cons, List.cons_append, List.cons_append,
        List.cons_append, List.append_assoc]

theorem notes_append_singleton : start.notes detect (lines ++ [raw]) =
    start.notes detect lines ++ (ofLines detect lines).noted detect raw := by
  rw [notes_append, ← ofLines, noted]
  simp [notes]

theorem ofLines_append_singleton :
    ofLines detect (lines ++ [raw]) = (ofLines detect lines).step detect raw := by
  rw [ofLines, List.foldl_append, ← ofLines]
  rfl

variable {α : Type} (kind? : Note → Option α)

theorem filterMap_noted (hreading : ∀ line, kind? (.reading line) = none) :
    (scan.noted detect raw).filterMap kind? =
      ((scan.remark? (scan.lineOf detect raw)).bind kind?).toList := by
  rw [noted, List.filterMap_cons_none (hreading _)]
  cases scan.remark? (scan.lineOf detect raw) with
  | none => rfl
  | some note => cases hnote : kind? note <;> simp [hnote]

section Add

variable (line : Line)

-- A line makes a rule if it is said to open one, and no other way.
theorem targets_add : (scan.add line).close.closed.map (·.targets) =
    scan.close.closed.map (·.targets) ++ ((scan.remark? line).bind Note.opened?).toList := by
  cases line with
  | blank => cases hcurrent : scan.current <;> simp [add, close, remark?, hcurrent, Note.opened?]
  | comment => simp [add, remark?, Note.opened?]
  | definition definition => simp [add, close, remark?, Note.opened?]
  | header header => simp [add, close, remark?, Note.opened?]
  | other text =>
      cases hcurrent : scan.current <;>
        simp [add, close, remark?, hcurrent, Note.opened?, Rule.addLine]

theorem recipes_add : ((scan.add line).close.closed.flatMap (·.recipe)).length =
    (scan.close.closed.flatMap (·.recipe)).length +
      ((scan.remark? line).bind Note.part?).toList.length := by
  cases line with
  | blank => cases hcurrent : scan.current <;> simp [add, close, remark?, hcurrent, Note.part?]
  | comment => simp [add, remark?, Note.part?]
  | definition definition => simp [add, close, remark?, Note.part?]
  | header header => simp [add, close, remark?, Note.part?]
  | other text =>
      cases hcurrent : scan.current <;>
        simp [add, close, remark?, hcurrent, Note.part?, Rule.addLine, Nat.add_assoc]

theorem definitions_add : (scan.add line).definitions.map (·.name) =
    scan.definitions.map (·.name) ++ ((scan.remark? line).bind Note.defined?).toList := by
  cases line with
  | blank => cases hcurrent : scan.current <;> simp [add, close, remark?, hcurrent, Note.defined?]
  | comment => simp [add, remark?, Note.defined?]
  | definition definition => simp [add, remark?, Note.defined?]
  | header header => simp [add, close, remark?, Note.defined?]
  | other text => cases hcurrent : scan.current <;> simp [add, remark?, hcurrent, Note.defined?]

end Add

-- What has been said so far goes with what has been recovered so far.
structure Told (scan : Scan) (notes : List Note) : Prop where
  opened : notes.filterMap Note.opened? = scan.close.closed.map (·.targets)
  parts : (notes.filterMap Note.part?).length = (scan.close.closed.flatMap (·.recipe)).length
  defined : notes.filterMap Note.defined? = scan.definitions.map (·.name)

variable {detect : Bool} {scan : Scan} {notes : List Note}

theorem Told.step (htold : scan.Told notes) (raw : List Char) :
    (scan.step detect raw).Told (notes ++ scan.noted detect raw) where
  opened := by
    rw [List.filterMap_append, htold.opened, filterMap_noted _ _ _ _ fun _ => rfl, Scan.step,
      targets_add]
  parts := by
    rw [List.filterMap_append, List.length_append, htold.parts, filterMap_noted _ _ _ _ fun _ => rfl,
      Scan.step, recipes_add]
  defined := by
    rw [List.filterMap_append, htold.defined, filterMap_noted _ _ _ _ fun _ => rfl, Scan.step,
      definitions_add]

theorem told_ofLines (detect : Bool) (lines : List (List Char)) :
    (ofLines detect lines).Told (start.notes detect lines) := by
  induction lines using List.reverseRecOn with
  | nil => exact ⟨rfl, rfl, rfl⟩
  | append_singleton lines raw ih =>
      rw [ofLines_append_singleton, notes_append_singleton]
      exact ih.step raw

end Scan

namespace Outline

section Places

variable {detect : Bool} {lines more : List (List Char)} {raw : List Char} {h i : Nat}
  {targets : Targets}

-- What is said of a line besides that it is read.
inductive IsNoted (detect : Bool) (lines : List (List Char)) (i : Nat) : Option Note → Prop where
  | closing {h : Nat} {targets : Targets} (hb : IsBlank lines i) (hh : IsHeader detect lines h)
      (hbelow : h < i) (hreaches : Reaches detect lines h i)
      (htargets : HasTargets lines targets h) : IsNoted detect lines i (some (.blankCloses targets))
  | silent (hb : IsBlank lines i) (hclosed : ¬IsOpen detect lines i) : IsNoted detect lines i none
  | comment (hc : IsComment lines i) : IsNoted detect lines i (some .comment)
  | definition {definition : VariableDefinition} (hd : IsDefinition detect lines i)
      (hdefines : Defines lines i definition) :
      IsNoted detect lines i (some (.defines definition.name))
  | header {targets : Targets} (hh : IsHeader detect lines i)
      (htargets : HasTargets lines targets i) : IsNoted detect lines i (some (.opens targets))
  | command (hb : ¬IsBlank lines i) (hc : ¬IsComment lines i) (hd : ¬IsDefinition detect lines i)
      (hh : ¬IsHeader detect lines i) (hopen : IsOpen detect lines i) :
      IsNoted detect lines i (some .partOfRule)
  | ignored (hb : ¬IsBlank lines i) (hc : ¬IsComment lines i) (hd : ¬IsDefinition detect lines i)
      (hh : ¬IsHeader detect lines i) (hclosed : ¬IsOpen detect lines i) :
      IsNoted detect lines i (some .ignored)

-- Nothing is said of a blank line outside of rules, and of no other line.
theorem IsNoted.eq_none_iff {remark : Option Note} (hnoted : IsNoted detect lines i remark) :
    remark = none ↔ IsBlank lines i ∧ ¬IsOpen detect lines i := by
  cases hnoted with
  | closing hb hh hbelow hreaches =>
      have hopen : IsOpen detect lines i :=
        (isOpen_iff _ _ _).mpr ⟨_, hbelow, hh, fun j hj hji => (hreaches j hj hji).1⟩
      simp [hopen]
  | silent hb hclosed => simp [hb, hclosed]
  | comment hc => simp [hc.not_isBlank]
  | definition hd => simp [hd.not_isBlank]
  | header hh => simp [hh.not_isBlank]
  | command hb => simp [hb]
  | ignored hb => simp [hb]

theorem hasTargets_append_of_lt (more : List (List Char)) (hh : h < lines.length) :
    HasTargets (lines ++ more) targets h ↔ HasTargets lines targets h := by
  rw [HasTargets, HasTargets, text_append_of_lt lines more hh]

-- The rule that is open is that of the last header.
theorem exists_header_of_current {rule : Rule}
    (hcurrent : (Scan.ofLines detect lines).current = some rule) :
    ∃ h < lines.length, IsHeader detect lines h ∧ Reaches detect lines h lines.length ∧
      HasTargets lines rule.targets h := by
  obtain ⟨past, present, hheaders, -, hpresent, -, hreaches⟩ := (tracks_ofLines detect lines).rules
  rw [hcurrent, Option.toList_some] at hpresent
  obtain ⟨h, rest, hrule, hrest, rfl⟩ := List.forall₂_cons_right_iff.mp hpresent
  have hmem : h ∈ places lines (IsHeader detect lines) := by
    rw [hheaders]
    exact List.mem_append_right past List.mem_cons_self
  obtain ⟨hlt, hh⟩ := mem_places.mp hmem
  exact ⟨h, hlt, hh, hreaches h List.mem_cons_self, _, hrule.header⟩

theorem isNoted_remark (detect : Bool) (lines : List (List Char)) (raw : List Char)
    (more : List (List Char)) :
    IsNoted detect (lines ++ raw :: more) lines.length
      ((Scan.ofLines detect lines).remark? ((Scan.ofLines detect lines).lineOf detect raw)) := by
  have hopen : (Scan.ofLines detect lines).current.isSome = true ↔
      IsOpen detect (lines ++ raw :: more) lines.length :=
    (tracks_ofLines detect lines).isOpen.trans
      (isOpen_append_of_le detect lines (raw :: more) (Nat.le_refl _)).symm
  have hfits := lineOf_fits detect (lines ++ raw :: more) lines.length _ hopen
  have hraw : (lines ++ raw :: more).getD lines.length [] = raw := by simp
  rw [hraw] at hfits
  generalize (Scan.ofLines detect lines).lineOf detect raw = line at hfits
  cases line with
  | blank =>
      cases hcurrent : (Scan.ofLines detect lines).current with
      | none =>
          rw [Scan.remark?, hcurrent]
          rw [hcurrent] at hopen
          exact .silent hfits fun hopen' => by simpa using hopen.mpr hopen'
      | some rule =>
          obtain ⟨h, hlt, hh, hreaches, htargets⟩ := exists_header_of_current hcurrent
          rw [Scan.remark?, hcurrent]
          exact .closing hfits ((isHeader_append_of_lt detect lines _ hlt).mpr hh) hlt
            ((reaches_append_of_le _ (Nat.le_refl _)).mpr hreaches)
            ((hasTargets_append_of_lt _ hlt).mpr htargets)
  | comment => exact .comment hfits
  | definition definition => exact .definition hfits.1 hfits.2
  | header header => exact .header hfits.1 ⟨_, hfits.2⟩
  | other text =>
      obtain ⟨hb, hc, hd, hh, -⟩ := hfits
      rw [Scan.remark?]
      split
      · rename_i hsome
        exact .command hb hc hd hh (hopen.mp hsome)
      · rename_i hnone
        exact .ignored hb hc hd hh fun hopen' => hnone (hopen.mpr hopen')

-- What is said of the line at a place.
def remarkAt (detect : Bool) (lines : List (List Char)) (i : Nat) : Option Note :=
  let scan := Scan.ofLines detect (lines.take i)
  scan.remark? (scan.lineOf detect (lines.getD i []))

theorem isNoted_remarkAt (hi : i < lines.length) :
    IsNoted detect lines i (remarkAt detect lines i) := by
  have hlines : lines.take i ++ lines[i] :: lines.drop (i + 1) = lines := by
    rw [← List.drop_eq_getElem_cons hi, List.take_append_drop]
  have hlength : (lines.take i).length = i := by
    rw [List.length_take]
    omega
  have hnoted := isNoted_remark detect (lines.take i) lines[i] (lines.drop (i + 1))
  rw [hlines, hlength] at hnoted
  have hraw : lines.getD i [] = lines[i] := by simp [hi]
  rw [remarkAt, hraw]
  exact hnoted

theorem remarkAt_append_of_lt (detect : Bool) (more : List (List Char)) (hi : i < lines.length) :
    remarkAt detect (lines ++ more) i = remarkAt detect lines i := by
  rw [remarkAt, remarkAt, List.take_append_of_le_length (Nat.le_of_lt hi),
    getD_append_of_lt lines more hi]

theorem notes_eq (detect : Bool) (lines : List (List Char)) : Scan.start.notes detect lines =
    (List.range lines.length).flatMap fun i =>
      .reading (String.ofList (text lines i)) :: (remarkAt detect lines i).toList := by
  induction lines using List.reverseRecOn with
  | nil => rfl
  | append_singleton lines raw ih =>
      have hraw : (lines ++ [raw]).getD lines.length [] = raw := getD_append_length lines raw
      rw [Scan.notes_append_singleton, List.length_append, List.length_singleton, List.range_succ,
        List.flatMap_append, List.flatMap_singleton, ih]
      congr 1
      · refine List.flatMap_congr fun i hi => ?_
        have hlt := List.mem_range.mp hi
        rw [text_append_of_lt lines [raw] hlt, remarkAt_append_of_lt detect [raw] hlt]
      · rw [Scan.noted, text, remarkAt, hraw, List.take_left]

-- A header with a blank line below it before any other header.
def MeetsBlank (detect : Bool) (lines : List (List Char)) (h : Nat) : Prop :=
  ∃ b, h < b ∧ b < lines.length ∧ IsBlank lines b ∧ ∀ j, h < j → j < b → ¬IsHeader detect lines j

theorem meetsBlank_append_iff (hh : h < lines.length) : MeetsBlank detect (lines ++ [raw]) h ↔
    MeetsBlank detect lines h ∨ IsBlank (lines ++ [raw]) lines.length ∧
      ∀ j, h < j → j < lines.length → ¬IsHeader detect lines j := by
  constructor
  · rintro ⟨b, hb, hlast, hblank, hnone⟩
    rw [List.length_append, List.length_singleton, Nat.lt_succ_iff_lt_or_eq] at hlast
    rcases hlast with hlt | rfl
    · refine .inl ⟨b, hb, hlt, (isBlank_append_of_lt lines [raw] hlt).mp hblank, fun j hj hjb => ?_⟩
      rw [← isHeader_append_of_lt detect lines [raw] (by omega)]
      exact hnone j hj hjb
    · refine .inr ⟨hblank, fun j hj hjb => ?_⟩
      rw [← isHeader_append_of_lt detect lines [raw] hjb]
      exact hnone j hj hjb
  · rintro (⟨b, hb, hlt, hblank, hnone⟩ | ⟨hblank, hnone⟩)
    · refine ⟨b, hb, by simp only [List.length_append]; omega,
        (isBlank_append_of_lt lines [raw] hlt).mpr hblank, fun j hj hjb => ?_⟩
      rw [isHeader_append_of_lt detect lines [raw] (by omega)]
      exact hnone j hj hjb
    · refine ⟨lines.length, hh, by simp, hblank, fun j hj hjb => ?_⟩
      rw [isHeader_append_of_lt detect lines [raw] hjb]
      exact hnone j hj hjb

-- A rule that still takes lines has met no blank line.
theorem not_meetsBlank_of_reaches (hreaches : Reaches detect lines h lines.length) :
    ¬MeetsBlank detect lines h := by
  rintro ⟨b, hb, hlt, hblank, -⟩
  exact (hreaches b hb hlt).1 hblank

-- A rule that takes no lines any more has met a blank line or a header.
theorem meetsBlank_of_not_reaches (hnot : ¬Reaches detect lines h lines.length)
    (hnone : ∀ j, h < j → j < lines.length → ¬IsHeader detect lines j) :
    MeetsBlank detect lines h := by
  by_contra hmeets
  refine hnot fun j hj hlt => ⟨fun hblank => hmeets ?_, hnone j hj hlt⟩
  exact ⟨j, hj, hlt, hblank, fun k hk hkj => hnone k hk (by omega)⟩

theorem meetsBlank_append_of_not_reaches (hh : h < lines.length)
    (hnot : ¬Reaches detect lines h lines.length) :
    MeetsBlank detect (lines ++ [raw]) h ↔ MeetsBlank detect lines h := by
  rw [meetsBlank_append_iff hh, or_iff_left_of_imp]
  rintro ⟨-, hnone⟩
  exact meetsBlank_of_not_reaches hnot hnone

theorem meetsBlank_append_of_reaches (hh : h < lines.length)
    (hreaches : Reaches detect lines h lines.length) :
    MeetsBlank detect (lines ++ [raw]) h ↔ IsBlank (lines ++ [raw]) lines.length := by
  rw [meetsBlank_append_iff hh, or_iff_right (not_meetsBlank_of_reaches hreaches),
    and_iff_left fun j hj hlt => (hreaches j hj hlt).2]

theorem not_meetsBlank_last : ¬MeetsBlank detect (lines ++ [raw]) lines.length := by
  rintro ⟨b, hb, hlt, -⟩
  simp only [List.length_append, List.length_singleton] at hlt
  omega

open scoped Classical in
-- The headers of the rules that a blank line closes.
noncomputable def closings (detect : Bool) (lines : List (List Char)) : List Nat :=
  (places lines (IsHeader detect lines)).filter fun h => MeetsBlank detect lines h

open scoped Classical in
theorem closings_append {past present : List Nat}
    (hheaders : places lines (IsHeader detect lines) = past ++ present)
    (hpast : ∀ h ∈ past, ¬Reaches detect lines h lines.length)
    (hpresent : ∀ h ∈ present, Reaches detect lines h lines.length) :
    closings detect (lines ++ [raw]) = closings detect lines ++
      if IsBlank (lines ++ [raw]) lines.length then present else [] := by
  obtain ⟨hpastlt, hpresentlt⟩ := headers_lt hheaders
  have hkept : past.filter (fun h => decide (MeetsBlank detect (lines ++ [raw]) h)) =
      past.filter fun h => decide (MeetsBlank detect lines h) :=
    List.filter_congr fun h hm => by
      simp only [meetsBlank_append_of_not_reaches (hpastlt h hm) (hpast h hm)]
  have hnone : present.filter (fun h => decide (MeetsBlank detect lines h)) = [] :=
    List.filter_eq_nil_iff.mpr fun h hm => by
      simp [not_meetsBlank_of_reaches (hpresent h hm)]
  have hclosed : present.filter (fun h => decide (MeetsBlank detect (lines ++ [raw]) h)) =
      if IsBlank (lines ++ [raw]) lines.length then present else [] := by
    have hall : present.filter (fun h => decide (MeetsBlank detect (lines ++ [raw]) h)) =
        present.filter fun _ => decide (IsBlank (lines ++ [raw]) lines.length) :=
      List.filter_congr fun h hm => by
        simp only [meetsBlank_append_of_reaches (hpresentlt h hm) (hpresent h hm)]
    rw [hall]
    by_cases hblank : IsBlank (lines ++ [raw]) lines.length <;> simp [hblank]
  rw [closings, closings, places_append raw fun i hi => isHeader_append_of_lt detect lines [raw] hi,
    List.filter_append, hheaders, List.filter_append, List.filter_append, hkept, hclosed, hnone]
  split <;> simp [not_meetsBlank_last]

-- A remark that a blank line closes a rule comes from a blank line under an open rule.
theorem closed?_noted (detect : Bool) (lines : List (List Char)) (raw : List Char) :
    ((Scan.ofLines detect lines).noted detect raw).filterMap Note.closed? =
      if trim raw = [] then (Scan.ofLines detect lines).current.toList.map (·.targets) else [] := by
  rw [Scan.filterMap_noted _ _ _ _ fun _ => rfl]
  have hkind : Line.Kind _ (trim raw) ((Scan.ofLines detect lines).lineOf detect raw) :=
    Line.kind_ofText _ (trim raw)
  generalize (Scan.ofLines detect lines).lineOf detect raw = line at hkind
  cases hkind with
  | blank hb =>
      rw [if_pos hb]
      cases hcurrent : (Scan.ofLines detect lines).current <;>
        simp [Scan.remark?, hcurrent, Note.closed?]
  | comment hc =>
      have hb : trim raw ≠ [] := fun hb => by simp [hb] at hc
      simp [hb, Scan.remark?, Note.closed?]
  | definition found hb => simp [hb, Scan.remark?, Note.closed?]
  | header found hb => simp [hb, Scan.remark?, Note.closed?]
  | other hb =>
      cases hcurrent : (Scan.ofLines detect lines).current <;>
        simp [hb, Scan.remark?, hcurrent, Note.closed?]

theorem forall_hasTargets_closings (detect : Bool) (lines : List (List Char)) :
    List.Forall₂ (fun h targets => HasTargets lines targets h) (closings detect lines)
      ((Scan.start.notes detect lines).filterMap Note.closed?) := by
  induction lines using List.reverseRecOn with
  | nil => exact .nil
  | append_singleton lines raw ih =>
      obtain ⟨past, present, hheaders, -, hrules, hpast, hpresent⟩ :=
        (tracks_ofLines detect lines).rules
      obtain ⟨-, hpresentlt⟩ := headers_lt hheaders
      rw [closings_append hheaders hpast hpresent, Scan.notes_append_singleton,
        List.filterMap_append, closed?_noted]
      have hold : List.Forall₂ (fun h targets => HasTargets (lines ++ [raw]) targets h)
          (closings detect lines) ((Scan.start.notes detect lines).filterMap Note.closed?) := by
        have hboth := (List.forall₂_and_left _ _).mpr
          ⟨fun h hm => (mem_places.mp (List.mem_of_mem_filter hm)).1, ih⟩
        exact hboth.imp fun h targets ⟨hlt, htargets⟩ =>
          (hasTargets_append_of_lt [raw] hlt).mpr htargets
      have hnew : List.Forall₂ (fun h targets => HasTargets (lines ++ [raw]) targets h) present
          ((Scan.ofLines detect lines).current.toList.map (·.targets)) := by
        rw [List.forall₂_map_right_iff]
        have hboth := (List.forall₂_and_left _ _).mpr ⟨hpresentlt, hrules⟩
        exact hboth.imp fun h rule ⟨hlt, hrule⟩ =>
          (hasTargets_append_of_lt [raw] hlt).mpr ⟨_, hrule.header⟩
      have hblank : IsBlank (lines ++ [raw]) lines.length ↔ trim raw = [] := by
        rw [IsBlank, text, getD_append_length]
      by_cases hraw : trim raw = []
      · rw [if_pos (hblank.mpr hraw), if_pos hraw]
        exact List.rel_append hold hnew
      · rw [if_neg (fun hb => hraw (hblank.mp hb)), if_neg hraw]
        exact List.rel_append hold .nil

theorem hasTargets_unique (lines : List (List Char)) :
    Relator.RightUnique fun h targets => HasTargets lines targets h := by
  rintro h targets targets' ⟨_, hheader⟩ ⟨_, hheader'⟩
  have hsame := hheader.symm.trans hheader'
  rw [Option.some.injEq, Header.mk.injEq] at hsame
  exact hsame.1

end Places

open scoped Classical in
-- The rules whose headers are among those with a property, by the targets of each.
theorem forall_hasTargets_of_rules {detect : Bool} {lines : List (List Char)} {headers : List Nat}
    {rules : List Rule} (kind : Nat → Prop)
    (hrules : List.Forall₂ (IsRule detect lines) headers rules) :
    List.Forall₂ (fun h targets => HasTargets lines targets h) (headers.filter fun h => kind h)
      (((headers.zip rules).filter fun entry => kind entry.1).map (·.2.targets)) := by
  induction hrules with
  | nil => exact .nil
  | @cons h rule headers rules hrule _ ih =>
      rw [List.zip_cons_cons, List.filter_cons, List.filter_cons]
      by_cases hkind : kind h
      · simp only [hkind, decide_true, if_true, List.map_cons]
        exact .cons ⟨_, hrule.header⟩ ih
      · simpa only [hkind, decide_false, Bool.false_eq_true, if_false] using ih

end Outline

-- What is said in these words, record by record.
def Record.spoken (words : String) (records : List Record) : List String :=
  (records.map (·.message)).filter fun message => words.toList.isPrefixOf message.toList

-- Records in some words are those of one kind of remark if its messages begin with them and no
-- others do.
theorem Makefile.spoken_records {α : Type} (options : ParseOptions) (file words : String)
    {kind? : Note → Option α} {say : α → String}
    (hwords : ∀ note : Note,
      words.toList.isPrefixOf note.message.toList = (kind? note).isSome)
    (hsay : ∀ note about, kind? note = some about → note.message = say about) :
    Record.spoken words (records options file) = ((notes options file).filterMap kind?).map say := by
  rw [Record.spoken, records, List.map_map]
  induction notes options file with
  | nil => rfl
  | cons note notes ih =>
      rw [List.map_cons, List.filter_cons, ih, List.filterMap_cons]
      simp only [Function.comp_apply, hwords]
      cases hkind : kind? note with
      | none => rfl
      | some about => simp [hsay note about hkind]

namespace Note

-- No kind of remark begins with the words of another.
theorem opens_words (note : Note) :
    "  line opens rule '".toList.isPrefixOf note.message.toList = note.opened?.isSome := by
  unfold message
  cases note <;> simp [opened?, List.isPrefixOf]

theorem blankCloses_words (note : Note) :
    "  blank line closes rule '".toList.isPrefixOf note.message.toList = note.closed?.isSome := by
  unfold message
  cases note <;> simp [closed?, List.isPrefixOf]

theorem defines_words (note : Note) :
    "  line defines variable '".toList.isPrefixOf note.message.toList = note.defined?.isSome := by
  unfold message
  cases note <;> simp [defined?, List.isPrefixOf]

theorem partOfRule_words (note : Note) :
    "  line is part of the rule".toList.isPrefixOf note.message.toList = note.part?.isSome := by
  unfold message
  cases note <;> simp [part?, List.isPrefixOf]

variable {note : Note}

theorem eq_opens {targets : Targets} (hopened : note.opened? = some targets) :
    note = .opens targets := by
  cases note <;> simp_all [opened?]

theorem eq_blankCloses {targets : Targets} (hclosed : note.closed? = some targets) :
    note = .blankCloses targets := by
  cases note <;> simp_all [closed?]

theorem eq_defines {name : String} (hdefined : note.defined? = some name) :
    note = .defines name := by
  cases note <;> simp_all [defined?]

theorem eq_partOfRule {about : Unit} (hpart : note.part? = some about) : note = .partOfRule := by
  cases note <;> simp_all [part?]

end Note

open Outline

-- Where definitions are not looked for, none are found.
theorem Scan.definitions_undetected (lines : List (List Char)) :
    (Scan.ofLines false lines).definitions = [] := by
  have hnone : places lines (IsDefinition false lines) = [] :=
    List.eq_nil_iff_forall_not_mem.mpr fun i hi =>
      not_isDefinition_undetected (mem_places.mp hi).2
  have hfound := (tracks_ofLines false lines).definitions
  rw [hnone] at hfound
  exact List.forall₂_nil_left_iff.mp hfound

theorem Makefile.definitions_parse (options : ParseOptions) (file : String) :
    (parse options file).definitions.getD [] =
      (Scan.ofLines options.detectDefinitions (physicalLines file)).definitions := by
  rw [Scan.parse_eq_toMakefile, Scan.toMakefile]
  cases hdetect : options.detectDefinitions with
  | false => simp [Scan.definitions_undetected]
  | true => rfl

open scoped Classical in
-- The log of a scan says what was recovered and nothing else. Each line is announced and then told
-- apart from the others, save for a blank line outside of rules. A rule is named when it is opened,
-- and named again only if a blank line closes it, not by the next header nor by the end.
theorem records_account_for_parse (options : ParseOptions) (file : String) :
    let detect := options.detectDefinitions
    let lines := physicalLines file
    let makefile := Makefile.parse options file
    let records := Makefile.records options file
    let level := if options.verbose then Level.debug else Level.trace
    let headers := places lines (IsHeader detect lines)
    (∃ remarks : Nat → Option Note,
      (∀ i < lines.length, IsNoted detect lines i (remarks i) ∧
        (remarks i = none ↔ IsBlank lines i ∧ ¬IsOpen detect lines i)) ∧
      records = (List.range lines.length).flatMap fun i =>
        ⟨level, .scan, "parsing '" ++ String.ofList (text lines i) ++ "'"⟩ ::
          (remarks i).toList.map fun note => ⟨level, .scan, note.message⟩) ∧
    List.Forall₂ (IsRule detect lines) headers makefile.rules ∧
    Record.spoken "  line opens rule '" records =
      makefile.rules.map (fun rule => "  line opens rule '" ++ rule.targets.text ++ "'") ∧
    (Record.spoken "  line is part of the rule" records).length =
      (makefile.rules.flatMap fun rule => rule.recipe).length ∧
    Record.spoken "  line defines variable '" records =
      (makefile.definitions.getD []).map
        (fun definition => "  line defines variable '" ++ definition.name ++ "'") ∧
    Record.spoken "  blank line closes rule '" records =
      ((headers.zip makefile.rules).filter fun entry => MeetsBlank detect lines entry.1).map
        fun entry => "  blank line closes rule '" ++ entry.2.targets.text ++ "'" := by
  intro detect lines makefile records level headers
  have hrules : List.Forall₂ (IsRule detect lines) headers makefile.rules :=
    (reads_parse options file).rules
  have htold : (Scan.ofLines detect lines).Told (Makefile.notes options file) :=
    Scan.told_ofLines detect lines
  refine ⟨⟨remarkAt detect lines, fun i hi => ?_, ?_⟩, hrules, ?_, ?_, ?_, ?_⟩
  · have hnoted : IsNoted detect lines i (remarkAt detect lines i) := isNoted_remarkAt hi
    exact ⟨hnoted, hnoted.eq_none_iff⟩
  · have hnotes : Makefile.notes options file = _ := notes_eq detect lines
    have hlevel : options.level = level := rfl
    simp only [records, Makefile.records, hnotes, List.map_flatMap, List.map_cons, hlevel]
    rfl
  · have hspoken := Makefile.spoken_records options file _ Note.opens_words
      fun note targets hopened => congrArg Note.message (Note.eq_opens hopened)
    rw [hspoken, htold.opened, List.map_map]
    rfl
  · have hspoken := Makefile.spoken_records options file _ Note.partOfRule_words
      fun note _ hpart => congrArg Note.message (Note.eq_partOfRule hpart)
    rw [hspoken, List.length_map, htold.parts]
    rfl
  · have hspoken := Makefile.spoken_records options file _ Note.defines_words
      fun note name hdefined => congrArg Note.message (Note.eq_defines hdefined)
    rw [hspoken, htold.defined, Makefile.definitions_parse, List.map_map]
    rfl
  · have hspoken := Makefile.spoken_records options file _ Note.blankCloses_words
      fun note targets hclosed => congrArg Note.message (Note.eq_blankCloses hclosed)
    have hclosings : (Makefile.notes options file).filterMap Note.closed? =
        ((headers.zip makefile.rules).filter fun entry => MeetsBlank detect lines entry.1).map
          (·.2.targets) :=
      (hasTargets_unique lines).forall₂ (forall_hasTargets_closings detect lines)
        (forall_hasTargets_of_rules (MeetsBlank detect lines) hrules)
    rw [hspoken, hclosings, List.map_map]
    rfl

-- Under the tab an assignment is part of the rule, and below the blank lines it defines.
theorem records_account_for_parse_tab :
    let file := "a:\n\tX=1\n\n\nX=2\na b:"
    let records := Makefile.records ⟨true, false⟩ file
    1 < (physicalLines file).length ∧
      (∃ remark, IsNoted true (physicalLines file) 1 (some remark)) ∧
      Record.spoken "  line opens rule '" records =
        ["  line opens rule 'a'", "  line opens rule 'a b'"] ∧
      (Record.spoken "  line is part of the rule" records).length = 1 ∧
      Record.spoken "  line defines variable '" records = ["  line defines variable 'X'"] := by
  intro file records
  have hlength : 1 < (physicalLines file).length := by decide
  have hnot : ¬IsBlank (physicalLines file) 1 := by
    rw [IsBlank]
    decide
  have hrules : (Makefile.parse ⟨true, false⟩ file).rules =
      [⟨.single "a", [], ["X=1"]⟩, ⟨.multiple ["a", "b"], [], []⟩] := by decide
  have hdefinitions : (Makefile.parse ⟨true, false⟩ file).definitions = some [⟨"X", "2"⟩] := by
    decide
  obtain ⟨⟨remarks, hremarks, -⟩, -, hopens, hparts, hdefines, -⟩ :=
    records_account_for_parse ⟨true, false⟩ file
  obtain ⟨hnoted, hsilent⟩ := hremarks 1 hlength
  obtain ⟨remark, hremark⟩ : ∃ remark, remarks 1 = some remark :=
    Option.ne_none_iff_exists'.mp fun hnone => hnot (hsilent.mp hnone).1
  rw [hremark] at hnoted
  rw [hrules] at hopens hparts
  rw [hdefinitions] at hdefines
  exact ⟨hlength, ⟨remark, hnoted⟩, hopens.trans (by decide), hparts, hdefines.trans (by decide)⟩

end MakeCheck
