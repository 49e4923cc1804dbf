import MakeCheck.Makefile.Line
import MakeCheck.Proofs.Text

namespace MakeCheck

-- A line feed keeps what stands on its two sides apart.
theorem physicalLines_append (text rest : String) :
    physicalLines (text ++ "\n" ++ rest) = physicalLines text ++ physicalLines rest := by
  have hfeed : "\n".toList = ['\n'] := rfl
  simp only [physicalLines, String.toList_append, hfeed, List.append_assoc, List.singleton_append,
    List.splitOn_append_cons_self, List.map_append]

theorem physicalLines_ne_nil (text : String) : physicalLines text ≠ [] := by
  simp [physicalLines, List.splitOn_ne_nil]

theorem mem_of_mem_physicalLines {text : String} {line : List Char}
    (hline : line ∈ physicalLines text) :
    ∀ c ∈ line, c ∈ text.toList ∧ c ≠ '\n' ∧ c ≠ '\r' := by
  obtain ⟨piece, hpiece, rfl⟩ := List.mem_map.mp hline
  intro c hc
  obtain ⟨hc, hreturn⟩ := List.mem_filter.mp hc
  obtain ⟨hmem, hfeed⟩ := Text.mem_and_ne_of_mem_splitOn hpiece c hc
  exact ⟨hmem, hfeed, by simpa using hreturn⟩

theorem physicalLines_eq_splitOn_filter (text : String) :
    physicalLines text = (text.toList.filter (· != '\r')).splitOn '\n' :=
  Text.map_filter_splitOn (by decide) text.toList

-- The lines are what stands between the line feeds once the carriage returns are gone.
theorem eq_physicalLines_iff {text : String} {lines : List (List Char)} :
    lines = physicalLines text ↔ lines ≠ [] ∧ (∀ line ∈ lines, '\n' ∉ line) ∧
      ['\n'].intercalate lines = text.toList.filter (· != '\r') := by
  constructor
  · rintro rfl
    refine ⟨physicalLines_ne_nil text, fun line hline hfeed => ?_, ?_⟩
    · exact (mem_of_mem_physicalLines hline '\n' hfeed).2.1 rfl
    · rw [physicalLines_eq_splitOn_filter, List.intercalate_splitOn]
  · rintro ⟨hne, hlines, hjoin⟩
    rw [physicalLines_eq_splitOn_filter, ← hjoin, List.splitOn_intercalate '\n' hlines hne]

namespace Line

-- What a trimmed line can turn out to be, and when.
inductive Kind (detect : Bool) (text : List Char) : Line → Prop
  | blank (hb : text = []) : Kind detect text .blank
  | comment (hc : text.head? = some '#') : Kind detect text .comment
  | definition (found : VariableDefinition) (hb : text ≠ []) (hc : text.head? ≠ some '#')
      (hd : detect = true) (hf : VariableDefinition.ofLine? text = some found) :
      Kind detect text (.definition found)
  | header (found : Header) (hb : text ≠ []) (hc : text.head? ≠ some '#')
      (hd : detect = true → VariableDefinition.ofLine? text = none)
      (hf : Header.ofLine? text = some found) : Kind detect text (.header found)
  | other (hb : text ≠ []) (hc : text.head? ≠ some '#')
      (hd : detect = true → VariableDefinition.ofLine? text = none)
      (hf : Header.ofLine? text = none) : Kind detect text (.other (String.ofList text))

variable {detect : Bool} {text : List Char}

theorem kind_ofText (detect : Bool) (text : List Char) : Kind detect text (ofText detect text) := by
  unfold ofText
  split
  · rename_i hb
    exact .blank (List.isEmpty_iff.mp hb)
  · rename_i hb
    have hne : text ≠ [] := fun h => hb (List.isEmpty_iff.mpr h)
    split
    · rename_i hc
      exact .comment hc
    · rename_i hc
      split
      · rename_i found hf
        cases detect with
        | false => simp at hf
        | true => exact .definition found hne hc rfl hf
      · rename_i hd
        have hnone : detect = true → VariableDefinition.ofLine? text = none := by
          rintro rfl
          simpa using hd
        split
        · rename_i found hf
          exact .header found hne hc hnone hf
        · rename_i hf
          exact .other hne hc hnone hf

-- A line is of one kind only.
theorem Kind.unique {line other : Line} (hl : Kind detect text line)
    (ho : Kind detect text other) : line = other := by
  cases hl <;> cases ho <;> simp_all

theorem kind_iff {line : Line} : Kind detect text line ↔ ofText detect text = line := by
  constructor
  · exact fun h => (kind_ofText detect text).unique h
  · rintro rfl
    exact kind_ofText detect text

end Line

open Text

theorem isWord_of_isBlank {c : Char} (hc : isBlank c = true) : isWord c = false := by
  have hall : (blanks.all fun b => !isWord b) = true := by decide +kernel
  have hnot := List.all_eq_true.mp hall c (by simpa [isBlank] using hc)
  simpa using hnot

namespace Targets

-- A list of targets is written as it was read.
theorem toList_text_ofText (targets : List Char) : (ofText targets).text.toList = targets := by
  unfold ofText
  split
  · have hmap : ((targets.splitOn ' ').map String.ofList).map String.toList =
        targets.splitOn ' ' := by simp [Function.comp_def]
    rw [text, String.toList_intercalate, hmap]
    exact List.intercalate_splitOn ' '
  · simp [text]

theorem ofText_of_not_mem {targets : List Char} (hspace : ' ' ∉ targets) :
    ofText targets = .single (String.ofList targets) := by
  rw [ofText, if_neg hspace]

theorem ofText_of_mem {targets : List Char} (hspace : ' ' ∈ targets) :
    ofText targets = .multiple ((targets.splitOn ' ').map String.ofList) := by
  rw [ofText, if_pos hspace]

end Targets

namespace Header

-- A character of a name in a header.
def IsNameChar (c : Char) : Prop :=
  isWord c = true ∨ c ∈ ['.', '-', '%', '$', '(', ')', '+']

theorem isHeaderChar_colon : isHeaderChar ':' = false := by
  decide

theorem isHeaderChar_iff {c : Char} : isHeaderChar c = true ↔ IsNameChar c ∨ c = ' ' := by
  simp only [isHeaderChar, IsNameChar, Bool.or_eq_true, List.contains_iff_mem, List.mem_cons,
    List.not_mem_nil, or_false]
  grind

theorem IsNameChar.ne_space {c : Char} (hc : IsNameChar c) : c ≠ ' ' := by
  have hword : isWord ' ' = false := by decide
  rintro rfl
  simp [IsNameChar, hword] at hc

-- A space is the only blank of the class.
theorem IsNameChar.not_isBlank {c : Char} (hc : IsNameChar c) : isBlank c = false := by
  by_contra hblank
  rw [Bool.not_eq_false] at hblank
  have hmarks : (['.', '-', '%', '$', '(', ')', '+'].all fun b => !isBlank b) = true := by decide
  rcases hc with hword | hmark
  · simp [isWord_of_isBlank hblank] at hword
  · have hnot := List.all_eq_true.mp hmarks c hmark
    simp [hblank] at hnot

-- The targets of a header end at its first colon, and no assignment operator may begin there.
theorem ofLine?_eq_some_iff {line : List Char} {header : Header} :
    ofLine? line = some header ↔
      ∃ targets rest, line = targets ++ ':' :: rest ∧ targets ≠ [] ∧
        (∀ c ∈ targets, isHeaderChar c = true) ∧ startsAssignment rest = false ∧
        header = ⟨Targets.ofText targets, prerequisitesOf rest⟩ := by
  constructor
  · intro hf
    unfold ofLine? at hf
    simp only at hf
    split at hf
    · rename_i rest hrest
      split at hf
      · simp at hf
      · rename_i hok
        simp only [Bool.or_eq_true, List.isEmpty_iff, not_or, Bool.not_eq_true] at hok
        refine ⟨_, rest, ?_, hok.1, fun c hc => List.mem_takeWhile_imp hc, hok.2,
          (Option.some.inj hf).symm⟩
        rw [← hrest, List.takeWhile_append_dropWhile]
    · simp at hf
  · rintro ⟨targets, rest, rfl, hne, hall, hstart, rfl⟩
    simp only [ofLine?, takeWhile_eq_of_forall hall rest isHeaderChar_colon,
      dropWhile_eq_of_forall hall rest isHeaderChar_colon]
    simp [hne, hstart]

-- Where the targets are followed by anything but a colon, the line is no header.
theorem ofLine?_eq_none_of_stop {front rest : List Char} {c : Char}
    (hfront : ∀ b ∈ front, isHeaderChar b = true) (hc : isHeaderChar c = false) (hne : c ≠ ':') :
    ofLine? (front ++ c :: rest) = none := by
  simp only [ofLine?, dropWhile_eq_of_forall hfront rest hc]
  split
  · rename_i hcolon
    exact absurd (List.cons.inj hcolon).1 hne
  · rfl

-- Prerequisites are names of their own.
theorem isName_of_mem_prerequisitesOf {rest : List Char} {name : String}
    (hname : name ∈ prerequisitesOf rest) : name ≠ "" ∧ ∀ c ∈ name.toList, IsNameChar c := by
  simp only [prerequisitesOf, List.mem_map, List.mem_filter] at hname
  obtain ⟨piece, ⟨hpiece, hne⟩, rfl⟩ := hname
  constructor
  · simpa [String.ofList_eq_empty_iff] using hne
  · intro c hc
    rw [String.toList_ofList] at hc
    obtain ⟨hmem, hspace⟩ := mem_and_ne_of_mem_splitOn hpiece c hc
    exact (isHeaderChar_iff.mp (List.mem_takeWhile_imp hmem)).resolve_right hspace

end Header

end MakeCheck
