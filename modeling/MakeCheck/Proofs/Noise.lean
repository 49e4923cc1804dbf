import Mathlib.Data.List.Forall2
import Mathlib.Logic.Relation
import MakeCheck.Proofs.Growth

namespace MakeCheck

open Text

namespace Text

section SplitOn

variable {α : Type} [BEq α] [LawfulBEq α] {sep : α}

-- What is written at the end joins the last piece.
theorem exists_splitOn_append (sep : α) (s : List α) :
    ∃ front last, ∀ more, sep ∉ more → (s ++ more).splitOn sep = front ++ [last ++ more] := by
  induction s with
  | nil => exact ⟨[], [], fun more hmore => List.splitOn_eq_singleton hmore⟩
  | cons x s ih =>
      obtain ⟨front, last, hsplit⟩ := ih
      by_cases hx : x = sep
      · refine ⟨[] :: front, last, fun more hmore => ?_⟩
        rw [List.cons_append, List.splitOn_cons_eq_if_modifyHead, if_pos (by simpa using hx),
          hsplit more hmore, List.cons_append]
      · cases front with
        | nil =>
            refine ⟨[], x :: last, fun more hmore => ?_⟩
            rw [List.cons_append, List.splitOn_cons_eq_if_modifyHead, if_neg (by simpa using hx),
              hsplit more hmore]
            rfl
        | cons piece front =>
            refine ⟨(x :: piece) :: front, last, fun more hmore => ?_⟩
            rw [List.cons_append, List.splitOn_cons_eq_if_modifyHead, if_neg (by simpa using hx),
              hsplit more hmore]
            rfl

end SplitOn

end Text

-- Blanks that do not end a line.
def IsGap (gap : String) : Prop :=
  ∀ c ∈ gap.toList, isBlank c = true ∧ c ≠ '\n'

-- What a text may gain without a trace: a carriage return anywhere, blanks among those that a line
-- ends with, and a line feed at the very end.
inductive Noise : String → String → Prop
  | carriageReturn (front rest : String) : Noise (front ++ rest) (front ++ "\r" ++ rest)
  | lineEnd (front gap more rest : String) (hgap : IsGap gap) (hmore : IsGap more)
      (hrest : rest = "" ∨ ∃ below, rest = "\n" ++ below) :
      Noise (front ++ gap ++ rest) (front ++ more ++ gap ++ rest)
  | lineFeed (text : String) : Noise text (text ++ "\n")

-- Two lines that are read in the same way wherever they stand.
structure Alike (raw other : List Char) : Prop where
  trim : trim raw = trim other
  head : Text.trim raw ≠ [] → raw.head? = other.head?

theorem Alike.refl (raw : List Char) : Alike raw raw :=
  ⟨rfl, fun _ => rfl⟩

theorem alike_append (s : List Char) {gap other : List Char}
    (hgap : ∀ c ∈ gap, isBlank c = true) (hother : ∀ c ∈ other, isBlank c = true) :
    Alike (s ++ gap) (s ++ other) := by
  refine ⟨by rw [trim_append_of_isBlank s hgap, trim_append_of_isBlank s hother], fun hne => ?_⟩
  rw [trim_append_of_isBlank s hgap] at hne
  have hs : s ≠ [] := by
    rintro rfl
    exact hne rfl
  rw [List.head?_append_of_ne_nil _ hs, List.head?_append_of_ne_nil _ hs]

namespace Scan

-- A tab in front of nothing makes no difference.
theorem step_of_alike (detect : Bool) (scan : Scan) {raw other : List Char}
    (halike : Alike raw other) : scan.step detect raw = scan.step detect other := by
  by_cases hblank : trim raw = []
  · rw [step_of_trim_eq_nil detect scan hblank,
      step_of_trim_eq_nil detect scan (halike.trim.symm.trans hblank)]
  · rw [step, step, lineOf, lineOf, inRecipe, inRecipe, halike.trim, halike.head hblank]

theorem foldl_step_of_alike (detect : Bool) (scan : Scan) {lines others : List (List Char)}
    (halike : List.Forall₂ Alike lines others) :
    lines.foldl (step detect) scan = others.foldl (step detect) scan := by
  induction halike generalizing scan with
  | nil => rfl
  | cons hline hlines ih => rw [List.foldl_cons, List.foldl_cons, step_of_alike detect scan hline, ih]

end Scan

theorem physicalLines_carriageReturn (front rest : String) :
    physicalLines (front ++ "\r" ++ rest) = physicalLines (front ++ rest) := by
  have hreturn : "\r".toList = ['\r'] := rfl
  rw [physicalLines_eq_splitOn_filter, physicalLines_eq_splitOn_filter]
  simp [hreturn]

theorem forall₂_alike_gap (front : String) {gap other : String} (hgap : IsGap gap)
    (hother : IsGap other) :
    List.Forall₂ Alike (physicalLines (front ++ gap)) (physicalLines (front ++ other)) := by
  obtain ⟨lines, last, hsplit⟩ := exists_splitOn_append '\n' (front.toList.filter (· != '\r'))
  have hlines (gap : String) (hgap : IsGap gap) :
      physicalLines (front ++ gap) = lines ++ [last ++ gap.toList.filter (· != '\r')] := by
    rw [physicalLines_eq_splitOn_filter, String.toList_append, List.filter_append]
    exact hsplit _ fun hmem => (hgap '\n' (List.mem_filter.mp hmem).1).2 rfl
  have hblank (gap : String) (hgap : IsGap gap) :
      ∀ c ∈ gap.toList.filter (· != '\r'), isBlank c = true :=
    fun c hc => (hgap c (List.mem_filter.mp hc).1).1
  rw [hlines gap hgap, hlines other hother]
  exact List.rel_append (List.forall₂_same.mpr fun raw _ => .refl raw)
    (.cons (alike_append last (hblank gap hgap) (hblank other hother)) .nil)

theorem IsGap.append {gap other : String} (hgap : IsGap gap) (hother : IsGap other) :
    IsGap (gap ++ other) := by
  intro c hc
  rw [String.toList_append] at hc
  exact (List.mem_append.mp hc).elim (hgap c) (hother c)

theorem forall₂_alike_lineEnd (front : String) {gap other rest : String} (hgap : IsGap gap)
    (hother : IsGap other) (hrest : rest = "" ∨ ∃ below, rest = "\n" ++ below) :
    List.Forall₂ Alike (physicalLines (front ++ gap ++ rest))
      (physicalLines (front ++ other ++ rest)) := by
  have halike := forall₂_alike_gap front hgap hother
  rcases hrest with rfl | ⟨below, rfl⟩
  · simpa using halike
  · rw [← String.append_assoc, ← String.append_assoc, physicalLines_append, physicalLines_append]
    exact List.rel_append halike (List.forall₂_same.mpr fun raw _ => .refl raw)

-- One edit changes nothing.
theorem Noise.parse_eq {text noisy : String} (hnoise : Noise text noisy) (options : ParseOptions) :
    Makefile.parse options noisy = Makefile.parse options text := by
  rw [Scan.parse_eq_toMakefile, Scan.parse_eq_toMakefile, Scan.ofLines, Scan.ofLines]
  cases hnoise with
  | carriageReturn front rest => rw [physicalLines_carriageReturn]
  | lineEnd front gap more rest hgap hmore hrest =>
      have hassoc : front ++ more ++ gap ++ rest = front ++ (more ++ gap) ++ rest := by
        simp only [String.append_assoc]
      rw [hassoc, Scan.foldl_step_of_alike _ _
        (forall₂_alike_lineEnd front hgap (hmore.append hgap) hrest)]
  | lineFeed =>
      have hempty : physicalLines "" = [[]] := rfl
      have hlines : physicalLines (text ++ "\n") = physicalLines text ++ [[]] := by
        rw [← hempty, ← physicalLines_append, String.append_empty]
      rw [hlines, List.foldl_append, List.foldl_cons, List.foldl_nil,
        Scan.step_of_trim_eq_nil _ _ rfl, Scan.toMakefile_close]

-- The line endings and the blanks before them do not matter, in whatever way they are changed.
theorem parse_of_noise (options : ParseOptions) {text noisy : String}
    (hnoise : Relation.ReflTransGen Noise text noisy) :
    Makefile.parse options noisy = Makefile.parse options text := by
  induction hnoise with
  | refl => rfl
  | tail _ hedit ih => exact (hedit.parse_eq options).trans ih

-- A carriage return in front of the tab of a recipe line, a tab on the blank line below it, and a
-- line feed at the end.
theorem parse_of_noise_tab :
    let text := "a:\n\tls\n\n\tb"
    let noisy := "a:\n\r\tls\n\t\n\tb\n"
    Relation.ReflTransGen Noise text noisy ∧
      Makefile.parse ⟨true, false⟩ noisy = Makefile.parse ⟨true, false⟩ text := by
  intro text noisy
  have htab : IsGap "\t" := by simp [IsGap, isBlank, blanks]
  have hnoise : Relation.ReflTransGen Noise text noisy :=
    .tail (.tail (.single (.carriageReturn "a:\n" "\tls\n\n\tb"))
      (.lineEnd "a:\n\r\tls\n" "" "\t" "\n\tb" (by simp [IsGap]) htab (.inr ⟨"\tb", rfl⟩)))
      (.lineFeed "a:\n\r\tls\n\t\n\tb")
  exact ⟨hnoise, parse_of_noise ⟨true, false⟩ hnoise⟩

end MakeCheck
