import Mathlib.Data.List.DropRight
import Mathlib.Data.List.TakeWhile
import MakeCheck.Text.Blank

namespace MakeCheck.Text

section Span

variable {α : Type} {p : α → Bool} {x : α}

-- An element that fails the test stops both halves of a span.
theorem takeWhile_append_cons_of_not (front rest : List α) (hx : p x = false) :
    (front ++ x :: rest).takeWhile p = front.takeWhile p := by
  induction front with
  | nil => simp [hx]
  | cons y front ih =>
      by_cases hy : p y <;> simp [hy, ih]

theorem dropWhile_append_cons_of_not (front rest : List α) (hx : p x = false) :
    (front ++ x :: rest).dropWhile p = front.dropWhile p ++ x :: rest := by
  induction front with
  | nil => simp [hx]
  | cons y front ih =>
      by_cases hy : p y <;> simp [hy, ih]

theorem takeWhile_eq_of_forall {front : List α} (hfront : ∀ y ∈ front, p y = true) (rest : List α)
    (hx : p x = false) : (front ++ x :: rest).takeWhile p = front := by
  rw [takeWhile_append_cons_of_not front rest hx, List.takeWhile_eq_self_iff.mpr hfront]

theorem dropWhile_eq_of_forall {front : List α} (hfront : ∀ y ∈ front, p y = true) (rest : List α)
    (hx : p x = false) : (front ++ x :: rest).dropWhile p = x :: rest := by
  rw [dropWhile_append_cons_of_not front rest hx, List.dropWhile_eq_nil_iff.mpr hfront,
    List.nil_append]

theorem eq_of_append_cons_of_forall {front other rest more : List α}
    (hfront : ∀ y ∈ front, p y = true) (hother : ∀ y ∈ other, p y = true) (hx : p x = false)
    (heq : front ++ x :: rest = other ++ x :: more) : front = other ∧ rest = more := by
  have hsame : front = other := by
    rw [← takeWhile_eq_of_forall hfront rest hx, heq, takeWhile_eq_of_forall hother more hx]
  subst hsame
  exact ⟨rfl, (List.cons.inj (List.append_cancel_left heq)).2⟩

-- The longest beginning of a text that passes the test throughout.
structure IsLongestPrefix (p : α → Bool) (front text : List α) : Prop where
  isPrefix : front <+: text
  passes : ∀ y ∈ front, p y = true
  longest : ∀ other, other <+: text → (∀ y ∈ other, p y = true) → other <+: front

theorem isLongestPrefix_takeWhile (p : α → Bool) (text : List α) :
    IsLongestPrefix p (text.takeWhile p) text where
  isPrefix := List.takeWhile_prefix p
  passes _ hy := List.mem_takeWhile_imp hy
  longest other hprefix hother := by
    obtain ⟨rest, rfl⟩ := hprefix
    rw [List.takeWhile_append_of_pos hother]
    exact List.prefix_append _ _

end Span

section SplitOn

variable {α : Type} [BEq α] [LawfulBEq α] {sep : α} {s piece : List α}

-- A piece holds elements of the whole and none of the marks between the pieces.
theorem mem_and_ne_of_mem_splitOn (hpiece : piece ∈ s.splitOn sep) :
    ∀ c ∈ piece, c ∈ s ∧ c ≠ sep := by
  induction s generalizing piece with
  | nil =>
      rw [List.splitOn_nil, List.mem_singleton] at hpiece
      simp [hpiece]
  | cons x s ih =>
      rw [List.splitOn_cons_eq_if_modifyHead] at hpiece
      split at hpiece
      · rcases List.mem_cons.mp hpiece with rfl | hrest
        · simp
        · exact fun c hc => ⟨List.mem_cons_of_mem _ (ih hrest c hc).1, (ih hrest c hc).2⟩
      · rename_i hx
        obtain ⟨first, rest, hsplit⟩ := List.exists_cons_of_ne_nil (List.splitOn_ne_nil sep s)
        rw [hsplit, List.modifyHead_cons] at hpiece
        rw [hsplit] at ih
        rcases List.mem_cons.mp hpiece with rfl | hrest
        · intro c hc
          rcases List.mem_cons.mp hc with rfl | hc
          · exact ⟨List.mem_cons_self, by simpa using hx⟩
          · have hmem := ih List.mem_cons_self c hc
            exact ⟨List.mem_cons_of_mem _ hmem.1, hmem.2⟩
        · have hmem := ih (List.mem_cons_of_mem _ hrest)
          exact fun c hc => ⟨List.mem_cons_of_mem _ (hmem c hc).1, (hmem c hc).2⟩

-- What is left out of a text leaves its pieces, as long as the marks between them stay.
theorem map_filter_splitOn {p : α → Bool} (hsep : p sep = true) (s : List α) :
    (s.splitOn sep).map (List.filter p) = (s.filter p).splitOn sep := by
  induction s with
  | nil => simp
  | cons x s ih =>
      obtain ⟨first, rest, hsplit⟩ := List.exists_cons_of_ne_nil (List.splitOn_ne_nil sep s)
      rw [hsplit, List.map_cons] at ih
      rw [List.splitOn_cons_eq_if_modifyHead, hsplit]
      by_cases hx : x = sep
      · rw [if_pos (by simpa using hx), List.filter_cons_of_pos (by rw [hx, hsep]),
          List.splitOn_cons_eq_if_modifyHead, if_pos (by simpa using hx), ← ih]
        rfl
      · rw [if_neg (by simpa using hx), List.modifyHead_cons, List.map_cons]
        by_cases hp : p x = true
        · rw [List.filter_cons_of_pos hp, List.filter_cons_of_pos hp,
            List.splitOn_cons_eq_if_modifyHead, if_neg (by simpa using hx), ← ih,
            List.modifyHead_cons]
        · rw [List.filter_cons_of_neg hp, List.filter_cons_of_neg hp, ih]

-- The first piece begins as the whole does.
theorem ne_nil_of_mem_head?_splitOn {c : α} (hc : c ≠ sep)
    (hpiece : piece ∈ ((c :: s).splitOn sep).head?) : piece ≠ [] := by
  obtain ⟨first, rest, hsplit⟩ := List.exists_cons_of_ne_nil (List.splitOn_ne_nil sep s)
  rw [List.splitOn_cons_eq_if_modifyHead, if_neg (by simpa using hc), hsplit,
    List.modifyHead_cons] at hpiece
  rintro rfl
  simp at hpiece

omit [LawfulBEq α] in
-- Each mark makes one more piece.
theorem length_splitOn (sep : α) (s : List α) : (s.splitOn sep).length = s.count sep + 1 := by
  induction s with
  | nil => rfl
  | cons x s ih =>
      rw [List.splitOn_cons_eq_if_modifyHead, List.count_cons]
      split
      · rw [List.length_cons, ih]
      · rw [List.length_modifyHead, ih, Nat.add_zero]

theorem two_le_length_splitOn (hs : sep ∈ s) : 2 ≤ (s.splitOn sep).length := by
  rw [length_splitOn]
  exact Nat.succ_le_succ (List.count_pos_iff.mpr hs)

end SplitOn

section Trim

-- No blank stands at either end.
def Trimmed (s : List Char) : Prop :=
  (∀ c ∈ s.head?, isBlank c = false) ∧ ∀ c ∈ s.getLast?, isBlank c = false

theorem trimmed_nil : Trimmed [] := by
  simp [Trimmed]

theorem trimEnd_eq_rdropWhile (s : List Char) : trimEnd s = s.rdropWhile isBlank :=
  rfl

theorem mem_of_mem_trim {s : List Char} {c : Char} (hc : c ∈ trim s) : c ∈ s :=
  (List.dropWhile_sublist _).subset ((List.rdropWhile_prefix isBlank _).subset hc)

theorem head?_trimEnd {s : List Char} (hs : trimEnd s ≠ []) : (trimEnd s).head? = s.head? := by
  obtain ⟨rest, hrest⟩ := List.rdropWhile_prefix isBlank s
  rw [← trimEnd_eq_rdropWhile] at hrest
  conv_rhs => rw [← hrest, List.head?_append_of_ne_nil _ hs]

theorem not_isBlank_of_head?_dropWhile {s : List Char} {c : Char}
    (hc : (s.dropWhile isBlank).head? = some c) : isBlank c = false := by
  have hnot := List.head?_dropWhile_not isBlank s
  rwa [hc] at hnot

theorem trimmed_trim (s : List Char) : Trimmed (trim s) := by
  constructor
  · intro c hc
    have hne : trim s ≠ [] := by
      intro h
      simp [h] at hc
    exact not_isBlank_of_head?_dropWhile ((head?_trimEnd hne).symm.trans hc)
  · intro c hc
    rw [trim, trimEnd, List.getLast?_reverse] at hc
    exact not_isBlank_of_head?_dropWhile hc

theorem trimStart_of_trimmed {s : List Char} (hs : Trimmed s) : trimStart s = s := by
  cases s with
  | nil => rfl
  | cons c rest => exact List.dropWhile_cons_of_neg (by simp [hs.1 c (by simp)])

theorem trimEnd_of_trimmed {s : List Char} (hs : Trimmed s) : trimEnd s = s := by
  rw [trimEnd_eq_rdropWhile, List.rdropWhile_eq_self_iff]
  intro hne
  simp [hs.2 _ (List.getLast?_eq_some_getLast hne)]

theorem trim_of_trimmed {s : List Char} (hs : Trimmed s) : trim s = s := by
  rw [trim, trimStart_of_trimmed hs, trimEnd_of_trimmed hs]

theorem trim_cons_of_isBlank {c : Char} (s : List Char) (hc : isBlank c = true) :
    trim (c :: s) = trim s := by
  rw [trim, trim, trimStart, List.dropWhile_cons_of_pos hc, ← trimStart]

theorem trim_append_of_forall {gap : List Char} (s : List Char)
    (hgap : ∀ c ∈ gap, isBlank c = true) : trim (gap ++ s) = trim s := by
  induction gap with
  | nil => rfl
  | cons c gap ih =>
      obtain ⟨hc, hrest⟩ := List.forall_mem_cons.mp hgap
      rw [List.cons_append, trim_cons_of_isBlank _ hc, ih hrest]

theorem trimEnd_append_of_isBlank (s : List Char) {gap : List Char}
    (hgap : ∀ c ∈ gap, isBlank c = true) : trimEnd (s ++ gap) = trimEnd s := by
  have hreverse : gap.reverse.dropWhile isBlank = [] := by
    rw [List.dropWhile_eq_nil_iff]
    exact fun c hc => hgap c (List.mem_reverse.mp hc)
  rw [trimEnd, List.reverse_append, List.dropWhile_append, hreverse]
  rfl

theorem trim_append_of_isBlank (s : List Char) {gap : List Char}
    (hgap : ∀ c ∈ gap, isBlank c = true) : trim (s ++ gap) = trim s := by
  have hnil : gap.dropWhile isBlank = [] := List.dropWhile_eq_nil_iff.mpr hgap
  rw [trim, trim, trimStart, trimStart, List.dropWhile_append, hnil]
  split
  · rename_i hempty
    rw [List.isEmpty_iff.mp hempty]
  · exact trimEnd_append_of_isBlank _ hgap

theorem trimmed_of_forall {s : List Char} (hs : ∀ c ∈ s, isBlank c = false) : Trimmed s :=
  ⟨fun c hc => hs c (List.mem_of_mem_head? hc), fun c hc => hs c (List.mem_of_mem_getLast? hc)⟩

-- What stands before a character that is no blank is safe from trimming at the end.
theorem trimEnd_append_cons (front rest : List Char) {c : Char} (hc : isBlank c = false) :
    trimEnd (front ++ c :: rest) = front ++ c :: trimEnd rest := by
  simp only [trimEnd, List.reverse_append, List.reverse_cons, List.append_assoc,
    List.singleton_append, dropWhile_append_cons_of_not _ _ hc, List.reverse_reverse]

theorem trim_cons_append_cons (front rest : List Char) {first c : Char}
    (hfirst : isBlank first = false) (hc : isBlank c = false) :
    trim (first :: front ++ c :: rest) = first :: front ++ c :: trimEnd rest := by
  have hstart : trimStart (first :: front ++ c :: rest) = first :: front ++ c :: rest :=
    List.dropWhile_cons_of_neg (by simp [hfirst])
  rw [trim, hstart, trimEnd_append_cons _ _ hc]

theorem trimEnd_cons_of_trimmed {s : List Char} (hs : Trimmed s) (hne : s ≠ []) (b : Char) :
    trimEnd (b :: s) = b :: s := by
  have hsplit := List.dropLast_append_getLast hne
  have hlast : isBlank (s.getLast hne) = false := hs.2 _ (List.getLast?_eq_some_getLast hne)
  have htrim := trimEnd_append_cons (b :: s.dropLast) [] hlast
  have hnil : trimEnd [] = [] := rfl
  rwa [hnil, List.cons_append, hsplit] at htrim

theorem Trimmed.append_cons {s rest : List Char} (hs : Trimmed s) (hrest : Trimmed rest)
    (hne : s ≠ []) (hrestne : rest ≠ []) (b : Char) : Trimmed (s ++ b :: rest) := by
  constructor
  · intro c hc
    rw [List.head?_append_of_ne_nil _ hne] at hc
    exact hs.1 c hc
  · intro c hc
    rw [List.getLast?_append_of_ne_nil _ (by simp), List.getLast?_cons_of_ne_nil hrestne] at hc
    exact hrest.2 c hc

-- In ASCII the blanks end with the space.
theorem isBlank_of_bounds {c : Char} (hlow : 0x20 < c.toNat) (hhigh : c.toNat < 0x80) :
    isBlank c = false := by
  have hall : (blanks.all fun b => decide (b.toNat ≤ 0x20 ∨ 0x80 ≤ b.toNat)) = true := by decide
  by_contra hc
  have hout := List.all_eq_true.mp hall c (by simpa [isBlank] using hc)
  have := of_decide_eq_true hout
  omega

theorem trim_eq_nil_of_forall {s : List Char} (hs : ∀ c ∈ s, isBlank c = true) : trim s = [] := by
  have hstart : trimStart s = [] := List.dropWhile_eq_nil_iff.mpr hs
  rw [trim, hstart]
  rfl

end Trim

section Fragment

-- The stretch from `start` up to `stop` holds no space.
def IsFree (text : List Char) (start stop : Nat) : Prop :=
  stop ≤ text.length ∧ ∀ i, start ≤ i → i < stop → text[i]? ≠ some ' '

-- A stretch without spaces that is part of no longer one.
structure IsFragment (text : List Char) (start stop : Nat) : Prop where
  nonempty : start < stop
  free : IsFree text start stop
  maximal : ∀ first last, first ≤ start → stop ≤ last → IsFree text first last →
    first = start ∧ last = stop

-- The pieces are the fragments of the text in their order.
def Fragments (text : List Char) (pieces : List (List Char)) : Prop :=
  ∃ spans : List (Nat × Nat), spans.Pairwise (fun before after => before.2 < after.1) ∧
    (∀ start stop, (start, stop) ∈ spans ↔ IsFragment text start stop) ∧
    pieces = spans.map fun span => (text.drop span.1).take (span.2 - span.1)

variable {text front rest : List Char} {start stop : Nat}

-- What ends a fragment is a space or an end of the text.
theorem isFragment_iff : IsFragment text start stop ↔ start < stop ∧ IsFree text start stop ∧
    (∀ i, i + 1 = start → text[i]? = some ' ') ∧ (stop < text.length → text[stop]? = some ' ') := by
  constructor
  · rintro ⟨hlt, ⟨hstop, hfree⟩, hmaximal⟩
    refine ⟨hlt, ⟨hstop, hfree⟩, fun i hi => ?_, fun hlast => ?_⟩
    · by_contra hspace
      have hlonger : IsFree text i stop := by
        refine ⟨hstop, fun j hj hjstop => ?_⟩
        rcases Nat.lt_or_eq_of_le hj with hlater | rfl
        · exact hfree j (by omega) hjstop
        · exact hspace
      have hsame := (hmaximal i stop (by omega) (Nat.le_refl _) hlonger).1
      omega
    · by_contra hspace
      have hlonger : IsFree text start (stop + 1) := by
        refine ⟨hlast, fun j hj hjstop => ?_⟩
        rcases Nat.lt_succ_iff_lt_or_eq.mp hjstop with hearlier | rfl
        · exact hfree j hj hearlier
        · exact hspace
      have hsame := (hmaximal start (stop + 1) (Nat.le_refl _) (by omega) hlonger).2
      omega
  · rintro ⟨hlt, hfree, hleft, hright⟩
    refine ⟨hlt, hfree, fun first last hfirst hlast ⟨hend, hlonger⟩ => ⟨?_, ?_⟩⟩
    · by_contra hne
      exact hlonger (start - 1) (by omega) (by omega) (hleft (start - 1) (by omega))
    · by_contra hne
      exact hlonger stop (by omega) (by omega) (hright (by omega))

theorem getElem?_append_space_of_lt (rest : List Char) {i : Nat} (hi : i < front.length) :
    (front ++ ' ' :: rest)[i]? = front[i]? :=
  List.getElem?_append_left hi

theorem getElem?_append_space_length : (front ++ ' ' :: rest)[front.length]? = some ' ' := by
  simp

theorem getElem?_append_space_add (front rest : List Char) (i : Nat) :
    (front ++ ' ' :: rest)[i + (front.length + 1)]? = rest[i]? := by
  rw [List.getElem?_append_right (by omega), ← List.getElem?_cons_succ (a := ' ') (l := rest)]
  congr 1
  omega

theorem isFragment_append_space_of_le (hstop : stop ≤ front.length) :
    IsFragment (front ++ ' ' :: rest) start stop ↔ IsFragment front start stop := by
  have hsame {i : Nat} (hi : i < stop) := getElem?_append_space_of_lt rest (hi.trans_le hstop)
  rw [isFragment_iff, isFragment_iff, IsFree, IsFree]
  refine and_congr_right fun hlt => and_congr (and_congr ?_ ?_) (and_congr ?_ ?_)
  · exact iff_of_true (by rw [List.length_append]; omega) hstop
  · refine forall_congr' fun i => imp_congr_right fun _ => imp_congr_right fun hi => ?_
    rw [hsame hi]
  · refine forall_congr' fun i => imp_congr_right fun hi => ?_
    rw [hsame (by omega)]
  · rcases Nat.lt_or_eq_of_le hstop with hinside | rfl
    · have hlonger : stop < (front ++ ' ' :: rest).length := by
        rw [List.length_append]
        omega
      rw [imp_iff_right hinside, imp_iff_right hlonger, getElem?_append_space_of_lt rest hinside]
    · exact iff_of_true (fun _ => getElem?_append_space_length) fun h => absurd h (Nat.lt_irrefl _)

theorem isFragment_append_space_add :
    IsFragment (front ++ ' ' :: rest) (start + (front.length + 1)) (stop + (front.length + 1)) ↔
      IsFragment rest start stop := by
  have hlength : (front ++ ' ' :: rest).length = rest.length + (front.length + 1) := by
    simp only [List.length_append, List.length_cons]
    omega
  rw [isFragment_iff, isFragment_iff, IsFree, IsFree, hlength, getElem?_append_space_add]
  refine and_congr (by omega) (and_congr (and_congr (by omega) ?_) (and_congr ?_ ?_))
  · constructor
    · intro hfree i hi histop
      rw [← getElem?_append_space_add front]
      exact hfree _ (by omega) (by omega)
    · intro hfree i hi histop
      obtain ⟨j, rfl⟩ := Nat.exists_eq_add_of_le' (Nat.le_trans (Nat.le_add_left _ _) hi)
      rw [getElem?_append_space_add]
      exact hfree j (by omega) (by omega)
  · constructor
    · intro hleft i hi
      rw [← getElem?_append_space_add front]
      exact hleft _ (by omega)
    · intro hleft i hi
      cases start with
      | zero =>
          obtain rfl : i = front.length := by omega
          exact getElem?_append_space_length
      | succ start =>
          obtain rfl : i = start + (front.length + 1) := by omega
          rw [getElem?_append_space_add]
          exact hleft start rfl
  · rw [Nat.add_lt_add_iff_right]

-- A space keeps the fragments on its two sides apart.
theorem isFragment_append_space_iff : IsFragment (front ++ ' ' :: rest) start stop ↔
    IsFragment front start stop ∨ ∃ first last, IsFragment rest first last ∧
      start = first + (front.length + 1) ∧ stop = last + (front.length + 1) := by
  constructor
  · intro hfragment
    rcases Nat.lt_or_ge front.length stop with hstop | hstop
    · have hstart : front.length < start := by
        by_contra hbefore
        exact hfragment.free.2 front.length (by omega) hstop getElem?_append_space_length
      obtain ⟨first, rfl⟩ := Nat.exists_eq_add_of_le' hstart
      obtain ⟨last, rfl⟩ := Nat.exists_eq_add_of_le' hstop
      exact .inr ⟨first, last, isFragment_append_space_add.mp hfragment, rfl, rfl⟩
    · exact .inl ((isFragment_append_space_of_le hstop).mp hfragment)
  · rintro (hfront | ⟨first, last, hrest, rfl, rfl⟩)
    · exact (isFragment_append_space_of_le hfront.free.1).mpr hfront
    · exact isFragment_append_space_add.mpr hrest

theorem fragments_of_space_not_mem (htext : ' ' ∉ text) :
    Fragments text ([text].filter fun piece => !piece.isEmpty) := by
  cases text with
  | nil =>
      refine ⟨[], .nil, fun start stop => ?_, rfl⟩
      rw [isFragment_iff, iff_false_left List.not_mem_nil]
      rintro ⟨hlt, ⟨hstop, -⟩, -⟩
      exact absurd hstop (by simp; omega)
  | cons c text =>
      refine ⟨[(0, (c :: text).length)], List.pairwise_singleton _ _, fun start stop => ?_, by simp⟩
      have hfree (i : Nat) : (c :: text)[i]? ≠ some ' ' := fun h => htext (List.mem_of_getElem? h)
      rw [List.mem_singleton, Prod.mk.injEq, isFragment_iff]
      constructor
      · rintro ⟨rfl, rfl⟩
        exact ⟨by simp, ⟨Nat.le_refl _, fun i _ _ => hfree i⟩, fun i hi => absurd hi (by omega),
          fun hinside => absurd hinside (Nat.lt_irrefl _)⟩
      · rintro ⟨-, ⟨hstop, -⟩, hleft, hright⟩
        constructor
        · by_contra hne
          exact hfree (start - 1) (hleft _ (by omega))
        · by_contra hne
          exact hfree stop (hright (by omega))

theorem Fragments.append_space {pieces others : List (List Char)} (hfront : Fragments front pieces)
    (hrest : Fragments rest others) : Fragments (front ++ ' ' :: rest) (pieces ++ others) := by
  obtain ⟨spans, hsorted, hspans, rfl⟩ := hfront
  obtain ⟨later, hlater, hfollow, rfl⟩ := hrest
  refine ⟨spans ++ later.map fun span =>
    (span.1 + (front.length + 1), span.2 + (front.length + 1)), ?_, fun start stop => ?_, ?_⟩
  · refine List.pairwise_append.mpr ⟨hsorted, List.pairwise_map.mpr ?_, ?_⟩
    · exact hlater.imp fun hbefore => by omega
    · intro before hbefore after hafter
      obtain ⟨span, -, rfl⟩ := List.mem_map.mp hafter
      have hstop := ((hspans before.1 before.2).mp hbefore).free.1
      simp only
      omega
  · rw [isFragment_append_space_iff, List.mem_append, hspans]
    simp only [List.mem_map, Prod.exists, Prod.mk.injEq, hfollow, eq_comm]
  · rw [List.map_append, List.map_map]
    congr 1
    · refine List.map_congr_left fun span hspan => ?_
      have hfragment := (hspans span.1 span.2).mp hspan
      have hlt := hfragment.nonempty
      have hstop := hfragment.free.1
      rw [List.drop_append_of_le_length (by omega),
        List.take_append_of_le_length (by rw [List.length_drop]; omega)]
    · refine List.map_congr_left fun span _ => ?_
      have hdrop : (front ++ ' ' :: rest).drop (span.1 + (front.length + 1)) = rest.drop span.1 := by
        rw [Nat.add_comm span.1, Nat.add_assoc, ← List.drop_drop, List.drop_left,
          Nat.add_comm 1, List.drop_succ_cons]
      simp only [Function.comp_apply, hdrop]
      congr 1
      omega

-- Spaces divide a text into its fragments, and into nothing where two of them meet.
theorem fragments_splitOn (text : List Char) :
    Fragments text ((text.splitOn ' ').filter fun piece => !piece.isEmpty) := by
  induction hlength : text.length using Nat.strongRecOn generalizing text with
  | ind length ih =>
      by_cases hspace : ' ' ∈ text
      · obtain ⟨front, rest, rfl⟩ := List.append_of_mem hspace
        rw [List.length_append, List.length_cons] at hlength
        rw [List.splitOn_append_cons_self, List.filter_append]
        exact (ih front.length (by omega) front rfl).append_space (ih rest.length (by omega) rest rfl)
      · rw [List.splitOn_eq_singleton hspace]
        exact fragments_of_space_not_mem hspace

end Fragment

end MakeCheck.Text
