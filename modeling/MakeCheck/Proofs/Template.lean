import MakeCheck.Check.Command
import MakeCheck.Proofs.Text

namespace MakeCheck

open Text

section Replace

variable {pattern value front rest : List Char}

theorem replaceFrom_length (pattern value front rest : List Char) :
    replaceFrom front.length pattern value (front ++ rest) = replaceFrom 0 pattern value rest := by
  induction front with
  | nil => rfl
  | cons c front ih => rw [List.length_cons, List.cons_append, replaceFrom, ih]

theorem replaceFrom_append_pattern (hpattern : pattern ≠ []) (value rest : List Char) :
    replaceFrom 0 pattern value (pattern ++ rest) =
      value ++ replaceFrom 0 pattern value rest := by
  obtain ⟨c, tail, rfl⟩ := List.exists_cons_of_ne_nil hpattern
  have hbegins : (c :: tail).isPrefixOf (c :: (tail ++ rest)) = true :=
    List.isPrefixOf_iff_prefix.mpr (List.prefix_append (c :: tail) rest)
  rw [List.cons_append, replaceFrom]
  simp only [hbegins, if_true, List.length_cons, Nat.add_sub_cancel, replaceFrom_length]

-- What no place begins in is left as it is.
theorem replaceFrom_append_of_free (value : List Char)
    (hfree : ∀ i < front.length, ¬pattern <+: (front ++ rest).drop i) :
    replaceFrom 0 pattern value (front ++ rest) = front ++ replaceFrom 0 pattern value rest := by
  induction front with
  | nil => rfl
  | cons c front ih =>
      have hhere : ¬pattern.isPrefixOf (c :: (front ++ rest)) = true := by
        rw [List.isPrefixOf_iff_prefix]
        exact hfree 0 (Nat.zero_lt_succ _)
      rw [List.cons_append, replaceFrom, if_neg hhere, List.cons_append,
        ih fun i hi => hfree (i + 1) (Nat.succ_lt_succ hi)]

end Replace

namespace Template

def IsBraceless (text : List Char) : Prop :=
  '\x7b' ∉ text ∧ '\x7d' ∉ text

theorem IsBraceless.bne_closing {text : List Char} (htext : IsBraceless text) :
    ∀ c ∈ text, (c != '\x7d') = true := by
  intro c hc
  rw [bne_iff_ne]
  rintro rfl
  exact htext.2 hc

-- A part of a template: text that stands for itself, or the place of a field, its name in braces.
inductive Piece where
  | plain (text : List Char)
  | slot (name : String)

namespace Piece

def text : Piece → List Char
  | plain text => text
  | slot name => placeholder name

def WellFormed : Piece → Prop
  | plain text => IsBraceless text
  | slot name => IsBraceless name.toList

-- The slot of a field gives way to its value. Everything else stays.
def fill (fields : List (String × String)) : Piece → Piece
  | plain text => plain text
  | slot name =>
      match fields.lookup name with
      | some value => plain value.toList
      | none => slot name

end Piece

def chars (pieces : List Piece) : List Char :=
  pieces.flatMap Piece.text

-- The template as it is handed over.
def written (pieces : List Piece) : String :=
  String.ofList (chars pieces)

-- All slots are filled at once.
def filled (fields : List (String × String)) (pieces : List Piece) : List Piece :=
  pieces.map (Piece.fill fields)

-- Wherever the name stands in braces, it stands there as a slot.
def OnlySlots (name : String) (pieces : List Piece) : Prop :=
  ∀ front back, chars pieces = front ++ placeholder name ++ back →
    ∃ before after, pieces = before ++ .slot name :: after ∧ chars before = front

-- When its turn comes, each field finds its name in braces at its slots and nowhere else. So no
-- text of an earlier value is taken for a slot, neither alone nor together with what stands by it.
def IsQuiet : List (String × String) → List Piece → Prop
  | [], _ => True
  | field :: fields, pieces => OnlySlots field.1 pieces ∧ IsQuiet fields (filled [field] pieces)

section Step

variable {name : String} {piece : Piece} {pieces : List Piece}

theorem chars_cons (piece : Piece) (pieces : List Piece) :
    chars (piece :: pieces) = piece.text ++ chars pieces :=
  rfl

theorem filled_cons (fields : List (String × String)) (piece : Piece) (pieces : List Piece) :
    filled fields (piece :: pieces) = piece.fill fields :: filled fields pieces :=
  rfl

theorem placeholder_ne_nil (name : String) : placeholder name ≠ [] :=
  List.cons_ne_nil _ _

theorem OnlySlots.tail (hslots : OnlySlots name (piece :: pieces)) : OnlySlots name pieces := by
  intro front back hchars
  have hwhole : chars (piece :: pieces) = piece.text ++ front ++ placeholder name ++ back := by
    simp only [chars, List.flatMap_cons, List.append_assoc] at hchars ⊢
    rw [hchars]
  obtain ⟨before, after, hpieces, hbefore⟩ := hslots _ _ hwhole
  cases before with
  | nil =>
      obtain ⟨rfl, -⟩ := List.cons.inj hpieces
      obtain ⟨hnil, -⟩ := List.append_eq_nil_iff.mp hbefore.symm
      exact absurd hnil (placeholder_ne_nil name)
  | cons first before =>
      obtain ⟨rfl, htail⟩ := List.cons.inj hpieces
      exact ⟨before, after, htail, List.append_cancel_left hbefore⟩

theorem OnlySlots.free (hslots : OnlySlots name (piece :: pieces)) (hother : piece ≠ .slot name) :
    ∀ i < piece.text.length, ¬placeholder name <+: (piece.text ++ chars pieces).drop i := by
  intro i hi ⟨back, hback⟩
  have hwhole : chars (piece :: pieces) =
      (piece.text ++ chars pieces).take i ++ placeholder name ++ back := by
    rw [List.append_assoc, hback, List.take_append_drop]
    rfl
  obtain ⟨before, after, hpieces, hbefore⟩ := hslots _ _ hwhole
  cases before with
  | nil => exact hother (List.cons.inj hpieces).1
  | cons first before =>
      obtain ⟨rfl, -⟩ := List.cons.inj hpieces
      have hlength := congrArg List.length hbefore
      simp only [chars, List.flatMap_cons, List.length_append, List.length_take] at hlength
      omega

theorem fill_self (name value : String) :
    (Piece.slot name).fill [(name, value)] = .plain value.toList := by
  simp [Piece.fill]

theorem fill_of_ne (value : String) (hother : piece ≠ .slot name) :
    piece.fill [(name, value)] = piece := by
  cases piece with
  | plain text => rfl
  | slot other =>
      have hne : (other == name) = false := by
        rw [beq_eq_false_iff_ne]
        exact fun h => hother (h ▸ rfl)
      simp [Piece.fill, List.lookup_cons, hne]

-- One field fills all its slots, whatever its value is.
theorem replaceFrom_chars (value : String) (hslots : OnlySlots name pieces) :
    replaceFrom 0 (placeholder name) value.toList (chars pieces) =
      chars (filled [(name, value)] pieces) := by
  induction pieces with
  | nil => rfl
  | cons piece pieces ih =>
      rw [filled_cons, chars_cons, chars_cons, ← ih hslots.tail]
      by_cases hslot : piece = .slot name
      · subst hslot
        rw [fill_self]
        exact replaceFrom_append_pattern (placeholder_ne_nil name) _ _
      · rw [fill_of_ne value hslot, replaceFrom_append_of_free _ (hslots.free hslot)]

end Step

section Fields

variable {fields others : List (String × String)} {field : String × String} {pieces : List Piece}

theorem filled_nil (pieces : List Piece) : filled [] pieces = pieces := by
  rw [filled, List.map_congr_left fun piece _ => ?_, List.map_id]
  cases piece <;> rfl

theorem filled_filled (field : String × String) (fields : List (String × String))
    (pieces : List Piece) :
    filled fields (filled [field] pieces) = filled (field :: fields) pieces := by
  rw [filled, filled, filled, List.map_map]
  refine List.map_congr_left fun piece _ => ?_
  cases piece with
  | plain text => rfl
  | slot name =>
      obtain ⟨first, value⟩ := field
      simp only [Function.comp_apply, Piece.fill, List.lookup_cons]
      cases name == first <;> simp

theorem renderTemplate_nil (template : String) : renderTemplate template [] = template := by
  rw [renderTemplate, List.foldl_nil, String.ofList_toList]

theorem renderTemplate_cons (template : String) (field : String × String)
    (fields : List (String × String)) : renderTemplate template (field :: fields) =
      renderTemplate (String.ofList
        (replaceFrom 0 (placeholder field.1) field.2.toList template.toList)) fields := by
  rw [renderTemplate, renderTemplate, List.foldl_cons, String.toList_ofList]

theorem renderTemplate_written_cons (fields : List (String × String))
    (hslots : OnlySlots field.1 pieces) : renderTemplate (written pieces) (field :: fields) =
      renderTemplate (written (filled [field] pieces)) fields := by
  rw [renderTemplate_cons, written, String.toList_ofList, replaceFrom_chars _ hslots, ← written]

-- Filling one field after the other comes to the same as filling all of them at once.
theorem IsQuiet.renderTemplate_written (hquiet : IsQuiet fields pieces) :
    renderTemplate (written pieces) fields = written (filled fields pieces) := by
  induction fields generalizing pieces with
  | nil =>
      rw [renderTemplate_nil, filled_nil]
  | cons field fields ih =>
      rw [renderTemplate_written_cons _ hquiet.1, ih hquiet.2, filled_filled]

end Fields

section Braces

variable {name other : String} {piece : Piece} {pieces : List Piece} {rest : List Char} {i : Nat}

theorem placeholder_append (name : String) (back : List Char) :
    placeholder name ++ back = '\x7b' :: (name.toList ++ '\x7d' :: back) := by
  simp [placeholder]

theorem getElem?_of_placeholder {text : List Char} (hi : i < text.length)
    (hbegins : placeholder name <+: (text ++ rest).drop i) : text[i]? = some '\x7b' := by
  obtain ⟨back, hback⟩ := hbegins
  have hfirst : ((text ++ rest).drop i)[0]? = some '\x7b' := by
    rw [← hback, placeholder_append]
    rfl
  rwa [List.getElem?_drop, Nat.add_zero, List.getElem?_append_left hi] at hfirst

-- Inside a slot no name in braces begins but its own, and that one where the slot does.
theorem slot_of_placeholder (hname : IsBraceless name.toList) (hother : IsBraceless other.toList)
    (hi : i < (placeholder other).length)
    (hbegins : placeholder name <+: (placeholder other ++ rest).drop i) :
    Piece.slot other = .slot name ∧ i = 0 := by
  have hopen := getElem?_of_placeholder hi hbegins
  cases i with
  | zero =>
      obtain ⟨back, hback⟩ := hbegins
      rw [List.drop_zero, placeholder_append, placeholder_append] at hback
      obtain ⟨hsame, -⟩ := eq_of_append_cons_of_forall (p := (· != '\x7d')) hname.bne_closing
        hother.bne_closing (by decide) (List.cons.inj hback).2
      rw [String.toList_inj] at hsame
      exact ⟨by rw [hsame], rfl⟩
  | succ i =>
      have hmem : '\x7b' ∈ other.toList ++ ['\x7d'] := List.mem_of_getElem? hopen
      rcases List.mem_append.mp hmem with hmem | hmem
      · exact absurd hmem hother.1
      · exact absurd (List.mem_singleton.mp hmem) (by decide)

theorem onlySlots_nil (name : String) : OnlySlots name [] := by
  intro front back hchars
  obtain ⟨hfront, -⟩ := List.append_eq_nil_iff.mp hchars.symm
  exact absurd (List.append_eq_nil_iff.mp hfront).2 (placeholder_ne_nil name)

theorem OnlySlots.cons (hpieces : OnlySlots name pieces)
    (hinside : ∀ i < piece.text.length,
      placeholder name <+: (piece.text ++ chars pieces).drop i → piece = .slot name ∧ i = 0) :
    OnlySlots name (piece :: pieces) := by
  intro front back hchars
  have hwhole : piece.text ++ chars pieces = front ++ (placeholder name ++ back) := by
    rw [← List.append_assoc, ← hchars]
    rfl
  rcases Nat.lt_or_ge front.length piece.text.length with hshort | hlong
  · have hbegins : placeholder name <+: (piece.text ++ chars pieces).drop front.length :=
      ⟨back, by rw [hwhole, List.drop_left]⟩
    obtain ⟨rfl, hzero⟩ := hinside _ hshort hbegins
    exact ⟨[], pieces, rfl, (List.length_eq_zero_iff.mp hzero).symm⟩
  · obtain ⟨more, rfl⟩ : piece.text <+: front :=
      List.prefix_of_prefix_length_le ⟨_, hwhole⟩ (List.prefix_append _ _) hlong
    rw [List.append_assoc, List.append_cancel_left_eq, ← List.append_assoc] at hwhole
    obtain ⟨before, after, rfl, rfl⟩ := hpieces more back hwhole
    exact ⟨piece :: before, after, rfl, rfl⟩

-- Nothing but a slot opens a brace.
def Piece.IsUnopened : Piece → Prop
  | plain text => '\x7b' ∉ text
  | slot name => IsBraceless name.toList

theorem onlySlots_of_isUnopened (hname : IsBraceless name.toList)
    (hpieces : ∀ piece ∈ pieces, piece.IsUnopened) : OnlySlots name pieces := by
  induction pieces with
  | nil => exact onlySlots_nil name
  | cons piece pieces ih =>
      obtain ⟨hpiece, hrest⟩ := List.forall_mem_cons.mp hpieces
      refine (ih hrest).cons fun i hi hbegins => ?_
      cases piece with
      | plain text =>
          exact absurd (List.mem_of_getElem? (getElem?_of_placeholder hi hbegins)) hpiece
      | slot other => exact slot_of_placeholder hname hpiece hi hbegins

-- What is put in the first place begins where that place began.
theorem getElem?_replaceFrom {text tail : List Char} {c : Char}
    (hbegins : placeholder name <+: (text ++ rest).drop i)
    (hfirst : ∀ j < i, ¬placeholder name <+: (text ++ rest).drop j) (hi : i < text.length) :
    (replaceFrom 0 (placeholder name) (c :: tail) (text ++ rest))[i]? = some c := by
  obtain ⟨back, hback⟩ := hbegins
  have hcut := List.take_append_drop i (text ++ rest)
  have hlength : ((text ++ rest).take i).length = i := by
    rw [List.length_take, List.length_append]
    omega
  have hfree : ∀ j < ((text ++ rest).take i).length,
      ¬placeholder name <+: ((text ++ rest).take i ++ (text ++ rest).drop i).drop j := by
    rw [hlength, hcut]
    exact hfirst
  have hplaced := replaceFrom_append_of_free (c :: tail) hfree
  rw [hcut, ← hback, replaceFrom_append_pattern (placeholder_ne_nil name)] at hplaced
  rw [hplaced, List.getElem?_append_right hlength.le, hlength, Nat.sub_self]
  rfl

-- A name in braces that is no slot gives itself away by what is put in its place.
theorem onlySlots_of_replaceFrom (hname : IsBraceless name.toList) {c : Char} {tail : List Char}
    (hc : c ≠ '\x7b') (hsame : replaceFrom 0 (placeholder name) (c :: tail) (chars pieces) =
      chars (filled [(name, String.ofList (c :: tail))] pieces)) : OnlySlots name pieces := by
  induction pieces with
  | nil => exact onlySlots_nil name
  | cons piece pieces ih =>
      rw [filled_cons, chars_cons, chars_cons] at hsame
      by_cases hslot : piece = .slot name
      · subst hslot
        rw [fill_self, String.toList_ofList, Piece.text, Piece.text,
          replaceFrom_append_pattern (placeholder_ne_nil name)] at hsame
        exact (ih (List.append_cancel_left hsame)).cons fun i => slot_of_placeholder hname hname
      · rw [fill_of_ne _ hslot] at hsame
        have hfree : ∀ i < piece.text.length,
            ¬placeholder name <+: (piece.text ++ chars pieces).drop i := by
          intro i
          induction i using Nat.strongRecOn with
          | ind i hbefore =>
              intro hi hbegins
              have hthere := getElem?_of_placeholder hi hbegins
              rw [← List.getElem?_append_left hi, ← hsame, getElem?_replaceFrom hbegins
                (fun j hj => hbefore j hj (hj.trans hi)) hi] at hthere
              exact hc (Option.some.inj hthere)
        rw [replaceFrom_append_of_free _ hfree] at hsame
        exact (ih (List.append_cancel_left hsame)).cons
          fun i hi hbegins => absurd hbegins (hfree i hi)

end Braces

section Quiet

variable {fields others before after : List (String × String)} {field : String × String}
  {pieces : List Piece}

theorem IsQuiet.of_append (hquiet : IsQuiet (before ++ field :: after) pieces) (value : String) :
    IsQuiet (before ++ [(field.1, value)]) pieces := by
  induction before generalizing pieces with
  | nil => exact ⟨hquiet.1, trivial⟩
  | cons first before ih => exact ⟨hquiet.1, ih hquiet.2⟩

-- Quiet values are those that leave every later field its slots, whatever the value of that field.
theorem isQuiet_iff (hnames : ∀ field ∈ fields, IsBraceless field.1.toList) :
    IsQuiet fields pieces ↔ ∀ before field after, fields = before ++ field :: after → ∀ value,
      renderTemplate (written pieces) (before ++ [(field.1, value)]) =
        written (filled (before ++ [(field.1, value)]) pieces) := by
  constructor
  · rintro hquiet before field after rfl value
    exact (hquiet.of_append value).renderTemplate_written
  · intro hrender
    induction fields generalizing pieces with
    | nil => trivial
    | cons field fields ih =>
        obtain ⟨hname, hrest⟩ := List.forall_mem_cons.mp hnames
        have hslots : OnlySlots field.1 pieces := by
          have hfirst := hrender [] field fields rfl (String.ofList ['-'])
          rw [List.nil_append, renderTemplate_cons, renderTemplate_nil, written,
            String.toList_ofList, String.toList_ofList, written] at hfirst
          have hsame : replaceFrom 0 (placeholder field.1) ['-'] (chars pieces) =
              chars (filled [(field.1, String.ofList ['-'])] pieces) :=
            String.ofList_inj.mp hfirst
          exact onlySlots_of_replaceFrom hname (by decide) hsame
        refine ⟨hslots, ih hrest ?_⟩
        rintro before next after rfl value
        have hlater := hrender (field :: before) next after rfl value
        rwa [List.cons_append, renderTemplate_written_cons _ hslots,
          ← filled_filled field (before ++ [(next.1, value)])] at hlater

theorem isQuiet_of_isUnopened (hpieces : ∀ piece ∈ pieces, piece.IsUnopened)
    (hnames : ∀ field ∈ fields, IsBraceless field.1.toList)
    (hvalues : ∀ field ∈ fields.dropLast, '\x7b' ∉ field.2.toList) : IsQuiet fields pieces := by
  induction fields generalizing pieces with
  | nil => trivial
  | cons field fields ih =>
      obtain ⟨hname, hrest⟩ := List.forall_mem_cons.mp hnames
      refine ⟨onlySlots_of_isUnopened hname hpieces, ?_⟩
      cases fields with
      | nil => trivial
      | cons next fields =>
          rw [List.dropLast_cons_cons] at hvalues
          obtain ⟨hvalue, hlater⟩ := List.forall_mem_cons.mp hvalues
          refine ih (fun piece hpiece => ?_) hrest hlater
          obtain ⟨old, hold, rfl⟩ := List.mem_map.mp hpiece
          by_cases hslot : old = .slot field.1
          · rw [hslot, fill_self]
            exact hvalue
          · rw [fill_of_ne field.2 hslot]
            exact hpieces old hold

theorem lookup_perm (hnodup : (fields.map Prod.fst).Nodup) (hperm : fields.Perm others)
    (name : String) : fields.lookup name = others.lookup name := by
  induction hperm with
  | nil => rfl
  | cons field _ ih =>
      rw [List.map_cons, List.nodup_cons] at hnodup
      rw [List.lookup_cons, List.lookup_cons, ih hnodup.2]
  | swap first second fields =>
      have hne : second.1 ≠ first.1 := fun hsame =>
        (List.nodup_cons.mp hnodup).1 (List.mem_map.mpr ⟨first, List.mem_cons_self, hsame.symm⟩)
      rw [List.lookup_cons, List.lookup_cons, List.lookup_cons, List.lookup_cons]
      by_cases hfirst : name = first.1
      · have hsecond : (name == second.1) = false := by
          rw [beq_eq_false_iff_ne, hfirst]
          exact hne.symm
        rw [hsecond]
      · rw [beq_eq_false_iff_ne.mpr hfirst]
  | trans hperm _ ih ih' =>
      rw [ih hnodup, ih' ((hperm.map Prod.fst).nodup_iff.mp hnodup)]

-- Which value fills a slot is a matter of the name and not of the order of the fields.
theorem filled_perm (hnodup : (fields.map Prod.fst).Nodup) (hperm : fields.Perm others)
    (pieces : List Piece) : filled fields pieces = filled others pieces := by
  refine List.map_congr_left fun piece _ => ?_
  cases piece with
  | plain text => rfl
  | slot name => rw [Piece.fill, Piece.fill, lookup_perm hnodup hperm]

end Quiet

theorem Piece.WellFormed.isUnopened {piece : Piece} (hpiece : piece.WellFormed) :
    piece.IsUnopened := by
  cases piece with
  | plain text => exact hpiece.1
  | slot name => exact hpiece

def commandFields (result : CommandResult) : List (String × String) :=
  [("command", result.command), ("output", result.output)]

def outputFields (result : CommandResult) (expected : String) : List (String × String) :=
  ("expected_output", expected) :: commandFields result

theorem commandSuccessfulWith_eq {result : CommandResult} {pieces : List Piece}
    (hfailed : result.success = false) (hquiet : IsQuiet (commandFields result) pieces) :
    Check.commandSuccessfulWith result (written pieces) =
      .error (.custom (written (filled (commandFields result) pieces))) := by
  rw [← hquiet.renderTemplate_written, Check.commandSuccessfulWith, Check.commandSuccessful,
    hfailed]
  rfl

theorem outputEqualWith_eq {result : CommandResult} {expected : String} {pieces : List Piece}
    (hother : result.output ≠ expected) (hquiet : IsQuiet (outputFields result expected) pieces) :
    Check.outputEqualWith result expected (written pieces) =
      .error (.custom (written (filled (outputFields result expected) pieces))) := by
  rw [← hquiet.renderTemplate_written, Check.outputEqualWith, Check.outputEqual, if_neg hother]
  rfl

-- A template is filled at once, whatever its fields hold, as long as no value makes up a name in
-- braces for a field that comes after it. The values themselves are never read for anything else,
-- and nothing less makes it so whatever the last of the fields holds.
theorem renderTemplate_at_once {fields : List (String × String)} {pieces : List Piece}
    (hpieces : ∀ piece ∈ pieces, piece.WellFormed)
    (hnames : ∀ field ∈ fields, IsBraceless field.1.toList) :
    (IsQuiet fields pieces →
      renderTemplate (written pieces) fields = written (filled fields pieces)) ∧
    (IsQuiet fields pieces ↔ ∀ before field after, fields = before ++ field :: after → ∀ value,
      renderTemplate (written pieces) (before ++ [(field.1, value)]) =
        written (filled (before ++ [(field.1, value)]) pieces)) ∧
    ((∀ field ∈ fields.dropLast, '\x7b' ∉ field.2.toList) → IsQuiet fields pieces) ∧
    (∀ others, (fields.map Prod.fst).Nodup → fields.Perm others →
      IsQuiet fields pieces → IsQuiet others pieces →
      renderTemplate (written pieces) fields = renderTemplate (written pieces) others) ∧
    (∀ result : CommandResult, result.success = false → IsQuiet (commandFields result) pieces →
      Check.commandSuccessfulWith result (written pieces) =
        .error (.custom (written (filled (commandFields result) pieces)))) ∧
    (∀ (result : CommandResult) (expected : String), result.output ≠ expected →
      IsQuiet (outputFields result expected) pieces →
      Check.outputEqualWith result expected (written pieces) =
        .error (.custom (written (filled (outputFields result expected) pieces)))) := by
  refine ⟨fun hquiet => hquiet.renderTemplate_written, isQuiet_iff hnames, ?_, ?_,
    fun _ => commandSuccessfulWith_eq, fun _ _ => outputEqualWith_eq⟩
  · exact isQuiet_of_isUnopened (fun piece hpiece => (hpieces piece hpiece).isUnopened) hnames
  · intro others hnodup hperm hquiet hothers
    rw [hquiet.renderTemplate_written, hothers.renderTemplate_written,
      filled_perm hnodup hperm]

-- The output may hold the placeholder of the command, since the command has had its turn.
theorem renderTemplate_at_once_output :
    renderTemplate "\x7bcommand\x7d: \x7boutput\x7d\x7bother\x7d"
        [("command", "make"), ("output", "\x7bcommand\x7d")] =
      "make: \x7bcommand\x7d\x7bother\x7d" ∧
    Check.commandSuccessfulWith ⟨false, "make", "\x7bcommand\x7d"⟩
        "\x7bcommand\x7d: \x7boutput\x7d\x7bother\x7d" =
      .error (.custom "make: \x7bcommand\x7d\x7bother\x7d") := by
  have hpieces : ∀ piece ∈ [.slot "command", .plain [':', ' '], .slot "output", .slot "other"],
      Piece.WellFormed piece := by
    simp [Piece.WellFormed, IsBraceless]
  have hnames : ∀ field ∈ commandFields ⟨false, "make", "\x7bcommand\x7d"⟩,
      IsBraceless field.1.toList := by
    simp [commandFields, IsBraceless]
  obtain ⟨hrender, -, hquiet, -, hmessage, -⟩ := renderTemplate_at_once hpieces hnames
  have hcommand := hquiet (by simp [commandFields])
  exact ⟨hrender hcommand, hmessage _ rfl hcommand⟩

-- A value that comes first is read again for the names after it. So the message shows a command
-- that was never run, and another one when the fields change places.
theorem renderTemplate_reads_values_again :
    renderTemplate "\x7bcommand\x7d" [("command", "\x7boutput\x7d"), ("output", "x")] = "x" ∧
    renderTemplate "\x7bcommand\x7d" [("output", "x"), ("command", "\x7boutput\x7d")] =
      "\x7boutput\x7d" ∧
    filled [("command", "\x7boutput\x7d"), ("output", "x")] [.slot "command"] =
      [.plain "\x7boutput\x7d".toList] ∧
    Check.commandSuccessfulWith ⟨false, "\x7boutput\x7d", "x"⟩ "\x7bcommand\x7d" =
      .error (.custom "x") := by
  refine ⟨by decide, by decide, rfl, rfl⟩

end Template

end MakeCheck
