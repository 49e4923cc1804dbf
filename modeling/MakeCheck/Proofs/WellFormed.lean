import MakeCheck.Proofs.Definition
import MakeCheck.Proofs.Scan

namespace MakeCheck

open Text

-- A name of a target or a prerequisite. The space between two names belongs to neither.
def IsName (name : String) : Prop :=
  ∀ c ∈ name.toList, Header.IsNameChar c ∧ c ≠ ' '

-- Two spaces in a row leave an empty name between them, but none can come first.
def Targets.WellFormed : Targets → Prop
  | .single name => name ≠ "" ∧ IsName name
  | .multiple names =>
      2 ≤ names.length ∧ (∃ first ∈ names.head?, first ≠ "") ∧ ∀ name ∈ names, IsName name

structure IsRecipeLine (line : String) : Prop where
  nonempty : line ≠ ""
  trimmed : Trimmed line.toList
  feed : '\n' ∉ line.toList
  carriage : '\r' ∉ line.toList
  comment : line.toList.head? ≠ some '#'
  header : Header.ofLine? line.toList = none

-- What a rule may consist of. Its recipe may be empty.
structure Rule.WellFormed (rule : Rule) : Prop where
  targets : rule.targets.WellFormed
  prerequisites : ∀ name ∈ rule.prerequisites, name ≠ "" ∧ IsName name
  recipe : ∀ line ∈ rule.recipe, IsRecipeLine line

structure VariableDefinition.WellFormed (definition : VariableDefinition) : Prop where
  nonempty : definition.name ≠ ""
  name : ∀ c ∈ definition.name.toList, isNameChar c = true
  trimmed : Trimmed definition.value.toList
  feed : '\n' ∉ definition.value.toList
  carriage : '\r' ∉ definition.value.toList

structure Makefile.WellFormed (makefile : Makefile) : Prop where
  rules : ∀ rule ∈ makefile.rules, rule.WellFormed
  definitions : ∀ found ∈ makefile.definitions, ∀ definition ∈ found, definition.WellFormed

-- The rule that still takes lines is held to the same terms as the closed ones.
structure Scan.WellFormed (scan : Scan) : Prop where
  closed : ∀ rule ∈ scan.closed, rule.WellFormed
  current : ∀ rule ∈ scan.current, rule.WellFormed
  definitions : ∀ definition ∈ scan.definitions, definition.WellFormed

theorem ofList_ne_empty {s : List Char} (hs : s ≠ []) : String.ofList s ≠ "" := by
  simpa using hs

theorem Targets.wellFormed_ofText {c : Char} {targets : List Char}
    (hall : ∀ b ∈ c :: targets, Header.isHeaderChar b = true) (hc : isBlank c = false) :
    (ofText (c :: targets)).WellFormed := by
  have hchar : ∀ b ∈ c :: targets, b ≠ ' ' → Header.IsNameChar b :=
    fun b hb hspace => (Header.isHeaderChar_iff.mp (hall b hb)).resolve_right hspace
  by_cases hspace : ' ' ∈ c :: targets
  · rw [ofText_of_mem hspace]
    have hfirst : c ≠ ' ' := by
      rintro rfl
      simp [isBlank, blanks] at hc
    refine ⟨?_, ?_, ?_⟩
    · simpa using two_le_length_splitOn hspace
    · obtain ⟨first, rest, hsplit⟩ :=
        List.exists_cons_of_ne_nil (List.splitOn_ne_nil ' ' (c :: targets))
      have hmem : first ∈ ((c :: targets).splitOn ' ').head? := by rw [hsplit]; rfl
      have hne : first ≠ [] := ne_nil_of_mem_head?_splitOn hfirst hmem
      exact ⟨String.ofList first, by simp [hsplit], ofList_ne_empty hne⟩
    · intro name hname b hb
      obtain ⟨piece, hpiece, rfl⟩ := List.mem_map.mp hname
      rw [String.toList_ofList] at hb
      obtain ⟨hmem, hne⟩ := mem_and_ne_of_mem_splitOn hpiece b hb
      exact ⟨hchar b hmem hne, hne⟩
  · rw [ofText_of_not_mem hspace]
    refine ⟨ofList_ne_empty (List.cons_ne_nil c targets), fun b hb => ?_⟩
    rw [String.toList_ofList] at hb
    have hne : b ≠ ' ' := fun h => hspace (h ▸ hb)
    exact ⟨hchar b hb hne, hne⟩

theorem Header.wellFormed_of_ofLine? {line : List Char} {header : Header}
    (hf : ofLine? line = some header) (hline : Trimmed line) :
    Rule.WellFormed ⟨header.targets, header.prerequisites, []⟩ := by
  obtain ⟨targets, rest, rfl, hne, hall, _, rfl⟩ := ofLine?_eq_some_iff.mp hf
  cases targets with
  | nil => exact absurd rfl hne
  | cons c targets =>
      refine ⟨Targets.wellFormed_ofText hall (hline.1 c (by simp)), fun name hname => ?_, by simp⟩
      obtain ⟨hname, hchars⟩ := isName_of_mem_prerequisitesOf hname
      exact ⟨hname, fun b hb => ⟨hchars b hb, (hchars b hb).ne_space⟩⟩

theorem VariableDefinition.wellFormed_of_ofLine? {line : List Char}
    {definition : VariableDefinition} (hf : ofLine? line = some definition)
    (hline : ∀ c ∈ line, c ≠ '\n' ∧ c ≠ '\r') : definition.WellFormed := by
  obtain ⟨name, gap, operator, value, rfl, hne, hname, _, _, rfl⟩ := ofLine?_eq_some_iff.mp hf
  have hvalue : ∀ c ∈ trim value, c ≠ '\n' ∧ c ≠ '\r' :=
    fun c hc => hline c (by simp [mem_of_mem_trim hc])
  refine ⟨ofList_ne_empty hne, by simpa using hname, ?_, ?_, ?_⟩
  · rw [String.toList_ofList]
    exact trimmed_trim value
  · rw [String.toList_ofList]
    exact fun h => (hvalue _ h).1 rfl
  · rw [String.toList_ofList]
    exact fun h => (hvalue _ h).2 rfl

def Line.WellFormed : Line → Prop
  | .blank => True
  | .comment => True
  | .definition found => found.WellFormed
  | .header found => Rule.WellFormed ⟨found.targets, found.prerequisites, []⟩
  | .other line => IsRecipeLine line

theorem Line.wellFormed_ofText (detect : Bool) {raw : List Char}
    (hraw : ∀ c ∈ raw, c ≠ '\n' ∧ c ≠ '\r') : (Line.ofText detect (trim raw)).WellFormed := by
  have htext : ∀ c ∈ trim raw, c ≠ '\n' ∧ c ≠ '\r' := fun c hc => hraw c (mem_of_mem_trim hc)
  have hkind := kind_ofText detect (trim raw)
  generalize Line.ofText detect (trim raw) = line at hkind
  cases hkind with
  | blank hb => trivial
  | comment hc => trivial
  | definition found hb hc hd hf => exact VariableDefinition.wellFormed_of_ofLine? hf htext
  | header found hb hc hd hf => exact Header.wellFormed_of_ofLine? hf (trimmed_trim raw)
  | other hb hc hd hf =>
      exact
        { nonempty := ofList_ne_empty hb
          trimmed := by simpa using trimmed_trim raw
          feed := by simpa using fun h => (htext _ h).1 rfl
          carriage := by simpa using fun h => (htext _ h).2 rfl
          comment := by simpa using hc
          header := by simpa using hf }

namespace Scan

theorem wellFormed_start : start.WellFormed := by
  constructor <;> simp [start]

theorem WellFormed.close {scan : Scan} (hscan : scan.WellFormed) : scan.close.WellFormed where
  closed rule hrule := by
    rcases List.mem_append.mp hrule with hclosed | hcurrent
    · exact hscan.closed rule hclosed
    · exact hscan.current rule (by simpa using hcurrent)
  current rule hrule := by simp [Scan.close] at hrule
  definitions := hscan.definitions

theorem WellFormed.add {scan : Scan} (hscan : scan.WellFormed) {line : Line}
    (hline : line.WellFormed) : (scan.add line).WellFormed := by
  cases line with
  | blank => exact hscan.close
  | comment => exact hscan
  | definition definition =>
      refine ⟨hscan.closed, hscan.current, fun found hfound => ?_⟩
      rcases List.mem_append.mp hfound with hold | hnew
      · exact hscan.definitions found hold
      · rw [List.mem_singleton.mp hnew]
        exact hline
  | header header =>
      refine ⟨hscan.close.closed, fun rule hrule => ?_, hscan.definitions⟩
      rw [← Option.some.inj hrule]
      exact hline
  | other text =>
      refine ⟨hscan.closed, fun rule hrule => ?_, hscan.definitions⟩
      obtain ⟨old, hold, rfl⟩ := Option.map_eq_some_iff.mp hrule
      obtain ⟨htargets, hprerequisites, hrecipe⟩ := hscan.current old hold
      refine ⟨htargets, hprerequisites, fun entry hentry => ?_⟩
      rcases List.mem_append.mp hentry with hbefore | hlast
      · exact hrecipe entry hbefore
      · rw [List.mem_singleton.mp hlast]
        exact hline

theorem WellFormed.toMakefile {scan : Scan} (hscan : scan.WellFormed) (detect : Bool) :
    (scan.toMakefile detect).WellFormed := by
  refine ⟨hscan.close.closed, fun found hfound definition hdefinition => ?_⟩
  cases detect with
  | false => simp [Scan.toMakefile] at hfound
  | true =>
      rw [← Option.some.inj hfound] at hdefinition
      exact hscan.definitions definition hdefinition

-- Line ends are gone from the lines of a text, so no name, value or recipe line can hold one.
theorem wellFormed_physicalLines (detect : Bool) (text : String) :
    (ofLines detect (physicalLines text)).WellFormed := by
  refine List.foldlRecOn (physicalLines text) (step detect) wellFormed_start ?_
  intro scan hscan raw hraw
  exact hscan.add (Line.wellFormed_ofText _ fun c hc => (mem_of_mem_physicalLines hraw c hc).2)

end Scan

-- Whatever the text, only well-formed rules and definitions come out of it.
theorem wellFormed_parse (options : ParseOptions) (text : String) :
    (Makefile.parse options text).WellFormed :=
  (Scan.wellFormed_physicalLines options.detectDefinitions text).toMakefile _

end MakeCheck
