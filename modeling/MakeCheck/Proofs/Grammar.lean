import MakeCheck.Proofs.Definition

namespace MakeCheck

open Text

-- What a line looks like, written down as a pattern with named groups.
inductive LinePattern where
  | one (kind : Char → Bool)
  | row (first second : LinePattern)
  | choice (left right : LinePattern)
  | star (body : LinePattern)
  | optional (body : LinePattern)
  | group (name : String) (body : LinePattern)

namespace LinePattern

-- The class `\w` with some marks besides.
def word (marks : String) (c : Char) : Bool :=
  isWord c || marks.toList.contains c

def mark (c : Char) : LinePattern :=
  one (· == c)

def many (kind : Char → Bool) : LinePattern :=
  star (one kind)

def atLeastOne (kind : Char → Bool) : LinePattern :=
  row (one kind) (many kind)

-- A way to read a text by a pattern, with what the groups hold then in the order in which they end.
-- Nothing prefers one way to another.
inductive Reads : LinePattern → List Char → List (String × List Char) → Prop
  | one {kind : Char → Bool} {c : Char} (hc : kind c = true) : Reads (.one kind) [c] []
  | row {first second : LinePattern} {front rest : List Char}
      {held later : List (String × List Char)} (hfirst : Reads first front held)
      (hsecond : Reads second rest later) : Reads (.row first second) (front ++ rest) (held ++ later)
  | left {left right : LinePattern} {text : List Char} {held : List (String × List Char)}
      (hleft : Reads left text held) : Reads (.choice left right) text held
  | right {left right : LinePattern} {text : List Char} {held : List (String × List Char)}
      (hright : Reads right text held) : Reads (.choice left right) text held
  | stop {body : LinePattern} : Reads (.star body) [] []
  | again {body : LinePattern} {front rest : List Char} {held later : List (String × List Char)}
      (hbody : Reads body front held) (hrest : Reads (.star body) rest later) :
      Reads (.star body) (front ++ rest) (held ++ later)
  | absent {body : LinePattern} : Reads (.optional body) [] []
  | present {body : LinePattern} {text : List Char} {held : List (String × List Char)}
      (hbody : Reads body text held) : Reads (.optional body) text held
  | group {name : String} {body : LinePattern} {text : List Char}
      {held : List (String × List Char)} (hbody : Reads body text held) :
      Reads (.group name body) text (held ++ [(name, text)])

variable {kind : Char → Bool} {first second left right body : LinePattern} {name : String}
  {text : List Char} {held : List (String × List Char)}

theorem reads_one_iff : Reads (one kind) text held ↔ (∃ c, kind c = true ∧ text = [c]) ∧ held = [] := by
  constructor
  · rintro ⟨hc⟩
    exact ⟨⟨_, hc, rfl⟩, rfl⟩
  · rintro ⟨⟨c, hc, rfl⟩, rfl⟩
    exact .one hc

theorem reads_mark_iff {c : Char} : Reads (mark c) text held ↔ text = [c] ∧ held = [] := by
  rw [mark, reads_one_iff]
  simp

theorem reads_row_iff : Reads (row first second) text held ↔
    ∃ front rest before after, text = front ++ rest ∧ held = before ++ after ∧
      Reads first front before ∧ Reads second rest after := by
  constructor
  · rintro (_ | ⟨hfirst, hsecond⟩)
    exact ⟨_, _, _, _, rfl, rfl, hfirst, hsecond⟩
  · rintro ⟨front, rest, before, after, rfl, rfl, hfirst, hsecond⟩
    exact .row hfirst hsecond

theorem reads_choice_iff :
    Reads (choice left right) text held ↔ Reads left text held ∨ Reads right text held := by
  constructor
  · rintro (_ | _ | hleft | hright)
    · exact .inl hleft
    · exact .inr hright
  · rintro (hleft | hright)
    · exact .left hleft
    · exact .right hright

theorem reads_optional_iff :
    Reads (optional body) text held ↔ text = [] ∧ held = [] ∨ Reads body text held := by
  constructor
  · intro h
    cases h with
    | absent => exact .inl ⟨rfl, rfl⟩
    | present hbody => exact .inr hbody
  · rintro (⟨rfl, rfl⟩ | hbody)
    · exact .absent
    · exact .present hbody

theorem reads_group_iff : Reads (group name body) text held ↔
    ∃ inner, held = inner ++ [(name, text)] ∧ Reads body text inner := by
  constructor
  · intro h
    cases h with
    | group hbody => exact ⟨_, rfl, hbody⟩
  · rintro ⟨inner, rfl, hbody⟩
    exact .group hbody

-- A run of characters of a kind can be read in one way only, however often the star goes round.
theorem reads_many_iff : Reads (many kind) text held ↔ (∀ c ∈ text, kind c = true) ∧ held = [] := by
  constructor
  · intro h
    generalize hpattern : many kind = pattern at h
    induction h with
    | stop => exact ⟨by simp, rfl⟩
    | again hbody _ _ ih =>
        obtain rfl := star.inj hpattern
        obtain ⟨⟨c, hc, rfl⟩, rfl⟩ := reads_one_iff.mp hbody
        obtain ⟨hrest, rfl⟩ := ih rfl
        exact ⟨List.forall_mem_cons.mpr ⟨hc, hrest⟩, rfl⟩
    | _ => exact absurd hpattern (by simp [many])
  · rintro ⟨htext, rfl⟩
    induction text with
    | nil => exact .stop
    | cons c text ih =>
        obtain ⟨hc, hrest⟩ := List.forall_mem_cons.mp htext
        exact .again (.one hc) (ih hrest)

theorem reads_atLeastOne_iff :
    Reads (atLeastOne kind) text held ↔ (text ≠ [] ∧ ∀ c ∈ text, kind c = true) ∧ held = [] := by
  rw [atLeastOne, reads_row_iff]
  constructor
  · rintro ⟨front, rest, before, after, rfl, rfl, hfirst, hsecond⟩
    obtain ⟨⟨c, hc, rfl⟩, rfl⟩ := reads_one_iff.mp hfirst
    obtain ⟨hrest, rfl⟩ := reads_many_iff.mp hsecond
    exact ⟨⟨by simp, List.forall_mem_cons.mpr ⟨hc, hrest⟩⟩, rfl⟩
  · rintro ⟨⟨hne, htext⟩, rfl⟩
    cases text with
    | nil => exact absurd rfl hne
    | cons c text =>
        obtain ⟨hc, hrest⟩ := List.forall_mem_cons.mp htext
        exact ⟨[c], text, [], [], rfl, rfl, .one hc, reads_many_iff.mpr ⟨hrest, rfl⟩⟩

section Row

variable {p : List Char → Prop}

-- A part without groups adds nothing to what is held.
theorem reads_row_of_silent (hfirst : ∀ front held, Reads first front held ↔ p front ∧ held = []) :
    Reads (row first second) text held ↔
      ∃ front rest, text = front ++ rest ∧ p front ∧ Reads second rest held := by
  rw [reads_row_iff]
  constructor
  · rintro ⟨front, rest, before, after, rfl, rfl, hbefore, hafter⟩
    obtain ⟨hfront, rfl⟩ := (hfirst front before).mp hbefore
    exact ⟨front, rest, rfl, hfront, hafter⟩
  · rintro ⟨front, rest, rfl, hfront, hsecond⟩
    exact ⟨front, rest, [], held, rfl, rfl, (hfirst front []).mpr ⟨hfront, rfl⟩, hsecond⟩

theorem reads_group_of_silent (hbody : ∀ text held, Reads body text held ↔ p text ∧ held = []) :
    Reads (group name body) text held ↔ p text ∧ held = [(name, text)] := by
  rw [reads_group_iff]
  constructor
  · rintro ⟨inner, rfl, hinner⟩
    obtain ⟨htext, rfl⟩ := (hbody text inner).mp hinner
    exact ⟨htext, rfl⟩
  · rintro ⟨htext, rfl⟩
    exact ⟨[], rfl, (hbody text []).mpr ⟨htext, rfl⟩⟩

theorem reads_row_group_of_silent
    (hbody : ∀ text held, Reads body text held ↔ p text ∧ held = []) :
    Reads (row (group name body) second) text held ↔ ∃ front rest later, text = front ++ rest ∧
      p front ∧ Reads second rest later ∧ held = (name, front) :: later := by
  rw [reads_row_iff]
  constructor
  · rintro ⟨front, rest, before, after, rfl, rfl, hbefore, hafter⟩
    obtain ⟨hfront, rfl⟩ := (reads_group_of_silent hbody).mp hbefore
    exact ⟨front, rest, after, rfl, hfront, hafter, rfl⟩
  · rintro ⟨front, rest, later, rfl, hfront, hlater, rfl⟩
    exact ⟨front, rest, _, later, rfl, rfl, (reads_group_of_silent hbody).mpr ⟨hfront, rfl⟩, hlater⟩

theorem reads_row_mark_iff {c : Char} : Reads (row (mark c) second) text held ↔
    ∃ rest, text = c :: rest ∧ Reads second rest held := by
  rw [reads_row_of_silent (p := (· = [c])) fun _ _ => reads_mark_iff]
  constructor
  · rintro ⟨front, rest, rfl, rfl, hsecond⟩
    exact ⟨rest, rfl, hsecond⟩
  · rintro ⟨rest, rfl, hsecond⟩
    exact ⟨[c], rest, rfl, rfl, hsecond⟩

end Row

end LinePattern

theorem Header.isHeaderChar_eq : isHeaderChar = LinePattern.word ".-%$() +" :=
  rfl

theorem VariableDefinition.isNameChar_eq : isNameChar = LinePattern.word ".-" := by
  have hmarks : ".-".toList = ['.', '-'] := rfl
  funext c
  rw [isNameChar, LinePattern.word, hmarks, List.contains_cons, List.contains_cons,
    List.contains_nil, Bool.or_false, Bool.or_assoc]

-- Spaces keep the names of a list apart. A name is empty where two of them meet.
theorem Targets.exists_multiple_of_mem {targets : List Char} (hspace : ' ' ∈ targets) :
    ∃ names, ofText targets = .multiple names ∧ (∀ name ∈ names, ' ' ∉ name.toList) ∧
      names.length = targets.count ' ' + 1 := by
  refine ⟨_, ofText_of_mem hspace, fun name hname => ?_, ?_⟩
  · obtain ⟨piece, hpiece, rfl⟩ := List.mem_map.mp hname
    rw [String.toList_ofList]
    exact fun h => (mem_and_ne_of_mem_splitOn hpiece ' ' h).2 rfl
  · rw [List.length_map, length_splitOn]

namespace Header

-- `^(?P<targets>[\w.\-%$() +]+):(?P<rest>.*)$`
def pattern : LinePattern :=
  .row (.group "targets" (.atLeastOne (LinePattern.word ".-%$() +")))
    (.row (.mark ':') (.group "rest" (.many (· != '\n'))))

-- What the operators of an assignment leave behind their first colon.
def operatorEnds : List String :=
  ["=", ":=", "::="]

theorem startsAssignment_iff {rest : List Char} : startsAssignment rest = true ↔
    ∃ operator ∈ operatorEnds, operator.toList <+: rest := by
  constructor
  · intro hstart
    unfold startsAssignment at hstart
    split at hstart
    · rename_i tail
      exact ⟨"=", by simp [operatorEnds], tail, rfl⟩
    · rename_i tail
      exact ⟨":=", by simp [operatorEnds], tail, rfl⟩
    · rename_i tail
      exact ⟨"::=", by simp [operatorEnds], tail, rfl⟩
    · exact absurd hstart Bool.false_ne_true
  · rintro ⟨operator, hoperator, tail, rfl⟩
    simp only [operatorEnds, List.mem_cons, List.not_mem_nil, or_false] at hoperator
    rcases hoperator with rfl | rfl | rfl <;> rfl

section Line

variable {targets rest line : List Char} {held : List (String × List Char)} {header : Header}

theorem colon_not_mem (htargets : ∀ c ∈ targets, isHeaderChar c = true) : ':' ∉ targets := by
  intro hmem
  exact Bool.false_ne_true (isHeaderChar_colon.symm.trans (htargets ':' hmem))

-- The colon belongs to neither side of the pattern before it, so a line has one reading at most.
theorem reads_pattern_iff : pattern.Reads line held ↔ ∃ targets rest,
    line = targets ++ ':' :: rest ∧ targets ≠ [] ∧ (∀ c ∈ targets, isHeaderChar c = true) ∧
      '\n' ∉ rest ∧ held = [("targets", targets), ("rest", rest)] := by
  have hrest (rest : List Char) : (∀ c ∈ rest, (c != '\n') = true) ↔ '\n' ∉ rest := by
    simp only [bne_iff_ne, ne_eq]
    exact ⟨fun h hmem => h _ hmem rfl, fun h c hc heq => h (heq ▸ hc)⟩
  rw [pattern, ← isHeaderChar_eq,
    LinePattern.reads_row_group_of_silent fun _ _ => LinePattern.reads_atLeastOne_iff]
  simp only [LinePattern.reads_row_mark_iff,
    LinePattern.reads_group_of_silent fun _ _ => LinePattern.reads_many_iff, hrest]
  constructor
  · rintro ⟨targets, _, _, rfl, ⟨hne, htargets⟩, ⟨rest, rfl, hrest, rfl⟩, rfl⟩
    exact ⟨targets, rest, rfl, hne, htargets, hrest, rfl⟩
  · rintro ⟨targets, rest, rfl, hne, htargets, hrest, rfl⟩
    exact ⟨targets, _, _, rfl, ⟨hne, htargets⟩, ⟨rest, rfl, hrest, rfl⟩, rfl⟩

-- What stands before the first colon decides, and what the colon belongs to.
theorem ofLine?_append_colon_iff (hcolon : ':' ∉ targets) :
    ofLine? (targets ++ ':' :: rest) = some header ↔ targets ≠ [] ∧
      (∀ c ∈ targets, isHeaderChar c = true) ∧
      (∀ operator ∈ operatorEnds, ¬operator.toList <+: rest) ∧
      header = ⟨Targets.ofText targets, prerequisitesOf rest⟩ := by
  have hnot {front : List Char} (hfront : ':' ∉ front) : ∀ c ∈ front, (c != ':') = true := by
    intro c hc
    rw [bne_iff_ne]
    rintro rfl
    exact hfront hc
  have hstart : startsAssignment rest = false ↔
      ∀ operator ∈ operatorEnds, ¬operator.toList <+: rest := by
    rw [← Bool.not_eq_true, startsAssignment_iff]
    simp
  rw [ofLine?_eq_some_iff, ← hstart]
  constructor
  · rintro ⟨front, tail, heq, hne, hall, hplain, rfl⟩
    obtain ⟨rfl, rfl⟩ := eq_of_append_cons_of_forall (hnot hcolon) (hnot (colon_not_mem hall))
      (by decide) heq
    exact ⟨hne, hall, hplain, rfl⟩
  · rintro ⟨hne, hall, hplain, rfl⟩
    exact ⟨targets, rest, rfl, hne, hall, hplain, rfl⟩

end Line

end Header

-- A line is a header if characters of names and spaces stand before its first colon and the colon
-- does not begin an assignment. What it says is then told by the text on both sides of the colon.
theorem header_grammar {line : List Char} (hline : '\n' ∉ line) :
    ((Header.ofLine? line).isSome = true ↔ ∃ targets rest,
        line = targets ++ ':' :: rest ∧ ':' ∉ targets ∧ targets ≠ [] ∧
          (∀ c ∈ targets, LinePattern.word ".-%$() +" c = true) ∧
          ∀ operator ∈ Header.operatorEnds, ¬operator.toList <+: rest) ∧
      (∀ held, Header.pattern.Reads line held ↔ ∃ targets rest,
        line = targets ++ ':' :: rest ∧ ':' ∉ targets ∧ targets ≠ [] ∧
          (∀ c ∈ targets, LinePattern.word ".-%$() +" c = true) ∧
          held = [("targets", targets), ("rest", rest)]) ∧
      ∀ header targets rest, Header.ofLine? line = some header →
        line = targets ++ ':' :: rest → ':' ∉ targets →
        header.targets.text = String.ofList targets ∧
        (' ' ∉ targets → header.targets = .single (String.ofList targets)) ∧
        (' ' ∈ targets → ∃ names, header.targets = .multiple names ∧
          (∀ name ∈ names, ' ' ∉ name.toList) ∧ names.length = targets.count ' ' + 1) ∧
        ∃ token pieces, IsLongestPrefix (LinePattern.word ".-%$() +") token rest ∧
          Fragments token pieces ∧ header.prerequisites = pieces.map String.ofList := by
  simp only [← Header.isHeaderChar_eq]
  refine ⟨?_, fun held => ?_, ?_⟩
  · rw [Option.isSome_iff_exists]
    constructor
    · rintro ⟨header, hfound⟩
      obtain ⟨targets, rest, rfl, hne, hall, -, -⟩ := Header.ofLine?_eq_some_iff.mp hfound
      have hcolon := Header.colon_not_mem hall
      have hplain := ((Header.ofLine?_append_colon_iff hcolon).mp hfound).2.2.1
      exact ⟨targets, rest, rfl, hcolon, hne, hall, hplain⟩
    · rintro ⟨targets, rest, rfl, hcolon, hne, hall, hplain⟩
      exact ⟨_, (Header.ofLine?_append_colon_iff hcolon).mpr ⟨hne, hall, hplain, rfl⟩⟩
  · rw [Header.reads_pattern_iff]
    constructor
    · rintro ⟨targets, rest, rfl, hne, hall, -, rfl⟩
      exact ⟨targets, rest, rfl, Header.colon_not_mem hall, hne, hall, rfl⟩
    · rintro ⟨targets, rest, rfl, -, hne, hall, rfl⟩
      exact ⟨targets, rest, rfl, hne, hall, fun h => hline (by simp [h]), rfl⟩
  · rintro header targets rest hfound rfl hcolon
    obtain ⟨-, -, -, rfl⟩ := (Header.ofLine?_append_colon_iff hcolon).mp hfound
    refine ⟨?_, Targets.ofText_of_not_mem, Targets.exists_multiple_of_mem, _, _,
      isLongestPrefix_takeWhile _ rest, fragments_splitOn _, rfl⟩
    rw [← String.toList_inj, Targets.toList_text_ofText, String.toList_ofList]

-- Two spaces and one before the colon leave empty names among the targets but none among the
-- prerequisites, which end at the tab.
theorem header_grammar_spaces :
    let line := "é  b : $(o)  c\tz".toList
    '\n' ∉ line ∧
      Header.ofLine? line = some ⟨.multiple ["é", "", "b", ""], ["$(o)", "c"]⟩ ∧
      (Targets.multiple ["é", "", "b", ""]).text = "é  b " ∧
      (∃ held, Header.pattern.Reads line held) ∧
      ∃ token pieces, IsLongestPrefix (LinePattern.word ".-%$() +") token " $(o)  c\tz".toList ∧
        Fragments token pieces ∧ ["$(o)", "c"] = pieces.map String.ofList := by
  intro line
  have hline : '\n' ∉ line := by decide
  have hfound : Header.ofLine? line = some ⟨.multiple ["é", "", "b", ""], ["$(o)", "c"]⟩ := by
    decide
  obtain ⟨hsome, hreads, hparts⟩ := header_grammar hline
  obtain ⟨targets, rest, hsplit, hcolon, hne, hall, -⟩ := hsome.mp (by rw [hfound]; rfl)
  obtain ⟨htext, -, -, hprerequisites⟩ :=
    hparts _ "é  b ".toList " $(o)  c\tz".toList hfound rfl (by decide)
  exact ⟨hline, hfound, htext.trans String.ofList_toList,
    ⟨_, (hreads _).mpr ⟨targets, rest, hsplit, hcolon, hne, hall, rfl⟩⟩, hprerequisites⟩

namespace VariableDefinition

-- A name and an assignment operator without its equals sign, with blanks in between.
structure Splits (front name gap operator : List Char) : Prop where
  text : front = name ++ (gap ++ operator)
  nonempty : name ≠ []
  name : ∀ c ∈ name, LinePattern.word ".-" c = true
  gap : ∀ c ∈ gap, isBlank c = true
  operator : IsOperator operator

-- `^(?P<name>[\w.-]+)\s*(?::*|\?|!|\+)?=\s*(?P<value>.*)$`
def pattern : LinePattern :=
  .row (.group "name" (.atLeastOne (LinePattern.word ".-"))) (.row (.many isBlank)
    (.row (.optional (.choice (.many (· == ':'))
      (.choice (.mark '?') (.choice (.mark '!') (.mark '+')))))
      (.row (.mark '=') (.row (.many isBlank) (.group "value" (.many (· != '\n')))))))

section Split

variable {front name gap operator : List Char}

theorem equals_not_mem_of_isOperator (hoperator : IsOperator operator) : '=' ∉ operator := by
  rcases hoperator with hcolons | rfl | rfl | rfl
  · exact fun h => absurd (hcolons '=' h) (by decide)
  all_goals decide

theorem Splits.isNameChar (hsplit : Splits front name gap operator) :
    ∀ c ∈ name, isNameChar c = true :=
  isNameChar_eq ▸ hsplit.name

-- No part of the split holds the equals sign, so the first one of the line stands behind it.
theorem Splits.equals_not_mem (hsplit : Splits front name gap operator) : '=' ∉ front := by
  rw [hsplit.text, List.mem_append, List.mem_append]
  rintro (hname | hgap | hoperator)
  · exact absurd (hsplit.isNameChar '=' hname) (by decide)
  · exact absurd (hsplit.gap '=' hgap) (by decide)
  · exact equals_not_mem_of_isOperator hsplit.operator hoperator

theorem Splits.append_equals (hsplit : Splits front name gap operator) (value : List Char) :
    front ++ '=' :: value = name ++ (gap ++ (operator ++ '=' :: value)) := by
  rw [hsplit.text, List.append_assoc, List.append_assoc]

-- The name is the longest one, and the gap behind it the longest one too.
theorem Splits.unique {name' gap' operator' : List Char} (hsplit : Splits front name gap operator)
    (hother : Splits front name' gap' operator') :
    name' = name ∧ gap' = gap ∧ operator' = operator := by
  have hspan := span_of_parts hsplit.isNameChar hsplit.gap hsplit.operator []
  have hspan' := span_of_parts hother.isNameChar hother.gap hother.operator []
  rw [← hsplit.append_equals] at hspan
  rw [← hother.append_equals] at hspan'
  have hname : name' = name := hspan'.1.symm.trans hspan.1
  have hrest : gap' ++ (operator' ++ '=' :: []) = gap ++ (operator ++ '=' :: []) :=
    hspan'.2.symm.trans hspan.2
  have hend : operator' ++ '=' :: [] = operator ++ '=' :: [] := by
    rw [← trimStart_of_parts hother.gap hother.operator [],
      ← trimStart_of_parts hsplit.gap hsplit.operator [], hrest]
  have hgap : gap' = gap := List.append_cancel_right (hend ▸ hrest)
  exact ⟨hname, hgap, List.append_cancel_right hend⟩

theorem Splits.ofLine?_eq (hsplit : Splits front name gap operator) (value : List Char) :
    ofLine? (front ++ '=' :: value) = some ⟨String.ofList name, String.ofList (trim value)⟩ :=
  ofLine?_eq_some_iff.mpr ⟨name, gap, operator, value, hsplit.append_equals value, hsplit.nonempty,
    hsplit.isNameChar, hsplit.gap, hsplit.operator, rfl⟩

theorem isSome_ofLine?_iff {line : List Char} : (ofLine? line).isSome = true ↔
    ∃ front value, line = front ++ '=' :: value ∧ '=' ∉ front ∧
      ∃ name gap operator, Splits front name gap operator := by
  constructor
  · intro hsome
    obtain ⟨definition, hfound⟩ := Option.isSome_iff_exists.mp hsome
    obtain ⟨name, gap, operator, value, rfl, hne, hname, hgap, hoperator, -⟩ :=
      ofLine?_eq_some_iff.mp hfound
    have hsplit : Splits (name ++ (gap ++ operator)) name gap operator :=
      ⟨rfl, hne, isNameChar_eq ▸ hname, hgap, hoperator⟩
    exact ⟨_, value, (hsplit.append_equals value).symm, hsplit.equals_not_mem, _, _, _, hsplit⟩
  · rintro ⟨front, value, rfl, -, name, gap, operator, hsplit⟩
    rw [hsplit.ofLine?_eq value]
    rfl

end Split

section Readings

variable {line operator : List Char} {held : List (String × List Char)}

-- The branch of the colons may be empty, so a missing operator can be read in two ways.
theorem reads_operator_iff : LinePattern.Reads (.optional (.choice (.many (· == ':'))
      (.choice (.mark '?') (.choice (.mark '!') (.mark '+'))))) operator held ↔
    IsOperator operator ∧ held = [] := by
  simp only [LinePattern.reads_optional_iff, LinePattern.reads_choice_iff,
    LinePattern.reads_many_iff, LinePattern.reads_mark_iff, IsOperator, beq_iff_eq, ← or_and_right]
  refine and_congr_left fun _ => or_iff_right_of_imp ?_
  rintro rfl
  exact .inl (by simp)

-- All that a reading of the pattern leaves open is where the blanks before the value end.
theorem reads_pattern_iff : pattern.Reads line held ↔
    ∃ front name gap operator space value, line = front ++ '=' :: (space ++ value) ∧
      Splits front name gap operator ∧ (∀ c ∈ space, isBlank c = true) ∧ '\n' ∉ value ∧
      held = [("name", name), ("value", value)] := by
  rw [pattern, LinePattern.reads_row_group_of_silent fun _ _ => LinePattern.reads_atLeastOne_iff]
  simp only [LinePattern.reads_row_of_silent fun _ _ => LinePattern.reads_many_iff,
    LinePattern.reads_row_of_silent fun _ _ => reads_operator_iff, LinePattern.reads_row_mark_iff,
    LinePattern.reads_group_of_silent fun _ _ => LinePattern.reads_many_iff]
  constructor
  · rintro ⟨name, _, _, rfl, ⟨hne, hname⟩, ⟨gap, _, rfl, hgap, operator, _, rfl, hoperator, _, rfl,
      space, value, rfl, hspace, hvalue, rfl⟩, rfl⟩
    have hsplit : Splits (name ++ (gap ++ operator)) name gap operator :=
      ⟨rfl, hne, hname, hgap, hoperator⟩
    exact ⟨_, name, gap, operator, space, value, (hsplit.append_equals _).symm, hsplit, hspace,
      fun h => by simpa using hvalue _ h, rfl⟩
  · rintro ⟨front, name, gap, operator, space, value, rfl, hsplit, hspace, hvalue, rfl⟩
    have hline : ∀ c ∈ value, (c != '\n') = true := by
      intro c hc
      rw [bne_iff_ne]
      rintro rfl
      exact hvalue hc
    exact ⟨name, _, _, hsplit.append_equals _, ⟨hsplit.nonempty, hsplit.name⟩,
      ⟨gap, _, rfl, hsplit.gap, operator, _, rfl, hsplit.operator, _, rfl, space, value, rfl,
        hspace, hline, rfl⟩, rfl⟩

-- Whatever the reading, its name and its value are those of the definition.
theorem ofLine?_of_reads (hreads : pattern.Reads line held) :
    ∃ name value, held = [("name", name), ("value", value)] ∧
      ofLine? line = some ⟨String.ofList (trim name), String.ofList (trim value)⟩ := by
  obtain ⟨front, name, gap, operator, space, value, rfl, hsplit, hspace, -, rfl⟩ :=
    reads_pattern_iff.mp hreads
  have hname : Trimmed name := by
    refine trimmed_of_forall fun c hc => ?_
    by_contra hblank
    have hnot := isNameChar_of_isBlank ((Bool.not_eq_false _).mp hblank)
    exact Bool.false_ne_true (hnot.symm.trans (hsplit.isNameChar c hc))
  refine ⟨name, value, rfl, ?_⟩
  rw [hsplit.ofLine?_eq, trim_append_of_forall value hspace, trim_of_trimmed hname]

theorem exists_reads_of_ofLine? (hline : '\n' ∉ line) (hsome : (ofLine? line).isSome = true) :
    ∃ held, pattern.Reads line held := by
  obtain ⟨front, value, rfl, -, name, gap, operator, hsplit⟩ := isSome_ofLine?_iff.mp hsome
  have hvalue : '\n' ∉ value := fun h => hline (by simp [h])
  exact ⟨_, reads_pattern_iff.mpr
    ⟨front, name, gap, operator, [], value, rfl, hsplit, by simp, hvalue, rfl⟩⟩

end Readings

-- A line is an assignment if what stands before its first equals sign splits into a name, blanks and
-- an operator. There is one such split, and no reading of the pattern makes another definition of
-- the line.
theorem definition_grammar {line : List Char} (hline : '\n' ∉ line) :
    ((ofLine? line).isSome = true ↔ ∃ front value, line = front ++ '=' :: value ∧ '=' ∉ front ∧
        ∃ name gap operator, Splits front name gap operator) ∧
      (∀ front value name gap operator, line = front ++ '=' :: value →
        Splits front name gap operator →
        (∀ name' gap' operator', Splits front name' gap' operator' →
          name' = name ∧ gap' = gap ∧ operator' = operator) ∧
        ofLine? line = some ⟨String.ofList name, String.ofList (trim value)⟩) ∧
      ((ofLine? line).isSome = true ↔ ∃ held, pattern.Reads line held) ∧
      ∀ held, pattern.Reads line held → ∃ name value,
        held = [("name", name), ("value", value)] ∧
        ofLine? line = some ⟨String.ofList (trim name), String.ofList (trim value)⟩ := by
  refine ⟨isSome_ofLine?_iff, ?_, ⟨exists_reads_of_ofLine? hline, ?_⟩,
    fun held => ofLine?_of_reads⟩
  · rintro front value name gap operator rfl hsplit
    exact ⟨fun _ _ _ hother => hsplit.unique hother, hsplit.ofLine?_eq value⟩
  · rintro ⟨held, hreads⟩
    obtain ⟨name, value, -, hfound⟩ := ofLine?_of_reads hreads
    rw [hfound]
    rfl

-- The space behind the equals sign may be read as one of the blanks or as part of the value.
theorem definition_grammar_blanks :
    let line := "X.y\u3000::= a:=b ".toList
    '\n' ∉ line ∧ ofLine? line = some ⟨"X.y", "a:=b"⟩ ∧
      (∀ name gap operator, Splits "X.y\u3000::".toList name gap operator →
        name = "X.y".toList ∧ gap = ['\u3000'] ∧ operator = [':', ':']) ∧
      pattern.Reads line [("name", "X.y".toList), ("value", "a:=b ".toList)] ∧
      pattern.Reads line [("name", "X.y".toList), ("value", " a:=b ".toList)] ∧
      ∀ held, pattern.Reads line held → ∃ name value, held = [("name", name), ("value", value)] ∧
        some (VariableDefinition.mk "X.y" "a:=b") =
          some ⟨String.ofList (trim name), String.ofList (trim value)⟩ := by
  intro line
  have hline : '\n' ∉ line := by decide
  have hsplit : Splits "X.y\u3000::".toList "X.y".toList ['\u3000'] [':', ':'] :=
    ⟨rfl, by decide, List.all_eq_true.mp (by decide), List.all_eq_true.mp (by decide),
      .inl (by simp)⟩
  obtain ⟨-, hsplits, -, hreadings⟩ := definition_grammar hline
  obtain ⟨hunique, hfound⟩ := hsplits _ " a:=b ".toList _ _ _ rfl hsplit
  have hvalue : ofLine? line = some ⟨"X.y", "a:=b"⟩ := hfound.trans (by decide)
  refine ⟨hline, hvalue, hunique, ?_, ?_, ?_⟩
  · exact reads_pattern_iff.mpr ⟨_, _, _, _, [' '], "a:=b ".toList, rfl, hsplit,
      List.all_eq_true.mp (by decide), by decide, rfl⟩
  · exact reads_pattern_iff.mpr ⟨_, _, _, _, [], " a:=b ".toList, rfl, hsplit,
      List.all_eq_true.mp (by decide), by decide, rfl⟩
  · rw [← hvalue]
    exact hreadings

end VariableDefinition

end MakeCheck
