import Mathlib.Data.List.Forall2
import MakeCheck.Makefile.Json
import MakeCheck.Proofs.Json.Grammar

namespace MakeCheck.Json

section Skip

variable {text text' rest : List Char}

theorem skip_cons {c : Char} (hc : isSpace c = false) (rest : List Char) :
    skip (c :: rest) = c :: rest :=
  List.dropWhile_cons_of_neg (by simp [hc])

theorem skip_append {gap : List Char} (hgap : ∀ c ∈ gap, isSpace c = true) (text : List Char) :
    skip (gap ++ text) = skip text :=
  List.dropWhile_append_of_pos hgap

theorem Reads.of_skip_eq {json : Json} (h : Reads text json rest) (hskip : skip text' = skip text) :
    Reads text' json rest := by
  cases h with
  | bool value _ htext => exact .bool value rest (hskip.trans htext)
  | string htext hchars => exact .string (hskip.trans htext) hchars
  | emptyArray htext hclose => exact .emptyArray (hskip.trans htext) hclose
  | array htext hitems => exact .array (hskip.trans htext) hitems
  | emptyObject htext hclose => exact .emptyObject (hskip.trans htext) hclose
  | object htext hfields => exact .object (hskip.trans htext) hfields

theorem ReadsItems.of_skip_eq {items : List Json} (h : ReadsItems text items rest)
    (hskip : skip text' = skip text) : ReadsItems text' items rest := by
  cases h with
  | last hitem hclose => exact .last (hitem.of_skip_eq hskip) hclose
  | more hitem hcomma hitems => exact .more (hitem.of_skip_eq hskip) hcomma hitems

theorem ReadsField.of_skip_eq {field : String × Json} (h : ReadsField text field rest)
    (hskip : skip text' = skip text) : ReadsField text' field rest := by
  cases h with
  | mk htext hname hcolon hvalue => exact .mk (hskip.trans htext) hname hcolon hvalue

theorem ReadsFields.of_skip_eq {fields : List (String × Json)} (h : ReadsFields text fields rest)
    (hskip : skip text' = skip text) : ReadsFields text' fields rest := by
  cases h with
  | last hfield hclose => exact .last (hfield.of_skip_eq hskip) hclose
  | more hfield hcomma hfields => exact .more (hfield.of_skip_eq hskip) hcomma hfields

end Skip

section Strings

theorem hexValue?_digit : ∀ n < 16, hexValue? ((Nat.toDigits 16 n).headD '0') = some n := by
  decide

-- A control character is written by its number, which is less than two digits of four can hold.
theorem codeUnit?_control {n : Nat} (hn : n < 0x20) :
    codeUnit? '0' '0' ((Nat.toDigits 16 (n / 16)).headD '0')
      ((Nat.toDigits 16 (n % 16)).headD '0') = some n := by
  have hzero : hexValue? '0' = some 0 := by decide
  rw [codeUnit?, hzero, hexValue?_digit _ (by omega), hexValue?_digit _ (by omega)]
  simp only [Option.bind_eq_bind, Option.bind_some, Option.pure_def, Option.some.injEq]
  omega

theorem readsChar_escapeChar (c : Char) (rest : List Char) :
    ReadsChar (escapeChar c ++ rest) c rest := by
  unfold escapeChar
  split
  · rename_i h
    exact h ▸ .mark '"' '"' rest rfl
  split
  · rename_i h
    exact h ▸ .mark '\\' '\\' rest rfl
  split
  · rename_i h
    exact h ▸ .mark 'b' '\x08' rest rfl
  split
  · rename_i h
    exact h ▸ .mark 't' '\t' rest rfl
  split
  · rename_i h
    exact h ▸ .mark 'n' '\n' rest rfl
  split
  · rename_i h
    exact h ▸ .mark 'f' '\x0c' rest rfl
  split
  · rename_i h
    exact h ▸ .mark 'r' '\r' rest rfl
  split
  · rename_i hcontrol
    have hread := ReadsChar.code '0' '0' _ _ c.toNat rest (codeUnit?_control hcontrol)
      (by simp only [IsHighSurrogate]; omega) (by simp only [IsLowSurrogate]; omega)
    rwa [Char.ofNat_toNat] at hread
  · rename_i hquote hmark _ _ _ _ _ hcontrol
    exact .plain c rest hquote hmark (by omega)

theorem readsChars_escaped (s rest : List Char) :
    ReadsChars (s.flatMap escapeChar ++ '"' :: rest) s rest := by
  induction s with
  | nil => exact .close rest
  | cons c s ih =>
      rw [List.flatMap_cons, List.append_assoc]
      exact .cons (readsChar_escapeChar c _) ih

end Strings

-- The text is read as the value, whatever comes after it.
def Spells (text : List Char) (json : Json) : Prop :=
  ∀ rest, Reads (text ++ rest) json rest

def SpellsField (text : List Char) (field : String × Json) : Prop :=
  ∀ rest, ReadsField (text ++ rest) field rest

theorem quote_append (s : String) (rest : List Char) :
    (quote s).toList ++ rest = '"' :: (s.toList.flatMap escapeChar ++ '"' :: rest) := by
  simp [quote]

theorem spells_quote (s : String) : Spells (quote s).toList (.string s) := by
  intro rest
  have hread := Reads.string (skip_cons (by decide) _) (readsChars_escaped s.toList rest)
  rwa [String.ofList_toList, ← quote_append] at hread

theorem spells_word (value : Bool) :
    Spells (if value then "true" else "false").toList (.bool value) := by
  intro rest
  cases value with
  | true => exact .bool true rest (skip_cons (by decide) _)
  | false => exact .bool false rest (skip_cons (by decide) _)

section Layout

-- What stands behind a bracket or a comma, and what stands before the closing bracket.
variable {gap close : List Char} (hgap : ∀ c ∈ gap, isSpace c = true)
  (hclose : ∀ c ∈ close, isSpace c = true)

include hgap

theorem spellsField_of_spells (name : String) {text : List Char} {value : Json}
    (hvalue : Spells text value) :
    SpellsField ((quote name).toList ++ ':' :: (gap ++ text)) (name, value) := by
  intro rest
  have hread := ReadsField.mk (skip_cons (by decide) _)
    (readsChars_escaped name.toList (':' :: (gap ++ (text ++ rest))))
    (skip_cons (by decide) _) ((hvalue rest).of_skip_eq (skip_append hgap _))
  rw [String.ofList_toList, ← quote_append] at hread
  simpa using hread

include hclose

theorem readsItems_of_spells {text : List Char} {item : Json} {texts : List (List Char)}
    {items : List Json} (hitem : Spells text item) (hitems : List.Forall₂ Spells texts items)
    (rest : List Char) :
    ReadsItems ((',' :: gap).intercalate (text :: texts) ++ (close ++ ']' :: rest)) (item :: items)
      rest := by
  induction hitems generalizing text item with
  | nil =>
      rw [List.intercalate_singleton]
      refine .last (hitem _) ?_
      rw [skip_append hclose, skip_cons (by decide)]
  | cons hnext _ ih =>
      rw [List.intercalate_cons_cons, List.append_assoc, List.append_assoc]
      refine .more (hitem _) (skip_cons (by decide) _) ?_
      exact (ih hnext).of_skip_eq (skip_append hgap _)

theorem readsFields_of_spells {text : List Char} {field : String × Json} {texts : List (List Char)}
    {fields : List (String × Json)} (hfield : SpellsField text field)
    (hfields : List.Forall₂ SpellsField texts fields) (rest : List Char) :
    ReadsFields ((',' :: gap).intercalate (text :: texts) ++ (close ++ '\x7d' :: rest))
      (field :: fields) rest := by
  induction hfields generalizing text field with
  | nil =>
      rw [List.intercalate_singleton]
      refine .last (hfield _) ?_
      rw [skip_append hclose, skip_cons (by decide)]
  | cons hnext _ ih =>
      rw [List.intercalate_cons_cons, List.append_assoc, List.append_assoc]
      refine .more (hfield _) (skip_cons (by decide) _) ?_
      exact (ih hnext).of_skip_eq (skip_append hgap _)

end Layout

-- Texts between brackets with commas between them. Without any, the brackets meet.
def enclosed (opening closing : Char) (gap close : List Char) (texts : List (List Char)) :
    List Char :=
  if texts.isEmpty then [opening, closing]
  else opening :: (gap ++ ((',' :: gap).intercalate texts ++ (close ++ [closing])))

section Enclosed

variable {gap close : List Char} (hgap : ∀ c ∈ gap, isSpace c = true)
  (hclose : ∀ c ∈ close, isSpace c = true) {texts : List (List Char)}

include hgap hclose

theorem spells_items {items : List Json} (hitems : List.Forall₂ Spells texts items) :
    Spells (enclosed '[' ']' gap close texts) (.array items) := by
  intro rest
  cases hitems with
  | nil => exact .emptyArray (skip_cons (by decide) _) (skip_cons (by decide) _)
  | cons hitem hitems =>
      have hread := Reads.array (skip_cons (by decide) _)
        ((readsItems_of_spells hgap hclose hitem hitems rest).of_skip_eq (skip_append hgap _))
      simpa [enclosed] using hread

theorem spells_fields {fields : List (String × Json)}
    (hfields : List.Forall₂ SpellsField texts fields) :
    Spells (enclosed '\x7b' '\x7d' gap close texts) (.object fields) := by
  intro rest
  cases hfields with
  | nil => exact .emptyObject (skip_cons (by decide) _) (skip_cons (by decide) _)
  | cons hfield hfields =>
      have hread := Reads.object (skip_cons (by decide) _)
        ((readsFields_of_spells hgap hclose hfield hfields rest).of_skip_eq (skip_append hgap _))
      simpa [enclosed] using hread

end Enclosed

theorem isSpace_nil : ∀ c ∈ ([] : List Char), isSpace c = true :=
  fun _ hc => absurd hc List.not_mem_nil

theorem isSpace_lineBreak (depth : Nat) : ∀ c ∈ (lineBreak depth).toList, isSpace c = true := by
  intro c hc
  simp only [lineBreak, String.toList_ofList, List.mem_cons] at hc
  rcases hc with rfl | hc
  · decide
  · rw [List.eq_of_mem_replicate hc]
    decide

section Brackets

variable {front back : String} {opening closing : Char} (hfront : front.toList = [opening])
  (hback : back.toList = [closing]) (texts : List String)

include hfront hback

theorem toList_joined :
    (front ++ ",".intercalate texts ++ back).toList =
      enclosed opening closing [] [] (texts.map String.toList) := by
  cases texts with
  | nil => simp [enclosed, hfront, hback]
  | cons text texts => simp [enclosed, hfront, hback]

theorem toList_block (depth : Nat) :
    (block front back depth texts).toList =
      enclosed opening closing (lineBreak (depth + 1)).toList (lineBreak depth).toList
        (texts.map String.toList) := by
  cases texts with
  | nil => simp [block, enclosed, hfront, hback]
  | cons text texts => simp [block, enclosed, hfront, hback]

end Brackets

mutual

theorem spells_compact : (json : Json) → Spells json.compact.toList json
  | .bool value => spells_word value
  | .string s => spells_quote s
  | .array items => by
      rw [compact, toList_joined rfl rfl]
      exact spells_items isSpace_nil isSpace_nil (spells_compactItems items)
  | .object fields => by
      rw [compact, toList_joined rfl rfl]
      exact spells_fields isSpace_nil isSpace_nil (spells_compactFields fields)

theorem spells_compactItems :
    (items : List Json) → List.Forall₂ Spells ((compactItems items).map String.toList) items
  | [] => .nil
  | item :: items => .cons (spells_compact item) (spells_compactItems items)

theorem spells_compactFields : (fields : List (String × Json)) →
    List.Forall₂ SpellsField ((compactFields fields).map String.toList) fields
  | [] => .nil
  | (name, value) :: fields => by
      have hfield := spellsField_of_spells isSpace_nil name (spells_compact value)
      refine .cons ?_ (spells_compactFields fields)
      simpa using hfield

end

mutual

theorem spells_prettyAt (depth : Nat) : (json : Json) → Spells (prettyAt depth json).toList json
  | .bool value => spells_word value
  | .string s => spells_quote s
  | .array items => by
      rw [prettyAt, toList_block rfl rfl]
      exact spells_items (isSpace_lineBreak _) (isSpace_lineBreak _)
        (spells_prettyItems (depth + 1) items)
  | .object fields => by
      rw [prettyAt, toList_block rfl rfl]
      exact spells_fields (isSpace_lineBreak _) (isSpace_lineBreak _)
        (spells_prettyFields (depth + 1) fields)

theorem spells_prettyItems (depth : Nat) :
    (items : List Json) → List.Forall₂ Spells ((prettyItems depth items).map String.toList) items
  | [] => .nil
  | item :: items => .cons (spells_prettyAt depth item) (spells_prettyItems depth items)

theorem spells_prettyFields (depth : Nat) : (fields : List (String × Json)) →
    List.Forall₂ SpellsField ((prettyFields depth fields).map String.toList) fields
  | [] => .nil
  | (name, value) :: fields => by
      have hspace : ∀ c ∈ [' '], isSpace c = true := by simp [isSpace]
      have hfield := spellsField_of_spells hspace name (spells_prettyAt depth value)
      refine .cons ?_ (spells_prettyFields depth fields)
      simpa using hfield

end

theorem denotes_of_spells {text : String} {json : Json} (h : Spells text.toList json) :
    Denotes text json := by
  have hread := h []
  rw [List.append_nil] at hread
  exact ⟨[], hread, rfl⟩

-- Both layouts of a value denote it, and nothing else.
theorem denotes_compact_iff {json json' : Json} : Denotes json.compact json' ↔ json' = json := by
  constructor
  · exact fun h => h.unique (denotes_of_spells (spells_compact json))
  · rintro rfl
    exact denotes_of_spells (spells_compact _)

theorem denotes_pretty_iff {json json' : Json} : Denotes json.pretty json' ↔ json' = json := by
  have hpretty := denotes_of_spells (spells_prettyAt 0 json)
  constructor
  · exact fun h => h.unique hpretty
  · rintro rfl
    exact denotes_of_spells (spells_prettyAt 0 _)

theorem compact_injective {json json' : Json} (h : json.compact = json'.compact) : json = json' :=
  denotes_compact_iff.mp (h ▸ denotes_compact_iff.mpr rfl)

theorem pretty_injective {json json' : Json} (h : json.pretty = json'.pretty) : json = json' :=
  denotes_pretty_iff.mp (h ▸ denotes_pretty_iff.mpr rfl)

end MakeCheck.Json

namespace MakeCheck

theorem map_string_injective : Function.Injective (List.map Json.string) :=
  List.map_injective_iff.mpr fun _ _ h => Json.string.inj h

-- A single name is a string and a list of names an array, whatever its length.
theorem Targets.toJson_injective : Function.Injective Targets.toJson := by
  intro targets other h
  cases targets with
  | single name =>
      cases other with
      | single name' => rw [Json.string.inj h]
      | multiple names' => nomatch h
  | multiple names =>
      cases other with
      | single name' => nomatch h
      | multiple names' => rw [map_string_injective (Json.array.inj h)]

theorem Rule.toJson_injective : Function.Injective Rule.toJson := by
  intro ⟨targets, prerequisites, recipe⟩ ⟨targets', prerequisites', recipe'⟩ h
  have hfields := Json.object.inj h
  simp only [List.cons.injEq, Prod.mk.injEq, true_and, and_true] at hfields
  obtain ⟨htargets, hprerequisites, hrecipe⟩ := hfields
  rw [Targets.toJson_injective htargets, map_string_injective (Json.array.inj hprerequisites),
    map_string_injective (Json.array.inj hrecipe)]

theorem VariableDefinition.toJson_injective : Function.Injective VariableDefinition.toJson := by
  intro ⟨name, value⟩ ⟨name', value'⟩ h
  have hfields := Json.object.inj h
  simp only [List.cons.injEq, Prod.mk.injEq, true_and, and_true, Json.string.injEq] at hfields
  rw [hfields.1, hfields.2]

theorem Origin.toJson_injective : Function.Injective Origin.toJson := by
  intro origin other h
  cases origin with
  | memory =>
      cases other with
      | memory => rfl
      | path place' => nomatch h
  | path place =>
      cases other with
      | memory => nomatch h
      | path place' =>
          obtain ⟨text⟩ := place
          obtain ⟨text'⟩ := place'
          have hfields := Json.object.inj h
          simp only [List.cons.injEq, Prod.mk.injEq, true_and, and_true, Json.string.injEq]
            at hfields
          rw [hfields]

namespace Makefile

-- A list of definitions that is left out is told from an empty one by the number of fields.
theorem toJson_injective : Function.Injective toJson := by
  intro ⟨origin, rules, definitions⟩ ⟨origin', rules', definitions'⟩ h
  have hfields := Json.object.inj h
  simp only [List.cons_append, List.nil_append, List.cons.injEq, Prod.mk.injEq, true_and,
    Json.array.injEq] at hfields
  obtain ⟨horigin, hrules, hdefinitions⟩ := hfields
  have hdefinitions : definitions = definitions' := by
    cases definitions with
    | none =>
        cases definitions' with
        | none => rfl
        | some list' => nomatch hdefinitions
    | some list =>
        cases definitions' with
        | none => nomatch hdefinitions
        | some list' =>
            simp only [List.cons.injEq, Prod.mk.injEq, true_and, and_true, Json.array.injEq]
              at hdefinitions
            rw [List.map_injective_iff.mpr VariableDefinition.toJson_injective hdefinitions]
  rw [Origin.toJson_injective horigin, List.map_injective_iff.mpr Rule.toJson_injective hrules,
    hdefinitions]

-- Either text of a Makefile tells it from every other one, and both denote the same value.
theorem json_loses_nothing (makefile other : Makefile) :
    (makefile.toJson.compact = other.toJson.compact ↔ makefile = other) ∧
      (makefile.toJson.pretty = other.toJson.pretty ↔ makefile = other) ∧
      ∀ json, (Json.Denotes makefile.toJson.compact json ↔ json = makefile.toJson) ∧
        (Json.Denotes makefile.toJson.pretty json ↔ json = makefile.toJson) := by
  refine ⟨⟨fun h => toJson_injective (Json.compact_injective h), fun h => h ▸ rfl⟩,
    ⟨fun h => toJson_injective (Json.pretty_injective h), fun h => h ▸ rfl⟩, fun json => ?_⟩
  exact ⟨Json.denotes_compact_iff, Json.denotes_pretty_iff⟩

end Makefile

end MakeCheck
