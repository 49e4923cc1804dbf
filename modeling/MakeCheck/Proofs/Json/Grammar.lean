import Mathlib.Data.List.TakeWhile
import MakeCheck.Json.Printer

namespace MakeCheck.Json

-- The blanks that may stand in front of a token.
def isSpace (c : Char) : Bool :=
  c == ' ' || c == '\t' || c == '\n' || c == '\r'

def skip (text : List Char) : List Char :=
  text.dropWhile isSpace

-- The value of a hexadecimal digit, with letters of either case.
def hexValue? (c : Char) : Option Nat :=
  if c.isDigit then some (c.toNat - '0'.toNat)
  else if 'a' ≤ c ∧ c ≤ 'f' then some (c.toNat - 'a'.toNat + 10)
  else if 'A' ≤ c ∧ c ≤ 'F' then some (c.toNat - 'A'.toNat + 10)
  else none

-- Four hexadecimal digits.
def codeUnit? (a b c d : Char) : Option Nat := do
  return (((← hexValue? a) * 16 + (← hexValue? b)) * 16 + (← hexValue? c)) * 16 + (← hexValue? d)

-- What a backslash and one more character stand for.
def marks : List (Char × Char) :=
  [('"', '"'), ('\\', '\\'), ('/', '/'), ('b', '\x08'), ('f', '\x0c'), ('n', '\n'), ('r', '\r'),
    ('t', '\t')]

def IsHighSurrogate (unit : Nat) : Prop :=
  0xD800 ≤ unit ∧ unit < 0xDC00

def IsLowSurrogate (unit : Nat) : Prop :=
  0xDC00 ≤ unit ∧ unit < 0xE000

-- One character between quotes, and the text behind it.
inductive ReadsChar : List Char → Char → List Char → Prop
  | plain (c : Char) (rest : List Char) (hquote : c ≠ '"') (hmark : c ≠ '\\')
      (hcontrol : 0x20 ≤ c.toNat) : ReadsChar (c :: rest) c rest
  | mark (m c : Char) (rest : List Char) (hc : marks.lookup m = some c) :
      ReadsChar ('\\' :: m :: rest) c rest
  | code (a b c d : Char) (unit : Nat) (rest : List Char) (hunit : codeUnit? a b c d = some unit)
      (hhigh : ¬IsHighSurrogate unit) (hlow : ¬IsLowSurrogate unit) :
      ReadsChar ('\\' :: 'u' :: a :: b :: c :: d :: rest) (Char.ofNat unit) rest
  -- A character beyond the first plane is written in two halves.
  | pair (a b c d a' b' c' d' : Char) (high low : Nat) (rest : List Char)
      (hunit : codeUnit? a b c d = some high) (hunit' : codeUnit? a' b' c' d' = some low)
      (hhigh : IsHighSurrogate high) (hlow : IsLowSurrogate low) :
      ReadsChar ('\\' :: 'u' :: a :: b :: c :: d :: '\\' :: 'u' :: a' :: b' :: c' :: d' :: rest)
        (Char.ofNat (0x10000 + (high - 0xD800) * 0x400 + (low - 0xDC00))) rest

-- The characters up to the closing quote, and the text behind it.
inductive ReadsChars : List Char → List Char → List Char → Prop
  | close (rest : List Char) : ReadsChars ('"' :: rest) [] rest
  | cons {text more rest s : List Char} {c : Char} (hchar : ReadsChar text c more)
      (hchars : ReadsChars more s rest) : ReadsChars text (c :: s) rest

def word (value : Bool) : List Char :=
  if value then ['t', 'r', 'u', 'e'] else ['f', 'a', 'l', 's', 'e']

mutual

-- A value at the front of a text, and the text behind it. Numbers and null are left out: no value
-- here is spelled so.
inductive Reads : List Char → Json → List Char → Prop
  | bool {text : List Char} (value : Bool) (rest : List Char)
      (htext : skip text = word value ++ rest) : Reads text (.bool value) rest
  | string {text inner s rest : List Char} (htext : skip text = '"' :: inner)
      (hchars : ReadsChars inner s rest) : Reads text (.string (String.ofList s)) rest
  | emptyArray {text inner rest : List Char} (htext : skip text = '[' :: inner)
      (hclose : skip inner = ']' :: rest) : Reads text (.array []) rest
  | array {text inner rest : List Char} {items : List Json} (htext : skip text = '[' :: inner)
      (hitems : ReadsItems inner items rest) : Reads text (.array items) rest
  | emptyObject {text inner rest : List Char} (htext : skip text = '\x7b' :: inner)
      (hclose : skip inner = '\x7d' :: rest) : Reads text (.object []) rest
  | object {text inner rest : List Char} {fields : List (String × Json)}
      (htext : skip text = '\x7b' :: inner) (hfields : ReadsFields inner fields rest) :
      Reads text (.object fields) rest

-- The values up to the end of an array.
inductive ReadsItems : List Char → List Json → List Char → Prop
  | last {text after rest : List Char} {item : Json} (hitem : Reads text item after)
      (hclose : skip after = ']' :: rest) : ReadsItems text [item] rest
  | more {text after next rest : List Char} {item : Json} {items : List Json}
      (hitem : Reads text item after) (hcomma : skip after = ',' :: next)
      (hitems : ReadsItems next items rest) : ReadsItems text (item :: items) rest

inductive ReadsField : List Char → String × Json → List Char → Prop
  | mk {text inner behind next rest name : List Char} {value : Json}
      (htext : skip text = '"' :: inner) (hname : ReadsChars inner name behind)
      (hcolon : skip behind = ':' :: next) (hvalue : Reads next value rest) :
      ReadsField text (String.ofList name, value) rest

-- The fields up to the end of an object.
inductive ReadsFields : List Char → List (String × Json) → List Char → Prop
  | last {text after rest : List Char} {field : String × Json}
      (hfield : ReadsField text field after) (hclose : skip after = '\x7d' :: rest) :
      ReadsFields text [field] rest
  | more {text after next rest : List Char} {field : String × Json}
      {fields : List (String × Json)} (hfield : ReadsField text field after)
      (hcomma : skip after = ',' :: next) (hfields : ReadsFields next fields rest) :
      ReadsFields text (field :: fields) rest

end

-- The text is that of one value, with blanks around it.
def Denotes (text : String) (json : Json) : Prop :=
  ∃ rest, Reads text.toList json rest ∧ skip rest = []

section Unique

variable {text rest rest' : List Char}

theorem lookup_marks_u (c : Char) : marks.lookup 'u' ≠ some c := by
  have hnone : marks.lookup 'u' = none := by decide
  simp [hnone]

theorem ReadsChar.unique {c c' : Char} (h : ReadsChar text c rest) (h' : ReadsChar text c' rest') :
    c = c' ∧ rest = rest' := by
  cases h with
  | plain _ _ _ hmark =>
      cases h' with
      | plain => exact ⟨rfl, rfl⟩
      | mark => exact absurd rfl hmark
      | code => exact absurd rfl hmark
      | pair => exact absurd rfl hmark
  | mark _ _ _ hc =>
      cases h' with
      | plain _ _ _ hmark => exact absurd rfl hmark
      | mark _ _ _ hc' => exact ⟨Option.some.inj (hc.symm.trans hc'), rfl⟩
      | code => exact absurd hc (lookup_marks_u _)
      | pair => exact absurd hc (lookup_marks_u _)
  | code _ _ _ _ _ _ hunit hhigh =>
      cases h' with
      | plain _ _ _ hmark => exact absurd rfl hmark
      | mark _ _ _ hc => exact absurd hc (lookup_marks_u _)
      | code _ _ _ _ _ _ hunit' =>
          obtain rfl := Option.some.inj (hunit.symm.trans hunit')
          exact ⟨rfl, rfl⟩
      | pair _ _ _ _ _ _ _ _ _ _ _ hunit' _ hhigh' =>
          obtain rfl := Option.some.inj (hunit.symm.trans hunit')
          exact absurd hhigh' hhigh
  | pair _ _ _ _ _ _ _ _ _ _ _ hunit hlow hhigh =>
      cases h' with
      | plain _ _ _ hmark => exact absurd rfl hmark
      | mark _ _ _ hc => exact absurd hc (lookup_marks_u _)
      | code _ _ _ _ _ _ hunit' hhigh' =>
          obtain rfl := Option.some.inj (hunit.symm.trans hunit')
          exact absurd hhigh hhigh'
      | pair _ _ _ _ _ _ _ _ _ _ _ hunit' hlow' =>
          obtain rfl := Option.some.inj (hunit.symm.trans hunit')
          obtain rfl := Option.some.inj (hlow.symm.trans hlow')
          exact ⟨rfl, rfl⟩

theorem ReadsChar.ne_quote {c : Char} (h : ReadsChar text c rest) (more : List Char) :
    text ≠ '"' :: more := by
  rintro rfl
  cases h with
  | plain _ _ hquote => exact hquote rfl

theorem ReadsChars.unique {s s' : List Char} (h : ReadsChars text s rest)
    (h' : ReadsChars text s' rest') : s = s' ∧ rest = rest' := by
  induction h generalizing s' with
  | close =>
      cases h' with
      | close => exact ⟨rfl, rfl⟩
      | cons hchar => exact absurd rfl (hchar.ne_quote _)
  | cons hchar _ ih =>
      cases h' with
      | close => exact absurd rfl (hchar.ne_quote _)
      | cons hchar' hchars' =>
          obtain ⟨rfl, rfl⟩ := hchar.unique hchar'
          obtain ⟨rfl, rfl⟩ := ih hchars'
          exact ⟨rfl, rfl⟩

-- The first character of a value tells of what kind it is.
section Inversion

variable {json : Json} {inner : List Char}

theorem Reads.of_word {value : Bool} (h : Reads text json rest)
    (htext : skip text = word value ++ inner) : json = .bool value ∧ rest = inner := by
  cases h with
  | bool value' _ htext' =>
      cases value <;> cases value' <;> simp_all [word]
  | string htext' | emptyArray htext' | array htext' | emptyObject htext' | object htext' =>
      cases value <;> simp [htext, word] at htext'

theorem Reads.of_quote (h : Reads text json rest) (htext : skip text = '"' :: inner) :
    ∃ s, json = .string (String.ofList s) ∧ ReadsChars inner s rest := by
  cases h with
  | string htext' hchars =>
      obtain ⟨-, rfl⟩ := List.cons.inj (htext.symm.trans htext')
      exact ⟨_, rfl, hchars⟩
  | bool value _ htext' => cases value <;> simp [htext, word] at htext'
  | emptyArray htext' | array htext' | emptyObject htext' | object htext' =>
      simp [htext] at htext'

theorem Reads.of_bracket (h : Reads text json rest) (htext : skip text = '[' :: inner) :
    json = .array [] ∧ skip inner = ']' :: rest ∨
      ∃ items, json = .array items ∧ ReadsItems inner items rest := by
  cases h with
  | emptyArray htext' hclose =>
      obtain ⟨-, rfl⟩ := List.cons.inj (htext.symm.trans htext')
      exact .inl ⟨rfl, hclose⟩
  | array htext' hitems =>
      obtain ⟨-, rfl⟩ := List.cons.inj (htext.symm.trans htext')
      exact .inr ⟨_, rfl, hitems⟩
  | bool value _ htext' => cases value <;> simp [htext, word] at htext'
  | string htext' | emptyObject htext' | object htext' => simp [htext] at htext'

theorem Reads.of_brace (h : Reads text json rest) (htext : skip text = '\x7b' :: inner) :
    json = .object [] ∧ skip inner = '\x7d' :: rest ∨
      ∃ fields, json = .object fields ∧ ReadsFields inner fields rest := by
  cases h with
  | emptyObject htext' hclose =>
      obtain ⟨-, rfl⟩ := List.cons.inj (htext.symm.trans htext')
      exact .inl ⟨rfl, hclose⟩
  | object htext' hfields =>
      obtain ⟨-, rfl⟩ := List.cons.inj (htext.symm.trans htext')
      exact .inr ⟨_, rfl, hfields⟩
  | bool value _ htext' => cases value <;> simp [htext, word] at htext'
  | string htext' | emptyArray htext' | array htext' => simp [htext] at htext'

theorem Reads.skip_ne (h : Reads text json rest) (more : List Char) : skip text ≠ ']' :: more := by
  intro hclose
  cases h with
  | bool value _ htext => cases value <;> simp [hclose, word] at htext
  | string htext | emptyArray htext | array htext | emptyObject htext | object htext =>
      simp [hclose] at htext

theorem ReadsItems.skip_ne {items : List Json} (h : ReadsItems text items rest)
    (more : List Char) : skip text ≠ ']' :: more := by
  cases h with
  | last hitem => exact hitem.skip_ne more
  | more hitem => exact hitem.skip_ne more

theorem ReadsField.skip_ne {field : String × Json} (h : ReadsField text field rest)
    (more : List Char) : skip text ≠ '\x7d' :: more := by
  cases h with
  | mk htext => simp [htext]

theorem ReadsFields.skip_ne {fields : List (String × Json)} (h : ReadsFields text fields rest)
    (more : List Char) : skip text ≠ '\x7d' :: more := by
  cases h with
  | last hfield => exact hfield.skip_ne more
  | more hfield => exact hfield.skip_ne more

end Inversion

-- The reading is the only one of this kind at the front of the text.
def IsOnly {α : Type} (reads : List Char → α → List Char → Prop) (text : List Char) (a : α)
    (rest : List Char) : Prop :=
  ∀ a' rest', reads text a' rest' → a = a' ∧ rest = rest'

-- By induction on the reading, with a case for each way to read a value, an item, or a field.
theorem Reads.isOnly {json : Json} (h : Reads text json rest) : IsOnly Reads text json rest := by
  refine @Reads.rec (fun text json rest _ => IsOnly Reads text json rest)
    (fun text items rest _ => IsOnly ReadsItems text items rest)
    (fun text field rest _ => IsOnly ReadsField text field rest)
    (fun text fields rest _ => IsOnly ReadsFields text fields rest)
    ?bool ?string ?emptyArray ?array ?emptyObject ?object ?lastItem ?moreItems ?field ?lastField
    ?moreFields text json rest h
  case bool =>
    intro text value rest htext json' rest' h'
    obtain ⟨rfl, rfl⟩ := h'.of_word htext
    exact ⟨rfl, rfl⟩
  case string =>
    intro text inner s rest htext hchars json' rest' h'
    obtain ⟨s', rfl, hchars'⟩ := h'.of_quote htext
    obtain ⟨rfl, rfl⟩ := hchars.unique hchars'
    exact ⟨rfl, rfl⟩
  case emptyArray =>
    intro text inner rest htext hclose json' rest' h'
    rcases h'.of_bracket htext with ⟨rfl, hclose'⟩ | ⟨items, -, hitems⟩
    · exact ⟨rfl, (List.cons.inj (hclose.symm.trans hclose')).2⟩
    · exact absurd hclose (hitems.skip_ne _)
  case array =>
    intro text inner rest items htext hitems ih json' rest' h'
    rcases h'.of_bracket htext with ⟨-, hclose⟩ | ⟨items', rfl, hitems'⟩
    · exact absurd hclose (hitems.skip_ne _)
    · obtain ⟨rfl, rfl⟩ := ih _ _ hitems'
      exact ⟨rfl, rfl⟩
  case emptyObject =>
    intro text inner rest htext hclose json' rest' h'
    rcases h'.of_brace htext with ⟨rfl, hclose'⟩ | ⟨fields, -, hfields⟩
    · exact ⟨rfl, (List.cons.inj (hclose.symm.trans hclose')).2⟩
    · exact absurd hclose (hfields.skip_ne _)
  case object =>
    intro text inner rest fields htext hfields ih json' rest' h'
    rcases h'.of_brace htext with ⟨-, hclose⟩ | ⟨fields', rfl, hfields'⟩
    · exact absurd hclose (hfields.skip_ne _)
    · obtain ⟨rfl, rfl⟩ := ih _ _ hfields'
      exact ⟨rfl, rfl⟩
  case lastItem =>
    intro text after rest item hitem hclose ih items' rest' h'
    cases h' with
    | last hitem' hclose' =>
        obtain ⟨rfl, rfl⟩ := ih _ _ hitem'
        exact ⟨rfl, (List.cons.inj (hclose.symm.trans hclose')).2⟩
    | more hitem' hcomma =>
        obtain ⟨rfl, rfl⟩ := ih _ _ hitem'
        simp [hclose] at hcomma
  case moreItems =>
    intro text after next rest item items hitem hcomma hitems ihItem ihItems items' rest' h'
    cases h' with
    | last hitem' hclose =>
        obtain ⟨rfl, rfl⟩ := ihItem _ _ hitem'
        simp [hclose] at hcomma
    | more hitem' hcomma' hitems' =>
        obtain ⟨rfl, rfl⟩ := ihItem _ _ hitem'
        obtain ⟨-, rfl⟩ := List.cons.inj (hcomma.symm.trans hcomma')
        obtain ⟨rfl, rfl⟩ := ihItems _ _ hitems'
        exact ⟨rfl, rfl⟩
  case field =>
    intro text inner behind next rest name value htext hname hcolon hvalue ih field' rest' h'
    cases h' with
    | mk htext' hname' hcolon' hvalue' =>
        obtain ⟨-, rfl⟩ := List.cons.inj (htext.symm.trans htext')
        obtain ⟨rfl, rfl⟩ := hname.unique hname'
        obtain ⟨-, rfl⟩ := List.cons.inj (hcolon.symm.trans hcolon')
        obtain ⟨rfl, rfl⟩ := ih _ _ hvalue'
        exact ⟨rfl, rfl⟩
  case lastField =>
    intro text after rest field hfield hclose ih fields' rest' h'
    cases h' with
    | last hfield' hclose' =>
        obtain ⟨rfl, rfl⟩ := ih _ _ hfield'
        exact ⟨rfl, (List.cons.inj (hclose.symm.trans hclose')).2⟩
    | more hfield' hcomma =>
        obtain ⟨rfl, rfl⟩ := ih _ _ hfield'
        simp [hclose] at hcomma
  case moreFields =>
    intro text after next rest field fields hfield hcomma hfields ihField ihFields fields' rest' h'
    cases h' with
    | last hfield' hclose =>
        obtain ⟨rfl, rfl⟩ := ihField _ _ hfield'
        simp [hclose] at hcomma
    | more hfield' hcomma' hfields' =>
        obtain ⟨rfl, rfl⟩ := ihField _ _ hfield'
        obtain ⟨-, rfl⟩ := List.cons.inj (hcomma.symm.trans hcomma')
        obtain ⟨rfl, rfl⟩ := ihFields _ _ hfields'
        exact ⟨rfl, rfl⟩

theorem Denotes.unique {text : String} {json json' : Json} (h : Denotes text json)
    (h' : Denotes text json') : json = json' := by
  obtain ⟨rest, hreads, -⟩ := h
  obtain ⟨rest', hreads', -⟩ := h'
  exact (hreads.isOnly _ _ hreads').1

end Unique

end MakeCheck.Json
