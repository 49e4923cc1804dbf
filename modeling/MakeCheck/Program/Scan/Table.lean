import MakeCheck.Program.Scan.Value
import Std.Data.HashMap

namespace MakeCheck.Program.Scan

-- What an entry of a table is asked for by. Whole numbers are found without their texts.
inductive Index where
  | whole (n : Int)
  | text (text : List Char)
deriving DecidableEq

def Index.name : Index → String
  | whole n => toString n
  | text s => String.ofList s

-- Values by their texts. They are gone through in the order of the rows below, which depends on all
-- that was asked for: what was asked for last stands at the front of its row.
structure Table where
  -- The number of the last row. All its bits are set.
  mask : Nat
  -- Whether all entries stand in a row by their texts.
  showsTexts : Bool
  -- Whether the entries are the whole numbers from one on, which need no rows yet.
  isCounted : Bool
  texts : Array (List (List Char))
  numbers : Array (List Int)
  values : Std.HashMap String Value

namespace Table

def firstMask : Nat := 63

def spread (s : List Char) : Nat :=
  s.foldl (fun hash c => (hash ^^^ c.toNat) * 16777619 % Nat.pow 2 32) 2166136261

def rowOf (mask : Nat) (n : Int) : Nat :=
  (n.emod (mask + 1)).toNat

def bare (mask : Nat) : Table :=
  { mask
    showsTexts := false
    isCounted := false
    texts := Array.replicate (mask + 1) []
    numbers := Array.replicate (mask + 1) []
    values := Std.HashMap.emptyWithCapacity }

def empty : Table := bare firstMask

def size (table : Table) : Nat := table.values.size

-- How many entries there may be before the number of rows doubles.
def limit (mask : Nat) : Nat := (mask + 1) * 12

def addText (table : Table) (s : List Char) : Table :=
  { table with texts := table.texts.modify (spread s &&& table.mask) (s :: ·) }

def addNumber (table : Table) (n : Int) : Table :=
  { table with numbers := table.numbers.modify (rowOf table.mask n) (n :: ·) }

def maskFor (count : Nat) : Nat → Nat → Nat
  | 0, mask => mask
  | fuel + 1, mask => if limit mask < count then maskFor count fuel (2 * mask + 1) else mask

def rank (table : Table) : Table :=
  let start := { bare (maskFor table.size table.size firstMask) with values := table.values }
  (List.range table.size).foldl (fun table (i : Nat) => table.addNumber (i + 1)) start

@[inline] def ranked (table : Table) : Table :=
  if table.isCounted then table.rank else table

def showTexts (table : Table) : Table :=
  let ranked := table.ranked
  let start := { ranked with showsTexts := true }
  (ranked.numbers.toList.flatten.map fun n => (toString n).toList).foldl addText start

@[inline] def named (table : Table) : Table :=
  if table.showsTexts then table else table.showTexts

def insertText (s : List Char) : Table → Table
  | ⟨mask, showsTexts, isCounted, texts, numbers, values⟩ =>
      let row := spread s &&& mask
      let values := values.insert (String.ofList s) .unset
      ⟨mask, showsTexts, isCounted, texts.modify row (s :: ·), numbers, values⟩

def insertNumber (n : Int) : Table → Table
  | ⟨mask, showsTexts, isCounted, texts, numbers, values⟩ =>
      let row := rowOf mask n
      let rows := numbers.modify row (n :: ·)
      ⟨mask, showsTexts, isCounted, texts, rows, values.insert (toString n) .unset⟩

-- Doubles the number of rows. Each splits into two that keep their order.
def doubled (table : Table) : Table :=
  let mask := 2 * table.mask + 1
  let parts {α : Type} (rows : Array (List α)) (row : α → Nat) : Array (List α) :=
    let halves := rows.mapIdx fun i items => items.partition fun item => row item == i
    halves.map (·.1) ++ halves.map (·.2)
  { table with
    mask
    texts := parts table.texts fun s => spread s &&& mask
    numbers := parts table.numbers (rowOf mask) }

def widened (table : Table) : Table :=
  if limit table.mask < table.size + 1 then table.doubled else table

-- Asks for an entry by its text. It comes to the front of its row.
def seekText (table : Table) (s : List Char) (creates : Bool) : Table × Bool :=
  let table := table.named
  if table.values.contains (String.ofList s) then
    let row := spread s &&& table.mask
    ({ table with texts := table.texts.modify row fun items => s :: items.erase s }, true)
  else if creates then (table.widened.insertText s, true)
  else (table, false)

def seekNumber (table : Table) (n : Int) (creates : Bool) : Table × Bool :=
  if table.isCounted && table.values.contains (toString n) then (table, true)
  else if table.isCounted && !creates then (table, false)
  else
    let table := table.ranked
    let row := rowOf table.mask n
    if (table.numbers.getD row []).contains n then
      ({ table with numbers := table.numbers.modify row fun items => n :: items.erase n }, true)
    else if table.showsTexts then
      match table.seekText (toString n).toList creates with
      | (after, true) => (after.addNumber n, true)
      | (after, false) => (after, false)
    else if creates then (table.widened.insertNumber n, true)
    else (table, false)

def seek (table : Table) (index : Index) (creates : Bool) : Table × Bool :=
  if table.size == 0 && !creates then (table, false)
  else
    match index with
    | .whole n => table.seekNumber n creates
    | .text s => table.seekText s creates

def value (table : Table) (index : Index) : Value :=
  (table.values.get? index.name).getD .unset

def has (table : Table) (index : Index) : Bool :=
  table.values.contains index.name

def set (table : Table) (index : Index) (value : Value) : Table :=
  { table with values := table.values.insert index.name value }

def erase (table : Table) (index : Index) : Table :=
  match table.seek index false with
  | (_, false) => table
  | (found, true) =>
      let table := found.ranked
      let s := index.name.toList
      let texts := if table.showsTexts then
          table.texts.modify (spread s &&& table.mask) (·.erase s)
        else table.texts
      let numbers := match index.name.toInt? with
        | some n =>
            if toString n = index.name then table.numbers.modify (rowOf table.mask n) (·.erase n)
            else table.numbers
        | none => table.numbers
      let left := { table with texts, numbers, values := table.values.erase index.name }
      if left.size = 0 then empty else left

def order (table : Table) : List (List Char) :=
  table.named.texts.toList.flatten

def ofList (values : List Value) : Table :=
  let entries := values.zipIdx.map fun (value, i) => (toString (i + 1), value)
  if values.isEmpty then empty
  else { empty with isCounted := true, values := Std.HashMap.ofList entries }

end Table

end MakeCheck.Program.Scan
