import MakeCheck.Regex.Shape
import Std.Data.HashMap

namespace MakeCheck.Regex

def maxBytes : Nat := 10 * Nat.pow 2 20

-- An automaton under construction: how many states it has and how many bytes they take.
structure Room where
  states : Nat
  bytes : Nat
deriving DecidableEq

-- What is built finds no place once the bytes are used up.
abbrev Building := StateT Room Option

namespace Building

def take (bytes : Nat) : Building Unit := fun room =>
  let after := room.bytes + bytes
  if maxBytes < after then none else some ((), { room with bytes := after })

-- A state with its number. What leads on from it can take more room than the state itself.
def state (more : Nat) : Building Nat := fun room =>
  let after := room.bytes + 32 + more
  if maxBytes < after then none else some (room.states, ⟨room.states + 1, after⟩)

def way : Nat := 4

-- Each range of bytes that leads on from a state, if there are several.
def range : Nat := 8

-- States are kept for use in more than one place as far as there are slots for them. A state takes
-- the slot of another one with the same remainder.
structure Kept where
  slots : Nat
  found : Std.HashMap Nat (List Nat × Nat)

def Kept.empty (slots : Nat) : Kept :=
  ⟨slots, ∅⟩

def mix (hash : UInt64) (number : Nat) : UInt64 :=
  (hash ^^^ number.toUInt64) * 1099511628211

def Kept.slot (kept : Kept) (key : List Nat) : Nat :=
  (key.foldl mix 14695981039346656037).toNat % kept.slots

def share (kept : Kept) (key : List Nat) (more : Nat) : Building (Nat × Kept) := do
  let slot := kept.slot key
  match kept.found[slot]? with
  | some (other, number) =>
      if other = key then return (number, kept)
      else add slot
  | none => add slot
where
  add (slot : Nat) : Building (Nat × Kept) := do
    let number ← state more
    return (number, { kept with found := kept.found.insert slot (key, number) })

-- The state where the texts of some rows begin, and behind which the target follows. Rows with the
-- same first range lie next to each other.
def tree (target : Nat) : Nat → List ByteRow → Kept → Building (Nat × Kept)
  | 0, _, kept => return (target, kept)
  | depth + 1, rows, kept => do
      if rows.all List.isEmpty then return (target, kept)
      let groups := rows.splitBy fun row other => row.head? == other.head?
      let mut kept := kept
      let mut key : Array Nat := #[]
      for group in groups do
        let (next, after) ← tree target depth (group.map (·.drop 1)) kept
        kept := after
        let (low, high) := (group.head?.bind List.head?).getD (0, 0)
        key := key.push low |>.push high |>.push next
      share kept key.toList (range * groups.length)

def maxCharBytes : Nat := 4

def forwardSet (rows : List ByteRow) : Building Unit := do
  let target ← state 0
  let _ ← tree target maxCharBytes rows (.empty 10000)

-- The states of one row read backward, from the target on.
def chain (target : Nat) : ByteRow → Kept → Building Kept
  | [], kept => return kept
  | (low, high) :: rest, kept => do
      let (next, kept) ← share kept [target, low, high] 0
      chain next rest kept

-- The texts of a set read backward: a fork with a way for each row.
def backwardSet (rows : List ByteRow) : Building Unit := do
  let _ ← state 0
  let target ← state 0
  let mut kept := Kept.empty 1000
  for row in rows do
    kept ← chain target row kept
    take way

end Building

-- Texts that are tried together: groups of bytes with what follows each of them. A text that ends
-- comes between the groups before and the group behind it.
inductive Trie where
  | node (closed : List (List (Nat × Trie))) (current : List (Nat × Trie))

namespace Trie

def leaf : Trie :=
  .node [] []

def isLeaf : Trie → Bool
  | node closed current => closed.all List.isEmpty && current.isEmpty

-- The group with what follows a byte changed. New bytes come in order.
def change (byte : Nat) (step : Trie → Trie) : List (Nat × Trie) → List (Nat × Trie)
  | [] => [(byte, step leaf)]
  | (other, next) :: rest =>
      if other = byte then (other, step next) :: rest
      else if byte < other then (byte, step leaf) :: (other, next) :: rest
      else (other, next) :: change byte step rest

def add : List Nat → Trie → Trie
  | [], node closed current =>
      if (node closed current).isLeaf && !closed.isEmpty then node closed current
      else node (closed ++ [current]) []
  | byte :: rest, node closed current => node closed (change byte (add rest) current)

open Building

mutual

def build : Trie → Building Unit
  | node closed current => do
      let groups ← buildGroups closed
      let last ← buildGroup current
      let _ ← state (way * (groups + closed.length + if last = 0 then 0 else 1))

-- Builds the groups and counts those that are not empty.
def buildGroups : List (List (Nat × Trie)) → Building Nat
  | [] => return 0
  | group :: rest => do
      let size ← buildGroup group
      let others ← buildGroups rest
      return others + if size = 0 then 0 else 1

-- Builds what follows each byte, then the state that tells the bytes apart.
def buildGroup (group : List (Nat × Trie)) : Building Nat := do
  buildNext group
  if group.isEmpty then return 0
  let _ ← state (if group.length = 1 then 0 else range * group.length)
  return group.length

def buildNext : List (Nat × Trie) → Building Unit
  | [] => return
  | (_, next) :: rest => do
      if !next.isLeaf then build next
      buildNext rest

end

end Trie

namespace Building

-- Leads on from what was built. It is told of every part whether it ends in a fork.
def lead (fork : Bool) : Building Unit :=
  if fork then take way else return

-- Builds a part again and again, each time behind the one before.
def further (part : Building Bool) : Nat → Bool → Building Bool
  | 0, fork, room => some (fork, room)
  | count + 1, fork, room =>
      match part room with
      | none => none
      | some (next, room) =>
          match lead fork room with
          | none => none
          | some (_, room) => further part count next room

def exactly (part : Building Bool) : Nat → Building Bool
  | 0 => do
      let _ ← state 0
      return false
  | count + 1 => do
      let fork ← part
      further part count fork

-- Builds a part again and again, each time with a way around it.
def optionally (part : Building Bool) : Nat → Bool → Building Bool
  | 0, fork, room => some (fork, room)
  | count + 1, fork, room =>
      match (do let _ ← state (2 * way); let next ← part; lead fork; return next) room with
      | none => none
      | some (next, room) => optionally part count next room

def again (part : Building Bool) : Building Bool := do
  let fork ← part
  let _ ← state way
  lead fork
  return true

-- Builds a part as often as told. `hasBytes` tells whether each time takes some of the text.
def repetition (part : Building Bool) (hasBytes : Bool) (least : Nat) (most : Option Nat) :
    Building Bool := do
  match least, most with
  | 0, some 1 =>
      let _ ← state (2 * way)
      let fork ← part
      let _ ← state 0
      lead fork
      return false
  | 0, none =>
      if hasBytes then
        let _ ← state way
        lead (← part)
        return true
      else
        let _ ← again part
        let _ ← state (2 * way)
        let _ ← state 0
        take way
        return false
  | 1, none => again part
  | least, none =>
      let fork ← exactly part (least - 1)
      let _ ← again part
      lead fork
      return true
  | least, some most =>
      let fork ← exactly part least
      if least = most then return fork
      let _ ← state 0
      lead (← optionally part (most - least) fork)
      return false

end Building

open Building

def Shape.literal? : Shape → Option (List Nat)
  | .literal bytes => some bytes
  | _ => none

mutual

-- Builds the automaton of a shape, and tells whether it ends in a fork. What is read backward has
-- been turned around before, and nothing is captured then.
def Shape.build (backward : Bool) : Shape → Building Bool
  | .empty | .edge _ => do
      let _ ← state 0
      return false
  | .literal bytes => do
      for _ in bytes do
        let _ ← state 0
      return false
  | .chars set rows => do
      if set.isAscii then
        let _ ← state 0
        let _ ← state (range * set.ranges.length)
      else if backward then backwardSet rows
      else forwardSet rows
      return false
  | .captured body => do
      if backward then body.build backward
      else
        let _ ← state 0
        let fork ← body.build backward
        let _ ← state 0
        lead fork
        return false
  | .row parts => Shape.buildRow backward parts false
  | .choice branches => do
      match branches.mapM Shape.literal? with
      | some texts =>
          let _ ← state 0
          (texts.foldl (fun trie text => trie.add text) Trie.leaf).build
      | none => Shape.buildBranches backward branches 0
      return false
  | .repeated least most body =>
      let hasBytes := body.leastBytes.any fun bytes => decide (0 < bytes)
      repetition (body.build backward) hasBytes least most

def Shape.buildRow (backward : Bool) : List Shape → Bool → Building Bool
  | [], fork => return fork
  | part :: rest, fork => do
      let next ← part.build backward
      lead fork
      Shape.buildRow backward rest next

-- The fork before the branches and the state behind them come once two of them are built.
def Shape.buildBranches (backward : Bool) : List Shape → Nat → Building Unit
  | [], _ => return
  | branch :: rest, before => do
      let fork ← branch.build backward
      take way
      lead fork
      if before = 1 then
        let _ ← state 0
        let _ ← state 0
      Shape.buildBranches backward rest (before + 1)

end

-- Builds what looks for a shape anywhere in a text, unless it can only be found at the one end, and
-- what is known once it is found.
def Shape.buildSearch (backward : Bool) (shape : Shape) : Building Unit := do
  if shape.beginsWith (if backward then .textEnd else .textStart) then
    let _ ← state 0
  else
    let _ ← state (2 * way)
    let _ ← state 0
    let _ ← state range
  let fork ← (Shape.captured shape).build backward
  lead fork
  let _ ← state 0

-- Whether the automata that look for a pattern, forward and backward, take no more bytes than they
-- may.
def Pattern.fits (pattern : Pattern) : Bool :=
  let shape := pattern.shape
  (shape.buildSearch false ⟨0, 0⟩).isSome && (shape.reversed.buildSearch true ⟨0, 0⟩).isSome

end MakeCheck.Regex
