import MakeCheck.FileStore.Basic

namespace MakeCheck

namespace Device

-- As many bytes as stand for those without an end.
def plenty : Nat := Nat.pow 2 18

def noiseFrom (seed : Nat) : Nat → List UInt8
  | 0 => []
  | count + 1 =>
      let next := (seed * 1103515245 + 12345) % Nat.pow 2 31
      UInt8.ofNat (next / Nat.pow 2 16) :: noiseFrom next count

-- What a program that stops reading in time may see.
def sample : Device → List UInt8
  | null => []
  | zero | full => List.replicate plenty 0
  | noise => noiseFrom 1 plenty

end Device

namespace FileStore

def sampleOf : Content → Except Fault (List UInt8)
  | .device device => .ok device.sample
  | .queue incoming => .ok (incoming.getD [])
  | content => bytesOf content

def sample (store : FileStore) (directory : Location) (path : Path) :
    Except Fault (List UInt8) := do
  let (_, node) ← store.openOld directory path
  sampleOf node.content

end FileStore

abbrev Chunk := Nat × List UInt8

-- What may be done with an open file. What is appended goes behind all that is there.
structure Access where
  reads : Bool
  writes : Bool
  appends : Bool
deriving DecidableEq

-- How much may be written, and until when, before nobody reads it any more.
structure Room where
  size : Option Nat
  closesAt : Option Nat
deriving DecidableEq

def Room.endless : Room :=
  ⟨none, none⟩

-- What processes have open. It is shared by all that have got it from one another.
inductive Opened where
  | outside
  -- Keeps what is written, the latest first, as long as there is room. The flag tells that there
  -- was too little of it.
  | kept (chunks : List Chunk) (room : Room) (isCut : Bool)
  -- What is still to be read, and when its end shows. The flag tells that the writer would have
  -- gone on.
  | coming (chunks : List Chunk) (endsAt : Nat) (isCut : Bool)
  -- More was asked for than has been written.
  | starved
  | file (location : Location) (offset : Nat) (access : Access)
  | device (device : Device)
deriving DecidableEq

-- How much is taken of what is to be read: all of it, what comes until there are so many bytes, or
-- so many bytes exactly.
inductive Intake where
  | all
  | until (count : Nat)
  | exactly (count : Nat)
deriving DecidableEq

-- The bytes of a file with others put over them. Noughts fill up what lies before them.
def overlaid (old new : List UInt8) (offset : Nat) : List UInt8 :=
  if offset = old.length then old ++ new
  else
    old.take offset ++ List.replicate (offset - old.length) 0 ++ new ++
      old.drop (offset + new.length)

-- Takes chunks until there are so many bytes. What is left begins with the rest of the last one.
-- The moment in which that one comes is missing if there are too few.
def takeChunks (count : Nat) : List Chunk → List Chunk × Option Nat
  | [] => ([], none)
  | (time, bytes) :: rest =>
      if count ≤ bytes.length then ((time, bytes.drop count) :: rest, some time)
      else takeChunks (count - bytes.length) rest

namespace Opened

def content (opened : Opened) (files : FileStore) : Except Fault (List UInt8) :=
  match opened with
  | coming [(_, bytes)] _ _ => .ok bytes
  | coming chunks _ _ => .ok (chunks.flatMap (·.2))
  | file location offset access =>
      if !access.reads then .error .badDescriptor
      else
        match files.content? location with
        | some content => (FileStore.sampleOf content).map (·.drop offset)
        | none => .ok []
  | device kind => .ok kind.sample
  | outside | kept .. => .error .badDescriptor
  | starved => .ok []

-- Whether its size can be asked for.
def isFile : Opened → Bool
  | file .. => true
  | _ => false

-- Whether more could come than there is.
def isCut : Opened → Bool
  | kept _ _ isCut => isCut
  | coming _ _ isCut => isCut
  | starved => true
  | _ => false

-- Takes bytes away. The moment is when the last of them has come, or the end if that is met. Who
-- does not ask for bytes exactly gets more if it is there by now.
def take (opened : Opened) (files : FileStore) (now : Nat) (intake : Intake) : Opened × Nat :=
  match opened with
  | coming chunks endsAt isCut =>
      let atEnd : Opened × Nat := (if isCut then starved else coming [] endsAt false, endsAt)
      match intake with
      | .all => atEnd
      | .until 0 | .exactly 0 => (opened, 0)
      | .until count =>
          match takeChunks count chunks with
          | (rest, some time) =>
              let left := (rest.drop 1).dropWhile fun chunk => decide (chunk.1 ≤ now)
              (coming left endsAt isCut, time)
          | (_, none) => atEnd
      | .exactly count =>
          match takeChunks count chunks with
          | (rest, some time) => (coming rest endsAt isCut, time)
          | (_, none) => atEnd
  | file location offset access =>
      let left := ((opened.content files).toOption.getD []).length
      let count := match intake with
        | .all => left
        | .until count | .exactly count => min count left
      (file location (offset + count) access, 0)
  | other => (other, 0)

end Opened

end MakeCheck
