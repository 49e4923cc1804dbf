import MakeCheck.FileStore.Basic

namespace MakeCheck.Program

-- The bits of a mode that belong to those whom a letter names.
def ownBits : Char → Nat
  | 'u' => 0o4700
  | 'g' => 0o2070
  | 'o' => 0o1007
  | 'a' => 0o7777
  | _ => 0

def rightBits (isRunnable : Bool) : Char → Nat
  | 'r' => 0o444
  | 'w' => 0o222
  | 'x' => 0o111
  | 'X' => if isRunnable then 0o111 else 0
  | 's' => 0o6000
  | 't' => 0o1000
  | _ => 0

-- The rights that one kind of owner has, given to everybody.
def spread (letter : Char) (mode : Nat) : Nat :=
  let rights :=
    match letter with
    | 'u' => mode / 64 % 8
    | 'g' => mode / 8 % 8
    | _ => mode % 8
  rights * 0o111

def isModeSign (c : Char) : Bool :=
  c == '+' || c == '-' || c == '='

-- The rights behind a sign: those of another kind of owner, or those that letters name.
def givenRights? (isDirectory : Bool) (mode : Nat) (letters : List Char) : Option Nat :=
  match letters with
  | ['u'] | ['g'] | ['o'] => some (spread (letters.headD 'u') mode)
  | _ =>
      let isRunnable := isDirectory || mode &&& 0o111 != 0
      if letters.all ['r', 'w', 'x', 'X', 's', 't'].contains then
        some (letters.foldl (fun bits c => bits ||| rightBits isRunnable c) 0)
      else none

-- Applies signs with rights one after the other to the bits that are meant. The first argument is
-- the length of the text.
def applyRights (isDirectory : Bool) (meant : Nat) : Nat → List Char → Nat → Option Nat
  | _, [], mode => some mode
  | 0, _, _ => none
  | fuel + 1, sign :: rest, mode =>
      if !isModeSign sign then none
      else
        let letters := rest.takeWhile fun c => !isModeSign c
        (givenRights? isDirectory mode letters).bind fun rights =>
          let bits := rights &&& meant
          let next :=
            if sign = '+' then mode ||| bits
            else if sign = '-' then mode - (mode &&& bits)
            else
              let kept := if isDirectory then meant &&& 0o777 else meant
              (mode - (mode &&& kept)) ||| bits
          applyRights isDirectory meant fuel (rest.drop letters.length) next

-- What one part of a mode in letters makes of a mode. Where nobody is named all are meant, but for
-- what the mask keeps from them.
def applyClause (isDirectory : Bool) (mask : Nat) (clause : List Char) (mode : Nat) : Option Nat :=
  let who := clause.takeWhile fun c => ['u', 'g', 'o', 'a'].contains c
  let meant := if who.isEmpty then Mode.without mask 0o7777
    else who.foldl (fun bits c => bits ||| ownBits c) 0
  match clause.drop who.length with
  | [] => none
  | signs => applyRights isDirectory meant signs.length signs mode

-- What a mode, in octal digits or in letters, makes of a mode.
def changedMode? (text : String) (isDirectory : Bool) (mask mode : Nat) : Option Nat :=
  let s := text.toList
  if !s.isEmpty && s.all fun c => '0' ≤ c && c ≤ '7' then
    let value := s.foldl (fun n c => 8 * n + (c.toNat - '0'.toNat)) 0
    if 0o7777 < value then none else some value
  else (s.splitOn ',').foldlM (fun mode clause => applyClause isDirectory mask clause mode) mode

def isMode (text : String) : Bool :=
  (changedMode? text false 0 0).isSome

def modeLetters (content : Content) (mode : Nat) : String :=
  let kind :=
    match content with
    | .directory => 'd'
    | .link _ => 'l'
    | .queue _ => 'p'
    | .device _ => 'c'
    | _ => '-'
  let triple (place : Nat) (bit : Nat) (small capital : Char) : List Char :=
    let rights := mode / place % 8
    let runs := rights % 2 == 1
    let last :=
      if mode &&& bit != 0 then (if runs then small else capital)
      else if runs then 'x' else '-'
    [if rights / 4 % 2 == 1 then 'r' else '-', if rights / 2 % 2 == 1 then 'w' else '-', last]
  String.ofList
    (kind :: triple 64 0o4000 's' 'S' ++ triple 8 0o2000 's' 'S' ++ triple 1 0o1000 't' 'T')

def octal (digits mode : Nat) : String :=
  String.ofList ((List.range digits).reverse.map fun i => Nat.digitChar (mode / Nat.pow 8 i % 8))

end MakeCheck.Program
