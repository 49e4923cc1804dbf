import MakeCheck.Make.Assignment

namespace MakeCheck.Make

open Text Program

-- Whether the lines of a branch are read, may be read after another word, or never.
inductive Reach where
  | reading
  | waiting
  | done
deriving DecidableEq

-- A condition that is open.
structure Branch where
  reach : Reach
  hasElse : Bool

-- What the lines behind a line about conditions are for.
inductive BranchChange where
  -- The line is about something else.
  | unrelated
  | malformed
  | changed (branches : List Branch)

def skipsLines (branches : List Branch) : Bool :=
  branches.any fun branch => branch.reach != .reading

-- The text up to a comma or a bracket that stands in no brackets, with what follows it.
def sideUpTo (mark : Char) : Nat → List Char → List Char →
    Option (List Char × List Char)
  | _, _, [] => none
  | depth, before, c :: rest =>
      if c = mark ∧ depth = 0 then some (before.reverse, rest)
      else
        let depth := if c = '(' then depth + 1
          else if c = ')' then depth - 1 else depth
        sideUpTo mark depth (c :: before) rest

def quotedSide (mark : Char) (s : List Char) : Option (List Char × List Char) :=
  let side := s.takeWhile (· != mark)
  match s.drop side.length with
  | [] => none
  | _ :: rest => some (side, rest)

-- The two sides of a comparison, and what stands behind it.
def comparedSides (s : List Char) : Option (List Char × List Char × List Char) := do
  let (left, rest, hasBrackets) ← match s with
    | '(' :: body => do
        let (left, rest) ← sideUpTo ',' 0 [] body
        some ((left.reverse.dropWhile isBlank).reverse, rest, true)
    | mark :: body =>
        if mark = '\x22' ∨ mark = '\x27' then do
          let (left, rest) ← quotedSide mark body
          some (left, dropSpace rest, false)
        else none
    | [] => none
  if hasBrackets then
    let (right, rest) ← sideUpTo ')' 0 [] (dropSpace rest)
    some (left, right, dropSpace rest)
  else
    match rest with
    | mark :: body =>
        if mark = '\x22' ∨ mark = '\x27' then
          let (right, rest) ← quotedSide mark body
          some (left, right, dropSpace rest)
        else if mark = ')' then
          let (right, rest) ← sideUpTo ')' 0 [] (dropSpace rest)
          some (left, right, dropSpace rest)
        else none
    | [] => none

def branchWords : List String :=
  ["ifdef", "ifndef", "ifeq", "ifneq", "else", "endif"]

def extraneous (word : String) : Shop Unit := do
  let shop ← Shop.look
  Shop.warn shop.place ("extraneous text after '" ++ word ++ "' directive")

def conditionHolds (evaluate : List Char → Shop Unit) (word : String) (text : List Char) :
    Shop (Option Bool) := do
  if word = "ifdef" ∨ word = "ifndef" then
    let name ← expanded evaluate text
    let (name, rest) := firstWord name
    if !rest.isEmpty then return none
    else
      let shop ← Shop.look
      let isDefined := (shop.variableOf (String.ofList name)).any fun found => !found.value.isEmpty
      return some (isDefined == (word == "ifdef"))
  else
    match comparedSides text with
    | none => return none
    | some (left, right, rest) =>
        let left ← expanded evaluate left
        if !rest.isEmpty then extraneous word
        let right ← expanded evaluate right
        return some ((left == right) == (word == "ifeq"))

-- Opens a condition. It is not looked at if its lines would be skipped anyway.
def openBranch (evaluate : List Char → Shop Unit) (branches : List Branch) (word : String)
    (text : List Char) : Shop (Option Branch) := do
  if skipsLines branches then return some ⟨.waiting, false⟩
  else
    let holds ← conditionHolds evaluate word text
    return holds.map fun holds => ⟨if holds then .reading else .waiting, false⟩

def branchLine (evaluate : List Char → Shop Unit) (branches : List Branch) (word : String)
    (text : List Char) : Shop BranchChange := do
  let shop ← Shop.look
  if !branchWords.contains word then return .unrelated
  else if word = "endif" then
    if !text.isEmpty then extraneous word
    match branches with
    | [] => Shop.fail shop.place "extraneous 'endif'"
    | _ :: outer => return .changed outer
  else if word = "else" then
    match branches with
    | [] => Shop.fail shop.place "extraneous 'else'"
    | branch :: outer =>
        if branch.hasElse then Shop.fail shop.place "only one 'else' per conditional"
        else
          let reach : Reach := match branch.reach with
            | .reading => .done
            | .waiting => .reading
            | .done => .done
          if text.isEmpty then return .changed (⟨reach, true⟩ :: outer)
          else
            let next := text.takeWhile fun c => !isSpace c
            let rest := dropSpace (text.drop next.length)
            let next := String.ofList next
            if !(branchWords.take 4).contains next then
              extraneous word
              return .changed (⟨reach, false⟩ :: outer)
            else
              let inner ← openBranch evaluate (⟨reach, false⟩ :: outer) next rest
              match inner with
              | none =>
                  extraneous word
                  return .changed (⟨reach, false⟩ :: outer)
              | some inner =>
                  let reach := if reach = .done then .done else inner.reach
                  return .changed (⟨reach, false⟩ :: outer)
  else
    let inner ← openBranch evaluate branches word text
    match inner with
    | none => return .malformed
    | some inner => return .changed (inner :: branches)

end MakeCheck.Make
