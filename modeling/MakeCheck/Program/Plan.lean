import MakeCheck.Command.Basic
import MakeCheck.Program.Outcome

namespace MakeCheck.Program

-- A command that a program starts, and what it gets from there.
structure Errand where
  words : List String
  environment : Option (List (String × String))
  directory : Option Location
  input : Option (List UInt8)
  -- Its output goes to the program, and so do its complaints if the second flag says so.
  captures : Bool
  limit : Option Nat
  ignored : List Nat

def Errand.plain (words : List String) : Errand :=
  { words
    environment := none
    directory := none
    input := none
    captures := false
    limit := none
    ignored := [] }

-- What has become of a command: how it has ended, or why it was not started.
structure Reply where
  result : Except Fault Status
  isLate : Bool
  output : List UInt8
  files : FileStore
  now : Time

-- What a program does that starts others, step by step.
inductive Plan where
  | finish (outcome : Outcome)
  | say (channel : Channel) (bytes : List UInt8) (next : Plan)
  | change (files : FileStore) (next : Plan)
  | consume (next : Plan)
  | start (errand : Errand) (next : Reply → Plan)
  | die (signal : Nat)
  -- Gives the process over to a command.
  | become (errand : Errand) (refused : Fault → Outcome)

-- The code that a status gives a program which reports on it as a shell does.
def codeOf : Status → Nat
  | .exited code => code
  | .signalled signal => 128 + signal

-- Work of a program that starts others on its way. It is told how to go on with its result and with
-- the state that it leaves behind.
def Work (σ α : Type) : Type :=
  (α → σ → Plan) → σ → Plan

namespace Work

instance (σ : Type) : Monad (Work σ) where
  pure value := fun next state => next value state
  bind first second := fun next state =>
    first (fun value state => second value next state) state

def look {σ : Type} : Work σ σ :=
  fun next state => next state state

def alter {σ : Type} (change : σ → σ) : Work σ Unit :=
  fun next state => next () (change state)

def say {σ : Type} (channel : Channel) (bytes : List UInt8) : Work σ Unit :=
  fun next state => if bytes.isEmpty then next () state else .say channel bytes (next () state)

def place {σ : Type} (files : FileStore) : Work σ Unit :=
  fun next state => .change files (next () state)

def start {σ : Type} (errand : Errand) : Work σ Reply :=
  fun next state => .start errand fun reply => next reply state

def consume {σ : Type} : Work σ Unit :=
  fun next state => .consume (next () state)

def stop {σ α : Type} (last : σ → Plan) : Work σ α :=
  fun _ state => last state

def run {σ : Type} (work : Work σ Unit) (start : σ) (last : σ → Plan) : Plan :=
  work (fun _ state => last state) start

def forAll {σ α : Type} (things : List α) (work : α → Work σ Unit) : Work σ Unit :=
  match things with
  | [] => pure ()
  | thing :: rest => do
      work thing
      forAll rest work

end Work

end MakeCheck.Program
