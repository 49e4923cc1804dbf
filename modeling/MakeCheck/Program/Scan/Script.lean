import MakeCheck.Program.Scan.Value

namespace MakeCheck.Program.Scan

open Decimal

inductive Expression where
  | number (value : Binary64)
  | text (text : List Char)
  -- Whether the record fits a shape.
  | shape (shape : List Char)
  | name (name : String)
  | entry (table : String) (index : List Expression)
  | field (index : Expression)
  -- Several values in brackets, which are one only where a table is asked.
  | row (values : List Expression)
  | group (inner : Expression)
  -- Sets a place, to what an operator makes of its value if there is one.
  | assign (place : Expression) (operator : Option Char) (value : Expression)
  | step (isFirst isUp : Bool) (place : Expression)
  | choice (condition yes no : Expression)
  | and (left right : Expression)
  | or (left right : Expression)
  | not (operand : Expression)
  | minus (operand : Expression)
  | plus (operand : Expression)
  | reckon (operator : Char) (left right : Expression)
  | chain (left right : Expression)
  | compare (operator : String) (left right : Expression)
  | fits (negated : Bool) (text shape : Expression)
  | within (index : List Expression) (table : String)
  | call (function : String) (arguments : List Expression)
  | builtin (function : String) (arguments : List Expression)
  -- The next line of the input, of a file or of what a command writes.
  | line (place : Option Expression)
  | fileLine (file : Expression) (place : Option Expression)
  | commandLine (command : Expression) (place : Option Expression)

inductive Direction where
  | over
  | behind
  | through
deriving DecidableEq

inductive Statement where
  | value (expression : Expression)
  | print (isFormed : Bool) (arguments : List Expression)
      (target : Option (Direction × Expression))
  | block (body : List Statement)
  | choice (condition : Expression) (yes no : Statement)
  | loop (condition : Expression) (body step : Statement)
  | repeated (body : Statement) (condition : Expression)
  | each (name table : String) (body : Statement)
  | nextRecord
  | nextFile
  | leave
  | again
  | finish (code : Option Expression)
  | giveBack (value : Option Expression)
  | erase (table : String) (index : List Expression)
  | clear (table : String)

inductive Trigger where
  | always
  | when (condition : Expression)
  | between (first last : Expression)

structure Function where
  name : String
  parameters : List String
  body : List Statement

-- What is done before the first record, for each of them, and behind the last one.
structure Script where
  starts : List (List Statement)
  rules : List (Trigger × List Statement)
  ends : List (List Statement)
  functions : List Function

namespace Expression

def isPlace : Expression → Bool
  | name _ | entry .. | field _ => true
  | _ => false

end Expression

end MakeCheck.Program.Scan
