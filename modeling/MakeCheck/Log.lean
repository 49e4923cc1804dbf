namespace MakeCheck

inductive Level where
  | trace
  | debug
  | info
  | warn
  | error
deriving DecidableEq

-- A filter at a level lets through the records that are at least as severe.
def Level.severity : Level → Nat
  | trace => 0
  | debug => 1
  | info => 2
  | warn => 3
  | error => 4

def Level.label : Level → String
  | trace => "TRACE"
  | debug => "DEBUG"
  | info => "INFO"
  | warn => "WARN"
  | error => "ERROR"

-- The part of the library that speaks.
inductive Speaker where
  | scan
  | switches
  | command
  | invocation
  | case
  | makefileCase
deriving DecidableEq

-- The path under which a log filter knows the speaker.
def Speaker.path : Speaker → String
  | scan => "grading_lib::makefile::parser"
  | switches => "grading_lib::cfg::env"
  | command => "grading_lib::executor::command"
  | invocation => "grading_lib::makefile::invoke"
  | case => "grading_lib::assertions::base"
  | makefileCase => "grading_lib::assertions::makefile"

structure Record where
  level : Level
  speaker : Speaker
  message : String
deriving DecidableEq

end MakeCheck
