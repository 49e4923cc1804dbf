import MakeCheck.Duration
import MakeCheck.Json.Printer

namespace MakeCheck

-- How a process ended.
inductive Status where
  | exited (code : Nat)
  | signalled (signal : Nat)
deriving DecidableEq

namespace Status

def success (status : Status) : Bool :=
  status == exited 0

-- The signals that end a process which does not handle them.
def signalNames : List (Nat × String) :=
  [(1, "SIGHUP"), (2, "SIGINT"), (3, "SIGQUIT"), (4, "SIGILL"), (5, "SIGTRAP"), (6, "SIGABRT"),
    (7, "SIGBUS"), (8, "SIGFPE"), (9, "SIGKILL"), (10, "SIGUSR1"), (11, "SIGSEGV"), (12, "SIGUSR2"),
    (13, "SIGPIPE"), (14, "SIGALRM"), (15, "SIGTERM"), (16, "SIGSTKFLT"), (24, "SIGXCPU"),
    (25, "SIGXFSZ"), (26, "SIGVTALRM"), (27, "SIGPROF"), (29, "SIGIO"), (30, "SIGPWR"),
    (31, "SIGSYS")]

-- What a signal means.
def signalText : Nat → String
  | 1 => "Hangup"
  | 2 => "Interrupt"
  | 3 => "Quit"
  | 4 => "Illegal instruction"
  | 5 => "Trace/breakpoint trap"
  | 6 => "Aborted"
  | 7 => "Bus error"
  | 8 => "Floating point exception"
  | 9 => "Killed"
  | 10 => "User defined signal 1"
  | 11 => "Segmentation fault"
  | 12 => "User defined signal 2"
  | 13 => "Broken pipe"
  | 14 => "Alarm clock"
  | 15 => "Terminated"
  | 16 => "Stack fault"
  | 24 => "CPU time limit exceeded"
  | 25 => "File size limit exceeded"
  | 26 => "Virtual timer expired"
  | 27 => "Profiling timer expired"
  | 29 => "I/O possible"
  | 30 => "Power failure"
  | 31 => "Bad system call"
  | signal => "Real-time signal " ++ toString (signal - 34)

def text : Status → String
  | exited code => "exit status: " ++ toString code
  | signalled signal =>
      "signal: " ++ toString signal ++
        match signalNames.lookup signal with
        | some name => " (" ++ name ++ ")"
        | none => ""

end Status

-- A process that was started, as it would go on if nobody stopped it. Its pipe stays open as long
-- as some process that it left behind can write to it. Times count in nanoseconds from the start.
structure Child where
  status : Status
  exitsAfter : Nat
  written : List UInt8
  closesAfter : Nat

-- What waiting for a child comes to.
inductive Ending where
  | finished (status : Status) (written : List UInt8)
  | stillRunning (limit : Duration)
  | pipeOpen (limit : Duration)

-- Waits for the exit and then for the end of the output. Both waits share one limit, and without
-- a limit neither of them runs out.
def Child.ending (child : Child) : Option Duration → Ending
  | none => .finished child.status child.written
  | some limit =>
      if limit.toNanos < child.exitsAfter then .stillRunning limit
      else if limit.toNanos < child.closesAfter then .pipeOpen limit
      else .finished child.status child.written

-- How a command went. The output holds what it wrote on both of its channels, in the order of
-- writing.
structure CommandResult where
  success : Bool
  command : String
  output : String
deriving DecidableEq

namespace CommandResult

def text (result : CommandResult) : String :=
  "An error occurred while trying to run a command '" ++ result.command ++
    "'. The command's output is\n\n" ++ result.output

def toJson (result : CommandResult) : Json :=
  .object
    [("success", .bool result.success), ("command", .string result.command),
      ("output", .string result.output)]

end CommandResult

end MakeCheck
