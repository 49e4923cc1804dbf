namespace MakeCheck

-- Why the system refused a step on a file or a program. What it can say besides is taken as it is.
inductive Fault where
  | notPermitted
  | notFound
  | interrupted
  | execFormat
  | badDescriptor
  | permissionDenied
  | fileExists
  | notADirectory
  | isADirectory
  | storageFull
  | brokenPipe
  | nameTooLong
  | notEmpty
  | tooManyLevels
  | nulInPath
  | nulInArgument
  | invalidText
  | notRegular
  | outOfMemory
  | other (reason : String) (code : Option Nat)
deriving DecidableEq

namespace Fault

def reason : Fault → String
  | notPermitted => "Operation not permitted"
  | notFound => "No such file or directory"
  | interrupted => "Interrupted system call"
  | execFormat => "Exec format error"
  | badDescriptor => "Bad file descriptor"
  | permissionDenied => "Permission denied"
  | fileExists => "File exists"
  | notADirectory => "Not a directory"
  | isADirectory => "Is a directory"
  | storageFull => "No space left on device"
  | brokenPipe => "Broken pipe"
  | nameTooLong => "File name too long"
  | notEmpty => "Directory not empty"
  | tooManyLevels => "Too many levels of symbolic links"
  | nulInPath => "file name contained an unexpected NUL byte"
  | nulInArgument => "nul byte found in provided data"
  | invalidText => "stream did not contain valid UTF-8"
  | notRegular => "the source path is neither a regular file nor a symlink to a regular file"
  | outOfMemory => "out of memory"
  | other reason _ => reason

-- Faults that the kernel finds have a number.
def code? : Fault → Option Nat
  | notPermitted => some 1
  | notFound => some 2
  | interrupted => some 4
  | execFormat => some 8
  | badDescriptor => some 9
  | permissionDenied => some 13
  | fileExists => some 17
  | notADirectory => some 20
  | isADirectory => some 21
  | storageFull => some 28
  | brokenPipe => some 32
  | nameTooLong => some 36
  | notEmpty => some 39
  | tooManyLevels => some 40
  | other _ code => code
  | _ => none

def message (fault : Fault) : String :=
  match fault.code? with
  | some code => fault.reason ++ " (os error " ++ toString code ++ ")"
  | none => fault.reason

end Fault

-- What goes wrong with something that is there.
abbrev Trouble := { fault : Fault // fault ≠ .notFound }

end MakeCheck
