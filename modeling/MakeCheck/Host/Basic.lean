import MakeCheck.Command.Basic
import MakeCheck.Environment.Basic
import MakeCheck.FileStore.Basic
import MakeCheck.Log

namespace MakeCheck

-- What the system is told of a command that is to be run.
structure Launch where
  files : FileStore
  -- Where the one is who runs it.
  directory : Location
  environment : Environment
  now : Time
  arguments : List String
  -- Where it is to run, seen from there.
  workplace : Option Path
  limit : Option Duration

-- What becomes of a command: the program cannot be started, or a child runs. Either way there are the
-- files that are left in the end. It is for the system to say, and nothing is taken for granted of it.
abbrev System := Launch → Except Fault Child × FileStore

-- The system that the checks run on, as far as they can see it.
structure Host where
  files : FileStore
  -- The directory that relative paths start from.
  directory : Location
  environment : Environment
  now : Time
  -- Nanoseconds on the clock that time limits are added to.
  uptime : Nat
  scratchCount : Nat
  log : List Record
  system : System

-- A step on the host that may end in an error. What it has logged stays logged.
abbrev Action (ε α : Type) := ExceptT ε (StateM Host) α

namespace Host

def say (host : Host) (records : List Record) : Host :=
  { host with log := host.log ++ records }

def directoryPath (host : Host) : Path :=
  ⟨"/" ++ "/".intercalate host.directory⟩

def attempt (host : Host) (arguments : List String) (directory : Option Path)
    (limit : Option Duration) : Except Fault Child × FileStore :=
  host.system
    { files := host.files
      directory := host.directory
      environment := host.environment
      now := host.now
      arguments
      workplace := directory
      limit }

def milliseconds (host : Host) : UInt64 :=
  UInt64.ofNat (host.now / 1000000).toNat

end Host

def logAt (level : Level) (speaker : Speaker) (message : String) : StateM Host Unit :=
  modify fun host => host.say [⟨level, speaker, message⟩]

end MakeCheck
