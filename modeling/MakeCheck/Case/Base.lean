import MakeCheck.Check.Failure
import MakeCheck.Environment.Seed
import MakeCheck.Host.Basic

namespace MakeCheck

-- What every check of a submission shares.
structure BaseCase where
  debug : Bool
  seed : Seed
  -- A directory of the case's own, by its absolute path.
  scratch : Option Path
deriving DecidableEq

namespace BaseCase

-- Switch and seed are read when the case is made and never again.
def make (scratch : Option Path) : StateM Host BaseCase := do
  let host ← get
  let (seed, records) := Seed.ofEnvironment host.environment host.milliseconds
  set (host.say records)
  return { debug := host.environment.debugMode, seed, scratch }

def new : StateM Host BaseCase :=
  make none

def scratchLetters : List Char :=
  "ABCDEFGHIJKLMNOPQRSTUVWXYZabcdefghijklmnopqrstuvwxyz0123456789".toList

-- A name that nobody else is likely to choose, with six letters drawn from a number.
def scratchName (draw : Nat) : String :=
  let letter (place : Nat) : Char :=
    (scratchLetters[draw / Nat.pow scratchLetters.length place % scratchLetters.length]?).getD 'a'
  ".tmp" ++ String.ofList ((List.range 6).map letter)

-- How often another name is drawn where one is taken.
def scratchAttempts : Nat := 65536

-- The first draws are spread by the clock.
def freshScratch (host : Host) (parent : Path) : Path :=
  let first := (host.now.toNat + host.scratchCount) * 6364136223846793005 / Nat.pow 2 24
  let path (attempt : Nat) : Path :=
    (host.directoryPath.join parent.text).join (scratchName (first + attempt))
  let free (attempt : Nat) : Bool := !host.files.hasName host.directory (path attempt)
  path (((List.range scratchAttempts).find? free).getD 0)

-- Nobody but its owner may look into a scratch directory.
def scratchMode : Nat := 0o700

-- A case with a scratch directory of its own inside `parent`.
def withScratchIn (parent : Path) : Action Report BaseCase := do
  let host ← get
  let path := freshScratch host parent
  match host.files.makeDirectory host.directory path scratchMode host.now with
  | .error fault => throw (.makeScratch parent fault)
  | .ok files =>
      set { host with files, scratchCount := host.scratchCount + 1 }
      make (some path)

def withScratch : Action Report BaseCase :=
  withScratchIn ⟨"."⟩

-- Ends the case. Its scratch directory goes with it, except in debug mode.
def drop (case : BaseCase) : StateM Host Unit := do
  match case.scratch with
  | none => pure ()
  | some path =>
      if case.debug then
        logAt .info .case ("Keeping temporary directory " ++ path.text)
      else
        modify fun host =>
          match host.files.resolve host.directory path with
          | .ok location => { host with files := host.files.removeTree location host.now }
          | .error _ => host

-- The scratch directory, or another one where there is none.
def scratchOr (case : BaseCase) (fallback : Path) : Path :=
  case.scratch.getD fallback

end BaseCase

end MakeCheck
