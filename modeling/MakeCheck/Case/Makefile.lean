import MakeCheck.Case.Base
import MakeCheck.Invocation
import MakeCheck.Makefile.Reading

namespace MakeCheck

-- A case about one Makefile. The case owns its base.
structure MakefileCase where
  base : BaseCase
  path : Path
  makefile : Makefile

namespace MakefileCase

-- A missing file is a failure of the submission, any other fault an error of the system.
def loadMakefile (path : Path) : Action Report Makefile := do
  let host ← get
  if !host.files.has host.directory path then
    throw (.failure (.missingMakefile path))
  else
    let makefile ← Makefile.load path (.ofEnvironment host.environment)
    logAt .debug .makefileCase
      ("Loaded " ++ toString makefile.rules.length ++ " rules from " ++ path.text)
    return makefile

-- Reads the Makefile at a path. The base belongs to the case, and where no case comes about the
-- base is dropped.
def load (base : BaseCase) (path : Path) : Action Report MakefileCase := do
  try
    let makefile ← loadMakefile path
    return { base, path, makefile }
  catch report =>
    base.drop
    throw report

def drop (case : MakefileCase) : StateM Host Unit :=
  case.base.drop

-- Where a copy goes: to the directory that is named, else to the scratch directory, else beside
-- the file itself.
def copyTarget (case : MakefileCase) (destination : Option Path) (name : Option String) : Path :=
  let directory := destination.getD (case.base.scratchOr (case.path.parent?.getD ⟨"."⟩))
  directory.join (name.getD defaultMakefileName)

-- Copies the Makefile as it is now, which need not be as it was read. What was written before a step
-- failed stays written.
def copy (case : MakefileCase) (destination : Option Path) (name : Option String) :
    Action Report Path := do
  let host ← get
  let target := case.copyTarget destination name
  let (files, copied) := host.files.copy host.directory case.path target host.now
  set { host with files }
  match copied with
  | .error fault => throw (.copyMakefile case.path target fault)
  | .ok () =>
      logAt .debug .makefileCase ("Copied " ++ case.path.text ++ " to " ++ target.text)
      return target

end MakefileCase

end MakeCheck
