import MakeCheck.Duration
import MakeCheck.Path

namespace MakeCheck

def defaultMakefileName : String :=
  "answer.mk"

-- How make is called. Without a limit the call may take for ever.
structure Invocation where
  make : String
  makefileName : String
  directory : Option Path
  limit : Option Duration
deriving DecidableEq

namespace Invocation

def default : Invocation :=
  { make := "make"
    makefileName := defaultMakefileName
    directory := none
    limit := some ⟨15, 0, by decide, by decide⟩ }

-- The words of the call, the program first.
def arguments (invocation : Invocation) (targets : List String) : List String :=
  [invocation.make, "-f", invocation.makefileName] ++ targets

end Invocation

end MakeCheck
