import MakeCheck.Check.Failure
import MakeCheck.FileStore.Basic
import MakeCheck.Host.Basic
import MakeCheck.Makefile.Note

namespace MakeCheck

-- The options that hold when none are named.
def ParseOptions.ofEnvironment (environment : Environment) : ParseOptions :=
  { detectDefinitions := true, verbose := environment.debugMode }

namespace Makefile

-- The Makefile at a path. A text that can be read is never refused.
def ofPath (files : FileStore) (directory : Location) (path : Path) (options : ParseOptions) :
    Except Report Makefile :=
  match files.readText directory path with
  | .ok text => .ok { parse options text with origin := .path path }
  | .error fault => .error (.readMakefile path fault)

-- The scan of a file that can be read is logged.
def pathRecords (files : FileStore) (directory : Location) (path : Path) (options : ParseOptions) :
    List Record :=
  match files.readText directory path with
  | .ok text => records options text
  | .error _ => []

def load (path : Path) (options : ParseOptions) : Action Report Makefile := do
  let host ← get
  set (host.say (pathRecords host.files host.directory path options))
  ExceptT.mk (pure (ofPath host.files host.directory path options))

end Makefile

end MakeCheck
