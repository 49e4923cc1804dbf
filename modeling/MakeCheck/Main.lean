import MakeCheck.CommandLine.Session
import MakeCheck.Host.Standard

namespace MakeCheck

-- The variables that the program looks at.
def variableNames : List String :=
  ["DEBUG", "MAKE", "RUST_LOG", "NO_COLOR", "CLICOLOR", "CLICOLOR_FORCE", "PATH"]

def readEnvironment : IO Environment := do
  variableNames.foldlM
    (fun environment name => do
      match ← IO.getEnv name with
      | some value => return environment.setText name value
      | none => return environment)
    ⟨[]⟩

-- The place that a piece of a path leads to.
def stepTo (location : Location) (piece : String) : Location :=
  if piece = "" ∨ piece = "." then location
  else if piece = ".." then location.dropLast
  else location ++ [piece]

-- Puts what stands at a path on the disk at the same path of the host.
def readFile (host : Host) (path : String) : IO Host := do
  let pieces := Path.pieces ⟨path⟩
  let (above, files) := pieces.dropLast.foldl
    (fun ((location, files) : Location × FileStore) piece =>
      let next := stepTo location piece
      (next, files.makeDirectories host.now next))
    ([], host.files)
  let location := stepTo above (pieces.getLast?.getD "")
  try
    let bytes ← IO.FS.readBinFile path
    let node := host.files.made (.file bytes.toList) FileStore.fileMode host.now
    return { host with files := files.put location node }
  catch
    | .inappropriateType .. =>
        return { host with files := files.makeDirectories host.now location }
    | _ => return host

end MakeCheck

open MakeCheck

-- Makefiles are read from the disk. Commands run on a host that has the standard programs only.
def main (arguments : List String) : IO UInt32 := do
  let environment ← readEnvironment
  let host := Host.standard [] environment 0 0
  let host ←
    match CommandLine.read environment arguments with
    | .ok (.rules path _ _) => readFile host path.text
    | _ => pure host
  let out ← IO.getStdout
  let (session, _) := Session.run (← out.isTty) arguments host
  out.putStr session.output
  for line in session.errors do
    IO.eprintln line
  return UInt32.ofNat session.exitCode
