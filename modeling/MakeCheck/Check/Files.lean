import MakeCheck.Check.Failure
import MakeCheck.Check.Template
import MakeCheck.FileStore.Basic

namespace MakeCheck.Check

-- Something must be there, be it a file or a directory.
def fileExists (files : FileStore) (directory : Location) (path : Path) : Except Failure Unit :=
  if files.has directory path then .ok () else .error (.missingFile path)

def fileExistsWith (files : FileStore) (directory : Location) (path : Path) (template : String) :
    Except Failure Unit :=
  match fileExists files directory path with
  | .ok _ => .ok ()
  | .error _ => .error (.custom (renderTemplate template [("path", path.text)]))

-- The paths that lead nowhere, up to the first one that leads to something other than a file.
def missingAmong (files : FileStore) (directory : Location) : List Path → Except Failure (List Path)
  | [] => .ok []
  | path :: rest =>
      if !files.has directory path then
        match missingAmong files directory rest with
        | .ok missing => .ok (path :: missing)
        | .error failure => .error failure
      else if !files.isFile directory path then .error (.notAFile path)
      else missingAmong files directory rest

-- Every path must lead to a regular file.
def allFilesExist (files : FileStore) (directory : Location) (paths : List Path) :
    Except Failure Unit :=
  match missingAmong files directory paths with
  | .error failure => .error failure
  | .ok [] => .ok ()
  | .ok missing => .error (.missingFiles paths missing)

end MakeCheck.Check
