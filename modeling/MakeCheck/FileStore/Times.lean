import MakeCheck.Check.Failure
import MakeCheck.FileStore.Basic

namespace MakeCheck.FileStore

-- When the thing at a path was last changed.
def modified (store : FileStore) (directory : Location) (path : Path) : Except Report Time :=
  match store.find directory path with
  | .ok (_, node) => .ok node.modified
  | .error fault => .error (.readModified path fault)

-- Whether it was changed after the time that is known.
def changedSince (store : FileStore) (directory : Location) (known : Time) (path : Path) :
    Except Report Bool := do
  return decide (known < (← store.modified directory path))

-- Sets the time of the last change by hand.
def setModified (store : FileStore) (directory : Location) (path : Path) (time : Time) :
    FileStore :=
  match store.find directory path with
  | .ok (location, node) => store.put location { node with modified := time }
  | .error _ => store

end MakeCheck.FileStore
