import MakeCheck.Check.Failure
import MakeCheck.FileStore.Basic

namespace MakeCheck.FileStore

-- The files before one that cannot be made stay.
def createEmpty (store : FileStore) (directory : Location) (folder : Path) (now : Time) :
    List String → FileStore × Except Report Unit
  | [] => (store, .ok ())
  | name :: rest =>
      let path := folder.join name
      match store.write directory path [] now with
      | .ok next => createEmpty next directory folder now rest
      | .error fault => (store, .error (.createFile path fault))

-- Makes an empty file of each name in a directory. A file that is there is emptied.
def fill (store : FileStore) (directory : Location) (folder : Path) (names : List String)
    (now : Time) : FileStore × Except Report Unit :=
  if !store.has directory folder then (store, .error (.folderMissing folder))
  else if !store.isDirectory directory folder then (store, .error (.notAFolder folder))
  else store.createEmpty directory folder now names

end MakeCheck.FileStore
