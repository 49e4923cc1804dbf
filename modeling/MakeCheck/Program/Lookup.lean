import MakeCheck.Environment.Basic
import MakeCheck.FileStore.Basic

namespace MakeCheck.Program

open Text

-- A program that was found and may be run: what runs, under which name, with which arguments.
structure Loaded where
  utility : Utility
  name : String
  arguments : List String

-- As much of a program as is looked at to tell what it is.
def headSize : Nat := 256

def isGap (byte : UInt8) : Bool :=
  byte == 32 || byte == 9

def endsName (byte : UInt8) : Bool :=
  isGap byte || byte == 0

-- The line after the two first bytes of a script, without the gaps at its end. Where no line ends
-- within the head, all of it counts, as long as the name in it is not cut short. Noughts fill up
-- the head of a short script.
def interpreterLine? (head : List UInt8) : Option (List UInt8) :=
  let body := head.drop 2
  let line := body.takeWhile fun byte => byte != 10 && byte != 0
  let found :=
    if body[line.length]? = some 10 then some line
    else if (body.dropWhile isGap).any endsName then some (body.take (headSize - 3))
    else none
  found.map fun line => (line.reverse.dropWhile isGap).reverse

-- The interpreter that a script names in its first line, and the one argument that may follow.
def interpreter? (bytes : List UInt8) : Option (String × Option String) :=
  let head := bytes.take headSize
  match head with
  | 35 :: 33 :: _ => do
      let filled := head ++ List.replicate (headSize - head.length) 0
      let line := (← interpreterLine? filled).dropWhile isGap
      let name := line.takeWhile fun byte => !endsName byte
      let rest := line.drop name.length
      if line.isEmpty then none
      else if rest.head?.all (· == 0) then some (Utf8.decodeLossy name, none)
      else
        let argument := (rest.dropWhile isGap).takeWhile (· != 0)
        some (Utf8.decodeLossy name, some (Utf8.decodeLossy argument))
  | _ => none

-- How many scripts may stand between a program and what runs in the end.
def maxScripts : Nat := 5

-- Loads the program at a path. A script is given to its interpreter, which may be a script again:
-- the first argument bounds how often. An interpreter without a name is the directory itself.
def loadAt (files : FileStore) (directory : Location) :
    Nat → Path → String → List String → Except Fault Loaded
  | depth, path, name, arguments => do
      let (_, node) ← files.find directory path
      if !node.content.isFile || !node.isExecutable then .error .permissionDenied
      else
        match node.content, depth with
        | _, 0 => .error .tooManyLevels
        | .program utility, _ => .ok ⟨utility, name, arguments⟩
        | .file bytes, depth + 1 =>
            match interpreter? bytes with
            | some ("", _) => .error .permissionDenied
            | some (interpreter, argument) =>
                loadAt files directory depth ⟨interpreter⟩ interpreter
                  (argument.toList ++ path.text :: arguments)
            | none => .error .execFormat
        | _, _ => .error .permissionDenied

-- Tries the directories in their order. A name that may not be run is passed over, but remembered.
def loadAmong (files : FileStore) (directory : Location) (name : String) (arguments : List String)
    (refused : Bool) : List String → Except Fault Loaded
  | [] => .error (if refused then .permissionDenied else .notFound)
  | entry :: rest =>
      let path := if entry = "" then name else entry ++ "/" ++ name
      match loadAt files directory (maxScripts + 1) ⟨path⟩ name arguments with
      | .ok loaded => .ok loaded
      | .error .permissionDenied => loadAmong files directory name arguments true rest
      | .error .notFound | .error .notADirectory =>
          loadAmong files directory name arguments refused rest
      | .error fault => .error fault

def searchPath (value : Option String) : List String :=
  ((value.getD "/bin:/usr/bin").toList.splitOn ':').map String.ofList

-- Finds a program as the system does: a name with a slash is a path, any other is searched for.
def load (files : FileStore) (directory : Location) (search : List String) (name : String)
    (arguments : List String) : Except Fault Loaded :=
  if name = "" then .error .notFound
  else if '/' ∈ name.toList then loadAt files directory (maxScripts + 1) ⟨name⟩ name arguments
  else if FileStore.maxNameSize < name.utf8ByteSize then .error .nameTooLong
  else loadAmong files directory name arguments false search

end MakeCheck.Program
