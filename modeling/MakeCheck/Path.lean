namespace MakeCheck

-- A path as it was written. Two spellings of one place are two paths.
structure Path where
  text : String
deriving DecidableEq

namespace Path

def isAbsolute (path : Path) : Bool :=
  path.text.toList.head? == some '/'

-- The text between slashes. A slash at the front gives an empty piece before it.
def pieces (path : Path) : List String :=
  (path.text.toList.splitOn '/').map String.ofList

-- The path of `name` seen from `path`. An absolute name stands alone.
def join (path : Path) (name : String) : Path :=
  if name.toList.head? = some '/' then ⟨name⟩
  else if path.text = "" ∨ path.text.toList.getLast? = some '/' then ⟨path.text ++ name⟩
  else ⟨path.text ++ "/" ++ name⟩

-- Empty pieces and single dots lead nowhere, so they do not count as the last component.
private def dropIdle (reversed : List String) : List String :=
  reversed.dropWhile fun piece => piece == "" || piece == "."

-- The path of the directory that holds the last component, if there is one.
def parent? (path : Path) : Option Path :=
  let slash := if path.isAbsolute then "/" else ""
  let body := if path.isAbsolute then path.pieces.drop 1 else path.pieces
  -- A dot at the very front of a relative path is a component of its own.
  let front := if !path.isAbsolute && body.head? == some "." then ["."] else []
  match dropIdle (body.drop front.length).reverse with
  | _ :: before => some ⟨slash ++ "/".intercalate (front ++ (dropIdle before).reverse)⟩
  | [] => if front.isEmpty then none else some ⟨""⟩

end Path

end MakeCheck
