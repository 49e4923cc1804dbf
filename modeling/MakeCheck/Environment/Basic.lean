import MakeCheck.Text.Blank
import MakeCheck.Text.Lowercase
import MakeCheck.Text.Utf8

namespace MakeCheck

open Text

-- The variables of a process. A value is a row of bytes, which need not spell a text.
structure Environment where
  bindings : List (String × List UInt8)

namespace Environment

def get? (environment : Environment) (name : String) : Option (List UInt8) :=
  environment.bindings.lookup name

def text? (environment : Environment) (name : String) : Option String :=
  (environment.get? name).bind Utf8.decode?

def unset (environment : Environment) (name : String) : Environment :=
  ⟨environment.bindings.filter fun binding => binding.1 != name⟩

def set (environment : Environment) (name : String) (value : List UInt8) : Environment :=
  ⟨(name, value) :: (environment.unset name).bindings⟩

def setText (environment : Environment) (name value : String) : Environment :=
  environment.set name (Utf8.encode value)

-- Only letters of the ASCII block are taken for each other.
def sameIgnoringAsciiCase (a b : List Char) : Bool :=
  a.map Char.toLower == b.map Char.toLower

-- Whether the variable holds one of the words. The value is lowered by the mapping of all of
-- Unicode before it is compared. A value that is no text is none of them.
def isOn (environment : Environment) (name : String) (words : List String) : Bool :=
  match environment.text? name with
  | none => false
  | some value =>
      words.any fun word => sameIgnoringAsciiCase word.toList (lowercase (trim value.toList))

def truthyWords : List String :=
  ["true", "t", "on", "1"]

-- The switch that keeps scratch directories and makes the log speak up.
def debugMode (environment : Environment) : Bool :=
  environment.isOn "DEBUG" truthyWords

end Environment

end MakeCheck
