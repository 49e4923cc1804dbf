namespace MakeCheck

-- Puts `value` in every place of `pattern`, from the left and without overlap. The first argument
-- counts the characters of a place that are still to be passed over.
def replaceFrom (skip : Nat) (pattern value : List Char) : List Char → List Char
  | [] => []
  | c :: rest =>
      match skip with
      | k + 1 => replaceFrom k pattern value rest
      | 0 =>
          if pattern.isPrefixOf (c :: rest) then
            value ++ replaceFrom (pattern.length - 1) pattern value rest
          else c :: replaceFrom 0 pattern value rest

def placeholder (name : String) : List Char :=
  '\x7b' :: name.toList ++ ['\x7d']

-- Fills in the fields one after the other. A later field is also filled in where the value of an
-- earlier one brought its placeholder.
def renderTemplate (template : String) (fields : List (String × String)) : String :=
  String.ofList
    (fields.foldl
      (fun text field => replaceFrom 0 (placeholder field.1) field.2.toList text) template.toList)

end MakeCheck
