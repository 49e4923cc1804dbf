import MakeCheck.Shell.Script

namespace MakeCheck.Shell

-- How parameters, operators and words were written, as far as this is still known.
mutual

def Part.spelling : Nat → Part → String
  | 0, _ => ""
  | fuel + 1, part =>
      let quotedBy (quoted : Bool) (text : String) : String :=
        if quoted then "\x22" ++ text ++ "\x22" else text
      match part with
      | .text quoted text => quotedBy quoted (String.ofList text)
      | .parameter quoted name _ => quotedBy quoted ("$" ++ name)
      | .arithmetic quoted expression =>
          quotedBy quoted ("$((" ++ bareSpelling fuel expression ++ "))")
      | .command quoted _ => quotedBy quoted "$(...)"
      | .chosen quoted origin use =>
          quotedBy quoted (match origin, use with
            | .name name, .plain => "$" ++ name
            | origin, _ => "$\x7b" ++ origin.spelling fuel ++ "\x7d")
      | .entries words => "(" ++ " ".intercalate (words.map (wordSpelling fuel)) ++ ")"
      | .passage writes _ => if writes then "<(...)" else ">(...)"
      | .faulty text => String.ofList text

def Origin.spelling : Nat → Origin → String
  | 0, _ => ""
  | fuel + 1, origin =>
      let mark (joined : Bool) : String := if joined then "*" else "@"
      match origin with
      | .name name => name
      | .entry name key => name ++ "[" ++ bareSpelling fuel key ++ "]"
      | .all name joined => name ++ "[" ++ mark joined ++ "]"
      | .through origin => "!" ++ origin.spelling fuel
      | .keys name joined => "!" ++ name ++ "[" ++ mark joined ++ "]"
      | .beginning text joined => "!" ++ text ++ mark joined

def bareSpelling : Nat → Word → String
  | 0, _ => ""
  | fuel + 1, word =>
      String.join (word.map fun part =>
        match part with
        | .text _ text => String.ofList text
        | part => part.spelling fuel)

def wordSpelling : Nat → Word → String
  | 0, _ => ""
  | fuel + 1, word => String.join (word.map (Part.spelling fuel))

end

def Word.spelling (word : Word) : String :=
  wordSpelling 100 word

def Assignment.spelling : Assignment → String
  | .to name key appends value =>
      name ++ ((key.map fun key => "[" ++ Word.spelling key ++ "]").getD "") ++
        (if appends then "+=" else "=") ++ Word.spelling value

def Redirect.spelling : Redirect → String
  | .to channel kind target =>
      let named (usual : Nat) (sign : String) : String :=
        (if channel = usual then "" else toString channel) ++ sign
      let sign := match kind with
        | .duplicate => named 1 ">&"
        | .overwrite always => named 1 (if always then ">| " else "> ")
        | .append => named 1 ">> "
        | .input => named 0 "< "
        | .update => named 0 "<> "
        | .document => named 0 "<<"
        | .line => named 0 "<<< "
        | .everything appends => if appends then "&>> " else "&> "
      sign ++ Word.spelling target

end MakeCheck.Shell
