import MakeCheck.Regex.Age
import MakeCheck.Regex.Break
import MakeCheck.Regex.Expression
import MakeCheck.Regex.Fault
import MakeCheck.Regex.Sharing

namespace MakeCheck.Regex

open Text

-- The names of the properties that are more than a character's having or lacking a trait. Most of
-- them choose no set of characters.
def valuedProperties : List String :=
    ["age", "bc", "bidiclass", "bidimirroringglyph", "bidipairedbracket", "bidipairedbrackettype",
     "blk", "block", "bmg", "bpb", "bpt", "canonicalcombiningclass", "casefolding", "ccc", "ce",
     "cf", "changeswhennfkccasefolded", "cjkaccountingnumeric", "cjkcompatibilityvariant",
     "cjkiicore", "cjkirggsource", "cjkirghsource", "cjkirgjsource", "cjkirgkpsource",
     "cjkirgksource", "cjkirgmsource", "cjkirgssource", "cjkirgtsource", "cjkirguksource",
     "cjkirgusource", "cjkirgvsource", "cjkothernumeric", "cjkprimarynumeric", "cjkrsunicode",
     "compex", "compositionexclusion", "cwkcf", "decompositionmapping", "decompositiontype", "dm",
     "dt", "ea", "eastasianwidth", "equideo", "equivalentunifiedideograph", "expandsonnfc",
     "expandsonnfd", "expandsonnfkc", "expandsonnfkd", "fcnfkc", "fcnfkcclosure",
     "fullcompositionexclusion", "gc", "gcb", "generalcategory", "graphemeclusterbreak",
     "hangulsyllabletype", "hst", "incb", "indicconjunctbreak", "indicpositionalcategory",
     "indicsyllabiccategory", "inpc", "insc", "isc", "jamoshortname", "jg", "joininggroup",
     "joiningtype", "jsn", "jt", "kaccountingnumeric", "kcompatibilityvariant", "kehcat", "kehdesc",
     "kehhg", "kehifao", "kehjsesh", "kehnomirror", "kehnorotate", "kiicore", "kirggsource",
     "kirghsource", "kirgjsource", "kirgkpsource", "kirgksource", "kirgmsource", "kirgssource",
     "kirgtsource", "kirguksource", "kirgusource", "kirgvsource", "kothernumeric",
     "kprimarynumeric", "krsunicode", "lb", "lc", "linebreak", "lowercasemapping", "na", "na1",
     "name", "namealias", "nfcqc", "nfcquickcheck", "nfdqc", "nfdquickcheck", "nfkccasefold",
     "nfkccf", "nfkcqc", "nfkcquickcheck", "nfkcscf", "nfkcsimplecasefold", "nfkdqc",
     "nfkdquickcheck", "nt", "numerictype", "numericvalue", "nv", "ocomment", "sb", "sc", "scf",
     "script", "scriptextensions", "scx", "sentencebreak", "sfc", "simplecasefolding",
     "simplelowercasemapping", "simpletitlecasemapping", "simpleuppercasemapping", "slc", "stc",
     "suc", "tc", "titlecasemapping", "uc", "unicode1name", "unicoderadicalstroke",
     "uppercasemapping", "urs", "verticalorientation", "vo", "wb", "wordbreak", "xonfc", "xonfd",
     "xonfkc", "xonfkd"]

-- A name as it is looked up: in lower case, without separators and without `is` at its front, which
-- stays where only a `c` would be left.
def plainName (name : String) : String :=
  let lower (s : List Char) : List Char :=
    (s.filter fun c => c != ' ' && c != '_' && c != '-' && decide (c.toNat < 0x80)).map Char.toLower
  let s := name.toList
  if (s.take 2).map Char.toLower = ['i', 's'] then
    let rest := lower (s.drop 2)
    String.ofList (if rest = ['c'] then ['i', 's', 'c'] else rest)
  else String.ofList (lower s)

def isPropertyName (plain : String) : Bool :=
  valuedProperties.contains plain || (Trait.find? traits plain).isSome

-- The values of categories and scripts that no character of a pattern can have.
def emptyValues : List String :=
  ["cs", "surrogate", "hrkt", "katakanaorhiragana", "zzzz", "unknown"]

-- The set that a name alone stands for. Three short names mean categories, although there are
-- properties of that name.
def setNamed (name : String) : Except Complaint CharSet :=
  let plain := plainName name
  if isPropertyName plain && !(["cf", "sc", "lc"].contains plain) then
    match Trait.set? traits plain with
    | some set => .ok set
    | none => .error .propertyNotFound
  else
    match (category? plain).or (script? plain) with
    | some set => .ok set
    | none =>
        .error (if emptyValues.contains plain then .propertyValueNotFound else .propertyNotFound)

def setValued (name value : String) : Except Complaint CharSet :=
  let plain := plainName name
  let value := plainName value
  let set? : Option CharSet := match plain with
    | "generalcategory" | "gc" => category? value
    | "script" | "sc" => script? value
    | "scriptextensions" | "scx" => usedIn? value
    | "age" => age? value
    | "graphemeclusterbreak" | "gcb" => clusterPart? value
    | "wordbreak" | "wb" => wordPart? value
    | "sentencebreak" | "sb" => sentencePart? value
    | _ => none
  match set? with
  | some set => .ok set
  | none => .error (if isPropertyName plain then .propertyValueNotFound else .propertyNotFound)

def Property.set (property : Property) : Except Complaint CharSet :=
  match property.value with
  | none => setNamed property.name
  | some value => setValued property.name value

end MakeCheck.Regex
