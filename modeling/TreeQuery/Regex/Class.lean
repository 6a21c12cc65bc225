import TreeQuery.Unicode.Age
import TreeQuery.Unicode.Boundary
import TreeQuery.Unicode.Property
import TreeQuery.Unicode.Script

namespace TreeQuery.Regex
open Unicode

def classOfLetter? (unicode : Bool) (letter : Char) : Option CodeSet :=
  let ascii := CodeSet.range 0 0x7F
  let narrow (s : CodeSet) := if unicode then s else s.inter ascii
  match letter with
  | 'd' => some (narrow GeneralCategory.nd)
  | 's' => some (narrow Property.whiteSpace)
  | 'w' => some (narrow Property.word)
  | _ => none

def posixClass? : String → Option CodeSet
  | "alnum" => some (.ofText ["30-39 41-5A 61-7A"])
  | "alpha" => some (.ofText ["41-5A 61-7A"])
  | "ascii" => some (.ofText ["0-7F"])
  | "blank" => some (.ofText ["9 20"])
  | "cntrl" => some (.ofText ["0-1F 7F"])
  | "digit" => some (.ofText ["30-39"])
  | "graph" => some (.ofText ["21-7E"])
  | "lower" => some (.ofText ["61-7A"])
  | "print" => some (.ofText ["20-7E"])
  | "punct" => some (.ofText ["21-2F 3A-40 5B-60 7B-7E"])
  | "space" => some (.ofText ["9-D 20"])
  | "upper" => some (.ofText ["41-5A"])
  | "word" => some (.ofText ["30-39 41-5A 5F 61-7A"])
  | "xdigit" => some (.ofText ["30-39 41-46 61-66"])
  | _ => none

/-- Names of properties are compared without case, blanks, hyphens, low lines and a leading
`is`; `isc` alone keeps it. -/
def propertyKey (name : List Char) : String :=
  let squeeze (cs : List Char) := String.ofList
    ((cs.filter fun c => c != ' ' && c != '_' && c != '-' && decide (c.toNat < 0x80)).map Char.toLower)
  match name with
  | i :: s :: rest =>
    if i.toLower = 'i' ∧ s.toLower = 's' then
      let key := squeeze rest
      if key = "c" then "isc" else key
    else squeeze name
  | _ => squeeze name

/-- A property called by one name: a yes-or-no property, else a category, else a script.
`cf`, `sc` and `lc` are categories although properties have these short names too. -/
def propertyNamed? (name : List Char) : Option CodeSet :=
  let key := propertyKey name
  let binary := if key = "cf" ∨ key = "sc" ∨ key = "lc" then none else Property.byName? key
  binary <|> GeneralCategory.byName? key <|> Script.byName? key

def propertyValued? (name value : List Char) : Option CodeSet :=
  let key := propertyKey value
  match propertyKey name with
  | "gc" | "generalcategory" => GeneralCategory.byName? key
  | "sc" | "script" => Script.byName? key
  | "scx" | "scriptextensions" => Script.extendedByName? key
  | "age" => Age.byName? key
  | "gcb" | "graphemeclusterbreak" => setNamed? Boundary.clusters key
  | "wb" | "wordbreak" => setNamed? Boundary.words key
  | "sb" | "sentencebreak" => setNamed? Boundary.sentences key
  | _ => none

def splitAtMark? (mark : List Char) : List Char → Option (List Char × List Char)
  | [] => none
  | c :: rest =>
    if mark.isPrefixOf (c :: rest) then some ([], (c :: rest).drop mark.length)
    else (splitAtMark? mark rest).map fun p => (c :: p.1, p.2)

def propertyQuery? (text : List Char) : Option (CodeSet × Bool) :=
  match splitAtMark? ['!', '='] text with
  | some (name, value) => (propertyValued? name value).map (·, true)
  | none =>
    match splitAtMark? [':'] text <|> splitAtMark? ['='] text with
    | some (name, value) => (propertyValued? name value).map (·, false)
    | none => (propertyNamed? text).map (·, false)

end TreeQuery.Regex
