import TreeQuery.Forest.Basic
import TreeQuery.Text.Quoted
import TreeQuery.Text.Utf8

namespace TreeQuery

namespace Value

def booleanText (b : Bool) : String := if b then "true" else "false"

/-- The text that a value is shown by; null has an empty one. -/
def text (F : Forest) : Value → String
  | null => ""
  | boolean b => booleanText b
  | integer n => toString n.toInt
  | float x => x.text
  | decimal d => d.text
  | string s => s
  | bytes b => Text.ofBytesLossy b
  | node n => F.name n
  | path p => p.text

/-- The text that patterns and concatenations see; null has none. -/
def text? (F : Forest) (v : Value) : Option String := if v.isNull then none else some (v.text F)

def bytesText (b : List UInt8) : String :=
  "[" ++ ", ".intercalate (b.map fun byte => toString byte.toNat) ++ "]"

def debug (F : Forest) : Value → String
  | null => "Null"
  | boolean b => "Boolean(" ++ booleanText b ++ ")"
  | integer n => "Integer(" ++ toString n.toInt ++ ")"
  | float x => "Float(" ++ x.text ++ ")"
  | decimal d => "Decimal(" ++ d.text ++ ")"
  | string s => "String(" ++ Text.quote s ++ ")"
  | bytes b => "Bytes(" ++ bytesText b ++ ")"
  | node n => "Node(" ++ Text.quote (F.name n) ++ ")"
  | path p => "Path(" ++ p.text ++ ")"

end Value

def Forest.debug (F : Forest) (n : NodeId) : String :=
  "Node \x7b name: " ++ Text.quote (F.name n) ++ ", value: " ++ (F.value n).debug F ++
    ", children: " ++ toString (F.children n).length ++ " \x7d"

end TreeQuery
