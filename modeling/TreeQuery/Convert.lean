import TreeQuery.Number.DecimalReader
import TreeQuery.Text.Blank
import TreeQuery.Value.Text

namespace TreeQuery

inductive ConvertReason
  | unknownType (name : String)
  | invalidUtf8
  | nodeAsText
  | fraction
  | outOfRange
  | notNumber
  | notBoolean
  | notTruth
  | notNode
  | notPath
  | noNodeProduced
  | integer (error : IntegerError)
  | float (error : Binary64.ReadError)
  | decimal (error : Decimal.ReadError)
deriving Repr, DecidableEq

def ConvertReason.message : ConvertReason → String
  | unknownType name => "unknown type '" ++ name ++ "'"
  | invalidUtf8 => "bytes are not valid UTF-8"
  | nodeAsText => "rendering a node as text needs a tree codec"
  | fraction => "has a fractional part"
  | outOfRange => "out of range"
  | notNumber => "not a number"
  | notBoolean => "not a boolean"
  | notTruth => "expected true or false"
  | notNode => "only nodes convert to node"
  | notPath => "not a path"
  | noNodeProduced => "converter did not produce a node"
  | integer error => error.message
  | float error => error.message
  | decimal error => error.message

/-- A value, by the text that messages name it by, that has no counterpart in a type. -/
structure ConvertError where
  subject : String
  target : String
  reason : ConvertReason
deriving Repr, DecidableEq

def ConvertError.message (e : ConvertError) : String :=
  "cannot convert " ++ e.subject ++ " to '" ++ e.target ++ "': " ++ e.reason.message

abbrev Converter := Forest → Value → String → Except ConvertError Value

namespace Convert

def fail (F : Forest) (v : Value) (target : String) (reason : ConvertReason) :
    Except ConvertError α :=
  .error ⟨v.debug F, target, reason⟩

def orFail (F : Forest) (v : Value) (target : String) (reason : ConvertReason) :
    Option α → Except ConvertError α
  | some a => .ok a
  | none => fail F v target reason

def read (F : Forest) (v : Value) (target : String) (reason : ε → ConvertReason) :
    Except ε α → Except ConvertError α
  | .ok a => .ok a
  | .error e => fail F v target (reason e)

def toText (F : Forest) (target : String) (v : Value) : Except ConvertError String :=
  match v with
  | .bytes b => orFail F v target .invalidUtf8 (Text.ofBytes? b)
  | .node _ => fail F v target .nodeAsText
  | _ => .ok (v.text F)

/-- The text of a string or of bytes, without blanks at its ends. -/
def toTrimmed (F : Forest) (target : String) (v : Value) : Except ConvertError (List Char) := do
  return Text.trim (← toText F target v).toList

def int64? (n : Int) : Option Int64 :=
  if (Int64.ofInt n).toInt = n then some (Int64.ofInt n) else none

def whole (F : Forest) (v : Value) (target : String) : Option Int → Except ConvertError Int64
  | some n => orFail F v target .outOfRange (int64? n)
  | none => fail F v target .fraction

def toInteger (F : Forest) (target : String) (v : Value) : Except ConvertError Int64 :=
  match v with
  | .integer n => .ok n
  | .boolean b => .ok (if b then 1 else 0)
  | .float x => whole F v target x.toInt?
  | .decimal d => whole F v target d.toInt?
  | .string _ | .bytes _ => do
    read F v target .integer (Integer.readInt64 (← toTrimmed F target v))
  | _ => fail F v target .notNumber

def toFloat (F : Forest) (target : String) (v : Value) : Except ConvertError Binary64 :=
  match v with
  | .float x => .ok x
  | .integer n => .ok (.ofInt n.toInt)
  | .boolean b => .ok (.ofInt (if b then 1 else 0))
  | .decimal d => .ok d.toBinary64
  | .string _ | .bytes _ => do read F v target .float (Binary64.read (← toTrimmed F target v))
  | _ => fail F v target .notNumber

def toDecimal (F : Forest) (target : String) (v : Value) : Except ConvertError Decimal :=
  match v with
  | .decimal d => .ok d
  | .integer n => .ok (.ofInt64 n)
  | .boolean b => .ok (.ofInt64 (if b then 1 else 0))
  | .float x => orFail F v target .outOfRange (Decimal.ofBinary64? x)
  | .string _ | .bytes _ => do read F v target .decimal (Decimal.read (← toTrimmed F target v))
  | _ => fail F v target .notNumber

/-- The truth value that a text names, in letters of any case or by a digit. -/
def truth? (text : List Char) : Option Bool :=
  match String.ofList (text.map Char.toLower) with
  | "true" | "1" => some true
  | "false" | "0" => some false
  | _ => none

def toBoolean (F : Forest) (target : String) (v : Value) : Except ConvertError Bool :=
  match v with
  | .boolean b => .ok b
  | .integer n => .ok (n != 0)
  | .string _ | .bytes _ => do orFail F v target .notTruth (truth? (← toTrimmed F target v))
  | _ => fail F v target .notBoolean

def toBytes (F : Forest) (target : String) (v : Value) : Except ConvertError (List UInt8) :=
  match v with
  | .bytes b => .ok b
  | _ => Text.toBytes <$> toText F target v

def toNode (F : Forest) (target : String) (v : Value) : Except ConvertError NodeId :=
  match v with
  | .node n => .ok n
  | _ => fail F v target .notNode

def toPath (F : Forest) (target : String) (v : Value) : Except ConvertError NodePath :=
  match v with
  | .path p => .ok p
  | .string s => read F v target .integer (NodePath.read s.toList)
  | _ => fail F v target .notPath

end Convert

/-- The converter of the built-in type names. It leaves null as it is, has no text for nodes, and
fails rather than lose a fraction or a part of a number's range. -/
def convert : Converter := fun F v target =>
  if v.isNull then .ok .null
  else match target with
    | "string" => .string <$> Convert.toText F target v
    | "int" | "long" => .integer <$> Convert.toInteger F target v
    | "float" | "double" => .float <$> Convert.toFloat F target v
    | "decimal" => .decimal <$> Convert.toDecimal F target v
    | "bool" => .boolean <$> Convert.toBoolean F target v
    | "blob" => .bytes <$> Convert.toBytes F target v
    | "node" => .node <$> Convert.toNode F target v
    | "path" => .path <$> Convert.toPath F target v
    | _ => Convert.fail F v target (.unknownType target)

end TreeQuery
