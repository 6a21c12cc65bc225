import TreeQuery.Evaluate.Match
import TreeQuery.Json.Basic

namespace TreeQuery

def Forest.referenceJson (F : Forest) (n : NodeId) : Json :=
  .object [("ref", .string (F.path n).text)]

def Value.scalarJson (F : Forest) : Value → Json
  | null => .null
  | boolean b => .boolean b
  | integer n => .integer n.toInt
  | float x => if x.isFinite then .float x else .null
  | decimal d => .string d.text
  | string s => .string s
  | bytes b => .string (Text.ofBytesLossy b)
  | path p => .string p.text
  | node n => F.referenceJson n

def Forest.jsonTo (F : Forest) : Nat → NodeId → Json
  | 0, _ => .null
  | fuel + 1, n =>
    let own := [("name", .string (F.name n)), ("value", (F.value n).scalarJson F)]
    match F.children n with
    | [] => .object own
    | children => .object (("children", .array (children.map (F.jsonTo fuel))) :: own)

def Forest.json (F : Forest) (n : NodeId) : Json := F.jsonTo (F.size + 1) n

def Value.json (F : Forest) : Value → Json
  | node n => F.json n
  | v => v.scalarJson F

/-- A result: its number of entities if that was asked for, else the array of its values. -/
def Match.json (E : Evaluator) (F : Forest) (m : Match) : Except EvalError Json :=
  if m.kind = .count then .ok (.integer m.count)
  else do return .array ((← m.values E F).map (Value.json F))

end TreeQuery
