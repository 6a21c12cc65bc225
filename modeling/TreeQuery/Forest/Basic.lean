import TreeQuery.Value

namespace TreeQuery

structure Node where
  name : String := ""
  value : Value := .null
  children : List NodeId := []
  parent : Option NodeId := none
deriving DecidableEq

instance : Inhabited Node := ⟨{}⟩

/-- Named, valued nodes, each with its children in order and its parent. Nodes are never removed:
one that is taken out of a tree becomes the root of its own. -/
structure Forest where
  nodes : Array Node := #[]

namespace Forest

def size (F : Forest) : Nat := F.nodes.size

def contains (F : Forest) (n : NodeId) : Bool := decide (n.index < F.size)

/-- The node of an id; an unknown id stands for a nameless node without links. -/
def get (F : Forest) (n : NodeId) : Node := F.nodes.getD n.index default

def name (F : Forest) (n : NodeId) : String := (F.get n).name

def value (F : Forest) (n : NodeId) : Value := (F.get n).value

def children (F : Forest) (n : NodeId) : List NodeId := (F.get n).children

def parent (F : Forest) (n : NodeId) : Option NodeId := (F.get n).parent

def update (F : Forest) (n : NodeId) (f : Node → Node) : Forest := ⟨F.nodes.modify n.index f⟩

/-- A new root; its id is the one after all others. -/
def create (F : Forest) (name : String) (value : Value) : NodeId × Forest :=
  (⟨F.size⟩, ⟨F.nodes.push { name, value }⟩)

def setName (F : Forest) (n : NodeId) (name : String) : Forest :=
  F.update n fun node => { node with name }

def setValue (F : Forest) (n : NodeId) (value : Value) : Forest :=
  F.update n fun node => { node with value }

def setChildren (F : Forest) (n : NodeId) (children : List NodeId) : Forest :=
  F.update n fun node => { node with children }

def setParent (F : Forest) (n : NodeId) (parent : Option NodeId) : Forest :=
  F.update n fun node => { node with parent }

theorem get_update_self (F : Forest) (n : NodeId) (f : Node → Node) (h : n.index < F.size) :
    (F.update n f).get n = f (F.get n) := by
  simp only [size] at h
  simp [get, update, h, Array.getElem_modify_self]

theorem get_update_of_ne (F : Forest) {m n : NodeId} (f : Node → Node) (h : m ≠ n) :
    (F.update n f).get m = F.get m := by
  have hi : n.index ≠ m.index := fun e => h (by cases m; cases n; simp_all)
  simp only [get, update, Array.getD_eq_getD_getElem?, Array.getElem?_modify, if_neg hi]

@[simp] theorem size_update (F : Forest) (n : NodeId) (f : Node → Node) :
    (F.update n f).size = F.size := by
  simp [size, update]

end Forest
end TreeQuery
