import TreeQuery.Proofs.Evaluate.Mirror

namespace TreeQuery

variable {F G H : Forest} {n : NodeId} {v w : Value}

/-- Each type takes its own values as they are. -/
theorem convert_convert {target : String} (h : convert F v target = .ok w) :
    convert G w target = .ok w := by
  unfold convert at h
  split at h
  · obtain rfl := Except.ok.inj h
    rfl
  · split at h
    case h_11 => exact absurd h nofun
    all_goals
      obtain ⟨a, -, rfl⟩ := ok_of_map h
      rfl

/-- The forest shows in the messages of a conversion only. -/
theorem convert_elsewhere {target : String} (h : convert F v target = .ok w) :
    convert G v target = .ok w := by
  by_cases hv : ∃ n, v = .node n
  · obtain ⟨n, rfl⟩ := hv
    obtain rfl := eq_node_of_convert h
    exact convert_convert h
  · rw [convert_congr F G (fun n hn => hv ⟨n, hn⟩), h]

namespace Forest

/-- What the writing of a name leaves: the node has it, and all else is as it was. -/
structure Renamed (F : Forest) (n : NodeId) (s : String) (G : Forest) : Prop where
  contains_eq : ∀ m, G.contains m = F.contains m
  parent_eq : ∀ m, G.parent m = F.parent m
  children_eq : ∀ m, G.children m = F.children m
  value_eq : ∀ m, G.value m = F.value m
  name_other : ∀ m, m ≠ n → G.name m = F.name m
  name_self : G.name n = s

/-- What the writing of a value leaves: the node has it, and all else is as it was. -/
structure Revalued (F : Forest) (n : NodeId) (v : Value) (G : Forest) : Prop where
  contains_eq : ∀ m, G.contains m = F.contains m
  parent_eq : ∀ m, G.parent m = F.parent m
  children_eq : ∀ m, G.children m = F.children m
  name_eq : ∀ m, G.name m = F.name m
  value_other : ∀ m, m ≠ n → G.value m = F.value m
  value_self : G.value n = v

theorem renamed_setName (hn : F.contains n = true) (s : String) :
    F.Renamed n s (F.setName n s) where
  contains_eq := fun m => contains_setName F n m s
  parent_eq := fun m => parent_setName F n m s
  children_eq := fun m => children_setName F n m s
  value_eq := fun _ => field_update Node.value F n _ fun _ => rfl
  name_other := fun _ hm => congrArg Node.name (get_update_of_ne F _ hm)
  name_self := congrArg Node.name (get_update_self F n _ (contains_iff.1 hn))

theorem revalued_setValue (hn : F.contains n = true) (v : Value) :
    F.Revalued n v (F.setValue n v) where
  contains_eq := fun m => contains_setValue F n m v
  parent_eq := fun m => parent_setValue F n m v
  children_eq := fun m => children_setValue F n m v
  name_eq := fun _ => field_update Node.name F n _ fun _ => rfl
  value_other := fun _ hm => congrArg Node.value (get_update_of_ne F _ hm)
  value_self := congrArg Node.value (get_update_self F n _ (contains_iff.1 hn))

theorem setName_setName (F : Forest) (n : NodeId) (s t : String) :
    (F.setName n s).setName n t = F.setName n t :=
  update_update F n _ _

theorem setValue_setValue (F : Forest) (n : NodeId) (v w : Value) :
    (F.setValue n v).setValue n w = F.setValue n w :=
  update_update F n _ _

theorem setName_name (F : Forest) (n : NodeId) : F.setName n (F.name n) = F := update_eq_self rfl

theorem setValue_value (F : Forest) (n : NodeId) : F.setValue n (F.value n) = F :=
  update_eq_self rfl

end Forest

namespace Evaluator

variable {E : Evaluator} (hE : E.convert = TreeQuery.convert)
include hE

theorem convertIf_convertIf {target : Option String} (h : E.convertIf F target v = .ok w) :
    E.convertIf G target w = .ok w := by
  cases target with
  | none => rfl
  | some typeName =>
    rw [convertIf, convertTo_eq_ok_iff, hE] at h ⊢
    exact convert_convert h

theorem convertIf_elsewhere {target : Option String} (h : E.convertIf F target v = .ok w) :
    E.convertIf G target v = .ok w := by
  cases target with
  | none => exact h
  | some typeName =>
    rw [convertIf, convertTo_eq_ok_iff, hE] at h ⊢
    exact convert_elsewhere h

theorem textOf_eq_ok_iff {s : String} : E.textOf F v = .ok s ↔
    TreeQuery.convert F v "string" = .ok (.string s) ∨ v = .null ∧ s = "" := by
  rw [textOf]
  constructor
  · intro h
    obtain ⟨w, hw, hs⟩ := ok_of_bind h
    obtain rfl := Except.ok.inj hs
    rw [convertTo_eq_ok_iff, hE] at hw
    rw [hw]
    unfold TreeQuery.convert at hw
    split at hw
    · next hnull =>
      obtain rfl := Except.ok.inj hw
      cases v with
      | null => exact .inr ⟨rfl, rfl⟩
      | _ => exact absurd hnull nofun
    · obtain ⟨t, -, rfl⟩ := ok_of_map hw
      exact .inl rfl
  · intro h
    have hconvert (w : Value) (hw : TreeQuery.convert F v "string" = .ok w) :
        E.convertTo F "string" v = .ok w := by
      rwa [convertTo_eq_ok_iff, hE]
    rcases h with h | ⟨rfl, rfl⟩
    · rw [hconvert _ h]
      rfl
    · rw [hconvert .null rfl]
      rfl

end Evaluator

namespace Entity

variable {E : Evaluator} {e : Entity}

theorem set_of_name (hk : e.kind = .name) :
    e.set E F v = .ok G ↔ ∃ s, E.textOf F v = .ok s ∧ G = F.setName e.node s := by
  rw [set, hk]
  dsimp only
  cases E.textOf F v <;> simp [bind, Except.bind, pure, Except.pure, eq_comm]

theorem set_of_value (hk : e.kind = .value) :
    e.set E F v = .ok G ↔ ∃ w, E.convertIf F e.convert v = .ok w ∧ G = F.setValue e.node w := by
  rw [set, hk]
  dsimp only
  cases e.convert with
  | none => simp [Evaluator.convertIf, eq_comm]
  | some typeName =>
    dsimp only [Evaluator.convertIf]
    cases E.convertTo F typeName v <;> simp [bind, Except.bind, pure, Except.pure, eq_comm]

theorem value_of_name (hk : e.kind = .name) :
    e.value E F = E.convertIf F e.convert (.string (F.name e.node)) := by
  rw [value, hk, unconverted, hk]
  cases e.convert <;> rfl

theorem value_of_value (hk : e.kind = .value) :
    e.value E F = E.convertIf F e.convert (F.value e.node) := by
  rw [value, hk, unconverted, hk]
  cases e.convert <;> rfl

section Standard
variable (hE : E.convert = TreeQuery.convert)
include hE

theorem value_of_set (hn : F.contains e.node = true) (hk : e.kind = .value)
    (h : e.set E F v = .ok G) :
    ∃ w, E.convertIf F e.convert v = .ok w ∧ F.Revalued e.node w G ∧ e.value E G = .ok w := by
  obtain ⟨w, hw, rfl⟩ := (set_of_value hk).1 h
  have hwritten := Forest.revalued_setValue hn w
  refine ⟨w, hw, hwritten, ?_⟩
  rw [value_of_value hk, hwritten.value_self]
  exact Evaluator.convertIf_convertIf hE hw

theorem name_of_set (hn : F.contains e.node = true) (hk : e.kind = .name)
    (h : e.set E F v = .ok G) :
    ∃ s, (TreeQuery.convert F v "string" = .ok (.string s) ∨ v = .null ∧ s = "") ∧
      F.Renamed e.node s G ∧ (e.convert = none → e.value E G = .ok (.string s)) := by
  obtain ⟨s, hs, rfl⟩ := (set_of_name hk).1 h
  have hwritten := Forest.renamed_setName hn s
  refine ⟨s, (Evaluator.textOf_eq_ok_iff hE).1 hs, hwritten, fun hnone => ?_⟩
  rw [value_of_name hk, hwritten.name_self, hnone]
  rfl

theorem set_of_set (hk : e.kind = .name ∨ e.kind = .value) (h : e.set E F v = .ok G)
    (h' : e.set E G w = .ok H) : e.set E F w = .ok H := by
  rcases hk with hk | hk
  · obtain ⟨s, -, rfl⟩ := (set_of_name hk).1 h
    obtain ⟨t, ht, rfl⟩ := (set_of_name hk).1 h'
    rw [Evaluator.textOf_eq_ok_iff hE] at ht
    refine (set_of_name hk).2 ⟨t, ?_, Forest.setName_setName F e.node s t⟩
    rw [Evaluator.textOf_eq_ok_iff hE]
    exact ht.imp_left convert_elsewhere
  · obtain ⟨x, -, rfl⟩ := (set_of_value hk).1 h
    obtain ⟨y, hy, rfl⟩ := (set_of_value hk).1 h'
    exact (set_of_value hk).2
      ⟨y, Evaluator.convertIf_elsewhere hE hy, Forest.setValue_setValue F e.node x y⟩

theorem set_value_self (hk : e.kind = .name ∨ e.kind = .value) (hnone : e.convert = none) :
    ∃ v, e.value E F = .ok v ∧ e.set E F v = .ok F := by
  rcases hk with hk | hk
  · refine ⟨.string (F.name e.node), ?_, ?_⟩
    · rw [value_of_name hk, hnone]
      rfl
    · refine (set_of_name hk).2 ⟨F.name e.node, ?_, (Forest.setName_name F e.node).symm⟩
      exact (Evaluator.textOf_eq_ok_iff hE).2 (.inl rfl)
  · refine ⟨F.value e.node, ?_, ?_⟩
    · rw [value_of_value hk, hnone]
      rfl
    · rw [set_of_value hk, hnone]
      exact ⟨F.value e.node, rfl, (Forest.setValue_value F e.node).symm⟩

/-- What is written through an entity is what is read from it. A value is stored as its conversion
to the type that the entity names, if it names one, and read as it was stored; a name is the text
that the value converts to, and empty for null. No other node and no other field changes. A second
write has the effect that it would have had alone, and where no type is named, writing what is read
has none. -/
theorem writes_are_read_back (hn : F.contains e.node = true) :
    (e.kind = .value → ∀ v G, e.set E F v = .ok G →
      ∃ w, E.convertIf F e.convert v = .ok w ∧ F.Revalued e.node w G ∧ e.value E G = .ok w) ∧
    (e.kind = .name → ∀ v G, e.set E F v = .ok G →
      ∃ s, (TreeQuery.convert F v "string" = .ok (.string s) ∨ v = .null ∧ s = "") ∧
        F.Renamed e.node s G ∧ (e.convert = none → e.value E G = .ok (.string s))) ∧
    (e.kind = .name ∨ e.kind = .value →
      (∀ v w G H, e.set E F v = .ok G → e.set E G w = .ok H → e.set E F w = .ok H) ∧
      (e.convert = none → ∃ v, e.value E F = .ok v ∧ e.set E F v = .ok F)) :=
  ⟨fun hk _ _ h => value_of_set hE hn hk h, fun hk _ _ h => name_of_set hE hn hk h,
    fun hk => ⟨fun _ _ _ _ h h' => set_of_set hE hk h h', set_value_self hE hk⟩⟩

end Standard

/-- A text becomes a number on its way into a node, and a truth value takes its place. -/
theorem writes_are_read_back_converted :
    let F := [Edit.create "r" .null, .create "a" (.string "x"), .add ⟨0⟩ ⟨1⟩].foldl Edit.run {}
    let e : Entity := ⟨⟨1⟩, .value, some "int", 1⟩
    F.contains e.node = true ∧ ∃ G H, e.set {} F (.string " 12 ") = .ok G ∧
      e.value {} G = .ok (.integer 12) ∧ G.name ⟨1⟩ = "a" ∧ e.set {} G (.boolean true) = .ok H ∧
      e.set {} F (.boolean true) = .ok H ∧ e.value {} H = .ok (.integer 1) := by
  intro F e
  have hn : F.contains e.node = true := by decide +kernel
  have hconvert {v w : Value} (h : TreeQuery.convert {} v "int" = .ok w) (K : Forest) :
      Evaluator.convertIf {} K e.convert v = .ok w :=
    Evaluator.convertIf_elsewhere (F := {}) rfl (Evaluator.convertTo_eq_ok_iff.2 h)
  have htwelve := hconvert (v := .string " 12 ") (w := .integer 12) rfl
  have hone := hconvert (v := .boolean true) (w := .integer 1) rfl
  have hfirst := (set_of_value (e := e) rfl).2 ⟨_, htwelve F, rfl⟩
  have hsecond := (set_of_value (e := e) rfl).2 ⟨_, hone (F.setValue ⟨1⟩ (.integer 12)), rfl⟩
  obtain ⟨hvalue, -, hagain⟩ := writes_are_read_back (E := {}) rfl hn
  have halone := (hagain (.inr rfl)).1 _ _ _ _ hfirst hsecond
  obtain ⟨w, hw, hwritten, hread⟩ := hvalue rfl _ _ hfirst
  obtain ⟨x, hx, -, hreread⟩ := hvalue rfl _ _ halone
  obtain rfl := Except.ok.inj ((htwelve F).symm.trans hw)
  obtain rfl := Except.ok.inj ((hone F).symm.trans hx)
  exact ⟨hn, _, _, hfirst, hread, (hwritten.name_eq ⟨1⟩).trans (by decide +kernel), hsecond,
    halone, hreread⟩

end Entity
end TreeQuery
