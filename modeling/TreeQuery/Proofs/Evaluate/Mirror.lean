import TreeQuery.Proofs.Evaluate.Reference
import TreeQuery.Proofs.Select.Mirror

namespace TreeQuery

variable {F G : Forest} {f : NodeId → NodeId} {r n m : NodeId}

/-- A value that is no node shows the same in every forest. -/
theorem convert_congr (F G : Forest) {v : Value} (hv : ∀ n, v ≠ .node n) (target : String) :
    convert G v target = convert F v target := by
  cases v with
  | node n => exact absurd rfl (hv n)
  | _ => rfl

theorem ne_node_of_convert {v w : Value} (hv : ∀ n, v ≠ .node n) {target : String}
    (h : convert F v target = .ok w) : ∀ n, w ≠ .node n := by
  unfold convert at h
  split at h
  · obtain rfl := Except.ok.inj h
    exact nofun
  · split at h
    case h_9 =>
      obtain ⟨n, hn, -⟩ := ok_of_map h
      cases v with
      | node n => exact absurd rfl (hv n)
      | _ => exact absurd hn nofun
    case h_11 => exact absurd h nofun
    all_goals
      obtain ⟨a, -, rfl⟩ := ok_of_map h
      exact nofun

/-- A node converts to nothing but itself. -/
theorem eq_node_of_convert {w : Value} {target : String}
    (h : convert F (.node n) target = .ok w) : w = .node n := by
  unfold convert at h
  rw [if_neg (by exact Bool.false_ne_true)] at h
  split at h
  case h_9 => exact (Except.ok.inj h).symm
  case h_11 => exact absurd h nofun
  all_goals
    obtain ⟨a, ha, -⟩ := ok_of_map h
    exact absurd ha nofun

theorem convert_node (hname : G.name (f m) = F.name m) (target : String) :
    convert G (.node (f m)) target = (convert F (.node m) target).map (Value.mapNode f) := by
  -- no type but that of nodes has a node among its sources, and errors show its name
  have hfail {α : Type} (target : String) (reason : ConvertReason) :
      (Convert.fail G (.node (f m)) target reason : Except ConvertError α) =
        Convert.fail F (.node m) target reason := by
    rw [Convert.fail, Convert.fail, Value.debug, Value.debug, hname]
  unfold convert
  rw [if_neg (by exact Bool.false_ne_true), if_neg (by exact Bool.false_ne_true)]
  split
  case h_9 => rfl
  case h_11 => exact hfail _ _
  case h_1 =>
    simp only [Convert.toText, hfail]
    rfl
  case h_8 =>
    simp only [Convert.toBytes, Convert.toText, hfail]
    rfl
  all_goals
    simp only [Convert.toInteger, Convert.toFloat, Convert.toDecimal, Convert.toBoolean,
      Convert.toPath, hfail]
    rfl

def Entity.mapNode (f : NodeId → NodeId) (x : Entity) : Entity := { x with node := f x.node }

def Match.mapNode (f : NodeId → NodeId) (m : Match) : Match :=
  { m with entities := m.entities.map (Entity.mapNode f) }

theorem Match.mapNode_id (m : Match) : m.mapNode id = m := by
  rw [mapNode, show Entity.mapNode id = id from rfl, List.map_id]

theorem Match.ofNodes_map (f : NodeId → NodeId) (kind : Projection) (convert : Option String)
    (ns : List NodeId) :
    Match.ofNodes kind convert (ns.map f) = (Match.ofNodes kind convert ns).mapNode f := by
  rw [ofNodes, ofNodes, mapNode, List.map_map, List.map_map, List.length_map]
  rfl

theorem Match.node_mem_of_ofNodes {kind : Projection} {convert : Option String} {ns : List NodeId}
    {x : Entity} (hx : x ∈ (Match.ofNodes kind convert ns).entities) : x.node ∈ ns := by
  obtain ⟨n, hn, rfl⟩ := List.mem_map.1 hx
  exact hn

/-- Two outcomes are mirrored if both have the same error, or one has the mirrors of the entities of
the other, which are in the tree. -/
structure MirroredOutcome (F : Forest) (f : NodeId → NodeId) (r : NodeId)
    (a b : Except EvalError Match) : Prop where
  eq_map : b = a.map (Match.mapNode f)
  within : ∀ m, a = .ok m → ∀ x ∈ m.entities, F.Within x.node r

theorem mirroredOutcome_error (F : Forest) (f : NodeId → NodeId) (r : NodeId) (err : EvalError) :
    MirroredOutcome F f r (.error err) (.error err) :=
  ⟨rfl, nofun⟩

def Evaluator.convertIf (E : Evaluator) (F : Forest) (target : Option String) (v : Value) :
    Except EvalError Value :=
  match target with
  | some typeName => E.convertTo F typeName v
  | none => .ok v

namespace Forest.Mirrors

variable (h : Mirrors F G f r)
include h

theorem convert_eq {v : Value} (hv : ∀ t, v = .node t → F.Within t r) (target : String) :
    TreeQuery.convert G (v.mapNode f) target =
      (TreeQuery.convert F v target).map (Value.mapNode f) := by
  by_cases hnode : ∃ t, v = .node t
  · obtain ⟨t, rfl⟩ := hnode
    exact convert_node (h.name_eq t (hv t rfl)) target
  · have hv' : ∀ t, v ≠ .node t := fun t e => hnode ⟨t, e⟩
    rw [Value.mapNode_of_ne hv', convert_congr F G hv']
    cases hc : TreeQuery.convert F v target with
    | error e => rfl
    | ok w => exact congrArg Except.ok (Value.mapNode_of_ne (ne_node_of_convert hv' hc)).symm

theorem describe_eq (hm : F.Within m r) : G.describe (f m) = F.describe m := by
  rw [describe, describe, h.name_eq m hm, h.path_eq hm]

theorem unconverted_eq {x : Entity} (hx : F.Within x.node r) :
    (x.mapNode f).unconverted G = (x.unconverted F).map (Value.mapNode f) := by
  obtain ⟨n, kind, convert, count⟩ := x
  cases kind with
  | name => exact congrArg (fun s => some (Value.string s)) (h.name_eq n hx)
  | value => exact congrArg some (h.value_eq n hx)
  | _ => rfl

theorem within_unconverted {x : Entity} (hx : F.Within x.node r) {t : NodeId}
    (ht : (x.unconverted F).getD .null = .node t) : F.Within t r := by
  obtain ⟨n, kind, convert, count⟩ := x
  cases kind with
  | value => exact h.closed n t hx ht
  | _ => exact absurd ht nofun

theorem reference?_eq {x : Entity} (hx : F.Within x.node r) :
    Evaluator.reference? G (x.mapNode f) = Evaluator.reference? F x := by
  have hstring (v : Value) : (v.mapNode f).string? = v.string? := by cases v <;> rfl
  rw [Evaluator.reference?, Evaluator.reference?, h.unconverted_eq hx]
  cases x.unconverted F with
  | none => rfl
  | some v => simp only [Option.map_some, Option.bind_some, hstring]

variable {E : Evaluator} (hE : E.convert = TreeQuery.convert)
include hE

theorem convertTo_eq {v : Value} (hv : ∀ t, v = .node t → F.Within t r) (typeName : String) :
    E.convertTo G typeName (v.mapNode f) = (E.convertTo F typeName v).map (Value.mapNode f) := by
  rw [Evaluator.convertTo, Evaluator.convertTo, hE, h.convert_eq hv]
  cases TreeQuery.convert F v typeName <;> rfl

theorem convertIf_eq {v : Value} (hv : ∀ t, v = .node t → F.Within t r) (target : Option String) :
    E.convertIf G target (v.mapNode f) = (E.convertIf F target v).map (Value.mapNode f) := by
  cases target with
  | none => rfl
  | some typeName => exact h.convertTo_eq hE hv typeName

omit h in
theorem within_of_convertIf {v : Value} (hv : ∀ t, v = .node t → F.Within t r)
    {target : Option String} (hn : E.convertIf F target v = .ok (.node n)) : F.Within n r := by
  cases target with
  | none => exact hv n (Except.ok.inj hn)
  | some typeName =>
    rw [Evaluator.convertIf, Evaluator.convertTo, hE] at hn
    cases hw : TreeQuery.convert F v typeName with
    | error e =>
      rw [hw] at hn
      cases hn
    | ok w =>
      rw [hw] at hn
      obtain rfl := Except.ok.inj hn
      by_cases hnode : ∃ t, v = .node t
      · obtain ⟨t, rfl⟩ := hnode
        rw [Value.node.inj (eq_node_of_convert hw)]
        exact hv t rfl
      · exact absurd rfl (ne_node_of_convert (fun t ht => hnode ⟨t, ht⟩) hw n)

/-- What is read of a mirrored entity is what is read of the entity, or the mirror of that. -/
theorem entity_value_eq {x : Entity} (hx : F.Within x.node r) :
    (x.mapNode f).value E G = (x.value E F).map (Value.mapNode f) := by
  have hraw : ((x.mapNode f).unconverted G).getD .null =
      ((x.unconverted F).getD .null).mapNode f := by
    rw [h.unconverted_eq hx]
    cases x.unconverted F <;> rfl
  have hconverted : E.convertIf G x.convert (((x.mapNode f).unconverted G).getD .null) =
      (E.convertIf F x.convert ((x.unconverted F).getD .null)).map (Value.mapNode f) := by
    rw [hraw]
    exact h.convertIf_eq hE (fun t ht => h.within_unconverted hx ht) x.convert
  obtain ⟨n, kind, convert, count⟩ := x
  cases kind with
  | count => rfl
  | path => exact congrArg (fun p => Except.ok (Value.path p)) (h.path_eq hx)
  | node => rfl
  | name => exact hconverted
  | value => exact hconverted

theorem within_of_value {x : Entity} (hx : F.Within x.node r)
    (hn : x.value E F = .ok (.node n)) : F.Within n r := by
  have hconverted (hn : E.convertIf F x.convert ((x.unconverted F).getD .null) = .ok (.node n)) :
      F.Within n r := within_of_convertIf hE (fun t ht => h.within_unconverted hx ht) hn
  obtain ⟨m, kind, convert, count⟩ := x
  cases kind with
  | node => exact Value.node.inj (Except.ok.inj hn) ▸ hx
  | name => exact hconverted hn
  | value => exact hconverted hn
  | count => cases hn
  | path => cases hn

omit h in
theorem literal_eq (F G : Forest) (l : Literal) : E.literal G l = E.literal F l := by
  cases l with
  | plain text => rfl
  | typed typeName text =>
    rw [Evaluator.literal, Evaluator.literal, Evaluator.convertTo, Evaluator.convertTo, hE,
      convert_congr F G (by simp)]

omit h in
theorem resolve_eq (F G : Forest) (chain : Chain Literal) :
    E.resolve G chain = E.resolve F chain := by
  rw [Evaluator.resolve, Evaluator.resolve, funext (literal_eq hE F G)]

omit h in
theorem nodeless_of_resolve {chain : Chain Literal} {resolved : Chain Value}
    (hc : E.resolve F chain = .ok resolved) : resolved.Every Selector.Nodeless := by
  have hany : chain.Every fun _ => True := chain.every_iff.2 fun _ _ => trivial
  refine Chain.every_of_mapM (fun s t _ hs => ?_) chain hany hc
  cases s with
  | equals l =>
    obtain ⟨v, hv, rfl⟩ := ok_of_map hs
    cases l with
    | plain text =>
      obtain rfl := Except.ok.inj hv
      intro n hn
      cases hn
    | typed typeName text =>
      rw [Evaluator.literal, Evaluator.convertTo, hE] at hv
      cases hw : TreeQuery.convert F (.string text) typeName with
      | error e =>
        rw [hw] at hv
        cases hv
      | ok w =>
        rw [hw] at hv
        obtain rfl := Except.ok.inj hv
        exact ne_node_of_convert (by simp) hw
  | _ =>
    obtain rfl := Except.ok.inj hs
    exact trivial

omit hE in
theorem compileAt_eq (hm : F.Within m r) (text : String) :
    Evaluator.compileAt G (some (f m)) text = Evaluator.compileAt F (some m) text := by
  rw [Evaluator.compileAt, Evaluator.compileAt, Option.map_some, Option.map_some, h.describe_eq hm]

omit hE in
/-- What an entity is replaced by has its mirrors beside the mirrored entity. -/
theorem replacement_eq {evaluate evaluate' : Expression → NodeId → Except EvalError Match}
    (heval : ∀ e n, F.Within n r → MirroredOutcome F f r (evaluate e n) (evaluate' e (f n)))
    (convert : Option String) {x : Entity} (hx : F.Within x.node r) :
    Evaluator.replacement G evaluate' convert (x.mapNode f) =
      (Evaluator.replacement F evaluate convert x).map (List.map (Entity.mapNode f)) ∧
    ∀ part, Evaluator.replacement F evaluate convert x = .ok part →
      ∀ y ∈ part, F.Within y.node r := by
  rw [Evaluator.replacement, Evaluator.replacement, h.reference?_eq hx]
  cases Evaluator.reference? F x with
  | none =>
    refine ⟨rfl, fun part hpart y hy => ?_⟩
    obtain rfl := Except.ok.inj hpart
    exact List.mem_singleton.1 hy ▸ hx
  | some text =>
    dsimp only
    rw [show (x.mapNode f).node = f x.node from rfl, h.compileAt_eq hx]
    cases Evaluator.compileAt F (some x.node) text with
    | error err => exact ⟨rfl, fun part hpart => by cases hpart⟩
    | ok inner =>
      obtain ⟨heq, hwithin⟩ := heval inner x.node hx
      have hreconvert (y : Entity) : Evaluator.reconvert convert (y.mapNode f) =
          (Evaluator.reconvert convert y).mapNode f := by
        rw [Evaluator.reconvert, Evaluator.reconvert]
        split <;> rfl
      have hnode (y : Entity) : (Evaluator.reconvert convert y).node = y.node := by
        rw [Evaluator.reconvert]
        split <;> rfl
      simp only [bind, Except.bind, heq]
      cases hm : evaluate inner x.node with
      | error err => exact ⟨rfl, fun part hpart => by cases hpart⟩
      | ok m =>
        refine ⟨?_, fun part hpart y hy => ?_⟩
        · show Except.ok ((m.entities.map (Entity.mapNode f)).map _) = Except.ok (_ : List Entity)
          rw [List.map_map, List.map_map]
          exact congrArg Except.ok (List.map_congr_left fun y _ => hreconvert y)
        · obtain rfl := Except.ok.inj hpart
          obtain ⟨z, hz, rfl⟩ := List.mem_map.1 hy
          rw [hnode]
          exact hwithin m hm z hz

omit hE in
theorem expand {evaluate evaluate' : Expression → NodeId → Except EvalError Match}
    (heval : ∀ e n, F.Within n r → MirroredOutcome F f r (evaluate e n) (evaluate' e (f n)))
    {m : Match} (hm : ∀ x ∈ m.entities, F.Within x.node r) :
    MirroredOutcome F f r (Evaluator.expand F evaluate m)
      (Evaluator.expand G evaluate' (m.mapNode f)) := by
  rw [Evaluator.expand_eq, Evaluator.expand_eq]
  have hparts : (m.mapNode f).entities.mapM (Evaluator.replacement G evaluate' m.convert) =
      (m.entities.mapM (Evaluator.replacement F evaluate m.convert)).map
        (List.map (List.map (Entity.mapNode f))) :=
    mapM_map fun x hx => (h.replacement_eq heval m.convert (hm x hx)).1
  rw [show (m.mapNode f).convert = m.convert from rfl, hparts]
  cases hmap : m.entities.mapM (Evaluator.replacement F evaluate m.convert) with
  | error err => exact mirroredOutcome_error F f r err
  | ok parts =>
    refine ⟨?_, fun m' hm' x hx => ?_⟩
    · show Except.ok (Match.mk m.kind m.convert _) = Except.ok (Match.mk m.kind m.convert _)
      rw [List.map_flatten]
    · obtain rfl := Except.ok.inj hm'
      obtain ⟨part, hpart, hx⟩ := List.mem_flatten.1 hx
      obtain ⟨y, hy, hpart⟩ := exists_of_mem_mapM hmap hpart
      exact (h.replacement_eq heval m.convert (hm y hy)).2 part hpart x hx

theorem evaluateWith (budget : Nat) (e : Expression) (hn : F.Within n r) :
    MirroredOutcome F f r (E.evaluateWith F budget e n) (E.evaluateWith G budget e (f n)) := by
  induction budget generalizing e n with
  | zero => exact mirroredOutcome_error F f r _
  | succ budget ih =>
    rw [Evaluator.evaluateWith, Evaluator.evaluateWith, resolve_eq hE F G]
    cases hc : E.resolve F e.chain with
    | error err => exact mirroredOutcome_error F f r err
    | ok chain =>
      have hstart : Mirrored F f r [n] [f n] := ⟨rfl, List.forall_mem_singleton.2 hn⟩
      obtain ⟨heq, hwithin⟩ := Chain.select_mirrored h chain (nodeless_of_resolve hE hc) hstart
      simp only [bind, Except.bind, Evaluator.drain_cursor h.wellFormed,
        Evaluator.drain_cursor h.wellFormed', heq, Match.ofNodes_map]
      have hfound (x : Entity)
          (hx : x ∈ (Match.ofNodes e.kind e.convert (chain.select F [n])).entities) :
          F.Within x.node r := hwithin _ (Match.node_mem_of_ofNodes hx)
      split
      · exact h.expand (fun e n hn => ih e hn) hfound
      · exact ⟨rfl, fun m hm => Except.ok.inj hm ▸ hfound⟩

theorem evaluateText (text : String) (hn : F.Within n r) :
    MirroredOutcome F f r (E.evaluateText F text n) (E.evaluateText G text (f n)) := by
  have hcompile : Evaluator.compileAt G none text = Evaluator.compileAt F none text := rfl
  rw [Evaluator.evaluateText, Evaluator.evaluateText, hcompile]
  cases Evaluator.compileAt F none text with
  | error err => exact mirroredOutcome_error F f r err
  | ok e => exact h.evaluateWith hE _ e hn

end Forest.Mirrors
end TreeQuery
