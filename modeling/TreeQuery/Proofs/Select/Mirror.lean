import TreeQuery.Proofs.Expression.Every
import TreeQuery.Proofs.Forest.Mirror

namespace TreeQuery

def Selector.Nodeless : Selector Value → Prop
  | .equals v => ∀ n, v ≠ .node n
  | _ => True

theorem Value.node?_mapNode (f : NodeId → NodeId) (v : Value) :
    (v.mapNode f).node? = v.node?.map f := by
  cases v <;> rfl

theorem Value.equals_mapNode (f : NodeId → NodeId) (v : Value) {w : Value}
    (hw : ∀ n, w ≠ .node n) : (v.mapNode f).equals w = v.equals w := by
  cases v with
  | node n =>
    cases w with
    | node m => exact absurd rfl (hw m)
    | _ => rfl
  | _ => rfl

theorem everyNth_map (f : NodeId → NodeId) (n i : Nat) (ns : List NodeId) :
    everyNth n i (ns.map f) = (everyNth n i ns).map f := by
  induction ns generalizing i with
  | nil => rfl
  | cons x ns ih =>
    rw [List.map_cons, everyNth, everyNth, ih]
    split <;> rfl

theorem everyNth_sublist (n i : Nat) (ns : List NodeId) : (everyNth n i ns).Sublist ns := by
  induction ns generalizing i with
  | nil => exact .slnil
  | cons x ns ih =>
    rw [everyNth]
    split
    · exact (ih _).cons_cons x
    · exact (ih _).cons x

theorem firstsOutside_sublist (seen ns : List NodeId) : (firstsOutside seen ns).Sublist ns := by
  induction ns generalizing seen with
  | nil => exact .slnil
  | cons x ns ih =>
    rw [firstsOutside]
    split
    · exact (ih _).cons x
    · exact (ih _).cons_cons x

namespace Forest

variable {F G : Forest} {f : NodeId → NodeId} {r n m : NodeId}

/-- Nodes of a tree, and what they are carried to. -/
structure Mirrored (F : Forest) (f : NodeId → NodeId) (r : NodeId) (ns ns' : List NodeId) :
    Prop where
  eq_map : ns' = ns.map f
  within : ∀ n ∈ ns, F.Within n r

namespace Mirrored

variable {ns ns' ms ms' : List NodeId} (h : Mirrored F f r ns ns')
include h

theorem sublist (hms : ms.Sublist ns) : Mirrored F f r ms (ms.map f) :=
  ⟨rfl, fun n hn => h.within n (hms.subset hn)⟩

theorem append (h' : Mirrored F f r ms ms') : Mirrored F f r (ns ++ ms) (ns' ++ ms') where
  eq_map := by rw [h.eq_map, h'.eq_map, List.map_append]
  within n hn := (List.mem_append.1 hn).elim (h.within n) (h'.within n)

theorem flatMap {g g' : NodeId → List NodeId} (hg : ∀ m, F.Within m r → g' (f m) = (g m).map f)
    (hwithin : ∀ m n, F.Within m r → n ∈ g m → F.Within n r) :
    Mirrored F f r (ns.flatMap g) (ns'.flatMap g') where
  eq_map := by
    rw [h.eq_map, List.flatMap_map, List.map_flatMap]
    exact List.flatMap_congr fun m hm => hg m (h.within m hm)
  within n hn := by
    obtain ⟨m, hm, hn⟩ := List.mem_flatMap.1 hn
    exact hwithin m n (h.within m hm) hn

theorem filterMap {g g' : NodeId → Option NodeId}
    (hg : ∀ m, F.Within m r → g' (f m) = (g m).map f)
    (hwithin : ∀ m n, F.Within m r → g m = some n → F.Within n r) :
    Mirrored F f r (ns.filterMap g) (ns'.filterMap g') where
  eq_map := by
    rw [h.eq_map, List.filterMap_map, List.map_filterMap]
    exact List.filterMap_congr fun m hm => hg m (h.within m hm)
  within n hn := by
    obtain ⟨m, hm, hn⟩ := List.mem_filterMap.1 hn
    exact hwithin m n (h.within m hm) hn

end Mirrored

namespace Mirrors

variable (h : Mirrors F G f r)
include h

theorem text_eq (hm : F.Within m r) : (G.value (f m)).text G = (F.value m).text F := by
  rw [h.value_eq m hm]
  cases hv : F.value m with
  | node t => exact h.name_eq t (h.closed m t hm hv)
  | _ => rfl

theorem text?_eq (hm : F.Within m r) : (G.value (f m)).text? G = (F.value m).text? F := by
  have hnull : (G.value (f m)).isNull = (F.value m).isNull := by
    rw [h.value_eq m hm]
    cases F.value m <;> rfl
  rw [Value.text?, Value.text?, hnull, h.text_eq hm]

theorem step?_eq {s : Selector Value} (hs : s.Nodeless) (hm : F.Within m r) :
    s.step? G (f m) = (s.step? F m).map f := by
  cases s with
  | parent => exact h.parent_eq hm
  | root => exact congrArg some (h.root_eq hm)
  | ancestor name => exact h.nearestNamed?_eq name hm
  | numbered i => exact h.child?_eq hm i
  | sibling offset => exact h.sibling?_eq hm offset
  | previous => exact h.previous?_eq hm
  | next => exact h.next?_eq hm
  | reference =>
    rw [Selector.step?, Selector.step?, h.value_eq m hm]
    exact Value.node?_mapNode f _
  | named name =>
    rw [Selector.step?, Selector.step?, h.name_eq m hm]
    split <;> rfl
  | equals v =>
    rw [Selector.step?, Selector.step?, h.value_eq m hm, Value.equals_mapNode f _ hs]
    split <;> rfl
  | nameMatches p =>
    rw [Selector.step?, Selector.step?, h.name_eq m hm]
    split <;> rfl
  | valueMatches p =>
    rw [Selector.step?, Selector.step?, h.text?_eq hm]
    split <;> rfl
  | _ => rfl

theorem within_step? {s : Selector Value} (hm : F.Within m r) (hn : s.step? F m = some n) :
    F.Within n r := by
  have hsame {b : Bool} (hn : (if b = true then some m else none) = some n) : F.Within n r := by
    split at hn
    · exact Option.some.inj hn ▸ hm
    · exact absurd hn nofun
  cases s with
  | parent => exact h.within_parent hm hn
  | root =>
    rw [← Option.some.inj hn]
    exact within_above h.root hm (within_root h.wellFormed m)
  | ancestor name => exact h.within_nearestNamed? hm hn
  | numbered i => exact h.within_of_child hm (List.mem_of_getElem? hn)
  | sibling offset => exact h.within_sibling hm hn
  | previous => exact h.within_previous? hm hn
  | next => exact h.within_next? hm hn
  | reference =>
    refine h.closed m n hm ?_
    rw [Selector.step?] at hn
    cases hv : F.value m <;> rw [hv] at hn
    case node t => exact congrArg Value.node (Option.some.inj hn)
    all_goals exact absurd hn nofun
  | named name =>
    rw [Selector.step?] at hn
    split at hn
    · exact Option.some.inj hn ▸ hm
    · exact absurd hn nofun
  | equals v => exact hsame hn
  | nameMatches p => exact hsame hn
  | valueMatches p => exact hsame hn
  | _ => exact absurd hn nofun

theorem apply {s : Selector Value} (hs : s.Nodeless) {ns ns' : List NodeId}
    (hns : Mirrored F f r ns ns') : Mirrored F f r (s.apply F ns) (s.apply G ns') := by
  have hstep : Mirrored F f r (ns.filterMap (s.step? F)) (ns'.filterMap (s.step? G)) :=
    hns.filterMap (fun m hm => h.step?_eq hs hm) fun m n hm hn => h.within_step? hm hn
  cases s with
  | children =>
    exact hns.flatMap h.children_eq fun m n hm hn => h.within_of_child hm hn
  | descendants =>
    exact hns.flatMap (fun m hm => h.descendants_eq hm) fun m n hm hn => h.within_descendants hm hn
  | range start stop =>
    cases stop with
    | none =>
      show Mirrored F f r (ns.drop _) (ns'.drop _)
      rw [hns.eq_map, ← List.map_drop]
      exact hns.sublist (List.drop_sublist _ _)
    | some stop =>
      show Mirrored F f r ((ns.drop _).take _) ((ns'.drop _).take _)
      rw [hns.eq_map, ← List.map_drop, ← List.map_take]
      exact hns.sublist ((List.take_sublist _ _).trans (List.drop_sublist _ _))
  | everyNth n =>
    show Mirrored F f r (TreeQuery.everyNth n 0 ns) (TreeQuery.everyNth n 0 ns')
    rw [hns.eq_map, everyNth_map]
    exact hns.sublist (everyNth_sublist n 0 ns)
  | _ => exact hstep

theorem contains_map {ns : List NodeId} (hns : ∀ n ∈ ns, F.Within n r) (hm : F.Within m r) :
    (ns.map f).contains (f m) = ns.contains m := by
  rw [Bool.eq_iff_iff, List.contains_iff_mem, List.contains_iff_mem, List.mem_map]
  constructor
  · rintro ⟨n, hn, he⟩
    exact h.injective n m (hns n hn) hm he ▸ hn
  · exact fun hn => ⟨m, hn, rfl⟩

theorem firstsOutside_map {seen ns : List NodeId} (hseen : ∀ n ∈ seen, F.Within n r)
    (hns : ∀ n ∈ ns, F.Within n r) :
    firstsOutside (seen.map f) (ns.map f) = (firstsOutside seen ns).map f := by
  induction ns generalizing seen with
  | nil => rfl
  | cons n ns ih =>
    obtain ⟨hn, hns⟩ := List.forall_mem_cons.1 hns
    rw [List.map_cons, firstsOutside, firstsOutside, h.contains_map hseen hn]
    split
    · exact ih hseen hns
    · have hrest := ih (List.forall_mem_cons.2 ⟨hn, hseen⟩) hns
      rw [List.map_cons] at hrest
      rw [hrest]
      rfl

theorem amongst_map (keep : Bool) {known ns : List NodeId} (hknown : ∀ n ∈ known, F.Within n r)
    (hns : ∀ n ∈ ns, F.Within n r) :
    amongst keep (known.map f) (ns.map f) = (amongst keep known ns).map f := by
  rw [amongst, amongst, List.filter_map]
  refine congrArg (List.map f) (List.filter_congr fun n hn => ?_)
  rw [Function.comp_apply, h.contains_map hknown (hns n hn)]

theorem combine (op : SetOp) {ls ls' rs rs' : List NodeId} (hl : Mirrored F f r ls ls')
    (hr : Mirrored F f r rs rs') : Mirrored F f r (op.combine ls rs) (op.combine ls' rs') := by
  have hand (keep : Bool) : Mirrored F f r (amongst keep rs ls) (amongst keep rs' ls') := by
    rw [hl.eq_map, hr.eq_map, h.amongst_map keep hr.within hl.within]
    exact hl.sublist List.filter_sublist
  cases op with
  | or =>
    refine hl.append ?_
    rw [hl.eq_map, hr.eq_map, h.firstsOutside_map hl.within hr.within]
    exact hr.sublist (firstsOutside_sublist ls rs)
  | and => exact hand true
  | not => exact hand false
  | xor =>
    refine (hand false).append ?_
    rw [hl.eq_map, hr.eq_map, h.amongst_map false hl.within hr.within]
    exact hr.sublist List.filter_sublist

end Mirrors
end Forest

open Forest in
mutual
theorem Step.select_mirrored {F G : Forest} {f : NodeId → NodeId} {r : NodeId}
    (h : Mirrors F G f r) (s : Step Value) (hs : s.Every Selector.Nodeless) {ns ns' : List NodeId}
    (hns : Mirrored F f r ns ns') : Mirrored F f r (s.select F ns) (s.select G ns') := by
  cases s with
  | single s => exact h.apply hs hns
  | group c => exact Chain.select_mirrored h c hs hns

theorem Chain.select_mirrored {F G : Forest} {f : NodeId → NodeId} {r : NodeId}
    (h : Mirrors F G f r) (c : Chain Value) (hc : c.Every Selector.Nodeless) {ns ns' : List NodeId}
    (hns : Mirrored F f r ns ns') : Mirrored F f r (c.select F ns) (c.select G ns') := by
  obtain ⟨steps, operands⟩ := c
  exact Operand.selectAll_mirrored h operands hc.2 hns (Step.selectAll_mirrored h steps hc.1 hns)

theorem Step.selectAll_mirrored {F G : Forest} {f : NodeId → NodeId} {r : NodeId}
    (h : Mirrors F G f r) (steps : List (Step Value)) (hs : Step.EveryAll Selector.Nodeless steps)
    {ns ns' : List NodeId} (hns : Mirrored F f r ns ns') :
    Mirrored F f r (Step.selectAll F steps ns) (Step.selectAll G steps ns') := by
  cases steps with
  | nil => exact hns
  | cons s rest =>
    exact Step.selectAll_mirrored h rest hs.2 (Step.select_mirrored h s hs.1 hns)

theorem Operand.selectAll_mirrored {F G : Forest} {f : NodeId → NodeId} {r : NodeId}
    (h : Mirrors F G f r) (operands : List (Operand Value))
    (ho : Operand.EveryAll Selector.Nodeless operands) {ns ns' rs rs' : List NodeId}
    (hns : Mirrored F f r ns ns') (hrs : Mirrored F f r rs rs') :
    Mirrored F f r (Operand.selectAll F ns operands rs) (Operand.selectAll G ns' operands rs') := by
  cases operands with
  | nil => exact hrs
  | cons o rest =>
    obtain ⟨op, steps⟩ := o
    exact Operand.selectAll_mirrored h rest ho.2 hns
      (h.combine op hrs (Step.selectAll_mirrored h steps ho.1 hns))
end

end TreeQuery
