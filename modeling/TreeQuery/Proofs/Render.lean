import TreeQuery.Proofs.Forest.Likeness
import TreeQuery.Render

namespace TreeQuery

namespace Json

def ofNode (name : String) (value : Json) : List Json → Json
  | [] => .object [("name", .string name), ("value", value)]
  | children => .object [("children", .array children), ("name", .string name), ("value", value)]

theorem ofNode_inj {name name' : String} {value value' : Json} {children children' : List Json} :
    ofNode name value children = ofNode name' value' children' ↔
      children = children' ∧ name = name' ∧ value = value' := by
  cases children <;> cases children' <;> simp [ofNode]

end Json

namespace Value

/-- Values that JSON has a form of their own for. -/
inductive Plain : Value → Prop
  | null : Plain .null
  | boolean (b : Bool) : Plain (.boolean b)
  | integer (n : Int64) : Plain (.integer n)
  | string (s : String) : Plain (.string s)

theorem scalarJson_inj {v w : Value} (hv : v.Plain) (hw : w.Plain) (F : Forest) :
    v.scalarJson F = w.scalarJson F ↔ v = w := by
  cases hv <;> cases hw <;> simp [scalarJson, Int64.toInt_inj]

end Value

namespace Forest

variable {F : Forest} {a b n x y : NodeId}

theorem jsonTo_succ (F : Forest) (fuel : Nat) (n : NodeId) : F.jsonTo (fuel + 1) n =
    Json.ofNode (F.name n) ((F.value n).scalarJson F) ((F.children n).map (F.jsonTo fuel)) := by
  rw [jsonTo]
  cases F.children n <;> rfl

/-- Two nodes show the same, their children aside. -/
def ShowsAlike (F : Forest) (x y : NodeId) : Prop :=
  F.name x = F.name y ∧ (F.value x).scalarJson F = (F.value y).scalarJson F

theorem map_eq_map_iff {f : NodeId → Json} {xs ys : List NodeId} :
    xs.map f = ys.map f ↔ ∀ i : Nat, Option.Rel (fun c d => f c = f d) xs[i]? ys[i]? := by
  rw [List.ext_getElem?_iff]
  refine forall_congr' fun i => ?_
  rw [List.getElem?_map, List.getElem?_map, rel_iff]
  cases xs[i]? <;> cases ys[i]? <;> simp

theorem jsonTo_eq_of_rel (h : ∀ q, Option.Rel F.ShowsAlike (F.at? x ⟨q⟩) (F.at? y ⟨q⟩))
    (fuel : Nat) : F.jsonTo fuel x = F.jsonTo fuel y := by
  induction fuel generalizing x y with
  | zero => rfl
  | succ fuel ih =>
    have hshows : F.ShowsAlike x y := of_rel (h []) rfl rfl
    rw [jsonTo_succ, jsonTo_succ, Json.ofNode_inj, map_eq_map_iff]
    refine ⟨fun i => ?_, hshows⟩
    have hchild := rel_child?_of_rel_at? h i
    rw [child?, child?] at hchild
    revert hchild
    generalize (F.children x)[i]? = cx, (F.children y)[i]? = cy
    rintro (hbelow | -)
    · exact .some (ih hbelow)
    · exact .none

section WellFormed
variable (hF : F.WellFormed)
include hF

/-- The deeper a node, the less is left below it. -/
theorem jsonTo_stable {fuel : Nat} (h : F.size < fuel + (F.lineage n).length) :
    F.jsonTo (fuel + 1) n = F.jsonTo (fuel + 2) n := by
  induction fuel generalizing n with
  | zero =>
    have hn : ¬ F.contains n = true := by
      intro hn
      have := length_lineage_le hF hn
      omega
    rw [jsonTo_succ, jsonTo_succ, children_of_not_contains hn]
    rfl
  | succ fuel ih =>
    rw [jsonTo_succ, jsonTo_succ F (fuel + 2)]
    congr 1
    refine List.map_congr_left fun c hc => ih ?_
    rw [lineage_of_parent hF (hF.parent_of_mem hc), List.length_cons]
    omega

theorem json_eq (n : NodeId) : F.json n =
    Json.ofNode (F.name n) ((F.value n).scalarJson F) ((F.children n).map F.json) := by
  have hpos : 0 < (F.lineage n).length := Nat.succ_pos _
  have hstable : F.jsonTo (F.size + 1) n = F.jsonTo (F.size + 2) n :=
    jsonTo_stable hF (by omega)
  exact hstable.trans (jsonTo_succ F (F.size + 1) n)

theorem json_eq_json_iff : F.json x = F.json y ↔
    ∀ q, Option.Rel F.ShowsAlike (F.at? x ⟨q⟩) (F.at? y ⟨q⟩) := by
  refine ⟨fun h q => ?_, fun h => jsonTo_eq_of_rel h _⟩
  rw [json_eq hF, json_eq hF, Json.ofNode_inj, map_eq_map_iff] at h
  induction q generalizing x y with
  | nil => exact .some h.2
  | cons i q ih =>
    rw [at?_cons, at?_cons]
    rcases rel_iff.1 (h.1 i) with ⟨hc, hd⟩ | ⟨c, d, hc, hd, hcd⟩
    · rw [child?, child?, hc, hd]
      exact .none
    · rw [child?, child?, hc, hd]
      rw [json_eq hF, json_eq hF, Json.ofNode_inj, map_eq_map_iff] at hcd
      exact ih hcd

end WellFormed

/-- No value is a node here that could match by its place. -/
theorem valuesMatch_plain {v w : Value} (hv : v.Plain) (hw : w.Plain) :
    F.valuesMatch a b v w = true ↔ v = w := by
  cases hv <;> cases hw <;> simp [valuesMatch, Value.equals]

theorem labelsMatch_iff_showsAlike (hx : (F.value x).Plain) (hy : (F.value y).Plain) :
    F.LabelsMatch a b x y ↔ F.ShowsAlike x y := by
  rw [LabelsMatch, ShowsAlike, valuesMatch_plain hx hy, Value.scalarJson_inj hx hy]

/-- Where the values are null, truth values, integers and texts, two nodes have equal objects exactly
if the trees below them look alike. -/
theorem json_eq_iff_sameShape (h : F.Reachable) (ha : ∀ m, F.Within m a → (F.value m).Plain)
    (hb : ∀ m, F.Within m b → (F.value m).Plain) :
    F.json a = F.json b ↔ F.sameShape a b = true := by
  have hF := h.wellFormed
  have hlabels (q : List Nat) : Option.Rel (F.LabelsMatch a b) (F.at? a ⟨q⟩) (F.at? b ⟨q⟩) ↔
      Option.Rel F.ShowsAlike (F.at? a ⟨q⟩) (F.at? b ⟨q⟩) := by
    rw [rel_iff, rel_iff]
    refine or_congr_right (exists_congr fun x => exists_congr fun y => ?_)
    refine and_congr_right fun hx => and_congr_right fun hy => ?_
    exact labelsMatch_iff_showsAlike (ha x (within_of_at? hF hx)) (hb y (within_of_at? hF hy))
  rw [sameShape_iff hF, json_eq_json_iff hF]
  constructor
  · exact fun hshows => .inr fun q => (hlabels q).2 (hshows q)
  · rintro (rfl | hmatch)
    · exact (json_eq_json_iff hF).1 rfl
    · exact fun q => (hlabels q).1 (hmatch q)

/-- Two of three children have the same object, as they look alike; the third has the number that the
others have as a text. -/
theorem json_eq_iff_sameShape_children :
    let F := [Edit.create "r" .null, .create "a" (.string "1"), .create "a" (.string "1"),
      .create "a" (.integer 1), .create "b" (.boolean true), .create "b" (.boolean true),
      .create "b" (.boolean true), .add ⟨0⟩ ⟨1⟩, .add ⟨0⟩ ⟨2⟩, .add ⟨0⟩ ⟨3⟩, .add ⟨1⟩ ⟨4⟩,
      .add ⟨2⟩ ⟨5⟩, .add ⟨3⟩ ⟨6⟩].foldl Edit.run {}
    F.Reachable ∧ (∀ m, (F.value m).Plain) ∧ F.json ⟨1⟩ = F.json ⟨2⟩ ∧
      F.sameShape ⟨1⟩ ⟨3⟩ = false ∧ F.json ⟨1⟩ ≠ F.json ⟨3⟩ := by
  intro F
  have hF : F.Reachable := Reachable.empty.foldl (by decide +kernel)
  have hplain (m : NodeId) : (F.value m).Plain := by
    obtain ⟨_ | _ | _ | _ | _ | _ | _ | i⟩ := m <;> constructor
  have hiff (x y : NodeId) := json_eq_iff_sameShape (a := x) (b := y) hF (fun m _ => hplain m)
    fun m _ => hplain m
  have hdiffer : F.sameShape ⟨1⟩ ⟨3⟩ = false := by decide +kernel
  refine ⟨hF, hplain, (hiff ⟨1⟩ ⟨2⟩).2 (by decide +kernel), hdiffer, fun heq => ?_⟩
  rw [(hiff ⟨1⟩ ⟨3⟩).1 heq] at hdiffer
  exact absurd hdiffer nofun

end Forest
end TreeQuery
