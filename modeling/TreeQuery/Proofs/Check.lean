import TreeQuery.Proofs.Evaluate.Selection
import TreeQuery.Proofs.Json.Reader
import TreeQuery.Proofs.Json.Tree
import TreeQuery.Proofs.Result

namespace TreeQuery

namespace Json

/-- How a part of a document shows as a value of a node. -/
inductive Shown : Json → Json → Prop
  | null : Shown .null .null
  | boolean (b : Bool) : Shown (.boolean b) (.boolean b)
  | integer (n : Int) (low : -2 ^ 63 ≤ n) (high : n < 2 ^ 63) : Shown (.integer n) (.integer n)
  | large (n : Int) (x : Binary64) (low : 2 ^ 63 ≤ n) (finite : x.isFinite = true)
      (nearest : ∀ y : Binary64, y.isFinite = true → |x.value - n| ≤ |y.value - n|) :
      Shown (.integer n) (.float x)
  | float (x : Binary64) (finite : x.isFinite = true) : Shown (.float x) (.float x)
  | string (s : String) : Shown (.string s) (.string s)
  | array (items : List Json) : Shown (.array items) .null
  | object (members : List (String × Json)) : Shown (.object members) .null

theorem value_of_int64 {n : Int} (low : -2 ^ 63 ≤ n) (high : n < 2 ^ 63) :
    (Json.integer n).value = .integer (Int64.ofInt n) := by
  rw [Json.value, Convert.int64?, if_pos (Int64.toInt_ofInt_of_le low high)]

theorem value_of_large {n : Int} (low : 2 ^ 63 ≤ n) :
    (Json.integer n).value = .float (.ofInt n) := by
  have hne : (Int64.ofInt n).toInt ≠ n := by
    have hlt := (Int64.ofInt n).toInt_lt
    omega
  rw [Json.value, Convert.int64?, if_neg hne]

/-- The double for a natural number of 64 bits is finite, and none is nearer. -/
theorem nearest_ofInt {n : Int} (low : 0 ≤ n) (high : n < 2 ^ 64) :
    (Binary64.ofInt n).isFinite = true ∧
      ∀ y : Binary64, |(Binary64.ofInt n).value - n| ≤ |y.value - n| := by
  have hnat : n.natAbs ≤ Integer.maxNatural := by
    rw [Integer.maxNatural]
    omega
  have hbounded := bounded_natural hnat
  have hsign : decide (n < 0) = false := decide_eq_false (Int.not_lt.2 low)
  have hcast : (Ratio.ofNat n.natAbs).value = n := by
    rw [Ratio.value_ofNat, ← Int.cast_natCast, Int.natAbs_of_nonneg low]
  rw [Binary64.ofInt, hsign]
  refine ⟨hbounded.isFinite_ofRatio false, fun y => ?_⟩
  have hnear := Binary64.value_ofRatio_nearest hbounded.den_pos hbounded.nearestMagnitude_lt y
  rwa [hcast] at hnear

theorem shown_integer {n : Int} (low : -2 ^ 63 ≤ n) (high : n < 2 ^ 64) (F : Forest) :
    Shown (.integer n) ((Json.integer n).value.json F) := by
  by_cases hlarge : 2 ^ 63 ≤ n
  · obtain ⟨hfinite, hnearest⟩ := nearest_ofInt (n := n) (by omega) high
    have hjson : (Json.integer n).value.json F = .float (.ofInt n) := by
      rw [value_of_large hlarge]
      exact if_pos hfinite
    rw [hjson]
    exact .large n _ hlarge hfinite fun y _ => hnearest y
  · have hsmall : n < 2 ^ 63 := Int.not_le.1 hlarge
    have hjson : (Json.integer n).value.json F = .integer n := by
      rw [value_of_int64 low hsmall]
      exact congrArg Json.integer (Int64.toInt_ofInt_of_le low hsmall)
    rw [hjson]
    exact .integer n low hsmall

theorem Stored.shown {j : Json} (h : Stored j) (F : Forest) : Shown j (j.value.json F) := by
  cases h with
  | integer n low high => exact shown_integer low high F
  | float x finite =>
    have hjson : (Json.float x).value.json F = .float x := if_pos finite
    rw [hjson]
    exact .float x finite
  | null => exact .null
  | boolean b => exact .boolean b
  | string s => exact .string s
  | array items _ => exact .array items
  | object members _ _ => exact .object members

end Json

namespace Check

def descendantValues : Expression :=
  ⟨"@/**?value", false, ⟨[.single .descendants], []⟩, .value, none⟩

theorem compile_descendantValues : Expression.compile "@/**?value" = .ok descendantValues := rfl

theorem evaluate_descendantValues {F : Forest} (hF : F.WellFormed) (n : NodeId) :
    Evaluator.evaluate {} F descendantValues n =
      .ok (Match.ofNodes .value none (F.descendants n)) := by
  have hresolve : Evaluator.resolve {} F descendantValues.chain =
      .ok ⟨[.single .descendants], []⟩ := rfl
  rw [Evaluator.evaluate_plain rfl hresolve, Evaluator.drain_cursor hF]
  have hselect : Chain.select F ⟨[.single .descendants], []⟩ [n] = F.descendants n :=
    List.flatMap_singleton _ _
  rw [hselect]
  rfl

end Check

theorem Match.json_ofNodes_value (E : Evaluator) (F : Forest) (ns : List NodeId) :
    (Match.ofNodes .value none ns).json E F =
      .ok (.array (ns.map fun n => (F.value n).json F)) := by
  have hvalues : (Match.ofNodes .value none ns).values E F = .ok (ns.map F.value) := by
    rw [Match.values, Match.ofNodes, mapM_eq_ok_iff, List.forall₂_map_left_iff,
      List.forall₂_map_right_iff, List.forall₂_same]
    exact fun n _ => rfl
  have hmap : (ns.map F.value).map (Value.json F) = ns.map fun n => (F.value n).json F :=
    List.map_map
  have hkind : (Match.ofNodes .value none ns).kind ≠ .count := by
    intro h
    cases h
  rw [Match.json, if_neg hkind, hvalues, ← hmap]
  rfl

namespace Check

/-- A document goes into a tree whose nodes below the root show its parts. -/
theorem exists_evaluate_descendantValues (document : Json) : ∃ F : Forest,
    evaluate descendantValues document =
      .ok (.array (document.contents.map fun j => j.value.json F)) := by
  have hgrows := Forest.grows_addJson Forest.wellFormed_empty "" document
  have hvalues := Forest.values_descendants_addJson Forest.wellFormed_empty "" document
  rw [evaluate]
  generalize Forest.addJson {} "" document = tree at hgrows hvalues ⊢
  obtain ⟨root, F⟩ := tree
  have hmap : (F.descendants root).map (fun n => (F.value n).json F) =
      document.contents.map fun j => j.value.json F := by
    have hjson := congrArg (List.map (Value.json F)) hvalues
    rwa [List.map_map, List.map_map] at hjson
  refine ⟨F, ?_⟩
  calc
    _ = (Evaluator.evaluate {} F descendantValues root).bind fun m => m.json {} F := rfl
    _ = (Match.ofNodes .value none (F.descendants root)).json {} F := by
      rw [evaluate_descendantValues hgrows.wellFormed]
      rfl
    _ = _ := by rw [Match.json_ofNodes_value, hmap]

/-- Every document is listed: its parts in document order, each as a value shows it. -/
theorem run_descendantValues {input : String} {document : Json}
    (h : Json.read? input = some document) (pretty : Bool) :
    document.Stored ∧ ∃ results,
      run ⟨"@/**?value", some input, pretty, false⟩ = .ok (some (.array results)) ∧
      List.Forall₂ Json.Shown document.contents results := by
  have hstored := Json.stored_of_read h
  obtain ⟨F, hevaluate⟩ := exists_evaluate_descendantValues document
  refine ⟨hstored, document.contents.map fun j => j.value.json F, ?_, ?_⟩
  · rw [run, compile_descendantValues]
    simp only [h, hevaluate, Bool.false_eq_true, if_false]
  · rw [List.forall₂_map_right_iff, List.forall₂_same]
    exact fun j hj => (hstored.of_contents j hj).shown F

theorem run_descendantValues_nested :
    let input := "\x7b\"b\":[18446744073709551615,-7],\"a\":\x7b\"x\":null,\"f\":1.5\x7d\x7d"
    let items := .array [.integer 18446744073709551615, .integer (-7)]
    let inner := .object [("f", .float ⟨0x3FF8000000000000⟩), ("x", .null)]
    let document := .object [("a", inner), ("b", items)]
    Json.read? input = some document ∧ document.Stored ∧ ∃ results,
      run ⟨"@/**?value", some input, true, false⟩ = .ok (some (.array results)) ∧
      List.Forall₂ Json.Shown [inner, .float ⟨0x3FF8000000000000⟩, .null, items,
        .integer 18446744073709551615, .integer (-7)] results := by
  intro input items inner document
  have hread : Json.read? input = some document := by decide +kernel
  exact ⟨hread, run_descendantValues hread true⟩

/-- An integer that needs all 64 bits and is no double is listed as a double beside it. -/
theorem run_descendantValues_rounded :
    Json.read? "[9223372036854775809]" = some (.array [.integer 9223372036854775809]) ∧
      run ⟨"@/**?value", some "[9223372036854775809]", false, false⟩ =
        .ok (some (.array [.float ⟨0x43E0000000000000⟩])) ∧
      (Binary64.mk 0x43E0000000000000).value ≠ 9223372036854775809 := by
  refine ⟨by decide +kernel, by decide +kernel, ?_⟩
  have hexponent : (Binary64.mk 0x43E0000000000000).exponent = 11 := by decide
  have hmantissa : (Binary64.mk 0x43E0000000000000).mantissa = 2 ^ 52 := by decide
  have hsign : (Binary64.mk 0x43E0000000000000).isNegative = false := by decide
  rw [Binary64.value, hsign, Binary64.value_toRatio, hexponent, hmantissa]
  norm_num

end Check
end TreeQuery
