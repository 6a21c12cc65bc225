import Mathlib.Algebra.Group.Nat.Defs
import TreeQuery.Convert
import TreeQuery.Proofs.Number.Digits
import TreeQuery.Proofs.Result
import TreeQuery.Proofs.Text

namespace TreeQuery

namespace NodePath

variable {p : NodePath} {s : List Char} {more : List (List Char)}

theorem segments_append {front rest : List Char} (hfront : '/' ∉ front)
    (h : segments rest = s :: more) : segments (front ++ rest) = (front ++ s) :: more := by
  induction front with
  | nil => exact h
  | cons c front ih =>
    rw [List.mem_cons, not_or] at hfront
    rw [List.cons_append, segments, if_neg (Ne.symm hfront.1), ih hfront.2]
    rfl

theorem segments_flatMap {parts : List (List Char)} (h : ∀ part ∈ parts, '/' ∉ part) :
    segments (parts.flatMap ('/' :: ·)) = [] :: parts := by
  induction parts with
  | nil => rfl
  | cons part parts ih =>
    obtain ⟨hpart, hparts⟩ := List.forall_mem_cons.1 h
    rw [List.flatMap_cons, List.cons_append, segments, if_pos rfl,
      segments_append hpart (ih hparts), List.append_nil]

theorem toList_text (h : p.indices ≠ []) :
    p.text.toList = (p.indices.map (Nat.toDigits 10)).flatMap ('/' :: ·) := by
  rw [text, isRoot, if_neg (by simpa using h), String.toList_join, List.flatMap_map,
    List.flatMap_map]
  simp only [String.toList_append, Nat.toString_eq_repr, Nat.toList_repr]
  rfl

theorem segments_text (h : p.indices ≠ []) :
    segments p.text.toList = [] :: p.indices.map (Nat.toDigits 10) := by
  rw [toList_text h, segments_flatMap]
  intro part hpart hslash
  obtain ⟨i, -, rfl⟩ := List.mem_map.1 hpart
  exact absurd (List.all_eq_true.1 (Integer.all_isDigit_toDigits i) '/' hslash) (by decide)

/-- An address of numbers of 64 bits is read from the text that it is shown by. -/
theorem read_text (h : ∀ i ∈ p.indices, i < 2 ^ 64) : read p.text.toList = .ok p := by
  obtain ⟨indices⟩ := p
  cases indices with
  | nil => rfl
  | cons i rest =>
    have hparts : (segments (NodePath.mk (i :: rest)).text.toList).filter (fun s => !s.isEmpty) =
        (i :: rest).map (Nat.toDigits 10) := by
      rw [segments_text (List.cons_ne_nil i rest), List.filter_cons_of_neg (by simp),
        List.filter_eq_self]
      intro part hpart
      obtain ⟨j, -, rfl⟩ := List.mem_map.1 hpart
      simp [Nat.toDigits_ne_nil]
    have hread : ((i :: rest).map (Nat.toDigits 10)).mapM
        (Integer.readNatural Integer.maxNatural) = .ok (i :: rest) := by
      rw [mapM_eq_ok_iff, List.forall₂_map_left_iff, List.forall₂_same]
      exact fun j hj => Integer.readNatural_toDigits (Nat.le_pred_of_lt (h j hj))
    rw [read, hparts, hread]
    rfl

end NodePath

/-- The values whose texts say all about them. Bytes that are no text and nodes have none; floats
and decimals are left out. -/
def Value.Textual : Value → Prop
  | .null | .boolean _ | .integer _ | .string _ => True
  | .bytes b => Text.IsUtf8 b
  | .path p => ∀ i ∈ p.indices, i < 2 ^ 64
  | .float _ | .decimal _ | .node _ => False

namespace Convert

variable {F : Forest}

theorem trim_integer (n : Int64) :
    Text.trim (toString n.toInt).toList = (toString n.toInt).toList := by
  have hdigits (k : Nat) : ∀ c ∈ Nat.toDigits 10 k, isBlank c = false := fun c hc =>
    Text.isBlank_of_isDigit (List.all_eq_true.1 (Integer.all_isDigit_toDigits k) c hc)
  refine Text.trim_of_not_blank ?_
  rw [Integer.toList_toString]
  split
  · exact hdigits _
  · exact List.forall_mem_cons.2 ⟨rfl, hdigits _⟩

theorem convert_integer (n : Int64) :
    convert F (.string (toString n.toInt)) "int" = .ok (.integer n) := by
  show Value.integer <$> read F _ "int" .integer
    (Integer.readInt64 (Text.trim (toString n.toInt).toList)) = _
  rw [trim_integer, Integer.readInt64_toString]
  rfl

theorem convert_boolean (b : Bool) :
    convert F (.string (Value.booleanText b)) "bool" = .ok (.boolean b) := by
  have htext : toTrimmed F "bool" (.string (Value.booleanText b)) =
      .ok (Text.trim (Value.booleanText b).toList) := rfl
  have htruth : truth? (Text.trim (Value.booleanText b).toList) = some b := by
    cases b <;> decide +kernel
  have hread : toBoolean F "bool" (.string (Value.booleanText b)) = .ok b := by
    simp only [toBoolean, htext, bind, Except.bind, htruth, orFail]
  simp [convert, Value.isNull, hread]

theorem convert_path {p : NodePath} (h : ∀ i ∈ p.indices, i < 2 ^ 64) :
    convert F (.string p.text) "path" = .ok (.path p) := by
  have hread : toPath F "path" (.string p.text) = .ok p := by
    rw [toPath, NodePath.read_text h]
    rfl
  simp [convert, Value.isNull, hread]

theorem convert_bytes {b : List UInt8} (h : Text.IsUtf8 b) :
    ∃ s, convert F (.bytes b) "string" = .ok (.string s) ∧
      convert F (.string s) "blob" = .ok (.bytes b) := by
  obtain ⟨s, hs⟩ := Option.isSome_iff_exists.1 (Text.isSome_ofBytes?_iff.2 h)
  refine ⟨s, ?_, ?_⟩
  · show Value.string <$> orFail F _ "string" .invalidUtf8 (Text.ofBytes? b) = _
    rw [hs]
    rfl
  · rw [← Text.ofBytes?_eq_some_iff.1 hs]
    rfl

/-- A value that text can stand for has a text, null being its own, and the name of its type makes
the value of this text again. Bytes that are no text have none, and no node has one. An address is
read from the text that it is shown by. -/
theorem convert_typeName_of_convert_string (F : Forest) :
    (∀ v : Value, v.Textual → ∃ t, convert F v "string" = .ok t ∧
      (t = .null ∧ v = .null ∨ ∃ s, t = .string s) ∧ convert F t v.typeName = .ok v) ∧
    (∀ b, ¬ Text.IsUtf8 b → convert F (.bytes b) "string" =
      .error ⟨(Value.bytes b).debug F, "string", .invalidUtf8⟩) ∧
    (∀ n, convert F (.node n) "string" = .error ⟨(Value.node n).debug F, "string", .nodeAsText⟩) ∧
    ∀ p : NodePath, (∀ i ∈ p.indices, i < 2 ^ 64) → NodePath.read p.text.toList = .ok p := by
  refine ⟨fun v hv => ?_, fun b hb => ?_, fun n => rfl, fun p hp => NodePath.read_text hp⟩
  · cases v with
    | null => exact ⟨.null, rfl, .inl ⟨rfl, rfl⟩, rfl⟩
    | boolean b => exact ⟨_, rfl, .inr ⟨_, rfl⟩, convert_boolean b⟩
    | integer n => exact ⟨_, rfl, .inr ⟨_, rfl⟩, convert_integer n⟩
    | string s => exact ⟨_, rfl, .inr ⟨_, rfl⟩, rfl⟩
    | bytes b =>
      obtain ⟨s, hs, hback⟩ := convert_bytes hv
      exact ⟨_, hs, .inr ⟨s, rfl⟩, hback⟩
    | path p => exact ⟨_, rfl, .inr ⟨_, rfl⟩, convert_path hv⟩
    | float _ | decimal _ | node _ => exact hv.elim
  · have hnone : Text.ofBytes? b = none :=
      Option.not_isSome_iff_eq_none.1 (mt Text.isSome_ofBytes?_iff.1 hb)
    show Value.string <$> orFail F _ "string" .invalidUtf8 (Text.ofBytes? b) = _
    rw [hnone]
    rfl

/-- The least integer, a letter of two bytes and the first of them alone, and an address that ends
in the greatest number. -/
theorem convert_typeName_of_convert_string_bounds :
    (∃ t, convert {} (.integer Int64.minValue) "string" = .ok t ∧
      convert {} t "int" = .ok (.integer Int64.minValue)) ∧
    (∃ t, convert {} (.bytes [0xC3, 0xA9]) "string" = .ok t ∧
      convert {} t "blob" = .ok (.bytes [0xC3, 0xA9])) ∧
    convert {} (.bytes [0xC3]) "string" = .error ⟨"Bytes([195])", "string", .invalidUtf8⟩ ∧
    NodePath.read (NodePath.mk [0, 2 ^ 64 - 1]).text.toList = .ok ⟨[0, 2 ^ 64 - 1]⟩ := by
  obtain ⟨hback, hinvalid, -, hpath⟩ := convert_typeName_of_convert_string {}
  have htext : (Value.bytes [0xC3, 0xA9]).Textual := ⟨['é'], by decide +kernel⟩
  have hbroken : ¬ Text.IsUtf8 [0xC3] := fun h =>
    absurd (Text.isSome_ofBytes?_iff.2 h) (by decide +kernel)
  refine ⟨?_, ?_, ?_, hpath _ (by decide)⟩
  · obtain ⟨t, ht, -, hv⟩ := hback (.integer Int64.minValue) trivial
    exact ⟨t, ht, hv⟩
  · obtain ⟨t, ht, -, hv⟩ := hback (.bytes [0xC3, 0xA9]) htext
    exact ⟨t, ht, hv⟩
  · rw [hinvalid [0xC3] hbroken]
    rfl

end Convert
end TreeQuery
