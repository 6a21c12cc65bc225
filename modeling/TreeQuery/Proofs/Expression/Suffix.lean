import TreeQuery.Expression.Reader
import TreeQuery.Proofs.Text

namespace TreeQuery

theorem Selector.cutAt?_eq_some_iff {mark : Char} {cs front back : List Char} :
    cutAt? mark cs = some (front, back) ↔ cs = front ++ mark :: back ∧ mark ∉ front := by
  induction cs generalizing front with
  | nil => simp [cutAt?]
  | cons c cs ih =>
    rw [cutAt?]
    by_cases hc : c = mark
    · rw [if_pos hc]
      constructor
      · intro h
        obtain ⟨rfl, rfl⟩ := Prod.mk.inj (Option.some.inj h)
        exact ⟨by rw [hc, List.nil_append], List.not_mem_nil⟩
      · rintro ⟨h, hfront⟩
        cases front with
        | nil => rw [(List.cons.inj h).2]
        | cons d front =>
          have hd : mark = d := hc.symm.trans (List.cons.inj h).1
          exact absurd (hd ▸ List.mem_cons_self) hfront
    · rw [if_neg hc, Option.map_eq_some_iff]
      constructor
      · rintro ⟨⟨front', back'⟩, h, heq⟩
        obtain ⟨rfl, rfl⟩ := Prod.mk.inj heq
        obtain ⟨rfl, hfront⟩ := ih.1 h
        refine ⟨rfl, fun hm => ?_⟩
        rcases List.mem_cons.1 hm with rfl | hm
        · exact hc rfl
        · exact hfront hm
      · rintro ⟨h, hfront⟩
        cases front with
        | nil => exact absurd (List.cons.inj h).1 hc
        | cons d front =>
          obtain ⟨rfl, hcs⟩ := List.cons.inj h
          exact ⟨(front, back), ih.2 ⟨hcs, fun hm => hfront (List.mem_cons_of_mem c hm)⟩, rfl⟩

theorem Selector.cutAt?_eq_none_iff {mark : Char} {cs : List Char} :
    cutAt? mark cs = none ↔ mark ∉ cs := by
  induction cs with
  | nil => simp [cutAt?]
  | cons c cs ih =>
    rw [cutAt?, List.mem_cons, not_or]
    by_cases hc : c = mark
    · rw [if_pos hc]
      exact ⟨nofun, fun h => absurd hc.symm h.1⟩
    · rw [if_neg hc, Option.map_eq_none_iff, ih]
      exact ⟨fun h => ⟨fun e => hc e.symm, h⟩, fun h => h.2⟩

theorem Selector.cutAtLast?_eq_some_iff {mark : Char} {cs front back : List Char} :
    cutAtLast? mark cs = some (front, back) ↔ cs = front ++ mark :: back ∧ mark ∉ back := by
  have hreverse : cs.reverse = back.reverse ++ mark :: front.reverse ↔
      cs = front ++ mark :: back := by
    rw [← List.reverse_inj]
    simp
  rw [cutAtLast?, Option.map_eq_some_iff]
  constructor
  · rintro ⟨⟨back', front'⟩, h, heq⟩
    obtain ⟨rfl, rfl⟩ := Prod.mk.inj heq
    obtain ⟨hcs, hback⟩ := cutAt?_eq_some_iff.1 h
    refine ⟨hreverse.1 ?_, fun hm => hback (List.mem_reverse.1 hm)⟩
    rw [hcs, List.reverse_reverse, List.reverse_reverse]
  · rintro ⟨hcs, hback⟩
    refine ⟨(back.reverse, front.reverse), cutAt?_eq_some_iff.2 ⟨hreverse.2 hcs, ?_⟩, ?_⟩
    · exact fun hm => hback (List.mem_reverse.1 hm)
    · rw [List.reverse_reverse, List.reverse_reverse]

theorem Projection.ofText?_eq_some_iff {text : String} {kind : Projection} :
    ofText? text = some kind ↔ text = kind.text := by
  constructor
  · intro h
    unfold ofText? at h
    split at h
    case h_6 => exact absurd h nofun
    all_goals
      cases h
      rfl
  · rintro rfl
    cases kind <;> rfl

namespace Expression

/-- The text of a suffix is a kind, and after its first point the name of a type. -/
def IsSuffix (text : String) (kind : Projection) (convert : Option String) : Prop :=
  ∃ front, '.' ∉ front ∧ String.ofList (Text.trim front) = kind.text ∧
    match convert with
    | none => text.toList = front
    | some name => ∃ back, text.toList = front ++ '.' :: back ∧ Text.trim back ≠ [] ∧
        String.ofList (Text.trim back) = name

theorem isSuffix_of_no_point {text : String} {kind : Projection} {convert : Option String}
    (h : Selector.cutAt? '.' text.toList = none) : IsSuffix text kind convert ↔
      Projection.ofText? (String.ofList (Text.trim text.toList)) = some kind ∧ convert = none := by
  have hpoint := Selector.cutAt?_eq_none_iff.1 h
  rw [Projection.ofText?_eq_some_iff]
  constructor
  · rintro ⟨front, hfront, hkind, hrest⟩
    cases convert with
    | none => exact ⟨hrest ▸ hkind, rfl⟩
    | some name =>
      obtain ⟨back, hback, -⟩ := hrest
      exact absurd (hback ▸ List.mem_append_right _ List.mem_cons_self) hpoint
  · rintro ⟨hkind, rfl⟩
    exact ⟨text.toList, hpoint, hkind, rfl⟩

theorem isSuffix_of_point {text : String} {kind : Projection} {convert : Option String}
    {front back : List Char} (h : Selector.cutAt? '.' text.toList = some (front, back)) :
    IsSuffix text kind convert ↔ Projection.ofText? (String.ofList (Text.trim front)) = some kind ∧
      Text.trim back ≠ [] ∧ convert = some (String.ofList (Text.trim back)) := by
  obtain ⟨htext, hpoint⟩ := Selector.cutAt?_eq_some_iff.1 h
  rw [Projection.ofText?_eq_some_iff]
  constructor
  · rintro ⟨front', hfront, hkind, hrest⟩
    cases convert with
    | none =>
      have hmem : '.' ∈ text.toList := htext ▸ List.mem_append_right _ List.mem_cons_self
      exact absurd (hrest ▸ hmem) hfront
    | some name =>
      obtain ⟨back', hback, hne, rfl⟩ := hrest
      have hcut := h.symm.trans (Selector.cutAt?_eq_some_iff.2 ⟨hback, hfront⟩)
      obtain ⟨rfl, rfl⟩ := Prod.mk.inj (Option.some.inj hcut)
      exact ⟨hkind, hne, rfl⟩
  · rintro ⟨hkind, hne, rfl⟩
    exact ⟨front, hpoint, hkind, back, htext, hne, rfl⟩

theorem readSuffix_eq_ok_iff {text : String} {kind : Projection} {convert : Option String} :
    readSuffix text = .ok (kind, convert) ↔ IsSuffix text kind convert := by
  rw [readSuffix]
  cases hcut : Selector.cutAt? '.' text.toList with
  | none =>
    rw [isSuffix_of_no_point hcut]
    dsimp only
    cases Projection.ofText? (String.ofList (Text.trim text.toList)) <;> simp [eq_comm]
  | some parts =>
    rw [isSuffix_of_point hcut]
    dsimp only
    cases Projection.ofText? (String.ofList (Text.trim parts.1)) with
    | none => simp
    | some k => cases Text.trim parts.2 <;> simp [eq_comm]

theorem IsSuffix.append_type {tail t : List Char} {kind : Projection}
    (h : IsSuffix (String.ofList (Text.trim tail)) kind none) (ht : Text.trim t ≠ []) :
    IsSuffix (String.ofList (Text.trim (tail ++ '.' :: t))) kind
      (some (String.ofList (Text.trim t))) := by
  obtain ⟨front, hpoint, hkind, hfront⟩ := h
  rw [String.toList_ofList] at hfront
  subst hfront
  rw [Text.mem_trim (by decide), ← Text.mem_trimStart (by decide)] at hpoint
  have hstart : Text.trim (Text.trim tail) = Text.trim (Text.trimStart tail) :=
    Text.trim_trimEnd (Text.trimStart tail)
  rw [hstart] at hkind
  have htype : Text.trim (Text.trimEnd t) = Text.trim t := Text.trim_trimEnd t
  refine ⟨Text.trimStart tail, hpoint, hkind, Text.trimEnd t, ?_, htype ▸ ht, congrArg _ htype⟩
  rw [String.toList_ofList, Text.trim_append_cons (by decide)]

end Expression
end TreeQuery
