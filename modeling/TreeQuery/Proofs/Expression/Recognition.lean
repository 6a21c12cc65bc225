import TreeQuery.Proofs.Expression.Splice

namespace TreeQuery

theorem SetOp.ofSymbol?_eq_some_iff {c : Char} {op : SetOp} :
    ofSymbol? c = some op ↔ c = op.symbol := by
  constructor
  · intro h
    unfold ofSymbol? at h
    split at h
    case h_5 => exact absurd h nofun
    all_goals
      cases h
      rfl
  · rintro rfl
    cases op <;> rfl

namespace Token

theorem trimStart_of_reads {cs left : List Char} {t : Token} {ts : List Token}
    (h : Reads cs (t :: ts) left) :
    ∃ front rest, Text.trimStart cs = front ++ rest ∧ Spells front rest t ∧ Reads rest ts left := by
  obtain ⟨blanks, front, rest, rfl, hblanks, hspells, hrest⟩ := h
  refine ⟨front, rest, Text.trimStart_append hblanks ?_, hspells, hrest⟩
  obtain ⟨c, hc, hblank⟩ := head?_of_spells hspells
  intro d hd
  rw [List.head?_append, Option.mem_def.1 hc] at hd
  exact Option.some.inj hd ▸ hblank

theorem front_of_operator {front rest : List Char} {t : Token} {op : SetOp}
    (h : Spells front rest t) (hop : t.operator? = some op) : front = [op.symbol] := by
  match t with
  | word text false =>
    obtain ⟨⟨c, hc, -, -, hescape⟩, hword, -⟩ := h
    have htext : text.toList = [op.symbol] := by
      have hop : SetOp.ofText? text = some op := hop
      unfold SetOp.ofText? at hop
      split at hop
      · next d hd => rw [hd, SetOp.ofSymbol?_eq_some_iff.1 hop]
      · exact absurd hop nofun
    rw [htext] at hword
    cases hword with
    | plain _ _ hnil =>
      cases hnil
      rfl
    | escaped _ =>
      obtain rfl := Option.some.inj hc
      exact absurd hescape (by decide)

end Token

namespace Expression

/-- After the sentinel and blanks, an operator comes first. -/
def leadsWithOperator (text : String) : Bool :=
  match Text.trimStart text.toList with
  | '@' :: rest => ((Text.trimStart rest).head?.bind SetOp.ofSymbol?).isSome
  | _ => false

theorem isLikely_of_reads {text : String} {ts : List Token} {t : Token}
    (h : Token.Reads text.toList (.sentinel :: t :: ts) []) :
    ∃ front rest, Token.Spells front rest t ∧
      isLikely text = front.head?.any (fun c =>
        c == '/' || c == '?' || c == '@' || c == '\x7b' || c == '(') ∧
      leadsWithOperator text = (front.head?.bind SetOp.ofSymbol?).isSome := by
  obtain ⟨first, rest, hfirst, ⟨rfl, -⟩, hrest⟩ := Token.trimStart_of_reads h
  obtain ⟨front, after, hfront, hspells, -⟩ := Token.trimStart_of_reads hrest
  obtain ⟨c, hc, -⟩ := Token.head?_of_spells hspells
  refine ⟨front, after, hspells, ?_, ?_⟩
  · rw [isLikely, hfirst]
    cases front with
    | nil => exact absurd hc (Option.not_mem_none c)
    | cons d front => simp [hfront]
  · rw [leadsWithOperator, hfirst]
    cases front with
    | nil => exact absurd hc (Option.not_mem_none c)
    | cons d front => simp [hfront]

/-- A text that is an expression looks like one unless an operator comes first in it. -/
theorem isLikely_of_compile {text : String} {e : Expression} (h : compile text = .ok e) :
    isLikely text = !leadsWithOperator text := by
  obtain ⟨body, suffix, hexp, -⟩ := compile_eq_ok_iff.1 h
  obtain ⟨hreads, hbody, -⟩ := isExpression_iff_reads.1 hexp
  cases hr : e.referenced with
  | true =>
    rw [hr] at hreads
    obtain ⟨front, rest, ⟨rfl, -⟩, hlikely, hleads⟩ := isLikely_of_reads hreads
    rw [hlikely, hleads]
    rfl
  | false =>
    rw [hr] at hreads
    cases body with
    | nil =>
      obtain ⟨front, rest, ⟨-, tail, rfl, -⟩, hlikely, hleads⟩ := isLikely_of_reads hreads
      rw [hlikely, hleads]
      rfl
    | cons t body =>
      obtain ⟨front, rest, hspells, hlikely, hleads⟩ := isLikely_of_reads hreads
      rw [hlikely, hleads]
      cases hop : t.operator? with
      | some op =>
        rw [Token.front_of_operator hspells hop]
        cases op <;> rfl
      | none =>
        rcases hbody.toReadable.head hop with rfl | rfl | rfl
        · rw [Token.Spells] at hspells
          rw [hspells]
          rfl
        · rw [Token.Spells] at hspells
          rw [hspells]
          rfl
        · have hclosed := hbody.closed [.closeParen] (List.prefix_append _ body)
          exact absurd hclosed (by decide)

end Expression
end TreeQuery
