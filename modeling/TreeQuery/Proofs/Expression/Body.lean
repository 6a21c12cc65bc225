import Mathlib.Data.List.Induction
import TreeQuery.Expression.Reader
import TreeQuery.Proofs.Expression.Marks

namespace TreeQuery

namespace Token

def operator? : Token → Option SetOp
  | word text false => SetOp.ofText? text
  | _ => none

def selector? : Token → Option (Except Fault (Selector Literal))
  | word text true => some (.ok (.named text))
  | word text false =>
    if (SetOp.ofText? text).isSome then none else some (Selector.ofWord text.toList)
  | literal text => some (Selector.ofLiteral text.toList)
  | _ => none

/-- The mark that a token is. A slash is none; it only announces a step. -/
def mark? : Token → Option (Mark Literal)
  | openParen => some .opens
  | closeParen => some .closes
  | t =>
    match t.operator?, t.selector? with
    | some op, _ => some (.operator op)
    | none, some (.ok s) => some (.step s)
    | none, _ => none

/-- The tokens that stand only at the ends of an expression. -/
def isOuter : Token → Bool
  | sentinel | suffix _ | eof => true
  | _ => false

/-- Tokens with which a body may begin: every step has its slash, every parenthesis that is closed
has been opened, and what is to be a selector is one. -/
structure Readable (ts : List Token) : Prop where
  inner : ∀ t ∈ ts, t.isOuter = false
  closed : ∀ before, before <+: ts → before.count .closeParen ≤ before.count .openParen
  preceded : ∀ before t, before ++ [t] <+: ts → t.selector?.isSome → before.getLast? = some .slash
  classified : ∀ t ∈ ts, ∀ r, t.selector? = some r → ∃ s, r = .ok s

/-- The tokens of a body, in which also every parenthesis is closed. -/
structure IsBody (ts : List Token) : Prop extends Readable ts where
  balanced : ts.count .closeParen = ts.count .openParen

/-- What a token asks of the number of open parentheses and of the token before it. -/
structure Accepted (depth : Nat) (afterSlash : Bool) (t : Token) : Prop where
  inner : t.isOuter = false
  closed : t = .closeParen → 0 < depth
  preceded : t.selector?.isSome → afterSlash = true
  classified : ∀ r, t.selector? = some r → ∃ s, r = .ok s

theorem of_operator {t : Token} {op : SetOp} (h : t.operator? = some op) :
    (t.isOuter = false ∧ t ≠ .slash ∧ t ≠ .openParen ∧ t ≠ .closeParen) ∧ t.selector? = none ∧
      t.mark? = some (.operator op) := by
  match t with
  | word text false =>
    have hsome : (SetOp.ofText? text).isSome = true := Option.isSome_of_eq_some h
    have hop : SetOp.ofText? text = some op := h
    refine ⟨by simp [isOuter], by simp [selector?, hsome], ?_⟩
    simp [mark?, operator?, hop]

theorem of_selector {t : Token} {r : Except Fault (Selector Literal)} (h : t.selector? = some r) :
    (t.isOuter = false ∧ t ≠ .slash ∧ t ≠ .openParen ∧ t ≠ .closeParen) ∧ t.operator? = none ∧
      ∀ s, r = .ok s → t.mark? = some (.step s) := by
  match t with
  | word text true =>
    refine ⟨by simp [isOuter], rfl, fun s hs => ?_⟩
    rw [mark?, h, hs]
    · rfl
    · exact nofun
    · exact nofun
  | word text false =>
    have hop : (word text false).operator? = none := by
      cases hop : SetOp.ofText? text with
      | none => exact hop
      | some op => simp [selector?, hop] at h
    refine ⟨by simp [isOuter], hop, fun s hs => ?_⟩
    rw [mark?, h, hop, hs]
    · exact nofun
    · exact nofun
  | literal text =>
    refine ⟨by simp [isOuter], rfl, fun s hs => ?_⟩
    rw [mark?, h, hs]
    · rfl
    · exact nofun
    · exact nofun

theorem operator?_symbol (op : SetOp) :
    (word (String.singleton op.symbol) false).operator? = some op := by
  cases op <;> rfl

theorem readable_nil : Readable [] where
  inner := nofun
  closed before h := by rw [List.prefix_nil.1 h]; exact Nat.le_refl _
  preceded before t h := absurd (List.prefix_nil.1 h) (by simp)
  classified := nofun

theorem readable_concat {ts : List Token} {t : Token} :
    Readable (ts ++ [t]) ↔ Readable ts ∧
      Accepted (ts.count .openParen - ts.count .closeParen) (ts.getLast? == some .slash) t := by
  -- the prefixes of the longer list are those of the shorter one and the list itself
  constructor
  · intro h
    refine ⟨⟨?_, ?_, ?_, ?_⟩, ⟨?_, ?_, ?_, ?_⟩⟩
    · exact fun x hx => h.inner x (List.mem_append_left _ hx)
    · exact fun before hb => h.closed before (hb.trans (List.prefix_append _ _))
    · exact fun before x hb => h.preceded before x (hb.trans (List.prefix_append _ _))
    · exact fun x hx => h.classified x (List.mem_append_left _ hx)
    · exact h.inner t (by simp)
    · rintro rfl
      have := h.closed _ List.prefix_rfl
      simp at this
      omega
    · intro ht
      rw [h.preceded ts t List.prefix_rfl ht]
      rfl
    · exact h.classified t (by simp)
  · rintro ⟨h, ht⟩
    refine ⟨?_, ?_, ?_, ?_⟩
    · intro x hx
      rcases List.mem_append.1 hx with hx | hx
      · exact h.inner x hx
      · exact List.mem_singleton.1 hx ▸ ht.inner
    · intro before hb
      rcases List.prefix_concat_iff.1 hb with rfl | hb
      · have hts := h.closed ts List.prefix_rfl
        by_cases hclose : t = .closeParen
        · have := ht.closed hclose
          subst hclose
          simp
          omega
        · rw [List.count_append, List.count_append, List.count_singleton]
          simp only [beq_iff_eq, hclose, if_false]
          omega
      · exact h.closed before hb
    · intro before x hb hx
      rcases List.prefix_concat_iff.1 hb with heq | hb
      · obtain ⟨rfl, rfl⟩ := List.append_inj' heq rfl |>.imp_right (List.cons.inj · |>.1)
        exact beq_iff_eq.1 (ht.preceded hx)
      · exact h.preceded before x hb hx
    · intro x hx
      rcases List.mem_append.1 hx with hx | hx
      · exact h.classified x hx
      · exact List.mem_singleton.1 hx ▸ ht.classified

end Token

namespace Progress

def marksAround : List (Chain Literal) → List (Mark Literal)
  | [] => []
  | c :: outer => marksAround outer ++ c.marks ++ [.opens]

def marks (p : Progress) : List (Mark Literal) := marksAround p.outer ++ p.chain.marks

/-- What has been read after a token more. -/
structure Extends (p : Progress) (t : Token) (q : Progress) : Prop where
  marks_eq : q.marks = p.marks ++ t.mark?.toList
  depth_eq : q.outer.length + [t].count .closeParen = p.outer.length + [t].count .openParen
  afterSlash_eq : q.afterSlash = (t == .slash)

theorem feed_operator {t : Token} {op : SetOp} (h : t.operator? = some op) (p : Progress) :
    p.feed t = .ok { p with chain := p.chain.pushOperator op, afterSlash := false } := by
  match t with
  | .word text false =>
    have hop : SetOp.ofText? text = some op := h
    simp [feed, hop]

theorem feed_selector {t : Token} {r : Except Fault (Selector Literal)} (h : t.selector? = some r)
    (p : Progress) : ∃ missing, p.feed t = p.select missing r := by
  match t with
  | .word text true =>
    obtain rfl := Option.some.inj h
    exact ⟨_, rfl⟩
  | .word text false =>
    cases hop : SetOp.ofText? text with
    | some op => simp [Token.selector?, hop] at h
    | none =>
      simp only [Token.selector?, hop, Option.isSome_none, Bool.false_eq_true, if_false,
        Option.some.injEq] at h
      subst h
      exact ⟨.slashBeforeStep, by simp [feed, hop]⟩
  | .literal text =>
    obtain rfl := Option.some.inj h
    exact ⟨_, rfl⟩

theorem count_singleton_of_ne {t u : Token} (h : t ≠ u) : [t].count u = 0 :=
  List.count_eq_zero.2 fun hu => h (List.mem_singleton.1 hu).symm

/-- A token is either accepted, and extends what has been read, or refused. -/
def Decided (p : Progress) (t : Token) : Prop :=
  (∃ q, p.feed t = .ok q ∧ p.Extends t q ∧ t.Accepted p.outer.length p.afterSlash) ∨
    ∃ fault, p.feed t = .error fault ∧ ¬ t.Accepted p.outer.length p.afterSlash

theorem decided_of_operator {t : Token} {op : SetOp} (h : t.operator? = some op) (p : Progress) :
    p.Decided t := by
  obtain ⟨⟨hin, hslash, hopen, hclose⟩, hsel, hmark⟩ := Token.of_operator h
  refine .inl ⟨_, feed_operator h p, ⟨?_, ?_, ?_⟩, hin, (absurd · hclose), ?_, ?_⟩
  · rw [hmark, marks, Chain.marks_pushOperator, ← List.append_assoc]
    rfl
  · rw [count_singleton_of_ne hopen, count_singleton_of_ne hclose]
  · exact (beq_eq_false_iff_ne.2 hslash).symm
  · rw [hsel]
    exact nofun
  · rw [hsel]
    exact nofun

theorem decided_of_selector {t : Token} {r : Except Fault (Selector Literal)}
    (h : t.selector? = some r) (p : Progress) : p.Decided t := by
  obtain ⟨⟨hin, hslash, hopen, hclose⟩, -, hmark⟩ := Token.of_selector h
  obtain ⟨missing, hfeed⟩ := feed_selector h p
  rw [Decided, hfeed, select]
  cases hp : p.afterSlash with
  | false =>
    refine .inr ⟨missing, rfl, fun hacc => ?_⟩
    exact absurd (hacc.preceded (by rw [h]; rfl)) nofun
  | true =>
    cases r with
    | error fault =>
      refine .inr ⟨fault, rfl, fun hacc => ?_⟩
      obtain ⟨s, hs⟩ := hacc.classified _ h
      exact absurd hs nofun
    | ok s =>
      refine .inl ⟨_, rfl, ⟨?_, ?_, ?_⟩, hin, (absurd · hclose), fun _ => rfl, ?_⟩
      · rw [hmark s rfl, marks, Chain.marks_push, ← List.append_assoc]
        rfl
      · rw [count_singleton_of_ne hopen, count_singleton_of_ne hclose]
      · exact (beq_eq_false_iff_ne.2 hslash).symm
      · intro r hr
        exact ⟨s, Option.some.inj (hr.symm.trans h)⟩

/-- What is no operator and no selector is a slash, a parenthesis or belongs to the ends. -/
theorem decided_of_others {t : Token} (hop : t.operator? = none) (hsel : t.selector? = none)
    (p : Progress) : p.Decided t := by
  have hkind : t.selector?.isSome → p.afterSlash = true := by
    rw [hsel]
    exact nofun
  have hclass : ∀ r, t.selector? = some r → ∃ s, r = .ok s := by
    rw [hsel]
    exact nofun
  cases t with
  | slash => exact .inl ⟨_, rfl, ⟨(List.append_nil _).symm, rfl, rfl⟩, rfl, nofun, hkind, hclass⟩
  | openParen =>
    exact .inl ⟨_, rfl, ⟨List.append_nil _, rfl, rfl⟩, rfl, nofun, hkind, hclass⟩
  | closeParen =>
    rw [Decided, feed]
    cases hp : p.outer with
    | nil => exact .inr ⟨_, rfl, fun hacc => absurd (hacc.closed rfl) (Nat.lt_irrefl 0)⟩
    | cons parent outer =>
      refine .inl ⟨_, rfl, ⟨?_, ?_, rfl⟩, rfl, fun _ => Nat.succ_pos _, hkind, hclass⟩
      · rw [marks, marks, hp, Chain.marks_push, Step.marks, marksAround]
        simp only [List.append_assoc, List.cons_append, List.nil_append]
        rfl
      · rw [hp]
        rfl
  | word text escaped =>
    cases escaped with
    | true => exact absurd hsel nofun
    | false =>
      have hop : SetOp.ofText? text = none := hop
      simp [Token.selector?, hop] at hsel
  | literal text => exact absurd hsel nofun
  | sentinel => exact .inr ⟨_, rfl, fun hacc => absurd hacc.inner nofun⟩
  | suffix text => exact .inr ⟨_, rfl, fun hacc => absurd hacc.inner nofun⟩
  | eof => exact .inr ⟨_, rfl, fun hacc => absurd hacc.inner nofun⟩

theorem decided (p : Progress) (t : Token) : p.Decided t := by
  cases hop : t.operator? with
  | some op => exact decided_of_operator hop p
  | none =>
    cases hsel : t.selector? with
    | some r => exact decided_of_selector hsel p
    | none => exact decided_of_others hop hsel p

def feedAll (p : Progress) (ts : List Token) : Except Fault Progress := ts.foldlM feed p

theorem feedAll_concat (p : Progress) (ts : List Token) (t : Token) :
    p.feedAll (ts ++ [t]) = (p.feedAll ts).bind fun q => q.feed t := by
  rw [feedAll, List.foldlM_append]
  simp only [List.foldlM_cons, List.foldlM_nil, bind_pure]
  rfl

theorem feedAll_spec {ts : List Token} {q : Progress} (h : feedAll {} ts = .ok q) :
    q.marks = ts.filterMap Token.mark? ∧
    q.outer.length + ts.count .closeParen = ts.count .openParen ∧
    q.afterSlash = (ts.getLast? == some .slash) := by
  -- on what has been read, one token more at its end
  induction ts using List.reverseRecOn generalizing q with
  | nil =>
    obtain rfl := Except.ok.inj h
    exact ⟨rfl, rfl, rfl⟩
  | append_singleton ts t ih =>
    rw [feedAll_concat] at h
    cases hts : feedAll {} ts with
    | error fault => rw [hts] at h; exact absurd h nofun
    | ok p =>
      obtain ⟨hmarks, hdepth, -⟩ := ih hts
      rw [hts] at h
      rcases p.decided t with ⟨q', hq, hext, -⟩ | ⟨fault, hf, -⟩
      · obtain rfl := Except.ok.inj (hq.symm.trans h)
        have hdepth' := hext.depth_eq
        refine ⟨?_, ?_, ?_⟩
        · rw [hext.marks_eq, hmarks, List.filterMap_append, List.filterMap_cons]
          cases t.mark? <;> rfl
        · rw [List.count_append, List.count_append]
          omega
        · rw [hext.afterSlash_eq, List.getLast?_concat]
          rfl
      · exact absurd (hf.symm.trans h) nofun

/-- The tokens that are taken one after the other are those with which a body may begin. -/
theorem exists_feedAll_iff {ts : List Token} :
    (∃ q, feedAll {} ts = .ok q) ↔ Token.Readable ts := by
  induction ts using List.reverseRecOn with
  | nil => exact ⟨fun _ => Token.readable_nil, fun _ => ⟨_, rfl⟩⟩
  | append_singleton ts t ih =>
    rw [Token.readable_concat, ← ih, feedAll_concat]
    cases hts : feedAll {} ts with
    | error fault => exact ⟨fun ⟨_, h⟩ => absurd h nofun, fun ⟨⟨_, h⟩, _⟩ => absurd h nofun⟩
    | ok p =>
      obtain ⟨-, hdepth, hslash⟩ := feedAll_spec hts
      have hlen : ts.count .openParen - ts.count .closeParen = p.outer.length := by omega
      rw [hlen, ← hslash]
      rcases p.decided t with ⟨q, hq, -, hacc⟩ | ⟨fault, hf, hacc⟩
      · exact ⟨fun _ => ⟨⟨p, rfl⟩, hacc⟩, fun _ => ⟨q, hq⟩⟩
      · exact ⟨fun ⟨q, hq⟩ => absurd (hf.symm.trans hq) nofun, fun h => absurd h.2 hacc⟩

theorem exists_feedAll_of_isBody {ts : List Token} (h : Token.IsBody ts) :
    ∃ q, feedAll {} ts = .ok q ∧ q.outer = [] ∧ q.chain.marks = ts.filterMap Token.mark? := by
  obtain ⟨q, hq⟩ := exists_feedAll_iff.2 h.toReadable
  obtain ⟨hmarks, hdepth, -⟩ := feedAll_spec hq
  have houter : q.outer = [] := by
    have := h.balanced
    exact List.length_eq_zero_iff.1 (by omega)
  refine ⟨q, hq, houter, ?_⟩
  rw [← hmarks, marks, houter]
  rfl

end Progress
end TreeQuery
