import TreeQuery.Proofs.Expression.Body

namespace TreeQuery.Token

/-- More open parentheses and a slash before it are no obstacle to a token. -/
theorem Accepted.mono {depth depth' : Nat} {afterSlash afterSlash' : Bool} {t : Token}
    (h : Accepted depth afterSlash t) (hdepth : depth ≤ depth')
    (hslash : afterSlash = true → afterSlash' = true) : Accepted depth' afterSlash' t where
  inner := h.inner
  closed ht := Nat.lt_of_lt_of_le (h.closed ht) hdepth
  preceded ht := hslash (h.preceded ht)
  classified := h.classified

theorem accepted_of_others (t : Token) (hin : t.isOuter = false) (hclose : t ≠ .closeParen)
    (hsel : t.selector? = none) (depth : Nat) (afterSlash : Bool) :
    Accepted depth afterSlash t where
  inner := hin
  closed ht := absurd ht hclose
  preceded ht := absurd ht (by rw [hsel]; exact Bool.false_ne_true)
  classified r hr := absurd (hsel.symm.trans hr) nofun

theorem accepted_of_selector {t : Token} {s : Selector Literal} (h : t.selector? = some (.ok s))
    (depth : Nat) : Accepted depth true t := by
  obtain ⟨⟨hin, -, -, hclose⟩, -⟩ := of_selector h
  refine ⟨hin, fun ht => absurd ht hclose, fun _ => rfl, fun r hr => ⟨s, ?_⟩⟩
  exact Option.some.inj (hr.symm.trans h)

theorem readable_singleton {t : Token} (h : Accepted 0 false t) : Readable [t] :=
  readable_concat.2 (show Readable [] ∧ Accepted 0 false t from ⟨readable_nil, h⟩)

theorem Readable.count_le {ts : List Token} (h : Readable ts) :
    ts.count .closeParen ≤ ts.count .openParen := h.closed ts List.prefix_rfl

theorem Readable.append {ts ts' : List Token} (h : Readable ts) (h' : Readable ts') :
    Readable (ts ++ ts') := by
  induction ts' using List.reverseRecOn with
  | nil => exact (List.append_nil ts).symm ▸ h
  | append_singleton ts' t ih =>
    obtain ⟨h', ht⟩ := readable_concat.1 h'
    rw [← List.append_assoc, readable_concat]
    refine ⟨ih h', ht.mono ?_ ?_⟩
    · have hcount := h.count_le
      have hcount' := h'.count_le
      rw [List.count_append, List.count_append]
      omega
    · intro hslash
      -- a slash that `ts'` ends with is also the last token of both together
      obtain ⟨front, rfl⟩ := List.getLast?_eq_some_iff.1 (beq_iff_eq.1 hslash)
      rw [← List.append_assoc, List.getLast?_concat]
      rfl

theorem IsBody.nil : IsBody [] := ⟨readable_nil, rfl⟩

theorem IsBody.append {ts ts' : List Token} (h : IsBody ts) (h' : IsBody ts') :
    IsBody (ts ++ ts') := by
  refine ⟨h.toReadable.append h'.toReadable, ?_⟩
  rw [List.count_append, List.count_append, h.balanced, h'.balanced]

theorem IsBody.group {ts : List Token} (h : IsBody ts) :
    IsBody (.openParen :: ts ++ [.closeParen]) := by
  have hopen : Readable [.openParen] :=
    readable_singleton (accepted_of_others openParen rfl nofun rfl 0 false)
  have hfront : Readable (.openParen :: ts) := hopen.append h.toReadable
  have hbalanced := h.balanced
  refine ⟨readable_concat.2 ⟨hfront, ⟨rfl, fun _ => ?_, nofun, nofun⟩⟩, ?_⟩
  · rw [List.count_cons_self, List.count_cons_of_ne (by decide)]
    omega
  · simp only [List.cons_append, List.count_cons, List.count_append, List.count_nil, hbalanced]
    rfl

theorem isBody_slash : IsBody [.slash] :=
  ⟨readable_singleton (accepted_of_others slash rfl nofun rfl 0 false), rfl⟩

theorem isBody_operator {t : Token} {op : SetOp} (h : t.operator? = some op) : IsBody [t] := by
  obtain ⟨⟨hin, -, hopen, hclose⟩, hsel, -⟩ := of_operator h
  refine ⟨readable_singleton (accepted_of_others t hin hclose hsel 0 false), ?_⟩
  rw [Progress.count_singleton_of_ne hopen, Progress.count_singleton_of_ne hclose]

theorem isBody_step {t : Token} {s : Selector Literal} (h : t.selector? = some (.ok s)) :
    IsBody [.slash, t] := by
  obtain ⟨⟨-, -, hopen, hclose⟩, -⟩ := of_selector h
  have hslash : Readable [.slash] := isBody_slash.toReadable
  refine ⟨readable_concat.2 ⟨hslash, accepted_of_selector h _⟩, ?_⟩
  show ([slash] ++ [t]).count closeParen = ([slash] ++ [t]).count openParen
  rw [List.count_append, List.count_append, Progress.count_singleton_of_ne hopen,
    Progress.count_singleton_of_ne hclose]
  rfl

end TreeQuery.Token
