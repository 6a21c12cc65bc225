import Mathlib.Data.List.Forall2

namespace TreeQuery

variable {α β ε ε' : Type}

theorem eq_error_of_map {g : α → β} {r : Except ε α} {err : ε} (h : g <$> r = .error err) :
    r = .error err := by
  cases r with
  | ok a => exact absurd h nofun
  | error e => exact congrArg _ (Except.error.inj h)

theorem error_of_bind {r : Except ε α} {g : α → Except ε β} {err : ε}
    (h : r >>= g = .error err) : r = .error err ∨ ∃ a, r = .ok a ∧ g a = .error err := by
  cases r with
  | ok a => exact .inr ⟨a, rfl, h⟩
  | error e => exact .inl (congrArg _ (Except.error.inj h))

theorem ok_of_map {g : α → β} {r : Except ε α} {b : β} (h : g <$> r = .ok b) :
    ∃ a, r = .ok a ∧ g a = b := by
  cases r with
  | ok a => exact ⟨a, rfl, Except.ok.inj h⟩
  | error e => exact absurd h nofun

theorem ok_of_bind {r : Except ε α} {g : α → Except ε β} {b : β} (h : r >>= g = .ok b) :
    ∃ a, r = .ok a ∧ g a = .ok b := by
  cases r with
  | ok a => exact ⟨a, rfl, h⟩
  | error e => exact absurd h nofun

theorem exists_ok_congr {r : Except ε α} {r' : Except ε β}
    (h : ∀ err, r = .error err ↔ r' = .error err) : (∃ a, r = .ok a) ↔ ∃ b, r' = .ok b := by
  cases r with
  | error e =>
    rw [(h e).1 rfl]
    exact ⟨nofun, nofun⟩
  | ok a =>
    cases r' with
    | error e => exact absurd ((h e).2 rfl) nofun
    | ok b => exact ⟨fun _ => ⟨b, rfl⟩, fun _ => ⟨a, rfl⟩⟩

theorem mapM_mapError {f : α → Except ε β} {f' : α → Except ε' β} {r : ε → ε'} {xs : List α}
    (h : ∀ x, f' x = (f x).mapError r) : xs.mapM f' = (xs.mapM f).mapError r := by
  induction xs with
  | nil => rfl
  | cons x xs ih =>
    rw [List.mapM_cons, List.mapM_cons, h, ih]
    cases f x with
    | error e => rfl
    | ok y => cases xs.mapM f <;> rfl

theorem mapM_map {α' β' : Type} {f : α → Except ε β} {f' : α' → Except ε β'} {i : α → α'}
    {j : β → β'} {xs : List α} (h : ∀ x ∈ xs, f' (i x) = (f x).map j) :
    (xs.map i).mapM f' = (xs.mapM f).map (List.map j) := by
  induction xs with
  | nil => rfl
  | cons x xs ih =>
    obtain ⟨hx, hxs⟩ := List.forall_mem_cons.1 h
    rw [List.map_cons, List.mapM_cons, List.mapM_cons, hx, ih hxs]
    cases f x with
    | error e => rfl
    | ok y => cases xs.mapM f <;> rfl

theorem mapM_eq_ok_iff {f : α → Except ε β} {xs : List α} {ys : List β} :
    xs.mapM f = .ok ys ↔ List.Forall₂ (fun x y => f x = .ok y) xs ys := by
  induction xs generalizing ys with
  | nil =>
    rw [List.forall₂_nil_left_iff]
    exact ⟨fun h => (Except.ok.inj h).symm, fun h => h ▸ rfl⟩
  | cons x xs ih =>
    rw [List.mapM_cons, List.forall₂_cons_left_iff]
    constructor
    · intro h
      cases hx : f x with
      | error e => rw [hx] at h; exact absurd h nofun
      | ok y =>
        cases hxs : xs.mapM f with
        | error e => rw [hx, hxs] at h; exact absurd h nofun
        | ok rest =>
          rw [hx, hxs] at h
          exact ⟨y, rest, rfl, ih.1 hxs, (Except.ok.inj h).symm⟩
    · rintro ⟨y, rest, hx, hxs, rfl⟩
      rw [hx, ih.2 hxs]
      rfl

theorem ok_of_mem_mapM {f : α → Except ε β} {xs : List α} {ys : List β} (h : xs.mapM f = .ok ys)
    {x : α} (hx : x ∈ xs) : ∃ y, f x = .ok y := by
  have hall := mapM_eq_ok_iff.1 h
  clear h
  induction hall with
  | nil => exact absurd hx List.not_mem_nil
  | cons hy _ ih =>
    rcases List.mem_cons.1 hx with rfl | hx
    · exact ⟨_, hy⟩
    · exact ih hx

theorem exists_of_mem_mapM {f : α → Except ε β} {xs : List α} {ys : List β}
    (h : xs.mapM f = .ok ys) {y : β} (hy : y ∈ ys) : ∃ x ∈ xs, f x = .ok y := by
  have hall := mapM_eq_ok_iff.1 h
  clear h
  induction hall with
  | nil => exact absurd hy List.not_mem_nil
  | cons hx _ ih =>
    rcases List.mem_cons.1 hy with rfl | hy
    · exact ⟨_, List.mem_cons_self, hx⟩
    · obtain ⟨x, hmem, hx⟩ := ih hy
      exact ⟨x, List.mem_cons_of_mem _ hmem, hx⟩

theorem mapM_eq_error_iff {f : α → Except ε β} {xs : List α} {err : ε} :
    xs.mapM f = .error err ↔ ∃ before x after, xs = before ++ x :: after ∧
      (∀ b ∈ before, ∃ y, f b = .ok y) ∧ f x = .error err := by
  induction xs with
  | nil => exact ⟨nofun, fun ⟨before, x, after, h, _⟩ => absurd h (by simp)⟩
  | cons x xs ih =>
    rw [List.mapM_cons]
    constructor
    · intro h
      cases hx : f x with
      | error e =>
        rw [hx] at h
        exact ⟨[], x, xs, rfl, nofun, hx.trans (congrArg _ (Except.error.inj h))⟩
      | ok y =>
        have hxs : xs.mapM f = .error err := by
          rw [hx] at h
          cases hxs : xs.mapM f with
          | error e => rw [hxs] at h; exact congrArg _ (Except.error.inj h)
          | ok ys => rw [hxs] at h; exact absurd h nofun
        obtain ⟨before, z, after, rfl, hbefore, hz⟩ := ih.1 hxs
        refine ⟨x :: before, z, after, rfl, fun b hb => ?_, hz⟩
        rcases List.mem_cons.1 hb with rfl | hb
        · exact ⟨y, hx⟩
        · exact hbefore b hb
    · rintro ⟨before, z, after, hsplit, hbefore, hz⟩
      cases before with
      | nil =>
        obtain ⟨rfl, rfl⟩ := List.cons.inj hsplit
        rw [hz]
        rfl
      | cons b before =>
        obtain ⟨rfl, rfl⟩ := List.cons.inj hsplit
        obtain ⟨y, hx⟩ := hbefore x List.mem_cons_self
        have hxs := ih.2 ⟨before, z, after, rfl,
          fun c hc => hbefore c (List.mem_cons_of_mem x hc), hz⟩
        rw [hx, hxs]
        rfl

/-- Elements at which nothing fails can be left out. -/
theorem mapM_filterMap_eq_error_iff {γ : Type} {f : α → Except ε β} {g : α → Option γ}
    {f' : γ → Except ε β} (hnone : ∀ x, g x = none → ∃ y, f x = .ok y)
    (hsome : ∀ x z, g x = some z → f x = f' z) {xs : List α} {err : ε} :
    xs.mapM f = .error err ↔ (xs.filterMap g).mapM f' = .error err := by
  induction xs with
  | nil => exact ⟨nofun, nofun⟩
  | cons x xs ih =>
    cases hg : g x with
    | none =>
      obtain ⟨y, hy⟩ := hnone x hg
      rw [List.filterMap_cons_none hg, ← ih, List.mapM_cons, hy]
      show (xs.mapM f >>= fun ys => pure (y :: ys)) = _ ↔ _
      cases xs.mapM f with
      | error e => exact Iff.rfl
      | ok ys => exact ⟨nofun, nofun⟩
    | some z =>
      rw [List.filterMap_cons_some hg, List.mapM_cons, List.mapM_cons, hsome x z hg]
      cases f' z with
      | error e => exact Iff.rfl
      | ok y =>
        show (xs.mapM f >>= fun ys => pure (y :: ys)) = _ ↔
          ((xs.filterMap g).mapM f' >>= fun ys => pure (y :: ys)) = _
        constructor
        · intro h
          rw [ih.1 (eq_error_of_map h)]
          rfl
        · intro h
          rw [ih.2 (eq_error_of_map h)]
          rfl

end TreeQuery
