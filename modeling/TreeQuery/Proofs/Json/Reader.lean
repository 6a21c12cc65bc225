import TreeQuery.Proofs.Json.Number

namespace TreeQuery.Json

theorem stored_readWord {word : List Char} {value : Json} {cs : List Char}
    {p : Json × List Char} (hvalue : Stored value) (h : readWord word value cs = some p) :
    Stored p.1 := by
  rw [readWord] at h
  split_ifs at h
  exact Option.some.inj h ▸ hvalue

mutual
theorem stored_readValue (fuel depth : Nat) {cs : List Char} {p : Json × List Char}
    (h : readValue fuel depth cs = some p) : Stored p.1 := by
  -- the readers of items and members come back here with less fuel
  match fuel with
  | 0 => exact absurd h nofun
  | fuel + 1 =>
    rw [readValue] at h
    split at h
    · -- an array
      split_ifs at h
      split at h
      · exact Option.some.inj h ▸ .array [] nofun
      · obtain ⟨q, hq, rfl⟩ := Option.map_eq_some_iff.1 h
        exact .array q.1 (stored_readItems fuel (depth - 1) hq)
    · -- an object
      split_ifs at h
      split at h
      · exact Option.some.inj h ▸ .object [] List.Pairwise.nil nofun
      · obtain ⟨q, hq, rfl⟩ := Option.map_eq_some_iff.1 h
        exact stored_ofMembers (stored_readMembers fuel (depth - 1) hq)
    · obtain ⟨q, -, rfl⟩ := Option.map_eq_some_iff.1 h
      exact .string _
    · exact stored_readWord (.boolean true) h
    · exact stored_readWord (.boolean false) h
    · exact stored_readWord .null h
    · exact stored_readNumber h
    · exact stored_readNumber h

theorem stored_readItems (fuel depth : Nat) {cs : List Char} {p : List Json × List Char}
    (h : readItems fuel depth cs = some p) : ∀ item ∈ p.1, Stored item := by
  match fuel with
  | 0 => exact absurd h nofun
  | fuel + 1 =>
    rw [readItems] at h
    split at h
    · exact absurd h nofun
    · next item rest hitem =>
      have hstored : Stored item := stored_readValue fuel depth hitem
      split at h
      · obtain rfl := Option.some.inj h
        exact List.forall_mem_singleton.2 hstored
      · obtain ⟨q, hq, rfl⟩ := Option.map_eq_some_iff.1 h
        exact List.forall_mem_cons.2 ⟨hstored, stored_readItems fuel depth hq⟩
      · exact absurd h nofun

theorem stored_readMembers (fuel depth : Nat) {cs : List Char}
    {p : List (String × Json) × List Char} (h : readMembers fuel depth cs = some p) :
    ∀ m ∈ p.1, Stored m.2 := by
  match fuel with
  | 0 => exact absurd h nofun
  | fuel + 1 =>
    rw [readMembers] at h
    split at h
    · split at h
      · exact absurd h nofun
      · split at h
        · split at h
          · exact absurd h nofun
          · next value rest hvalue =>
            have hstored : Stored value := stored_readValue fuel depth hvalue
            split at h
            · obtain rfl := Option.some.inj h
              exact List.forall_mem_singleton.2 hstored
            · obtain ⟨q, hq, rfl⟩ := Option.map_eq_some_iff.1 h
              exact List.forall_mem_cons.2 ⟨hstored, stored_readMembers fuel depth hq⟩
            · exact absurd h nofun
        · exact absurd h nofun
    · exact absurd h nofun
end

/-- Every text that is a document is read as one of this kind. -/
theorem stored_of_read {text : String} {document : Json} (h : read? text = some document) :
    Stored document := by
  rw [read?] at h
  split at h
  · next value rest hvalue =>
    split_ifs at h
    exact Option.some.inj h ▸ stored_readValue _ _ hvalue
  · exact absurd h nofun

end TreeQuery.Json
