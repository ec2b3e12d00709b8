import RelayDesk.Action.Dispatch

/-!
The entry that a key reaches.  A register whose keys belong to one entry each finds an entry by
either of its keys, with any blanks around it, and by nothing else; the built-in register is one.
-/

namespace RelayDesk
namespace Action

section Registry

variable {α : Type} {e : Entry α} {r : Registry α} {action : String}

theorem mem_keys_iff {key : String} : key ∈ e.keys ↔ key = e.name ∨ key = e.remoteKey := by
  simp only [Entry.keys, List.mem_cons, List.not_mem_nil, or_false]

theorem mem_of_entryWithKey? {entries : List (Entry α)} {key : String}
    (h : entryWithKey? entries key = some e) : e ∈ entries ∧ key ∈ e.keys := by
  unfold entryWithKey? at h
  have hkey := List.find?_some h
  simp only [Bool.or_eq_true, beq_iff_eq] at hkey
  exact ⟨List.mem_of_find?_eq_some h, mem_keys_iff.mpr (hkey.imp Eq.symm Eq.symm)⟩

theorem entryWithKey?_eq_none_iff {entries : List (Entry α)} {key : String} :
    entryWithKey? entries key = none ↔ ∀ e ∈ entries, key ∉ e.keys := by
  unfold entryWithKey?
  rw [List.find?_eq_none]
  refine forall₂_congr fun e _ => not_congr ?_
  rw [mem_keys_iff, Bool.or_eq_true, beq_iff_eq, beq_iff_eq]
  exact or_congr eq_comm eq_comm

theorem mem_of_find? (h : r.find? action = some e) :
    e ∈ r.entries ∧ Text.trim action ∈ e.keys := mem_of_entryWithKey? h

theorem find?_of_mem
    (honce : ∀ e ∈ r.entries, ∀ e' ∈ r.entries, ∀ key ∈ e.keys, key ∈ e'.keys → e = e')
    (he : e ∈ r.entries) (hkey : Text.trim action ∈ e.keys) : r.find? action = some e := by
  cases hfound : r.find? action with
  | none => exact absurd hkey (entryWithKey?_eq_none_iff.mp hfound e he)
  | some e' =>
    obtain ⟨he', hkey'⟩ := mem_of_find? hfound
    rw [honce e' he' e he (Text.trim action) hkey' hkey]

end Registry

theorem eq_of_shared_key :
    ∀ e ∈ builtin.entries, ∀ e' ∈ builtin.entries, ∀ key ∈ e.keys, key ∈ e'.keys → e = e' := by
  decide +kernel

theorem isEmpty_eq_false_of_mem_keys :
    ∀ e ∈ builtin.entries, ∀ key ∈ e.keys, key.isEmpty = false := by
  decide +kernel

/-! ## Permission -/

variable {d : Desk} {action : String}

/-- Some blocked key is a key of the entry, blanks around it apart. -/
def Desk.Bars (d : Desk) (e : Entry Operation) : Prop :=
  ∃ b ∈ d.blocked, Text.trim b ∈ e.keys

theorem blocks_iff {e : Entry Operation} (he : e ∈ builtin.entries) :
    d.blocks e = true ↔ d.Bars e := by
  unfold Desk.blocks Desk.Bars
  rw [List.any_eq_true]
  apply exists_congr
  intro b
  apply and_congr_right
  intro _
  rw [mem_keys_iff]
  simp only [Bool.and_eq_true, Bool.not_eq_true', Bool.or_eq_true, beq_iff_eq]
  constructor
  · intro h
    exact h.2
  · intro h
    exact ⟨isEmpty_eq_false_of_mem_keys e he _ (mem_keys_iff.mpr h), h⟩

theorem permit_of_unknown (h : builtin.find? action = none) :
    d.permit action = .error (.unknownAction (Text.trim action)) := by
  unfold Desk.permit
  rw [h]

theorem permit_of_find? {e : Entry Operation} (h : builtin.find? action = some e) :
    d.permit action = if d.blocks e then .error (.blocked e.name) else .ok e := by
  unfold Desk.permit
  rw [h]

theorem permit_eq_ok {e : Entry Operation} (h : d.permit action = .ok e) :
    builtin.find? action = some e ∧ d.blocks e = false := by
  cases hfind : builtin.find? action with
  | none =>
    rw [permit_of_unknown hfind] at h
    cases h
  | some e' =>
    rw [permit_of_find? hfind] at h
    by_cases hblocks : d.blocks e' = true
    · rw [if_pos hblocks] at h
      cases h
    · rw [if_neg hblocks] at h
      obtain rfl := Except.ok.inj h
      exact ⟨rfl, by simpa using hblocks⟩

/-- A request is barred because its action is blocked, or because there is no such action. -/
theorem permit_eq_error {fault : Fault} (h : d.permit action = .error fault) :
    (∃ e, builtin.find? action = some e ∧ d.blocks e = true ∧ fault = .blocked e.name) ∨
      (builtin.find? action = none ∧ fault = .unknownAction (Text.trim action)) := by
  cases hfind : builtin.find? action with
  | none =>
    rw [permit_of_unknown hfind] at h
    exact .inr ⟨rfl, (Except.error.inj h).symm⟩
  | some e =>
    rw [permit_of_find? hfind] at h
    by_cases hblocks : d.blocks e = true
    · rw [if_pos hblocks] at h
      exact .inl ⟨e, rfl, hblocks, (Except.error.inj h).symm⟩
    · rw [if_neg hblocks] at h
      cases h

end Action
end RelayDesk
