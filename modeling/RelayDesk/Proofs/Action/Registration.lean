import Mathlib.Data.List.Basic
import RelayDesk.Proofs.Action.Registry
import RelayDesk.Proofs.Except
import RelayDesk.Proofs.Text.Trim

/-!
Making registers.  Entries make a register exactly if no key of theirs is blank and no key belongs
to two of them, and a fault is about the first entry that is in the way.  A register keeps keys as
they were given but takes the blanks off what is asked for.  So an entry answers to its keys without
the blanks around them, and a key that has some does not reach its entry by itself.
-/

namespace RelayDesk
namespace Action

variable {α : Type}

namespace Entry

/-- Neither key is blank. -/
def Filled (e : Entry α) : Prop := ∀ key ∈ e.keys, Text.trim key ≠ ""

/-- The two entries have no key in common. -/
def Apart (e e' : Entry α) : Prop := ∀ key ∈ e.keys, key ∉ e'.keys

/-- What a message calls an entry that has a blank key. -/
def shown (e : Entry α) : String := if e.name.isEmpty then e.remoteKey else e.name

theorem filled_iff {e : Entry α} :
    e.Filled ↔ (Text.isAllBlank e.name || Text.isAllBlank e.remoteKey) = false := by
  simp [Filled, keys, Text.trim_eq_empty_iff]

theorem Apart.symm {e e' : Entry α} (h : e.Apart e') : e'.Apart e := by
  intro key hkey' hkey
  exact h key hkey hkey'

end Entry

/-- Entries without a blank key, of which each key belongs to one position only. -/
structure Unambiguous (entries : List (Entry α)) : Prop where
  filled : ∀ e ∈ entries, e.Filled
  apart : ∀ p q (hp : p < entries.length) (hq : q < entries.length), p ≠ q →
    entries[p].Apart entries[q]

namespace Registry

variable {earlier entries : List (Entry α)} {e : Entry α} {fault : RegistryFault}

/-! ## One entry behind others -/

theorem conflict?_eq_none_iff :
    conflict? earlier e = none ↔ ∀ other ∈ earlier, other.Apart e := by
  unfold conflict?
  simp only [List.findSome?_eq_none_iff, Option.map_eq_none_iff, entryWithKey?_eq_none_iff]
  constructor
  · intro h other hother key hkey' hkey
    exact h key hkey other hother hkey'
  · intro h key hkey other hother hkey'
    exact h other hother key hkey' hkey

theorem of_conflict?_eq_some {key : String} {other : Entry α}
    (h : conflict? earlier e = some (key, other)) :
    other ∈ earlier ∧ key ∈ other.keys ∧ key ∈ e.keys := by
  obtain ⟨key', hkey', hfound⟩ := List.exists_of_findSome?_eq_some h
  obtain ⟨other', hother', heq⟩ := Option.map_eq_some_iff.mp hfound
  obtain ⟨rfl, rfl⟩ := Prod.mk.inj heq
  obtain ⟨hmem, hkey⟩ := mem_of_entryWithKey? hother'
  exact ⟨hmem, hkey, hkey'⟩

theorem checkEntry_of_filled (h : e.Filled) :
    checkEntry earlier e = match conflict? earlier e with
      | some (key, other) => .error (.duplicate key other.name e.name)
      | none => .ok () := by
  unfold checkEntry
  rw [Entry.filled_iff.mp h]
  rfl

theorem checkEntry_of_not_filled (h : ¬ e.Filled) :
    checkEntry earlier e = .error (.emptyKey e.shown) := by
  rw [Entry.filled_iff, Bool.not_eq_false] at h
  unfold checkEntry
  rw [h]
  rfl

theorem checkEntry_eq_ok_iff :
    checkEntry earlier e = .ok () ↔ e.Filled ∧ ∀ other ∈ earlier, other.Apart e := by
  by_cases hfilled : e.Filled
  · rw [checkEntry_of_filled hfilled, ← conflict?_eq_none_iff]
    cases conflict? earlier e with
    | none => simp [hfilled]
    | some found => simp
  · rw [checkEntry_of_not_filled hfilled]
    simp [hfilled]

/-- What a fault says of the entry that it is about. -/
inductive Blames (earlier : List (Entry α)) (e : Entry α) : RegistryFault → Prop
  | emptyKey (blank : ¬ e.Filled) : Blames earlier e (.emptyKey e.shown)
  | duplicate {key : String} {other : Entry α} (before : other ∈ earlier)
      (taken : key ∈ other.keys) (wanted : key ∈ e.keys) :
      Blames earlier e (.duplicate key other.name e.name)

theorem blames_of_checkEntry (h : checkEntry earlier e = .error fault) :
    Blames earlier e fault := by
  by_cases hfilled : e.Filled
  · rw [checkEntry_of_filled hfilled] at h
    cases hconflict : conflict? earlier e with
    | none =>
      rw [hconflict] at h
      cases h
    | some found =>
      rw [hconflict] at h
      obtain rfl := Except.error.inj h
      obtain ⟨hbefore, htaken, hwanted⟩ := of_conflict?_eq_some hconflict
      exact .duplicate hbefore htaken hwanted
  · rw [checkEntry_of_not_filled hfilled] at h
    obtain rfl := Except.error.inj h
    exact .emptyKey hfilled

/-! ## All entries -/

/-- The entries to come must fit those that were taken, and one another. -/
theorem checkFrom_eq_ok_iff :
    checkFrom earlier entries = .ok () ↔
      (∀ e ∈ entries, e.Filled) ∧ entries.Pairwise Entry.Apart ∧
        ∀ other ∈ earlier, ∀ e ∈ entries, other.Apart e := by
  -- Each entry that is taken moves from those to come to those before.
  induction entries generalizing earlier with
  | nil => simp [checkFrom]
  | cons e rest ih =>
    rw [checkFrom, bind_eq_ok_iff]
    constructor
    · rintro ⟨_, hentry, hrest⟩
      obtain ⟨hfilled, hbefore⟩ := checkEntry_eq_ok_iff.mp hentry
      obtain ⟨hlater, hpairs, hapart⟩ := ih.mp hrest
      refine ⟨List.forall_mem_cons.mpr ⟨hfilled, hlater⟩, List.pairwise_cons.mpr ⟨?_, hpairs⟩, ?_⟩
      · exact hapart e (List.mem_append_right _ (List.mem_singleton_self e))
      · intro other hother
        exact List.forall_mem_cons.mpr
          ⟨hbefore other hother, hapart other (List.mem_append_left _ hother)⟩
    · rintro ⟨hfilled, hpairs, hbefore⟩
      obtain ⟨hentry, hlater⟩ := List.forall_mem_cons.mp hfilled
      obtain ⟨hapart, hpairs⟩ := List.pairwise_cons.mp hpairs
      refine ⟨(), checkEntry_eq_ok_iff.mpr ⟨hentry, fun other hother => ?_⟩,
        ih.mpr ⟨hlater, hpairs, fun other hother => ?_⟩⟩
      · exact hbefore other hother e List.mem_cons_self
      · rcases List.mem_append.mp hother with hother | hother
        · exact fun e' he' => hbefore other hother e' (List.mem_cons_of_mem e he')
        · obtain rfl := List.mem_singleton.mp hother
          exact hapart

theorem exists_blamed (h : checkFrom earlier entries = .error fault) :
    ∃ before e later, entries = before ++ e :: later ∧ checkFrom earlier before = .ok () ∧
      Blames (earlier ++ before) e fault := by
  induction entries generalizing earlier with
  | nil => cases h
  | cons e rest ih =>
    rw [checkFrom] at h
    rcases bind_eq_error_iff.mp h with hentry | ⟨_, hentry, hrest⟩
    · refine ⟨[], e, rest, rfl, rfl, ?_⟩
      rw [List.append_nil]
      exact blames_of_checkEntry hentry
    · obtain ⟨before, e', later, rfl, hbefore, hblames⟩ := ih hrest
      refine ⟨e :: before, e', later, rfl, ?_, ?_⟩
      · rw [checkFrom, hentry, ok_bind, hbefore]
      · rwa [List.append_cons]

theorem unambiguous_iff :
    Unambiguous entries ↔ (∀ e ∈ entries, e.Filled) ∧ entries.Pairwise Entry.Apart := by
  rw [List.pairwise_iff_getElem]
  constructor
  · rintro ⟨hfilled, hapart⟩
    exact ⟨hfilled, fun p q hp hq hlt => hapart p q hp hq (Nat.ne_of_lt hlt)⟩
  · rintro ⟨hfilled, hapart⟩
    refine ⟨hfilled, fun p q hp hq hne => ?_⟩
    rcases Nat.lt_or_gt_of_ne hne with hlt | hlt
    · exact hapart p q hp hq hlt
    · exact (hapart q p hq hp hlt).symm

theorem new_eq_ok_iff {r : Registry α} :
    Registry.new entries = .ok r ↔ r = { entries } ∧ Unambiguous entries := by
  have hnone : ∀ other ∈ ([] : List (Entry α)), ∀ e ∈ entries, other.Apart e := nofun
  unfold Registry.new
  rw [bind_eq_ok_iff, unambiguous_iff]
  constructor
  · rintro ⟨_, hcheck, hr⟩
    obtain ⟨hfilled, hpairs, -⟩ := checkFrom_eq_ok_iff.mp hcheck
    exact ⟨(Except.ok.inj hr).symm, hfilled, hpairs⟩
  · rintro ⟨rfl, hfilled, hpairs⟩
    exact ⟨(), checkFrom_eq_ok_iff.mpr ⟨hfilled, hpairs, hnone⟩, rfl⟩

/-- Where entries make no register, there is a first position that is in the way. -/
theorem exists_position_of_new_eq_error (h : Registry.new entries = .error fault) :
    ∃ q, ∃ hq : q < entries.length,
      Registry.new (entries.take q) = .ok { entries := entries.take q } ∧
        Blames (entries.take q) entries[q] fault := by
  have hcheck : checkFrom [] entries = .error fault := by
    rcases bind_eq_error_iff.mp h with hcheck | ⟨_, -, hmade⟩
    · exact hcheck
    · cases hmade
  obtain ⟨before, e, later, rfl, hbefore, hblames⟩ := exists_blamed hcheck
  have hlt : before.length < (before ++ e :: later).length := by simp
  have hfirst : (before ++ e :: later).take before.length = before := List.take_left
  refine ⟨before.length, hlt, ?_, ?_⟩
  · rw [hfirst, new_eq_ok_iff, unambiguous_iff]
    obtain ⟨hfilled, hpairs, -⟩ := checkFrom_eq_ok_iff.mp hbefore
    exact ⟨rfl, hfilled, hpairs⟩
  · have hposition : (before ++ e :: later)[before.length] = e := by simp
    rw [hfirst, hposition]
    exact hblames

end Registry

/-- Entries make a register exactly if none has a blank key and no key is one of two positions.  A
fault tells of the first position that is in the way: the entries before it make a register, and
either one of its keys is blank, or it shares the key that is named with the earlier entry that is
named. -/
theorem ambiguous_entries_rejected (entries : List (Entry α)) :
    (Registry.new entries = .ok { entries } ↔ Unambiguous entries) ∧
    ((∃ fault, Registry.new entries = .error fault) ↔ ¬ Unambiguous entries) ∧
    (∀ key first second, Registry.new entries = .error (.duplicate key first second) →
      ∃ p q, ∃ (hp : p < entries.length) (hq : q < entries.length), p < q ∧
        key ∈ entries[p].keys ∧ key ∈ entries[q].keys ∧
        first = entries[p].name ∧ second = entries[q].name ∧
        Registry.new (entries.take q) = .ok { entries := entries.take q }) ∧
    ∀ shown, Registry.new entries = .error (.emptyKey shown) →
      ∃ q, ∃ hq : q < entries.length, ¬ entries[q].Filled ∧ shown = entries[q].shown ∧
        Registry.new (entries.take q) = .ok { entries := entries.take q } := by
  have hok : Registry.new entries = .ok { entries } ↔ Unambiguous entries := by
    rw [Registry.new_eq_ok_iff]
    exact and_iff_right rfl
  refine ⟨hok, ?_, ?_, ?_⟩
  · rw [← hok]
    cases hnew : Registry.new entries with
    | error fault => simp
    | ok r =>
      obtain ⟨rfl, -⟩ := Registry.new_eq_ok_iff.mp hnew
      simp
  · intro key first second hnew
    obtain ⟨q, hq, hbefore, hblames⟩ := Registry.exists_position_of_new_eq_error hnew
    cases hblames with
    | @duplicate key other before taken wanted =>
      obtain ⟨p, hp, rfl⟩ := List.mem_take_iff_getElem.mp before
      have hpq : p < q := by omega
      exact ⟨p, q, by omega, hq, hpq, taken, wanted, rfl, rfl, hbefore⟩
  · intro shown hnew
    obtain ⟨q, hq, hbefore, hblames⟩ := Registry.exists_position_of_new_eq_error hnew
    cases hblames with
    | emptyKey blank => exact ⟨q, hq, blank, rfl, hbefore⟩

/-- The second entry may have one key twice, but the third may not have a key of the first. -/
example : Registry.new [⟨"a", "b", 0⟩, ⟨"c", "c", 1⟩, ⟨"d", "b", 2⟩] =
    .error (.duplicate "b" "a" "d") := by decide +kernel

/-! ## Reaching entries -/

section Reach

variable {entries : List (Entry α)}

theorem Unambiguous.eq_of_shared_key (h : Unambiguous entries) :
    ∀ e ∈ entries, ∀ e' ∈ entries, ∀ key ∈ e.keys, key ∈ e'.keys → e = e' := by
  intro e he e' he' key hkey hkey'
  obtain ⟨p, hp, rfl⟩ := List.mem_iff_getElem.mp he
  obtain ⟨q, hq, rfl⟩ := List.mem_iff_getElem.mp he'
  by_cases hpq : p = q
  · subst hpq
    rfl
  · exact absurd hkey' (h.apart p q hp hq hpq key hkey)

theorem find?_eq_some_iff (h : Unambiguous entries) {e : Entry α} (he : e ∈ entries)
    (action : String) :
    Registry.find? { entries } action = some e ↔ Text.trim action ∈ e.keys := by
  constructor
  · intro hfind
    exact (mem_of_find? hfind).2
  · intro hkey
    exact find?_of_mem h.eq_of_shared_key he hkey

/-- In a register each entry is reached by exactly what is one of its keys when the blanks around it
are taken off.  So a key without such blanks reaches its entry, and an entry that has no key without
them is not reached at all. -/
theorem entries_reached_by_trimmed_keys {r : Registry α} (h : Registry.new entries = .ok r) :
    (∀ i (hi : i < entries.length) action,
      r.find? action = some entries[i] ↔ Text.trim action ∈ entries[i].keys) ∧
    (∀ action e, r.find? action = some e → e ∈ entries ∧ Text.trim action ∈ e.keys) ∧
    (∀ i (hi : i < entries.length), ∀ key ∈ entries[i].keys, Text.trim key = key →
      r.find? key = some entries[i]) ∧
    ∀ i (hi : i < entries.length), (∃ action, r.find? action = some entries[i]) ↔
      ∃ key ∈ entries[i].keys, Text.trim key = key := by
  obtain ⟨rfl, hentries⟩ := Registry.new_eq_ok_iff.mp h
  have hreach : ∀ i (hi : i < entries.length) action,
      Registry.find? { entries } action = some entries[i] ↔
        Text.trim action ∈ entries[i].keys := by
    intro i hi action
    exact find?_eq_some_iff hentries (List.getElem_mem hi) action
  refine ⟨hreach, fun action e hfind => mem_of_find? hfind, ?_, ?_⟩
  · intro i hi key hkey htrim
    rw [hreach, htrim]
    exact hkey
  · intro i hi
    simp only [hreach]
    constructor
    · rintro ⟨action, haction⟩
      exact ⟨Text.trim action, haction, Text.trim_trim action⟩
    · rintro ⟨key, hkey, htrim⟩
      exact ⟨key, htrim.symm ▸ hkey⟩

end Reach

/-- An entry with a blank in front of its name. -/
def paddedEntry : Entry Nat := ⟨" a", "b", 0⟩

/-- An entry with the name of the other, but for the blank. -/
def plainEntry : Entry Nat := ⟨"a", "c", 1⟩

def paddedRegistry : Registry Nat := { entries := [paddedEntry, plainEntry] }

/-- The padded entry is reached by its other key, and the plain one with blanks around a key. -/
theorem padded_entry_reached_by_other_key :
    Registry.new [paddedEntry, plainEntry] = .ok paddedRegistry ∧
      paddedRegistry.find? "b" = some paddedEntry ∧
      paddedRegistry.find? "\tc " = some plainEntry := by
  have hnew : Registry.new [paddedEntry, plainEntry] = .ok paddedRegistry := by decide +kernel
  obtain ⟨hreach, -, hkeys, -⟩ := entries_reached_by_trimmed_keys hnew
  refine ⟨hnew, ?_, ?_⟩
  · exact hkeys 0 (by decide) "b" (by decide) (by decide +kernel)
  · exact (hreach 1 (by decide) "\tc ").mpr (by decide +kernel)

/-- Asked for by its own name, the padded entry is not found, and the plain one is in its place. -/
theorem padded_name_reaches_plain_entry :
    Registry.new [paddedEntry, plainEntry] = .ok paddedRegistry ∧
      paddedEntry ∈ paddedRegistry.entries ∧
      paddedRegistry.find? paddedEntry.name = some plainEntry ∧ plainEntry ≠ paddedEntry := by
  decide +kernel

end Action
end RelayDesk
