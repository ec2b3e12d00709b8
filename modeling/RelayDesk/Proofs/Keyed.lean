import Mathlib.Data.String.Basic
import RelayDesk.Keyed

/-!
Sorted lists of pairs.  Putting pairs one after the other gives a sorted list, and a list that is
sorted already comes out as it went in.
-/

namespace RelayDesk
namespace Keyed

variable {α : Type}

/-- Keys in strictly increasing order, so that each is there once. -/
def Sorted (pairs : List (String × α)) : Prop :=
  pairs.Pairwise fun a b => a.1 < b.1

theorem nodup_keys_of_sorted {pairs : List (String × α)} (h : Sorted pairs) :
    (keys pairs).Nodup :=
  List.pairwise_map.mpr (h.imp ne_of_lt)

theorem mem_of_mem_insert {key : String} {value : α} {pairs : List (String × α)}
    {p : String × α} (h : p ∈ insert key value pairs) : p = (key, value) ∨ p ∈ pairs := by
  induction pairs with
  | nil => exact .inl (List.mem_singleton.mp h)
  | cons q rest ih =>
    obtain ⟨k, v⟩ := q
    unfold insert at h
    split at h
    · exact List.mem_cons.mp h
    · split at h
      · rcases List.mem_cons.mp h with hp | hp
        · exact .inl hp
        · exact .inr (List.mem_cons_of_mem _ hp)
      · rcases List.mem_cons.mp h with hp | hp
        · exact .inr (hp ▸ List.mem_cons_self)
        · exact (ih hp).imp_right (List.mem_cons_of_mem _)

theorem sorted_insert {key : String} {value : α} {pairs : List (String × α)}
    (h : Sorted pairs) : Sorted (insert key value pairs) := by
  induction pairs with
  | nil => exact List.pairwise_singleton _ _
  | cons q rest ih =>
    obtain ⟨k, v⟩ := q
    obtain ⟨hhead, hrest⟩ := List.pairwise_cons.mp h
    unfold insert
    split
    · next hlt =>
      refine List.pairwise_cons.mpr ⟨fun p hp => ?_, h⟩
      rcases List.mem_cons.mp hp with rfl | hp
      · exact hlt
      · exact lt_trans hlt (hhead p hp)
    · next hnlt =>
      split
      · next heq =>
        subst heq
        exact List.pairwise_cons.mpr ⟨hhead, hrest⟩
      · next hne =>
        refine List.pairwise_cons.mpr ⟨fun p hp => ?_, ih hrest⟩
        rcases mem_of_mem_insert hp with rfl | hp
        · exact lt_of_le_of_ne (not_lt.mp hnlt) (Ne.symm hne)
        · exact hhead p hp

/-- A key above all others goes to the end. -/
theorem insert_of_forall_lt {key : String} {value : α} {pairs : List (String × α)}
    (h : ∀ p ∈ pairs, p.1 < key) : insert key value pairs = pairs ++ [(key, value)] := by
  induction pairs with
  | nil => rfl
  | cons q rest ih =>
    obtain ⟨k, v⟩ := q
    have hk : k < key := h (k, v) List.mem_cons_self
    unfold insert
    rw [if_neg (lt_asymm hk), if_neg (ne_of_gt hk),
      ih fun p hp => h p (List.mem_cons_of_mem _ hp)]
    rfl

theorem foldl_insert_of_sorted {pairs acc : List (String × α)} (h : Sorted (acc ++ pairs)) :
    pairs.foldl (fun acc p => insert p.1 p.2 acc) acc = acc ++ pairs := by
  induction pairs generalizing acc with
  | nil => simp
  | cons p rest ih =>
    have hbelow : ∀ q ∈ acc, q.1 < p.1 := fun q hq =>
      (List.pairwise_append.mp h).2.2 q hq p List.mem_cons_self
    rw [List.foldl_cons, insert_of_forall_lt hbelow, ih (by simpa using h), List.append_assoc]
    rfl

/-- A sorted list is its own list of members. -/
theorem ofList_of_sorted {pairs : List (String × α)} (h : Sorted pairs) : ofList pairs = pairs := by
  show pairs.foldl (fun acc p => insert p.1 p.2 acc) [] = [] ++ pairs
  exact foldl_insert_of_sorted h

theorem sorted_foldl_insert {pairs acc : List (String × α)} (h : Sorted acc) :
    Sorted (pairs.foldl (fun acc p => insert p.1 p.2 acc) acc) := by
  induction pairs generalizing acc with
  | nil => exact h
  | cons p rest ih => exact ih (sorted_insert h)

theorem sorted_ofList (pairs : List (String × α)) : Sorted (ofList pairs) :=
  sorted_foldl_insert List.Pairwise.nil

theorem mem_of_mem_foldl_insert {pairs acc : List (String × α)} {p : String × α}
    (h : p ∈ pairs.foldl (fun acc p => insert p.1 p.2 acc) acc) : p ∈ acc ∨ p ∈ pairs := by
  induction pairs generalizing acc with
  | nil => exact .inl h
  | cons q rest ih =>
    rcases ih h with hp | hp
    · rcases mem_of_mem_insert hp with rfl | hp
      · exact .inr List.mem_cons_self
      · exact .inl hp
    · exact .inr (List.mem_cons_of_mem _ hp)

theorem mem_of_mem_ofList {pairs : List (String × α)} {p : String × α} (h : p ∈ ofList pairs) :
    p ∈ pairs := by
  rcases mem_of_mem_foldl_insert h with hp | hp
  · cases hp
  · exact hp

theorem find?_foldl_insert (key : String) (pairs acc : List (String × α)) :
    find? key (pairs.foldl (fun acc p => insert p.1 p.2 acc) acc) =
      ((pairs.reverse.find? fun p => p.1 == key).map (·.2)).or (find? key acc) := by
  induction pairs generalizing acc with
  | nil => rfl
  | cons p rest ih =>
    rw [List.foldl_cons, ih, find?_insert, List.reverse_cons, List.find?_append]
    cases List.find? (fun p => p.1 == key) rest.reverse with
    | some q => rfl
    | none => by_cases h : p.1 = key <;> simp [h]

/-- Of the pairs with one key the last is found. -/
theorem find?_ofList (key : String) (pairs : List (String × α)) :
    find? key (ofList pairs) = (pairs.reverse.find? fun p => p.1 == key).map (·.2) := by
  show find? key (pairs.foldl _ []) = _
  rw [find?_foldl_insert]
  exact Option.or_none

theorem mem_of_find? {key : String} {value : α} {pairs : List (String × α)}
    (h : find? key pairs = some value) : (key, value) ∈ pairs := by
  induction pairs with
  | nil => cases h
  | cons p rest ih =>
    obtain ⟨k, v⟩ := p
    unfold find? at h
    by_cases hkey : k = key
    · rw [if_pos hkey] at h
      rw [hkey, Option.some.inj h]
      exact List.mem_cons_self
    · rw [if_neg hkey] at h
      exact List.mem_cons_of_mem _ (ih h)

/-- What is found under a key among the pairs that pass a test, where no key stands twice. -/
theorem find?_filter (keep : String × α → Bool) {pairs : List (String × α)}
    (honce : (keys pairs).Nodup) (key : String) :
    find? key (pairs.filter keep) = (find? key pairs).filter fun value => keep (key, value) := by
  induction pairs with
  | nil => rfl
  | cons p rest ih =>
    obtain ⟨k, v⟩ := p
    obtain ⟨hfresh, hrest⟩ := List.nodup_cons.mp honce
    by_cases hkey : k = key
    · subst hkey
      have hnone : find? k rest = none := by
        rw [Option.eq_none_iff_forall_ne_some]
        intro value hfound
        exact hfresh (mem_keys_iff.mpr ⟨value, hfound⟩)
      by_cases hkeep : keep (k, v) = true
      · simp [find?, hkeep, Option.filter_some]
      · simp [find?, hkeep, ih hrest, hnone, Option.filter_some]
    · by_cases hkeep : keep (k, v) = true <;> simp [find?, hkey, hkeep, ih hrest]

end Keyed

end RelayDesk
