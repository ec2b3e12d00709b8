/-!
Lists of pairs kept in increasing order of their keys, each key once: the members of an object,
the records of a cache, the files of a directory.  The order of code points is also the order of
the keys' bytes in UTF-8.
-/

namespace RelayDesk
namespace Keyed

variable {α : Type}

/-- Put a value under its key; what was there gives way. -/
def insert (key : String) (value : α) : List (String × α) → List (String × α)
  | [] => [(key, value)]
  | (k, v) :: rest =>
    if key < k then (key, value) :: (k, v) :: rest
    else if key = k then (key, value) :: rest
    else (k, v) :: insert key value rest

def find? (key : String) : List (String × α) → Option α
  | [] => none
  | (k, v) :: rest => if k = key then some v else find? key rest

/-- The pairs without the one of a key. -/
def erase (key : String) (pairs : List (String × α)) : List (String × α) :=
  pairs.filter fun p => p.1 ≠ key

/-- Pairs in the order in which they were given; of two with one key the later stays. -/
def ofList (pairs : List (String × α)) : List (String × α) :=
  pairs.foldl (fun acc p => insert p.1 p.2 acc) []

def keys (pairs : List (String × α)) : List String := pairs.map (·.1)

/-- A key that was just put is found, and no other key is touched. -/
theorem find?_insert (key k : String) (value : α) (pairs : List (String × α)) :
    find? k (insert key value pairs) = if key = k then some value else find? k pairs := by
  induction pairs with
  | nil => by_cases h : key = k <;> simp [insert, find?, h]
  | cons p rest ih =>
    obtain ⟨j, v⟩ := p
    unfold insert
    by_cases hlt : key < j
    · rw [if_pos hlt]
      rfl
    · rw [if_neg hlt]
      by_cases heq : key = j
      · subst heq
        by_cases h : key = k <;> simp [find?, h]
      · rw [if_neg heq]
        by_cases h : j = k
        · have hk : ¬ key = k := fun e => heq (e.trans h.symm)
          simp [find?, h, hk]
        · simp [find?, h, ih]

theorem find?_erase (key k : String) (pairs : List (String × α)) :
    find? k (erase key pairs) = if key = k then none else find? k pairs := by
  induction pairs with
  | nil => by_cases h : key = k <;> simp [erase, find?, h]
  | cons p rest ih =>
    obtain ⟨j, v⟩ := p
    unfold erase at ih ⊢
    by_cases hj : j = key
    · subst hj
      rw [List.filter_cons_of_neg (by simp), ih]
      by_cases h : j = k <;> simp [find?, h]
    · rw [List.filter_cons_of_pos (by simpa using hj), find?, find?, ih]
      by_cases h : j = k
      · have hk : ¬ key = k := fun e => hj (h.trans e.symm)
        simp [h, hk]
      · simp [h]

/-- The keys of the pairs are those under which something is found. -/
theorem mem_keys_iff {key : String} {pairs : List (String × α)} :
    key ∈ keys pairs ↔ ∃ value, find? key pairs = some value := by
  induction pairs with
  | nil => simp [keys, find?]
  | cons p rest ih =>
    obtain ⟨k, v⟩ := p
    unfold keys at ih ⊢
    rw [List.map_cons, List.mem_cons, ih, find?]
    by_cases h : k = key
    · simp [h]
    · simp [h, Ne.symm h]

end Keyed
end RelayDesk
