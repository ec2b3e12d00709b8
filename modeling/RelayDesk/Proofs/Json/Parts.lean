import RelayDesk.Proofs.Json.Leaves

/-!
The loop over the parts of a container.  The items of an array and the members of an object are
read by one loop, which differs in how it asks for the next part and in how it reads one.  Written
parts are read back as soon as each of them is.
-/

namespace RelayDesk
namespace Json

section Parts

variable {α : Type} (fault : Fault) (next : Bool → Cursor → Except Refusal (Bool × Cursor))
  (part : Cursor → Except Refusal (α × Cursor))

/-- Parts up to the end of their container.  `next` tells whether there is one more, and is told
whether it would be the first. -/
def readParts : Nat → Bool → Cursor → Except Refusal (List α × Cursor)
  | 0, _, cur => .error (cur.refuse fault)
  | fuel + 1, first, cur => do
    let (more, cur) ← next first cur
    if more then
      let (x, cur) ← part cur
      let (xs, cur) ← readParts fuel false cur
      return (x :: xs, cur)
    else return ([], cur)

theorem readItems_eq (item : Cursor → Except Refusal (α × Cursor)) :
    readItems item = readParts .endOfList nextItem item := by
  funext fuel
  induction fuel with
  | zero => rfl
  | succ fuel ih =>
    funext first cur
    rw [readItems, readParts, ih]

theorem readMembers_eq (item : Cursor → Except Refusal (α × Cursor)) :
    readMembers item = readParts .endOfObject nextKey (readMember item) := by
  funext fuel
  induction fuel with
  | zero => rfl
  | succ fuel ih =>
    funext first cur
    rw [readMembers, readParts, ih]

variable {next part} {print : α → List Char} {closing : Char}

theorem reads_laterParts (hclosing : closing = ']' ∨ closing = '\x7d') {xs : List α} {fuel : Nat}
    (hfuel : xs.length < fuel)
    (hend : ∀ rest, Reads (next false) (closing :: rest) false (closing :: rest))
    (hnext : ∀ x ∈ xs, ∀ rest,
      Reads (next false) (',' :: (print x ++ rest)) true (print x ++ rest))
    (hpart : ∀ x ∈ xs, ∀ rest, EndsValue rest → Reads part (print x ++ rest) x rest)
    (rest : List Char) :
    Reads (readParts fault next part fuel false)
      ((xs.map print).flatMap (',' :: ·) ++ closing :: rest) xs (closing :: rest) := by
  intro place
  induction xs generalizing fuel place with
  | nil =>
    obtain ⟨fuel, rfl⟩ : ∃ n, fuel = n + 1 := ⟨fuel - 1, by simp at hfuel; omega⟩
    obtain ⟨p, hdone⟩ := hend rest place
    refine ⟨p, ?_⟩
    show readParts fault next part (fuel + 1) false ⟨closing :: rest, place⟩ = _
    rw [readParts, hdone, ok_bind]
    rfl
  | cons x xs ih =>
    obtain ⟨fuel, rfl⟩ : ∃ n, fuel = n + 1 := ⟨fuel - 1, by simp at hfuel; omega⟩
    obtain ⟨p₁, hmore⟩ := hnext x List.mem_cons_self
      ((xs.map print).flatMap (',' :: ·) ++ closing :: rest) place
    obtain ⟨p₂, hx⟩ := hpart x List.mem_cons_self _
      (endsValue_parts hclosing (xs.map print) rest) p₁
    obtain ⟨p₃, hxs⟩ := ih (Nat.lt_of_succ_lt_succ hfuel)
      (fun y hy => hnext y (List.mem_cons_of_mem x hy))
      (fun y hy => hpart y (List.mem_cons_of_mem x hy)) p₂
    refine ⟨p₃, ?_⟩
    rw [List.map_cons, List.flatMap_cons, List.append_assoc, List.cons_append, readParts, hmore,
      ok_bind]
    simp only [if_true, hx, ok_bind, hxs]
    rfl

/-- Parts that were written with commas between them are read back, up to the end of their
container. -/
theorem reads_parts (hclosing : closing = ']' ∨ closing = '\x7d') {xs : List α} {fuel : Nat}
    (hfuel : xs.length < fuel)
    (hend : ∀ first rest, Reads (next first) (closing :: rest) false (closing :: rest))
    (hfirst : ∀ x ∈ xs, ∀ rest, Reads (next true) (print x ++ rest) true (print x ++ rest))
    (hnext : ∀ x ∈ xs, ∀ rest,
      Reads (next false) (',' :: (print x ++ rest)) true (print x ++ rest))
    (hpart : ∀ x ∈ xs, ∀ rest, EndsValue rest → Reads part (print x ++ rest) x rest)
    (rest : List Char) :
    Reads (readParts fault next part fuel true)
      (commaSeparated (xs.map print) ++ closing :: rest) xs (closing :: rest) := by
  intro place
  obtain ⟨fuel, rfl⟩ : ∃ n, fuel = n + 1 := ⟨fuel - 1, by omega⟩
  -- The first part has no comma in front of it; those behind it are the case above.
  cases xs with
  | nil =>
    obtain ⟨p, hdone⟩ := hend true rest place
    refine ⟨p, ?_⟩
    show readParts fault next part (fuel + 1) true ⟨closing :: rest, place⟩ = _
    rw [readParts, hdone, ok_bind]
    rfl
  | cons x xs =>
    obtain ⟨p₁, hmore⟩ := hfirst x List.mem_cons_self
      ((xs.map print).flatMap (',' :: ·) ++ closing :: rest) place
    obtain ⟨p₂, hx⟩ := hpart x List.mem_cons_self _
      (endsValue_parts hclosing (xs.map print) rest) p₁
    obtain ⟨p₃, hxs⟩ := reads_laterParts fault hclosing
      (Nat.lt_of_succ_lt_succ hfuel) (hend false)
      (fun y hy => hnext y (List.mem_cons_of_mem x hy))
      (fun y hy => hpart y (List.mem_cons_of_mem x hy)) rest p₂
    refine ⟨p₃, ?_⟩
    rw [List.map_cons, commaSeparated_cons, List.append_assoc, readParts, hmore, ok_bind]
    simp only [if_true, hx, ok_bind, hxs]
    rfl

end Parts

/-- A reader that takes as many steps as there are characters has enough of them for the parts. -/
theorem length_lt_of_parts (parts : List (List Char)) (closing : Char) (rest : List Char) :
    parts.length < (commaSeparated parts ++ closing :: rest).length + 1 := by
  rw [List.length_append, List.length_cons]
  cases parts with
  | nil => exact Nat.succ_pos _
  | cons part parts =>
    have hlater : parts.length ≤ (parts.flatMap (',' :: ·)).length := by
      induction parts with
      | nil => exact Nat.le_refl 0
      | cons next parts ih =>
        rw [List.flatMap_cons, List.length_append, List.length_cons, List.length_cons]
        omega
    rw [commaSeparated_cons, List.length_append, List.length_cons]
    omega

end Json
end RelayDesk
