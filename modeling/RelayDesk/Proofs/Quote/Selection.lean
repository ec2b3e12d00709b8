import Mathlib.Data.Int.Order.Basic
import Mathlib.Data.List.Lex
import RelayDesk.Proofs.Except
import RelayDesk.Quote.Select

/-!
The first of the best.  What is taken from a list by its least key is an element that no other one
beats and that beats every element in front of it, so of several that are equally good the first
one is taken.
-/

namespace RelayDesk
namespace Quote

/-- No element of the list is better than this one, and each in front of it is worse. -/
structure IsFirstBest {α : Type} (better : α → α → Prop) (xs : List α) (x : α) : Prop where
  unbeaten : ∀ y ∈ xs, ¬ better y x
  first : ∃ earlier later, xs = earlier ++ x :: later ∧ ∀ y ∈ earlier, better x y

namespace IsFirstBest

variable {α β : Type} {better : α → α → Prop} {better' : β → β → Prop} {xs : List α} {x : α}

theorem mem (h : IsFirstBest better xs x) : x ∈ xs := by
  obtain ⟨earlier, later, rfl, -⟩ := h.first
  exact List.mem_append_right earlier List.mem_cons_self

/-- A list has one first best element at most. -/
theorem unique {y : α} (hx : IsFirstBest better xs x) (hy : IsFirstBest better xs y) : x = y := by
  obtain ⟨as, bs, hxs, has⟩ := hx.first
  obtain ⟨cs, ds, hys, hcs⟩ := hy.first
  rcases List.append_eq_append_iff.mp (hxs.symm.trans hys) with ⟨gap, rfl, htail⟩ | ⟨gap, rfl, htail⟩
  · cases gap with
    | nil => exact (List.cons.inj htail).1
    | cons z gap =>
      obtain ⟨rfl, -⟩ := List.cons.inj htail
      exact absurd (hcs x (by simp)) (hx.unbeaten y hy.mem)
  · cases gap with
    | nil => exact (List.cons.inj htail).1.symm
    | cons z gap =>
      obtain ⟨rfl, -⟩ := List.cons.inj htail
      exact absurd (has y (by simp)) (hy.unbeaten x hx.mem)

/-- A map that keeps who is better keeps the first best element. -/
theorem map {f : α → β} (h : IsFirstBest better xs x)
    (hf : ∀ a ∈ xs, ∀ b ∈ xs, better' (f a) (f b) ↔ better a b) :
    IsFirstBest better' (xs.map f) (f x) where
  unbeaten y hy := by
    obtain ⟨a, ha, rfl⟩ := List.mem_map.mp hy
    exact fun hbetter => h.unbeaten a ha ((hf a ha x h.mem).mp hbetter)
  first := by
    obtain ⟨earlier, later, hxs, hearlier⟩ := h.first
    refine ⟨earlier.map f, later.map f, by rw [hxs, List.map_append, List.map_cons],
      fun y hy => ?_⟩
    obtain ⟨a, ha, rfl⟩ := List.mem_map.mp hy
    have hmem : a ∈ xs := hxs ▸ List.mem_append_left _ ha
    exact (hf x h.mem a hmem).mpr (hearlier a ha)

theorem better_of_mem_before {before after : List α}
    (h : IsFirstBest better (before ++ x :: after) x) (hx : x ∉ before) :
    ∀ y ∈ before, better x y := by
  obtain ⟨earlier, later, hxs, hearlier⟩ := h.first
  intro y hy
  apply hearlier
  rcases List.append_eq_append_iff.mp hxs with ⟨gap, rfl, -⟩ | ⟨gap, rfl, htail⟩
  · exact List.mem_append_left gap hy
  · cases gap with
    | nil => exact List.append_nil earlier ▸ hy
    | cons z gap =>
      obtain ⟨rfl, -⟩ := List.cons.inj htail
      exact absurd (by simp) hx

/-- The first best element stays so when others are left out. -/
theorem of_fewer {before after before' after' : List α}
    (h : IsFirstBest better (before ++ x :: after) x) (hx : x ∉ before)
    (hbefore : before' ⊆ before) (hafter : after' ⊆ after) :
    IsFirstBest better (before' ++ x :: after') x where
  unbeaten y hy := by
    apply h.unbeaten
    rcases List.mem_append.mp hy with hy | hy
    · exact List.mem_append_left _ (hbefore hy)
    · exact List.mem_append_right _ (List.cons_subset_cons x hafter hy)
  first := ⟨before', after', rfl, fun y hy => h.better_of_mem_before hx y (hbefore hy)⟩

end IsFirstBest

section Least

variable {α : Type} {key : α → List Int}

theorem firstLeast_eq_none_iff {xs : List α} : firstLeast key xs = none ↔ xs = [] := by
  cases xs with
  | nil => exact ⟨fun _ => rfl, fun _ => rfl⟩
  | cons x rest =>
    unfold firstLeast
    split
    · simp
    · split <;> simp

theorem isFirstBest_of_firstLeast {xs : List α} {x : α} (h : firstLeast key xs = some x) :
    IsFirstBest (fun a b => key a < key b) xs x := by
  induction xs generalizing x with
  | nil => cases h
  | cons z rest ih =>
    unfold firstLeast at h
    split at h
    · next hnone =>
      obtain rfl := Option.some.inj h
      obtain rfl := firstLeast_eq_none_iff.mp hnone
      refine ⟨fun y hy => ?_, [], [], rfl, nofun⟩
      obtain rfl := List.mem_singleton.mp hy
      exact lt_irrefl _
    · next y hsome =>
      obtain ⟨hunbeaten, earlier, later, hrest, hearlier⟩ := ih hsome
      by_cases hlt : key y < key z
      · rw [if_pos hlt] at h
        obtain rfl := Option.some.inj h
        refine ⟨fun w hw => ?_, z :: earlier, later, by rw [hrest]; rfl, fun w hw => ?_⟩
        · rcases List.mem_cons.mp hw with rfl | hw
          · exact lt_asymm hlt
          · exact hunbeaten w hw
        · rcases List.mem_cons.mp hw with rfl | hw
          · exact hlt
          · exact hearlier w hw
      · rw [if_neg hlt] at h
        obtain rfl := Option.some.inj h
        -- What beats the head would also beat the best of the rest, which nothing does.
        refine ⟨fun w hw => ?_, [], rest, rfl, nofun⟩
        rcases List.mem_cons.mp hw with rfl | hw
        · exact lt_irrefl _
        · exact fun hbeats => hunbeaten w hw (lt_of_lt_of_le hbeats (not_lt.mp hlt))

/-- Of priced rows the first best one is taken, and a route without any is refused. -/
theorem pick_cases {ρ : Type} (key : Priced ρ → List Int) (total : Nat) (c : Constraint)
    (priced : List (Priced ρ)) :
    (priced = [] ∧ pick key total c priced = .error (.noRoute (noRoute total c))) ∨
      ∃ p, pick key total c priced = .ok p ∧
        IsFirstBest (fun a b => key a < key b) priced p := by
  unfold pick
  split
  · next p hp => exact .inr ⟨p, rfl, isFirstBest_of_firstLeast hp⟩
  · next hnone => exact .inl ⟨firstLeast_eq_none_iff.mp hnone, rfl⟩

end Least

/-! ## Choosing among rows -/

section Rows

variable {ρ β : Type} {cannotPrice : ρ → Prop} {better : ρ → ρ → Prop} {IsPrice : Priced ρ → Prop}
  {usable : List ρ} {reason : NoRoute} {result : Except Fault (Priced ρ)}

/-- What choosing among usable rows may come to: one of them cannot be priced, or there is none, or
the first best one is taken at its price. -/
inductive Selects (cannotPrice : ρ → Prop) (better : ρ → ρ → Prop) (IsPrice : Priced ρ → Prop)
    (usable : List ρ) (reason : NoRoute) : Except Fault (Priced ρ) → Prop
  | invalid {row : ρ} {cause : Invalid} (mem : row ∈ usable) (unpriced : cannotPrice row) :
      Selects cannotPrice better IsPrice usable reason (.error (.validation cause))
  | empty (none_usable : usable = []) :
      Selects cannotPrice better IsPrice usable reason (.error (.noRoute reason))
  | taken {p : Priced ρ} (priced : ∀ row ∈ usable, ¬ cannotPrice row)
      (best : IsFirstBest better usable p.row) (price : IsPrice p) :
      Selects cannotPrice better IsPrice usable reason (.ok p)

namespace Selects

theorem validation_iff (h : Selects cannotPrice better IsPrice usable reason result) :
    (∃ cause, result = .error (.validation cause)) ↔ ∃ row ∈ usable, cannotPrice row := by
  cases h with
  | invalid mem unpriced => exact ⟨fun _ => ⟨_, mem, unpriced⟩, fun _ => ⟨_, rfl⟩⟩
  | empty none_usable => simp [none_usable]
  | taken priced best price => simpa using priced

theorem noRoute_iff (h : Selects cannotPrice better IsPrice usable reason result) :
    (∃ cause, result = .error (.noRoute cause)) ↔ usable = [] := by
  cases h with
  | invalid mem unpriced => simp [List.ne_nil_of_mem mem]
  | empty none_usable => simp [none_usable]
  | taken priced best price => simp [List.ne_nil_of_mem best.mem]

theorem exists_ok (h : Selects cannotPrice better IsPrice usable reason result)
    (hne : usable ≠ []) (hpriced : ∀ row ∈ usable, ¬ cannotPrice row) :
    ∃ p, result = .ok p ∧ IsFirstBest better usable p.row ∧ IsPrice p := by
  cases h with
  | invalid mem unpriced => exact absurd unpriced (hpriced _ mem)
  | empty none_usable => exact absurd none_usable hne
  | taken priced best price => exact ⟨_, rfl, best, price⟩

theorem of_ok {p : Priced ρ} (h : Selects cannotPrice better IsPrice usable reason (.ok p)) :
    IsFirstBest better usable p.row ∧ IsPrice p := by
  cases h with
  | taken priced best price => exact ⟨best, price⟩

theorem priced_of_ok {p : Priced ρ}
    (h : Selects cannotPrice better IsPrice usable reason (.ok p)) :
    ∀ row ∈ usable, ¬ cannotPrice row := by
  cases h with
  | taken priced best price => exact priced

/-- Rows do not make a request unsupported. -/
theorem ne_unsupported (h : Selects cannotPrice better IsPrice usable reason result)
    (cause : Unsupported) : result ≠ .error (.unsupported cause) := by
  cases h <;> simp

end Selects

/-- Prices that were found, row by row: a row that is not usable has none. -/
theorem prices_of_forall₂ {price? : β → Option (Priced ρ)} {isUsable : ρ → Bool} {R : ρ → β → Prop}
    {kept : List ρ} {found : List β} (hall : List.Forall₂ R kept found)
    (hR : ∀ row b, R row b → (price? b = none ∧ isUsable row = false) ∨
      ∃ p, price? b = some p ∧ isUsable row = true ∧ p.row = row ∧ IsPrice p) :
    (found.filterMap price?).map Priced.row = kept.filter isUsable ∧
      ∀ p ∈ found.filterMap price?, IsPrice p := by
  induction hall with
  | nil => exact ⟨rfl, nofun⟩
  | @cons row b kept found hrow _ ih =>
    obtain ⟨hrows, hprices⟩ := ih
    rcases hR row b hrow with ⟨hnone, husable⟩ | ⟨p, hsome, husable, hp, hprice⟩
    · rw [List.filterMap_cons_none hnone, List.filter_cons_of_neg (by simp [husable])]
      exact ⟨hrows, hprices⟩
    · rw [List.filterMap_cons_some hsome, List.filter_cons_of_pos husable, List.map_cons, hrows, hp]
      refine ⟨rfl, fun q hq => ?_⟩
      rcases List.mem_cons.mp hq with rfl | hq
      · exact hprice
      · exact hprices q hq

/-- Rows that are priced one after the other and then compared by their keys.  A row that cannot be
priced ends the search, and one that is not usable is passed over. -/
theorem selects_of_prices (price : ρ → Except Invalid β) (price? : β → Option (Priced ρ))
    (isUsable : ρ → Bool) (key : Priced ρ → List Int)
    (hrefused : ∀ row, (∃ cause, price row = .error cause) ↔
      isUsable row = true ∧ cannotPrice row)
    (hprice : ∀ row b, price row = .ok b → (price? b = none ∧ isUsable row = false) ∨
      ∃ p, price? b = some p ∧ isUsable row = true ∧ p.row = row ∧ IsPrice p)
    (hkey : ∀ p q, IsPrice p → IsPrice q → (better p.row q.row ↔ key p < key q))
    (kept : List ρ) (total : Nat) (c : Constraint) :
    Selects cannotPrice better IsPrice (kept.filter isUsable) (noRoute total c)
      (((kept.mapM price).mapError Fault.validation) >>= fun found =>
        pick key total c (found.filterMap price?)) := by
  cases hmap : kept.mapM price with
  | error cause =>
    obtain ⟨row, hrow, herror⟩ := exists_error_of_mapM hmap
    obtain ⟨husable, hcannot⟩ := (hrefused row).mp herror
    exact .invalid (List.mem_filter.mpr ⟨hrow, husable⟩) hcannot
  | ok found =>
    have hall := mapM_eq_ok_iff.mp hmap
    obtain ⟨hrows, hprices⟩ := prices_of_forall₂ hall hprice
    have hpriced : ∀ row ∈ kept.filter isUsable, ¬ cannotPrice row := by
      intro row hrow hcannot
      obtain ⟨hmem, husable⟩ := List.mem_filter.mp hrow
      obtain ⟨cause, herror⟩ := (hrefused row).mpr ⟨husable, hcannot⟩
      obtain ⟨e, he⟩ := exists_mapM_eq_error hmem herror
      rw [hmap] at he
      cases he
    show Selects _ _ _ _ _ (pick key total c (found.filterMap price?))
    rw [← hrows] at hpriced ⊢
    rcases pick_cases key total c (found.filterMap price?) with ⟨hnil, hnone⟩ | ⟨p, hp, hbest⟩
    · rw [hnone]
      exact .empty (by rw [hnil, List.map_nil])
    · rw [hp]
      refine .taken hpriced (hbest.map fun q hq q' hq' => ?_) (hprices p hbest.mem)
      exact hkey q q' (hprices q hq) (hprices q' hq')

end Rows

end Quote
end RelayDesk
