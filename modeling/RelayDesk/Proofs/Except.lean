import Mathlib.Data.List.Forall2

/-!
Computations that may refuse, opened one step at a time: a sequence succeeds when its first part
does and the rest succeeds on what it gave.  A list is gone through in the same way, and is refused
as soon as one element is.
-/

namespace RelayDesk

variable {ε ε' α β : Type}

@[simp] theorem ok_bind (a : α) (f : α → Except ε β) : (Except.ok a >>= f) = f a := rfl

@[simp] theorem error_bind (e : ε) (f : α → Except ε β) :
    (Except.error e >>= f) = .error e := rfl

theorem map_ok (f : α → β) (a : α) : (f <$> (Except.ok a : Except ε α)) = .ok (f a) := rfl

theorem bind_eq_ok_iff {x : Except ε α} {f : α → Except ε β} {b : β} :
    (x >>= f) = .ok b ↔ ∃ a, x = .ok a ∧ f a = .ok b := by
  cases x with
  | error e => simp
  | ok a => simp

theorem bind_eq_error_iff {x : Except ε α} {f : α → Except ε β} {e : ε} :
    (x >>= f) = .error e ↔ x = .error e ∨ ∃ a, x = .ok a ∧ f a = .error e := by
  cases x with
  | error e' => simp
  | ok a => simp

theorem mapError_eq_ok_iff {x : Except ε α} {f : ε → ε'} {a : α} :
    x.mapError f = .ok a ↔ x = .ok a := by
  cases x with
  | error e => exact ⟨nofun, nofun⟩
  | ok b =>
    show Except.ok b = Except.ok a ↔ Except.ok b = Except.ok a
    simp only [Except.ok.injEq]

theorem map_eq_error_iff {x : Except ε α} {f : α → β} {e : ε} :
    x.map f = .error e ↔ x = .error e := by
  cases x with
  | ok a => exact ⟨nofun, nofun⟩
  | error e' =>
    show Except.error e' = Except.error e ↔ Except.error e' = Except.error e
    simp only [Except.error.injEq]

theorem toOption_eq_some_iff {x : Except ε α} {a : α} : x.toOption = some a ↔ x = .ok a := by
  cases x with
  | error e => exact ⟨nofun, nofun⟩
  | ok b =>
    show some b = some a ↔ Except.ok b = Except.ok a
    simp only [Option.some.injEq, Except.ok.injEq]

/-! ## Computations that succeed under a condition -/

section Condition

variable {x : Except ε α} {p : Prop} {q : α → Prop} {a : α} {e : ε} {n bound : Nat}

theorem refused_iff_not (hok : p → ∃ a, x = .ok a) (hrefused : ¬ p → ∃ e, x = .error e) :
    (∃ e, x = .error e) ↔ ¬ p := by
  refine ⟨fun ⟨e, he⟩ hp => ?_, hrefused⟩
  obtain ⟨a, ha⟩ := hok hp
  rw [ha] at he
  cases he

/-- What every result under the condition has, every result has. -/
theorem of_ok_of_refused (hok : p → ∃ a, x = .ok a ∧ q a) (hrefused : ¬ p → ∃ e, x = .error e)
    (h : x = .ok a) : q a := by
  by_cases hp : p
  · obtain ⟨b, hb, hq⟩ := hok hp
    rw [hb] at h
    exact Except.ok.inj h ▸ hq
  · obtain ⟨e, he⟩ := hrefused hp
    rw [he] at h
    cases h

theorem refused_iff_le (hlt : n < bound → ∃ a, x = .ok a ∧ q a)
    (hle : bound ≤ n → x = .error e) : (∃ e, x = .error e) ↔ bound ≤ n := by
  rw [← Nat.not_lt]
  apply refused_iff_not
  · intro h
    obtain ⟨a, ha, -⟩ := hlt h
    exact ⟨a, ha⟩
  · intro h
    exact ⟨e, hle (Nat.le_of_not_lt h)⟩

end Condition

/-! ## Two computations -/

/-- Both computations give a result, or both are refused. -/
inductive SameEnd {ε ε' α β : Type} (results : α → β → Prop) (refusals : ε → ε' → Prop) :
    Except ε α → Except ε' β → Prop
  | ok {a : α} {b : β} (h : results a b) : SameEnd results refusals (.ok a) (.ok b)
  | error {e : ε} {e' : ε'} (h : refusals e e') : SameEnd results refusals (.error e) (.error e')

namespace SameEnd

variable {γ δ : Type} {results : α → β → Prop} {refusals : ε → ε' → Prop} {x : Except ε α}
  {y : Except ε' β}

theorem of_exists_ok (hforth : ∀ a, x = .ok a → ∃ b, y = .ok b ∧ results a b)
    (hback : ∀ b, y = .ok b → ∃ a, x = .ok a) : SameEnd results (fun _ _ => True) x y := by
  cases x with
  | ok a =>
    obtain ⟨b, rfl, hab⟩ := hforth a rfl
    exact .ok hab
  | error e =>
    cases y with
    | ok b =>
      obtain ⟨a, ha⟩ := hback b rfl
      cases ha
    | error e' => exact .error trivial

theorem of_toOption_map_eq {f : α → γ} {g : β → γ}
    (h : x.toOption.map f = y.toOption.map g) :
    SameEnd (fun a b => f a = g b) (fun _ _ => True) x y := by
  cases x with
  | ok a =>
    cases y with
    | ok b => exact .ok (Option.some.inj h)
    | error e' => cases h
  | error e =>
    cases y with
    | ok b => cases h
    | error e' => exact .error trivial

theorem refl {refusals : ε → ε → Prop} (h : ∀ e, refusals e e) (x : Except ε α) :
    SameEnd Eq refusals x x := by
  cases x with
  | ok a => exact .ok rfl
  | error e => exact .error (h e)

theorem exists_ok {y : Except ε' α} (h : SameEnd Eq refusals x y)
    (hx : x.toOption.isSome = true) : ∃ a, x = .ok a ∧ y = .ok a := by
  cases h with
  | ok hab => exact ⟨_, rfl, congrArg Except.ok hab.symm⟩
  | error he => cases hx

theorem mono {results' : α → β → Prop} (h : SameEnd results refusals x y)
    (hresults : ∀ a b, results a b → results' a b) : SameEnd results' refusals x y := by
  cases h with
  | ok hab => exact .ok (hresults _ _ hab)
  | error he => exact .error he

theorem bind_of_ok {results' : γ → δ → Prop} {f : α → Except ε γ} {g : β → Except ε' δ}
    (h : SameEnd results refusals x y)
    (hrest : ∀ a b, x = .ok a → results a b → SameEnd results' refusals (f a) (g b)) :
    SameEnd results' refusals (x >>= f) (y >>= g) := by
  cases h with
  | ok hab => exact hrest _ _ rfl hab
  | error he => exact .error he

theorem bind {results' : γ → δ → Prop} {f : α → Except ε γ} {g : β → Except ε' δ}
    (h : SameEnd results refusals x y)
    (hrest : ∀ a b, results a b → SameEnd results' refusals (f a) (g b)) :
    SameEnd results' refusals (x >>= f) (y >>= g) :=
  h.bind_of_ok fun a b _ => hrest a b

theorem mapError {ζ ζ' : Type} {refusals' : ζ → ζ' → Prop} {f : ε → ζ} {g : ε' → ζ'}
    (h : SameEnd results refusals x y) (hrefusals : ∀ e e', refusals e e' → refusals' (f e) (g e')) :
    SameEnd results refusals' (x.mapError f) (y.mapError g) := by
  cases h with
  | ok hab => exact .ok hab
  | error he => exact .error (hrefusals _ _ he)

end SameEnd

/-! ## Lists -/

theorem mapM_eq_ok_iff {f : α → Except ε β} {xs : List α} {ys : List β} :
    xs.mapM f = .ok ys ↔ List.Forall₂ (fun x y => f x = .ok y) xs ys := by
  induction xs generalizing ys with
  | nil =>
    rw [List.mapM_nil, List.forall₂_nil_left_iff]
    show Except.ok [] = Except.ok ys ↔ ys = []
    rw [Except.ok.injEq, eq_comm]
  | cons x xs ih =>
    rw [List.mapM_cons, bind_eq_ok_iff, List.forall₂_cons_left_iff]
    constructor
    · rintro ⟨y, hy, hrest⟩
      obtain ⟨zs, hzs, hcons⟩ := bind_eq_ok_iff.mp hrest
      cases hcons
      exact ⟨y, zs, hy, ih.mp hzs, rfl⟩
    · rintro ⟨y, zs, hy, hzs, rfl⟩
      refine ⟨y, hy, ?_⟩
      rw [ih.mpr hzs]
      rfl

/-- A list is refused only if one of its elements is. -/
theorem exists_error_of_mapM {f : α → Except ε β} {xs : List α} {e : ε}
    (h : xs.mapM f = .error e) : ∃ x ∈ xs, ∃ e', f x = .error e' := by
  induction xs with
  | nil => cases h
  | cons x xs ih =>
    rw [List.mapM_cons] at h
    rcases bind_eq_error_iff.mp h with hx | ⟨y, -, hrest⟩
    · exact ⟨x, List.mem_cons_self, e, hx⟩
    · rcases bind_eq_error_iff.mp hrest with hxs | ⟨ys, -, hcons⟩
      · obtain ⟨z, hz, hrefused⟩ := ih hxs
        exact ⟨z, List.mem_cons_of_mem x hz, hrefused⟩
      · cases hcons

/-- One element that is refused refuses the list. -/
theorem exists_mapM_eq_error {f : α → Except ε β} {xs : List α} {x : α} {e : ε} (hx : x ∈ xs)
    (h : f x = .error e) : ∃ e', xs.mapM f = .error e' := by
  cases hmap : xs.mapM f with
  | error e' => exact ⟨e', rfl⟩
  | ok ys =>
    have hall := mapM_eq_ok_iff.mp hmap
    clear hmap
    induction hall with
    | nil => cases hx
    | @cons z y zs ys hz _ ih =>
      rcases List.mem_cons.mp hx with rfl | hx
      · rw [h] at hz
        cases hz
      · obtain ⟨e', he⟩ := ih hx
        cases he

end RelayDesk
