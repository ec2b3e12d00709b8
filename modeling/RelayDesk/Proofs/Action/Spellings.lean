import RelayDesk.Action.Params
import RelayDesk.Proofs.Except

/-!
What the spellings of a field mean together.  It depends on the values that are given under them,
and on neither their names nor their order: each value means nothing or the whole, and unless the
whole is nothing one of them means it.  Two lists of values that match one another, each value in
either having one of like meaning in the other, have like meanings.
-/

namespace RelayDesk
namespace Action
namespace Params

/-- The values that are given under some names. -/
def given (p : Params) (names : List String) : List Json := names.filterMap p.find?

/-- What values mean together to one who sees each of them as nothing, as a meaning, or as no
value of the field. -/
structure Means {β : Type} (view : Json → Option (Option β)) (vs : List Json)
    (meaning : Option β) : Prop where
  agreed : ∀ v ∈ vs, view v = some none ∨ view v = some meaning
  told : ∀ b, meaning = some b → ∃ v ∈ vs, view v = some (some b)

/-- Any two of the values that mean something mean the same. -/
def Agreed {β : Type} (view : Json → Option (Option β)) (vs : List Json) : Prop :=
  ∀ v ∈ vs, ∀ w ∈ vs, ∀ a b, view v = some (some a) → view w = some (some b) → a = b

/-- Each value in one list has one of the same meaning in the other. -/
structure Matches (same : Json → Json → Prop) (vs ws : List Json) : Prop where
  forth : ∀ v ∈ vs, ∃ w ∈ ws, same v w
  back : ∀ w ∈ ws, ∃ v ∈ vs, same v w

/-- A reader of values, with what it compares, sees them through `view`. -/
structure Sees {α β : Type} (read : String → Json → Except Invalid (Option α))
    (same : α → α → Bool) (f : α → β) (view : Json → Option (Option β)) : Prop where
  /-- The name under which a value is given shows in a refusal only. -/
  read_eq : ∀ name v, (read name v).toOption.map (Option.map f) = view v
  same_iff : ∀ {name name' v w a b}, read name v = .ok (some a) → read name' w = .ok (some b) →
    (same a b = true ↔ f a = f b)

/-! ## Meanings -/

section Means

variable {β γ : Type} {view : Json → Option (Option β)} {v : Json} {vs ws : List Json}
  {k k' : Option β}

theorem Means.unique (h : Means view vs k) (h' : Means view vs k') : k = k' := by
  cases k with
  | some b =>
    obtain ⟨v, hv, hview⟩ := h.told b rfl
    rcases h'.agreed v hv with hnone | hk
    · rw [hview] at hnone
      cases hnone
    · exact Option.some.inj (hview.symm.trans hk)
  | none =>
    cases k' with
    | none => rfl
    | some b =>
      obtain ⟨v, hv, hview⟩ := h'.told b rfl
      rcases h.agreed v hv with hnone | hk
      · rw [hview] at hnone
        cases hnone
      · exact Option.some.inj (hk.symm.trans hview)

theorem Means.agreedOn (h : Means view vs k) : Agreed view vs := by
  intro v hv w hw a b ha hb
  rcases h.agreed v hv with hnone | hk
  · rw [ha] at hnone
    cases hnone
  · rcases h.agreed w hw with hnone' | hk'
    · rw [hb] at hnone'
      cases hnone'
    · have hsame := (ha.symm.trans hk).trans (hk'.symm.trans hb)
      exact Option.some.inj (Option.some.inj hsame)

/-- Values mean something together, if only nothing, when each can be seen and they agree. -/
theorem exists_means (hseen : ∀ v ∈ vs, (view v).isSome = true) (h : Agreed view vs) :
    ∃ k, Means view vs k := by
  by_cases htold : ∃ v ∈ vs, ∃ b, view v = some (some b)
  · obtain ⟨w, hw, b, hb⟩ := htold
    refine ⟨some b, fun v hv => ?_, fun c hc => ⟨w, hw, hc ▸ hb⟩⟩
    obtain ⟨m, hm⟩ := Option.isSome_iff_exists.mp (hseen v hv)
    cases m with
    | none => exact .inl hm
    | some a =>
      obtain rfl := h v hv w hw a b hm hb
      exact .inr hm
  · refine ⟨none, fun v hv => ?_, fun b hb => by cases hb⟩
    obtain ⟨m, hm⟩ := Option.isSome_iff_exists.mp (hseen v hv)
    cases m with
    | none => exact .inl hm
    | some b => exact absurd ⟨v, hv, b, hm⟩ htold

theorem exists_means_iff :
    (∃ k, Means view vs k) ↔ (∀ v ∈ vs, (view v).isSome = true) ∧ Agreed view vs := by
  constructor
  · rintro ⟨k, hk⟩
    refine ⟨fun v hv => ?_, hk.agreedOn⟩
    rcases hk.agreed v hv with hnone | hsome
    · rw [hnone]
      rfl
    · rw [hsome]
      rfl
  · rintro ⟨hseen, hagreed⟩
    exact exists_means hseen hagreed

theorem means_cons_none (hv : view v = some none) : Means view (v :: vs) k ↔ Means view vs k := by
  constructor
  · intro h
    refine ⟨fun w hw => h.agreed w (List.mem_cons_of_mem v hw), fun b hb => ?_⟩
    obtain ⟨w, hw, hview⟩ := h.told b hb
    rcases List.mem_cons.mp hw with rfl | hw
    · rw [hv] at hview
      cases hview
    · exact ⟨w, hw, hview⟩
  · intro h
    refine ⟨fun w hw => ?_, fun b hb => ?_⟩
    · rcases List.mem_cons.mp hw with rfl | hw
      · exact .inl hv
      · exact h.agreed w hw
    · obtain ⟨w, hw, hview⟩ := h.told b hb
      exact ⟨w, List.mem_cons_of_mem v hw, hview⟩

theorem means_cons_some {b : β} (hv : view v = some (some b)) :
    Means view (v :: vs) k ↔ k = some b ∧ ∀ w ∈ vs, view w = some none ∨ view w = some k := by
  constructor
  · intro h
    rcases h.agreed v List.mem_cons_self with hnone | hk
    · rw [hv] at hnone
      cases hnone
    · exact ⟨Option.some.inj (hk.symm.trans hv), fun w hw =>
        h.agreed w (List.mem_cons_of_mem v hw)⟩
  · rintro ⟨rfl, hrest⟩
    refine ⟨fun w hw => ?_, fun c hc => ⟨v, List.mem_cons_self, hc ▸ hv⟩⟩
    rcases List.mem_cons.mp hw with rfl | hw
    · exact .inr hv
    · exact hrest w hw

theorem not_means_cons_unseen (hv : view v = none) : ¬ Means view (v :: vs) k := by
  intro h
  rcases h.agreed v List.mem_cons_self with hnone | hk
  · rw [hv] at hnone
    cases hnone
  · rw [hv] at hk
    cases hk

/-- What is seen through a coarser view is a coarser meaning. -/
theorem Means.map (f : β → γ) (h : Means view vs k) :
    Means (fun v => (view v).map (Option.map f)) vs (k.map f) where
  agreed v hv := by
    rcases h.agreed v hv with hnone | hk
    · left
      rw [hnone]
      rfl
    · right
      rw [hk]
      rfl
  told c hc := by
    obtain ⟨b, rfl, rfl⟩ := Option.map_eq_some_iff.mp hc
    obtain ⟨v, hv, hview⟩ := h.told b rfl
    refine ⟨v, hv, ?_⟩
    rw [hview]
    rfl

end Means

/-! ## Matching values -/

section Matches

variable {β : Type} {view : Json → Option (Option β)} {same : Json → Json → Prop}
  {vs ws : List Json} {k : Option β}

theorem Matches.flip (h : Matches same vs ws) : Matches (fun w v => same v w) ws vs where
  forth := h.back
  back := h.forth

theorem Matches.agreed (h : Matches same vs ws) (hview : ∀ v w, same v w → view v = view w)
    (hagreed : Agreed view vs) : Agreed view ws := by
  intro w hw w' hw' a b ha hb
  obtain ⟨v, hv, hvw⟩ := h.back w hw
  obtain ⟨v', hv', hvw'⟩ := h.back w' hw'
  rw [← hview v w hvw] at ha
  rw [← hview v' w' hvw'] at hb
  exact hagreed v hv v' hv' a b ha hb

theorem Matches.means (h : Matches same vs ws) (hview : ∀ v w, same v w → view v = view w)
    (hmeans : Means view vs k) : Means view ws k where
  agreed w hw := by
    obtain ⟨v, hv, hvw⟩ := h.back w hw
    rw [← hview v w hvw]
    exact hmeans.agreed v hv
  told b hb := by
    obtain ⟨v, hv, hseen⟩ := hmeans.told b hb
    obtain ⟨w, hw, hvw⟩ := h.forth v hv
    exact ⟨w, hw, (hview v w hvw).symm.trans hseen⟩

end Matches

/-! ## Agreement of spellings -/

section Agree

variable {α β γ : Type} {read : String → Json → Except Invalid (Option α)} {same : α → α → Bool}
  {f : α → β} {view : Json → Option (Option β)} {p q : Params} {names : List String}

theorem given_cons_of_none {name : String} (h : p.find? name = none) :
    p.given (name :: names) = p.given names := List.filterMap_cons_none h

theorem given_cons_of_some {name : String} {v : Json} (h : p.find? name = some v) :
    p.given (name :: names) = v :: p.given names := List.filterMap_cons_some h

theorem agreeFrom_of_absent {name : String} (h : p.find? name = none)
    (found : Option (String × α)) :
    p.agreeFrom read same found (name :: names) = p.agreeFrom read same found names := by
  rw [agreeFrom, h]

theorem agreeFrom_of_given {name : String} {v : Json} (h : p.find? name = some v)
    (found : Option (String × α)) :
    p.agreeFrom read same found (name :: names) =
      (read name v >>= fun a? =>
        match a?, found with
        | none, _ => p.agreeFrom read same found names
        | some a, none => p.agreeFrom read same (some (name, a)) names
        | some a, some (first, b) =>
          if same b a then p.agreeFrom read same found names
          else .error (.disagree first name)) := by
  rw [agreeFrom]
  split
  · next hnone =>
    rw [h] at hnone
    cases hnone
  · next w hsome =>
    obtain rfl := Option.some.inj (hsome.symm.trans h)
    rfl

theorem Sees.of_error (hsees : Sees read same f view) {name : String} {v : Json} {e : Invalid}
    (h : read name v = .error e) : view v = none := by
  rw [← hsees.read_eq name v, h]
  rfl

theorem Sees.of_ok (hsees : Sees read same f view) {name : String} {v : Json} {a? : Option α}
    (h : read name v = .ok a?) : view v = some (a?.map f) := by
  rw [← hsees.read_eq name v, h]
  rfl

/-- Once a value was found to mean something, the others must mean that or nothing. -/
theorem agreeFrom_found_iff (hsees : Sees read same f view) {first : String} {b : α}
    (hfound : ∃ name v, read name v = .ok (some b)) {k : Option β} :
    (∃ m, p.agreeFrom read same (some (first, b)) names = .ok m ∧ m.map f = k) ↔
      k = some (f b) ∧ ∀ v ∈ p.given names, view v = some none ∨ view v = some k := by
  -- The value found first is the one that all others are compared with, so `b` stays as it is.
  induction names with
  | nil =>
    constructor
    · rintro ⟨m, hm, rfl⟩
      obtain rfl := Except.ok.inj hm
      exact ⟨rfl, fun v hv => by cases hv⟩
    · rintro ⟨rfl, -⟩
      exact ⟨some b, rfl, rfl⟩
  | cons name rest ih =>
    cases hfind : p.find? name with
    | none => rw [agreeFrom_of_absent hfind, given_cons_of_none hfind, ih]
    | some v =>
      rw [agreeFrom_of_given hfind, given_cons_of_some hfind, List.forall_mem_cons]
      cases hread : read name v with
      | error e =>
        have hview := hsees.of_error hread
        simp [hview]
      | ok a? =>
        have hview := hsees.of_ok hread
        rw [ok_bind]
        cases a? with
        | none => simpa [hview] using ih
        | some a =>
          obtain ⟨name', w, hw⟩ := hfound
          have hsame := hsees.same_iff hw hread
          by_cases heq : same b a = true
          · simp only [if_pos heq, ih]
            have hmeaning := hsame.mp heq
            constructor
            · rintro ⟨hk, hrest⟩
              refine ⟨hk, .inr ?_, hrest⟩
              rw [hview, hk, hmeaning]
              rfl
            · rintro ⟨hk, -, hrest⟩
              exact ⟨hk, hrest⟩
          · simp only [if_neg heq]
            constructor
            · rintro ⟨m, hm, -⟩
              cases hm
            · rintro ⟨rfl, hother, -⟩
              have hmeaning : f a = f b := by simpa [hview] using hother
              exact absurd (hsame.mpr hmeaning.symm) heq

/-- What a field is read as is what the values given for it mean. -/
theorem agree_means_iff (hsees : Sees read same f view) {k : Option β} :
    (∃ m, p.agree read same names = .ok m ∧ m.map f = k) ↔ Means view (p.given names) k := by
  unfold agree
  induction names with
  | nil =>
    constructor
    · rintro ⟨m, hm, rfl⟩
      obtain rfl := Except.ok.inj hm
      refine ⟨fun v hv => ?_, fun b hb => ?_⟩
      · cases hv
      · cases hb
    · intro h
      cases k with
      | none => exact ⟨none, rfl, rfl⟩
      | some b =>
        obtain ⟨v, hv, -⟩ := h.told b rfl
        cases hv
  | cons name rest ih =>
    cases hfind : p.find? name with
    | none => rw [agreeFrom_of_absent hfind, given_cons_of_none hfind, ih]
    | some v =>
      rw [agreeFrom_of_given hfind, given_cons_of_some hfind]
      cases hread : read name v with
      | error e =>
        have hunseen : ¬ Means view (v :: p.given rest) k :=
          not_means_cons_unseen (hsees.of_error hread)
        simp [hunseen]
      | ok a? =>
        have hview := hsees.of_ok hread
        rw [ok_bind]
        cases a? with
        | none => rw [means_cons_none hview, ← ih]
        | some a =>
          rw [means_cons_some hview]
          exact agreeFrom_found_iff hsees ⟨name, v, hread⟩

theorem agree_eq_ok_iff {view : Json → Option (Option α)} (hsees : Sees read same id view)
    {k : Option α} : p.agree read same names = .ok k ↔ Means view (p.given names) k := by
  rw [← agree_means_iff hsees]
  simp

theorem exists_agree (hsees : Sees read same f view) (coarsen : β → γ)
    {alike : Json → Json → Prop}
    (halike : ∀ v w, alike v w →
      (view v).map (Option.map coarsen) = (view w).map (Option.map coarsen))
    (hmatches : Matches alike (p.given names) (q.given names))
    (hagreed : Agreed view (p.given names) → Agreed view (q.given names)) {m : Option α}
    (hm : p.agree read same names = .ok m) :
    ∃ n, q.agree read same names = .ok n ∧
      (m.map f).map coarsen = (n.map f).map coarsen := by
  have hmeans : Means view (p.given names) (m.map f) := (agree_means_iff hsees).mp ⟨m, hm, rfl⟩
  have hcoarse := hmatches.means halike (hmeans.map coarsen)
  have hseen : ∀ w ∈ q.given names, (view w).isSome = true := by
    intro w hw
    rw [← Option.isSome_map (f := Option.map coarsen)]
    rcases hcoarse.agreed w hw with hnone | hsome
    · rw [hnone]
      rfl
    · rw [hsome]
      rfl
  obtain ⟨k, hk⟩ := exists_means hseen (hagreed hmeans.agreedOn)
  obtain ⟨n, hn, rfl⟩ := (agree_means_iff hsees).mpr hk
  exact ⟨n, hn, hcoarse.unique (hk.map coarsen)⟩

/-- Spellings that match up to a coarser meaning, and agree in both params or in neither, are read
with one coarser meaning. -/
theorem sameEnd_agree (hsees : Sees read same f view) (coarsen : β → γ)
    {alike : Json → Json → Prop}
    (halike : ∀ v w, alike v w →
      (view v).map (Option.map coarsen) = (view w).map (Option.map coarsen))
    (hmatches : Matches alike (p.given names) (q.given names))
    (hagreed : Agreed view (p.given names) ↔ Agreed view (q.given names)) :
    SameEnd (fun m n => (m.map f).map coarsen = (n.map f).map coarsen) (fun _ _ => True)
      (p.agree read same names) (q.agree read same names) := by
  apply SameEnd.of_exists_ok
  · intro m hm
    exact exists_agree hsees coarsen halike hmatches hagreed.mp hm
  · intro n hn
    obtain ⟨m, hm, -⟩ := exists_agree hsees coarsen (fun w v h => (halike v w h).symm)
      hmatches.flip hagreed.mpr hn
    exact ⟨m, hm⟩

/-- Spellings that match up to what is compared are read as the same. -/
theorem sameEnd_agree_of_view_eq (hsees : Sees read same f view) {alike : Json → Json → Prop}
    (halike : ∀ v w, alike v w → view v = view w)
    (hmatches : Matches alike (p.given names) (q.given names)) :
    SameEnd (fun m n => m.map f = n.map f) (fun _ _ => True) (p.agree read same names)
      (q.agree read same names) := by
  have hagreed : Agreed view (p.given names) ↔ Agreed view (q.given names) :=
    ⟨hmatches.agreed halike, hmatches.flip.agreed fun w v h => (halike v w h).symm⟩
  have hend := sameEnd_agree hsees id
    (fun v w h => congrArg (Option.map (Option.map id)) (halike v w h)) hmatches hagreed
  simpa only [Option.map_id, id_eq] using hend

end Agree

end Params
end Action
end RelayDesk
