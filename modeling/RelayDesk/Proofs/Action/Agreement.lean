import RelayDesk.Proofs.Action.Writes
import RelayDesk.Proofs.Cache.Agree

/-!
Sessions over stores that stand in for one another.  What a step reads and writes is read off the
step and the desk that it finds, before anything is run.  As long as all of that is among the keys
and the records for which two stores agree, a session gives the same reports over both.
-/

namespace RelayDesk
namespace Action

open Cache (Agree Record Relay Store)

/-! ## What a session touches -/

/-- The key that a step looks up without writing, if it looks one up. -/
def Step.lookup? (d : Desk) : Step → Option String
  | .get key _ => some key
  | .dispatch request _ _ => d.lookup? request
  | _ => none

/-- The key under which a step at a desk reads or writes, if there is one. -/
def Step.key? (d : Desk) (st : Step) : Option String :=
  match st.effect d with
  | .attempt x => some x.call.key
  | .put w => some w.key
  | .nothing => st.lookup? d

/-- The records that a step at a desk may put.  Which result a call keeps is up to the answer that
it gets. -/
def Step.MayPut (d : Desk) (st : Step) (record : Record) : Prop :=
  match st.effect d with
  | .attempt x => ∃ result, record = Relay.keptRecord d.config x result
  | .put w => record = w.record
  | .nothing => False

/-- The desk that a step leaves. -/
def Desk.after (d : Desk) : Step → Desk
  | .configure config blocked => { d with config, blocked }
  | _ => d

/-- The steps of a session, each with the desk that it finds. -/
def Desk.visits (d : Desk) : List Step → List (Desk × Step)
  | [] => []
  | st :: rest => (d, st) :: (d.after st).visits rest

theorem mem_steps_of_mem_visits {d : Desk} {steps : List Step} {v : Desk × Step}
    (h : v ∈ d.visits steps) : v.2 ∈ steps := by
  induction steps generalizing d with
  | nil => cases h
  | cons st rest ih =>
    rcases List.mem_cons.mp h with rfl | h
    · exact List.mem_cons_self
    · exact List.mem_cons_of_mem _ (ih h)

theorem mem_visits_of_isPrefix {d : Desk} {before steps : List Step} (h : before <+: steps)
    {v : Desk × Step} (hv : v ∈ d.visits before) : v ∈ d.visits steps := by
  obtain ⟨later, rfl⟩ := h
  induction before generalizing d with
  | nil => cases hv
  | cons st rest ih =>
    rcases List.mem_cons.mp hv with rfl | hv
    · exact List.mem_cons_self
    · exact List.mem_cons_of_mem _ (ih hv)

namespace Session

theorem desk_step_eq_after {σ : Type} [Store σ] (s : Session σ) (st : Step) :
    (s.step st).2.desk = s.desk.after st := by
  cases st with
  | configure config blocked => rfl
  | _ => exact desk_step nofun

/-! ## Steps -/

/-- Sessions at one desk that differ in their stores at most, and those are related. -/
structure Like {σ τ : Type} (related : σ → τ → Prop) (s : Session σ) (t : Session τ) : Prop where
  desk : s.desk = t.desk
  relay : Relay.Like related s.relay t.relay

variable {σ τ : Type} [Store σ] [Store τ] {related : σ → τ → Prop} {keys : String → Prop}
  {records : Record → Prop} {s : Session σ} {t : Session τ}

theorem Like.step_of_nothing (h : Like related s t) (hagree : Agree related keys records)
    {st : Step} (hnothing : st.effect s.desk = .nothing)
    (hkey : ∀ key ∈ st.lookup? s.desk, keys key) :
    (s.step st).1 = (t.step st).1 ∧ Like related (s.step st).2 (t.step st).2 := by
  obtain ⟨d, r⟩ := s
  obtain ⟨_, q⟩ := t
  obtain ⟨rfl, hrelay⟩ := h
  cases st with
  | call c now answer => cases hnothing
  | dispatch request now answer =>
    have hdesk : d.effect request now answer = .nothing := hnothing
    obtain ⟨respond, hrespond⟩ := Desk.run_of_nothing hdesk
    have hfound : (d.lookup? request).map (Store.get r.clean.store) =
        (d.lookup? request).map (Store.get q.clean.store) :=
      Option.map_congr fun key hlookup => hagree.get hrelay.store (hkey key hlookup)
    simp only [step_dispatch, hrespond, hfound]
    exact ⟨rfl, rfl, hrelay.clean⟩
  | put key value ttlSeconds now => cases hnothing
  | get key now =>
    have hfound : Store.get r.store key = Store.get q.store key :=
      hagree.get hrelay.store (hkey key rfl)
    refine ⟨?_, rfl, hrelay.clean⟩
    simp only [step, perform, hfound]
  | configure config blocked => exact ⟨rfl, rfl, Relay.like_start hrelay.store⟩

/-- A step reports the same over both stores, and leaves them related. -/
theorem Like.step (h : Like related s t) (hagree : Agree related keys records) {st : Step}
    (hkey : ∀ key ∈ st.key? s.desk, keys key)
    (hrecord : ∀ record, st.MayPut s.desk record → records record) :
    (s.step st).1 = (t.step st).1 ∧ Like related (s.step st).2 (t.step st).2 := by
  unfold Step.key? at hkey
  unfold Step.MayPut at hrecord
  cases heffect : st.effect s.desk with
  | attempt x =>
    rw [heffect] at hkey hrecord
    have hother : st.effect t.desk = .attempt x := h.desk ▸ heffect
    have hcall := h.relay.clean.execute hagree (hkey _ rfl) fun result => hrecord _ ⟨result, rfl⟩
    rw [step_of_attempt heffect, step_of_attempt hother]
    unfold attempt
    rw [← h.desk, hcall.1, hcall.2.sent]
    exact ⟨rfl, rfl, hcall.2⟩
  | put w =>
    rw [heffect] at hkey hrecord
    have hother : st.effect t.desk = .put w := h.desk ▸ heffect
    obtain ⟨_, _, hs, ht, hrelated⟩ := hagree.put h.relay.store (hkey _ rfl) (hrecord _ rfl)
    rw [step_of_put heffect hs, step_of_put hother ht]
    exact ⟨rfl, h.desk, hrelated, h.relay.nextId, rfl⟩
  | nothing =>
    rw [heffect] at hkey
    exact h.step_of_nothing hagree heffect hkey

/-! ## Runs -/

/-- A session that keeps to the keys and the records for which two stores agree gives the same
reports over both. -/
theorem Like.run (h : Like related s t) (hagree : Agree related keys records) {steps : List Step}
    (hkeys : ∀ v ∈ s.desk.visits steps, ∀ key ∈ v.2.key? v.1, keys key)
    (hrecords : ∀ v ∈ s.desk.visits steps, ∀ record, v.2.MayPut v.1 record → records record) :
    (s.run steps).1 = (t.run steps).1 ∧ Like related (s.run steps).2 (t.run steps).2 := by
  induction steps generalizing s t with
  | nil => exact ⟨rfl, h⟩
  | cons st rest ih =>
    have hfirst : (s.desk, st) ∈ s.desk.visits (st :: rest) := List.mem_cons_self
    have hkey : ∀ key ∈ st.key? s.desk, keys key := hkeys _ hfirst
    have hrecord : ∀ record, st.MayPut s.desk record → records record := hrecords _ hfirst
    obtain ⟨hreport, hlike⟩ := h.step hagree hkey hrecord
    have hrest : ∀ v ∈ (s.step st).2.desk.visits rest, v ∈ s.desk.visits (st :: rest) := by
      rw [desk_step_eq_after]
      exact fun v hv => List.mem_cons_of_mem _ hv
    obtain ⟨hreports, hend⟩ := ih hlike (fun v hv => hkeys v (hrest v hv))
      (fun v hv => hrecords v (hrest v hv))
    refine ⟨?_, hend⟩
    show (s.step st).1 :: ((s.step st).2.run rest).1 = (t.step st).1 :: ((t.step st).2.run rest).1
    rw [hreport, hreports]

end Session
end Action
end RelayDesk
