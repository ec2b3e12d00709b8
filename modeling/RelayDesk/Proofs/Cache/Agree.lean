import RelayDesk.Proofs.Cache.Execute

/-!
Stores that stand in for one another.  A relation between the stores of two types that answers
alike and is kept by puts, for the keys and the records that matter, is kept by calls too, and a
call comes to the same over both.
-/

namespace RelayDesk
namespace Cache

/-- Related stores find the same under each of the keys, and stay related when one of the records
is put into both. -/
structure Agree {σ τ : Type} [Store σ] [Store τ] (related : σ → τ → Prop) (keys : String → Prop)
    (records : Record → Prop) : Prop where
  get : ∀ {s t key}, related s t → keys key → Store.get s key = Store.get t key
  put : ∀ {s t record}, related s t → keys record.key → records record →
    ∃ s' t', Store.put s record = .ok s' ∧ Store.put t record = .ok t' ∧ related s' t'

namespace Relay

section

variable {σ τ : Type}

/-- Relays that differ in their stores at most, and those are related. -/
structure Like (related : σ → τ → Prop) (r : Relay σ) (q : Relay τ) : Prop where
  store : related r.store q.store
  nextId : r.nextId = q.nextId
  sent : r.sent = q.sent

variable {related : σ → τ → Prop} {r : Relay σ} {q : Relay τ}

theorem like_start {s : σ} {t : τ} (h : related s t) : Like related (.start s) (.start t) :=
  ⟨h, rfl, rfl⟩

theorem Like.clean (h : Like related r q) : Like related r.clean q.clean :=
  ⟨h.store, h.nextId, rfl⟩

theorem Like.post (h : Like related r q) (call : Call) :
    Like related (r.post call) (q.post call) where
  store := h.store
  nextId := congrArg (· + 1) h.nextId
  sent := by rw [post_sent, post_sent, h.nextId, h.sent]

end

variable {σ τ : Type} [Store σ] [Store τ] {related : σ → τ → Prop} {keys : String → Prop}
  {records : Record → Prop} {r : Relay σ} {q : Relay τ}

theorem Like.load_eq (h : Like related r q) (hagree : Agree related keys records) {key : String}
    (hkey : keys key) : r.load key = q.load key := by
  unfold load
  rw [hagree.get h.store hkey]

theorem Like.keep (h : Like related r q) (hagree : Agree related keys records) {record : Record}
    (hkey : keys record.key) (hrecord : records record) :
    Like related (r.keep record) (q.keep record) := by
  obtain ⟨s, t, hs, ht, hrelated⟩ := hagree.put h.store hkey hrecord
  unfold Relay.keep
  rw [hs, ht]
  exact ⟨hrelated, h.nextId, h.sent⟩

theorem Like.settle (h : Like related r q) (hagree : Agree related keys records) {config : Config}
    {x : Attempt} (hkey : keys x.call.key) (hkept : ∀ result, records (keptRecord config x result))
    (cached : Option (Record × String)) :
    (r.settle config x.call cached x.now x.answer).1 =
        (q.settle config x.call cached x.now x.answer).1 ∧
      Like related (r.settle config x.call cached x.now x.answer).2
        (q.settle config x.call cached x.now x.answer).2 := by
  unfold Relay.settle
  cases x.answer.result with
  | ok result => exact ⟨rfl, h.keep hagree hkey (hkept result)⟩
  | error failure =>
    cases cached with
    | none => exact ⟨rfl, h⟩
    | some found =>
      dsimp only
      split
      · exact ⟨rfl, h⟩
      · exact ⟨rfl, h⟩

/-- A call comes to the same over both stores, and leaves them related. -/
theorem Like.execute (h : Like related r q) (hagree : Agree related keys records) {config : Config}
    {x : Attempt} (hkey : keys x.call.key)
    (hkept : ∀ result, records (keptRecord config x result)) :
    (r.execute config x.call x.now x.answer).1 = (q.execute config x.call x.now x.answer).1 ∧
      Like related (r.execute config x.call x.now x.answer).2
        (q.execute config x.call x.now x.answer).2 := by
  have hposted := (h.post x.call).settle hagree hkey hkept
  unfold Relay.execute
  rw [h.load_eq hagree hkey]
  cases q.load x.call.key with
  | none => exact hposted none
  | some found =>
    dsimp only
    split
    · exact ⟨rfl, h⟩
    · exact hposted (some found)

end Relay
end Cache
end RelayDesk
