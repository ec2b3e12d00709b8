import RelayDesk.Cache.Call
import RelayDesk.Proofs.Cache.Key

/-!
What calls of one key ask.  A key that a call does not name itself is derived from its address,
method and params, and calls that share such a key send requests that ask the same: to one address
up to blanks and slashes at its ends, for one method, with one list of params up to the case of
account addresses.  Methods outside the table lose the case of their letters in a key and keep it
on the way to the node.  A bar inside a method can be taken for the one before it; no method of the
table has one.
-/

namespace RelayDesk
namespace Cache

open Json (Readable)

namespace Call

/-- The call names no key of its own, and its params are a value. -/
structure HasDerivedKey (c : Call) : Prop where
  unnamed : ∀ key ∈ c.cacheKey, Text.trim key = ""
  params : ∃ depth, Readable depth c.params

/-- The request under an id, and where it is sent. -/
def asked (c : Call) (id : Nat) : Post := { url := c.url, request := c.request id }

@[simp] theorem asked_url (c : Call) (id : Nat) : (c.asked id).url = c.url := rfl

@[simp] theorem asked_method (c : Call) (id : Nat) :
    (c.asked id).request.method = Rpc.wireMethod c.method := by
  simp only [asked, request, Rpc.Request.numbered]

@[simp] theorem asked_params (c : Call) (id : Nat) :
    (c.asked id).request.params = c.sentParams := rfl

/-- The address and the method, as a key begins with them. -/
def front (c : Call) : List Char :=
  (normalizeUrl c.url).toList ++ '|' :: (Rpc.canonicalMethod c.method).toList

/-- How many bars the method has in a key. -/
def bars (c : Call) : Nat := (Rpc.canonicalMethod c.method).toList.count '|'

theorem bars_of_known {c : Call} (h : Rpc.isKnownMethod c.method = true) : c.bars = 0 :=
  List.count_eq_zero_of_not_mem (bar_not_mem_canonicalMethod h)

theorem key_of_derived {c : Call} (h : c.HasDerivedKey) :
    c.key = joinKey c.url c.method (canonicalText c.params) := by
  unfold key
  cases hkey : c.cacheKey with
  | none => rfl
  | some named =>
    have hblank := h.unnamed named hkey
    simp only [Option.map_some, hblank]
    rfl

/-- Derived keys are the same when they begin alike and the params are the same up to the case of
account addresses, and not otherwise. -/
theorem key_eq_iff {c d : Call} (hc : c.HasDerivedKey) (hd : d.HasDerivedKey) :
    c.key = d.key ↔ c.front = d.front ∧ lowerAddresses c.params = lowerAddresses d.params := by
  obtain ⟨_, hcparams⟩ := hc.params
  obtain ⟨_, hdparams⟩ := hd.params
  rw [key_of_derived hc, key_of_derived hd, ← canonicalText_eq_iff hcparams hdparams]
  unfold front
  constructor
  · intro h
    exact front_of_joinKey_eq (balanced_canonicalText hcparams) (balanced_canonicalText hdparams) h
  · rintro ⟨hfront, htext⟩
    rw [← String.toList_inj, toList_joinKey, toList_joinKey, htext, hfront]

end Call

/-! ## Requests -/

/-- Two requests have the same params, up to the case of account addresses. -/
def SameParams (p q : Post) : Prop :=
  lowerAddresses p.request.params = lowerAddresses q.request.params

/-- Two requests ask a node the same, up to what the keys of their calls leave out. -/
structure SameQuestion (p q : Post) : Prop where
  url : normalizeUrl p.url = normalizeUrl q.url
  /-- A method of the table has one spelling on the way to a node. -/
  method_of_known : Rpc.isKnownMethod p.request.method = true ∨
    Rpc.isKnownMethod q.request.method = true → p.request.method = q.request.method
  /-- Other methods may differ in the case of their letters. -/
  method : Text.lower p.request.method = Text.lower q.request.method
  params : SameParams p q

/-- What two calls have in common in the requests that they send, under whatever ids. -/
structure AskAlike (c d : Call) : Prop where
  params : ∀ i j, SameParams (c.asked i) (d.asked j)
  question : c.bars = d.bars → ∀ i j, SameQuestion (c.asked i) (d.asked j)

theorem lowerAddresses_eq_null_iff {v : Json} : lowerAddresses v = .null ↔ v = .null := by
  cases v <;> simp [lowerAddresses]

variable {c d : Call}

theorem lowerAddresses_sentParams (c : Call) :
    lowerAddresses c.sentParams =
      if lowerAddresses c.params = .null then .arr [] else lowerAddresses c.params := by
  unfold Call.sentParams
  split
  · next hnull =>
    rw [hnull]
    rfl
  · next hne => rw [if_neg (mt lowerAddresses_eq_null_iff.mp hne)]

theorem sameParams_of_key_eq (hc : c.HasDerivedKey) (hd : d.HasDerivedKey) (h : c.key = d.key)
    (i j : Nat) : SameParams (c.asked i) (d.asked j) := by
  unfold SameParams
  rw [Call.asked_params, Call.asked_params, lowerAddresses_sentParams, lowerAddresses_sentParams,
    ((Call.key_eq_iff hc hd).mp h).2]

theorem sameQuestion_of_key_eq (hc : c.HasDerivedKey) (hd : d.HasDerivedKey) (h : c.key = d.key)
    (hbars : c.bars = d.bars) (i j : Nat) : SameQuestion (c.asked i) (d.asked j) := by
  obtain ⟨hurl, hmethod⟩ := eq_of_front_eq hbars ((Call.key_eq_iff hc hd).mp h).1
  constructor
  · rw [Call.asked_url, Call.asked_url, hurl]
  · rw [Call.asked_method, Call.asked_method, Rpc.isKnownMethod_wireMethod,
      Rpc.isKnownMethod_wireMethod]
    rintro (hknown | hknown)
    · exact Rpc.wireMethod_eq_of_known hmethod hknown
    · exact (Rpc.wireMethod_eq_of_known hmethod.symm hknown).symm
  · rw [Call.asked_method, Call.asked_method, Rpc.lower_wireMethod_eq hmethod]
  · exact sameParams_of_key_eq hc hd h i j

theorem askAlike_of_key_eq (hc : c.HasDerivedKey) (hd : d.HasDerivedKey) (h : c.key = d.key) :
    AskAlike c d where
  params := sameParams_of_key_eq hc hd h
  question := sameQuestion_of_key_eq hc hd h

end Cache
end RelayDesk
