import RelayDesk.Cache.Call
import RelayDesk.Proofs.Rpc.Method

/-!
Policies and spellings.  The spelling of a method in keys decides everything else about it: whether
it is in the table, under which policy its answers are kept, and, for a method of the table, what is
sent.  A spelling in keys is one of the spellings of its method, so taking it again changes nothing.
-/

namespace RelayDesk
namespace Rpc

variable {a b spelling : String}

theorem listed_of_mem_methodAliases : ∀ a ∈ methodAliases, ∃ m ∈ knownMethods, m.1 = a.2 := by
  decide +kernel

/-- A spelling is known by a name of the table or by an alias, and every alias leads into the
table. -/
theorem isKnownMethod_iff : isKnownMethod spelling = true ↔
    (∃ m ∈ knownMethods, Text.asciiLower m.1 = Text.fold spelling) ∨
      ∃ a ∈ methodAliases, a.1 = Text.fold spelling := by
  unfold isKnownMethod method? methodOfFolded?
  constructor
  · intro hknown
    split at hknown
    · next m hname =>
      have hm := List.mem_of_find?_eq_some hname
      have hfold : Text.lower m.1 = Text.fold spelling := by simpa using List.find?_some hname
      exact .inl ⟨m, hm, (Text.lower_of_isAscii (isAscii_name m hm)).symm.trans hfold⟩
    · split at hknown
      · next a halias =>
        exact .inr ⟨a, List.mem_of_find?_eq_some halias, by simpa using List.find?_some halias⟩
      · cases hknown
  · intro hlisted
    split
    · rfl
    · next hname =>
      rcases hlisted with ⟨m, hm, hfold⟩ | ⟨a, ha, hfold⟩
      · rw [← Text.lower_of_isAscii (isAscii_name m hm)] at hfold
        exact absurd (beq_iff_eq.mpr hfold) (List.find?_eq_none.mp hname m hm)
      · split
        · next a' halias =>
          obtain ⟨m, hm, hsame⟩ :=
            listed_of_mem_methodAliases a' (List.mem_of_find?_eq_some halias)
          exact List.find?_isSome.mpr ⟨m, hm, beq_iff_eq.mpr hsame⟩
        · next halias =>
          exact absurd (beq_iff_eq.mpr hfold) (List.find?_eq_none.mp halias a ha)

/-- What two spellings of one method have in common. -/
structure SpellsAlike (a b : String) : Prop where
  known : isKnownMethod a = isKnownMethod b
  policy : policyOf a = policyOf b
  sent : isKnownMethod a = true → wireMethod a = wireMethod b

theorem spellsAlike_of_canonicalMethod_eq (h : canonicalMethod a = canonicalMethod b) :
    SpellsAlike a b where
  known := congrArg Option.isSome (method?_eq_of_canonicalMethod_eq h)
  policy := by
    unfold policyOf
    rw [method?_eq_of_canonicalMethod_eq h]
  sent := wireMethod_eq_of_known h

end Rpc

namespace Cache

open Rpc (SpellsAlike canonicalMethod spellsAlike_of_canonicalMethod_eq)

/-- A call runs under one policy in all spellings of its method that look alike in keys. -/
theorem Call.policy_of_canonicalMethod_eq {c d : Call}
    (h : canonicalMethod c.method = canonicalMethod d.method) (config : Config) :
    ({ c with method := d.method } : Call).policy config = c.policy config := by
  unfold policy
  rw [(spellsAlike_of_canonicalMethod_eq h).policy]

/-- The spelling in keys is a normal form.  It decides whether a method is known, under which policy
calls to it run, and, for a method of the table, how it is sent. -/
theorem spelling_in_keys_decides :
    (∀ a, canonicalMethod (canonicalMethod a) = canonicalMethod a ∧
      SpellsAlike a (canonicalMethod a)) ∧
    (∀ a b, canonicalMethod a = canonicalMethod b → SpellsAlike a b) ∧
    ∀ c d : Call, canonicalMethod c.method = canonicalMethod d.method →
      ∀ config, ({ c with method := d.method } : Call).policy config = c.policy config := by
  have hnormal := Rpc.canonicalMethod_canonicalMethod
  exact ⟨fun a => ⟨hnormal a, spellsAlike_of_canonicalMethod_eq (hnormal a).symm⟩,
    fun a b => spellsAlike_of_canonicalMethod_eq, fun c d => Call.policy_of_canonicalMethod_eq⟩

/-- The Kelvin sign is a `k` in lowercase, so this is a spelling of an alias. -/
theorem kelvin_spelling_decided :
    canonicalMethod " BLOC\u212A_NUMBER" = canonicalMethod "block_number" ∧
      Rpc.isKnownMethod " BLOC\u212A_NUMBER" = true ∧
      Rpc.policyOf " BLOC\u212A_NUMBER" = Rpc.policyOf "block_number" ∧
      Rpc.wireMethod " BLOC\u212A_NUMBER" = Rpc.wireMethod "block_number" := by
  have hkelvin : Text.fold " BLOC\u212A_NUMBER" = "block_number" := by decide +kernel
  have halias : Text.fold "block_number" = "block_number" := by decide +kernel
  have hsame := Rpc.canonicalMethod_eq_of_fold_eq (hkelvin.trans halias.symm)
  have hknown : Rpc.isKnownMethod " BLOC\u212A_NUMBER" = true :=
    Rpc.isKnownMethod_iff.mpr
      (.inr ⟨("block_number", "eth_blockNumber"), by decide, hkelvin.symm⟩)
  have halike := spelling_in_keys_decides.2.1 _ _ hsame
  exact ⟨hsame, hknown, halike.policy, halike.sent hknown⟩

end Cache
end RelayDesk
