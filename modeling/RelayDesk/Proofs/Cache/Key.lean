import RelayDesk.Proofs.Cache.Canonical
import RelayDesk.Proofs.Cache.KeyEnds
import RelayDesk.Proofs.Json.Zones
import RelayDesk.Proofs.Rpc.Method

/-!
A key tells its three parts.  They are joined by bars and nothing is escaped, and both the address
of the node and the params may have bars of their own.  The last bar of the join is found all the
same: a bar further to the right stands inside a string of the params, and what is left behind such
a bar is no text of params.
-/

namespace RelayDesk
namespace Cache

open Json (Readable)
open Rpc (canonicalMethod isKnownMethod)

/-! ## Bars -/

/-- Two joins of the same text are the same, or one of them has its bar further to the left. -/
theorem bar_cases {a b c d : List Char} (h : a ++ '|' :: b = c ++ '|' :: d) :
    (a = c ∧ b = d) ∨ (∃ s, c = a ++ '|' :: s ∧ b = s ++ '|' :: d) ∨
      ∃ s, a = c ++ '|' :: s ∧ d = s ++ '|' :: b := by
  rcases List.append_eq_append_iff.mp h with ⟨s, hc, hb⟩ | ⟨s, ha, hd⟩
  · cases s with
    | nil =>
      rw [List.append_nil] at hc
      exact .inl ⟨hc.symm, (List.cons.inj hb).2⟩
    | cons e s =>
      obtain ⟨rfl, htail⟩ := List.cons.inj hb
      exact .inr (.inl ⟨s, hc, htail⟩)
  · cases s with
    | nil =>
      rw [List.append_nil] at ha
      exact .inl ⟨ha, (List.cons.inj hd).2.symm⟩
    | cons e s =>
      obtain ⟨rfl, htail⟩ := List.cons.inj hd
      exact .inr (.inr ⟨s, ha, htail⟩)

theorem eq_of_join_balanced {a b c d : List Char} (hb : Json.Balanced b) (hd : Json.Balanced d)
    (h : a ++ '|' :: b = c ++ '|' :: d) : a = c ∧ b = d := by
  rcases bar_cases h with heq | ⟨s, -, hs⟩ | ⟨s, -, hs⟩
  · exact heq
  · rw [hs] at hb
    exact absurd hd (Json.not_balanced_behind_bar hb)
  · rw [hs] at hd
    exact absurd hb (Json.not_balanced_behind_bar hd)

theorem eq_of_join_counted {a b c d : List Char} (hcount : b.count '|' = d.count '|')
    (h : a ++ '|' :: b = c ++ '|' :: d) : a = c ∧ b = d := by
  -- Where the bars of the joins stand apart, one of them is counted on one side only.
  rcases bar_cases h with heq | ⟨s, -, hs⟩ | ⟨s, -, hs⟩
  · exact heq
  · rw [hs, List.count_append, List.count_cons_self] at hcount
    omega
  · rw [hs, List.count_append, List.count_cons_self] at hcount
    omega

/-! ## Keys -/

theorem bar_not_mem_canonicalMethod {method : String} (h : isKnownMethod method = true) :
    '|' ∉ (canonicalMethod method).toList := by
  have hplain : ∀ m ∈ Rpc.knownMethods, '|' ∉ m.1.toList := by decide
  obtain ⟨m, hm⟩ := Option.isSome_iff_exists.mp h
  rw [Rpc.canonicalMethod_of_known hm]
  exact hplain m (Rpc.mem_knownMethods_of_method? hm)

section Parts

variable {u₁ u₂ m₁ m₂ p₁ p₂ : String}

/-- Whatever bars there are, the params of a key are told from what stands before them. -/
theorem front_of_joinKey_eq (hp₁ : Json.Balanced p₁.toList) (hp₂ : Json.Balanced p₂.toList)
    (h : joinKey u₁ m₁ p₁ = joinKey u₂ m₂ p₂) :
    (normalizeUrl u₁).toList ++ '|' :: (canonicalMethod m₁).toList =
        (normalizeUrl u₂).toList ++ '|' :: (canonicalMethod m₂).toList ∧ p₁ = p₂ := by
  have hlist := congrArg String.toList h
  rw [toList_joinKey, toList_joinKey] at hlist
  obtain ⟨hfront, hparams⟩ := eq_of_join_balanced hp₁ hp₂ hlist
  exact ⟨hfront, String.toList_inj.mp hparams⟩

/-- Methods with equally many bars are told from the addresses before them. -/
theorem eq_of_front_eq
    (hcount : (canonicalMethod m₁).toList.count '|' = (canonicalMethod m₂).toList.count '|')
    (h : (normalizeUrl u₁).toList ++ '|' :: (canonicalMethod m₁).toList =
      (normalizeUrl u₂).toList ++ '|' :: (canonicalMethod m₂).toList) :
    normalizeUrl u₁ = normalizeUrl u₂ ∧ canonicalMethod m₁ = canonicalMethod m₂ := by
  obtain ⟨hurl, hmethod⟩ := eq_of_join_counted hcount h
  exact ⟨String.toList_inj.mp hurl, String.toList_inj.mp hmethod⟩

theorem eq_of_joinKey_eq (hm₁ : '|' ∉ (canonicalMethod m₁).toList)
    (hm₂ : '|' ∉ (canonicalMethod m₂).toList) (hp₁ : Json.Balanced p₁.toList)
    (hp₂ : Json.Balanced p₂.toList) (h : joinKey u₁ m₁ p₁ = joinKey u₂ m₂ p₂) :
    normalizeUrl u₁ = normalizeUrl u₂ ∧ canonicalMethod m₁ = canonicalMethod m₂ ∧ p₁ = p₂ := by
  have hcount :=
    (List.count_eq_zero_of_not_mem hm₁).trans (List.count_eq_zero_of_not_mem hm₂).symm
  obtain ⟨hfront, hparams⟩ := front_of_joinKey_eq hp₁ hp₂ h
  obtain ⟨hurl, hmethod⟩ := eq_of_front_eq hcount hfront
  exact ⟨hurl, hmethod, hparams⟩

end Parts

theorem balanced_canonicalText {depth : Nat} {p : Json} (h : Readable depth p) :
    Json.Balanced (canonicalText p).toList := by
  unfold canonicalText
  rw [String.toList_ofList, canonicalChars_eq h]
  exact Json.balanced_chars (readable_lowerAddresses h)

/-- Two calls have one key exactly when they agree in address, method and params, up to what a key
leaves out.  Bars in the address or inside the params do no harm, and no known method has one. -/
theorem keyOfValue_eq_iff :
    (∀ method, isKnownMethod method = true → '|' ∉ (canonicalMethod method).toList) ∧
      ∀ (u₁ u₂ m₁ m₂ t₁ t₂ : String) (p₁ p₂ : Json), Json.read t₁ = .ok p₁ →
        Json.read t₂ = .ok p₂ → '|' ∉ (canonicalMethod m₁).toList →
        '|' ∉ (canonicalMethod m₂).toList →
        (keyOfValue u₁ m₁ p₁ = keyOfValue u₂ m₂ p₂ ↔
          normalizeUrl u₁ = normalizeUrl u₂ ∧ canonicalMethod m₁ = canonicalMethod m₂ ∧
            lowerAddresses p₁ = lowerAddresses p₂) := by
  refine ⟨fun method h => bar_not_mem_canonicalMethod h, ?_⟩
  intro u₁ u₂ m₁ m₂ t₁ t₂ p₁ p₂ ht₁ ht₂ hm₁ hm₂
  have hp₁ := Json.readable_of_read ht₁
  have hp₂ := Json.readable_of_read ht₂
  constructor
  · intro h
    obtain ⟨hurl, hmethod, htext⟩ := eq_of_joinKey_eq hm₁ hm₂ (balanced_canonicalText hp₁)
      (balanced_canonicalText hp₂) h
    exact ⟨hurl, hmethod, (canonicalText_eq_iff hp₁ hp₂).mp htext⟩
  · rintro ⟨hurl, hmethod, hparams⟩
    have htext := (canonicalText_eq_iff hp₁ hp₂).mpr hparams
    unfold keyOfValue joinKey
    rw [hurl, hmethod, htext]

/-- One call has a key inside its params, the other the beginning of those params inside its
address; up to the closing quote and bracket their keys are spelled alike. -/
theorem bar_in_url_keeps_keys_apart :
    Json.read "[\"x|eth_chainId|[]\"]" = .ok (.arr [.str "x|eth_chainId|[]"]) ∧
      Json.read "[]" = .ok (.arr []) ∧ '|' ∉ (canonicalMethod "eth_chainId").toList ∧
      keyOfValue "u" "eth_chainId" (.arr [.str "x|eth_chainId|[]"]) ≠
        keyOfValue "u|eth_chainId|[\"x" "eth_chainId" (.arr []) := by
  have hlong : Json.read "[\"x|eth_chainId|[]\"]" = .ok (.arr [.str "x|eth_chainId|[]"]) := by cbv
  have hshort : Json.read "[]" = .ok (.arr []) := by cbv
  have hmethod := keyOfValue_eq_iff.1 "eth_chainId" (by decide)
  refine ⟨hlong, hshort, hmethod, fun h => ?_⟩
  obtain ⟨hurl, -, -⟩ :=
    (keyOfValue_eq_iff.2 _ _ _ _ _ _ _ _ hlong hshort hmethod hmethod).mp h
  exact absurd hurl (by decide)

end Cache
end RelayDesk
