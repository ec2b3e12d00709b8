import Mathlib.Algebra.Ring.Int.Defs
import Mathlib.Tactic.SplitIfs
import RelayDesk.Proofs.Cache.Execute

/-!
Expiry in words of 64 bits.  A time is a signed word and a length of time an unsigned one, so a sum
of the two may pass the last time that can be told.  The expiry stays there instead, and the windows
in which a record is fresh, or may stand in for a failed call, never reach past the exact sum.
-/

namespace RelayDesk
namespace Cache

/-! ## Words -/

/-- A length of time as a signed word.  One that has no such word is cut to the largest. -/
def wordOfSeconds (seconds : UInt64) : Int64 :=
  if seconds.toNat ≤ Number.maxSigned then .ofNat seconds.toNat else .maxValue

/-- The time `seconds` after `base` in words, whose sum wraps around.  Nothing negative is added, so
a sum below the base is one that has wrapped. -/
def wordExpiry (base : Int64) (seconds : UInt64) : Int64 :=
  let sum := base + wordOfSeconds seconds
  if sum < base then .maxValue else sum

theorem toInt_wordOfSeconds (seconds : UInt64) :
    (wordOfSeconds seconds).toInt = min (seconds.toNat : Int) maxTime := by
  have hmax : maxTime = 2 ^ 63 - 1 := rfl
  have hsigned : Number.maxSigned = 2 ^ 63 - 1 := rfl
  unfold wordOfSeconds
  by_cases hfits : seconds.toNat ≤ Number.maxSigned
  · rw [if_pos hfits, Int64.toInt_ofNat_of_lt (by omega)]
    omega
  · rw [if_neg hfits, Int64.toInt_maxValue]
    omega

/-- A sum to which nothing negative is added wraps once, if at all. -/
theorem toInt_add_of_nonneg (a : Int64) {b : Int64} (hb : 0 ≤ b.toInt) :
    (a + b).toInt = if a.toInt + b.toInt < 2 ^ 63 then a.toInt + b.toInt
      else a.toInt + b.toInt - 2 ^ 64 := by
  have hlow := a.le_toInt
  have hhigh := a.toInt_lt
  have hadded := b.toInt_lt
  rw [Int64.toInt_add, Int.bmod_def]
  split_ifs <;> omega

/-- Words give the exact expiry. -/
theorem toInt_wordExpiry (base : Int64) (seconds : UInt64) :
    (wordExpiry base seconds).toInt = expiry base.toInt seconds.toNat := by
  have hmax : maxTime = 2 ^ 63 - 1 := rfl
  have hadded := toInt_wordOfSeconds seconds
  have hsum := toInt_add_of_nonneg base (b := wordOfSeconds seconds) (by omega)
  have hlow := base.le_toInt
  have hhigh := base.toInt_lt
  unfold wordExpiry expiry
  rw [← hadded]
  by_cases hwrapped : base + wordOfSeconds seconds < base
  · have hbelow := Int64.lt_iff_toInt_lt.mp hwrapped
    rw [if_pos hwrapped, Int64.toInt_maxValue]
    split_ifs at hsum <;> omega
  · have habove : ¬ (base + wordOfSeconds seconds).toInt < base.toInt := fun hbelow =>
      hwrapped (Int64.lt_iff_toInt_lt.mpr hbelow)
    rw [if_neg hwrapped]
    split_ifs at hsum <;> omega

/-! ## Times -/

/-- A time that can be told. -/
def IsTime (time : Int) : Prop := minTime ≤ time ∧ time ≤ maxTime

theorem isTime_toInt (word : Int64) : IsTime word.toInt := by
  have hmax : maxTime = 2 ^ 63 - 1 := rfl
  have hmin : minTime = -2 ^ 63 := rfl
  have hlow := word.le_toInt
  have hhigh := word.toInt_lt
  constructor
  · omega
  · omega

/-- An expiry between its base and the exact sum, and at the sum wherever words can tell it. -/
structure IsExpiry (base : Int) (seconds : Nat) (expiry : Int) : Prop where
  isTime : IsTime expiry
  base_le : base ≤ expiry
  le_sum : expiry ≤ base + seconds
  eq_min : 0 ≤ base ∨ (seconds : Int) ≤ maxTime → expiry = min (base + seconds) maxTime

theorem isExpiry_expiry {base : Int} (hbase : IsTime base) (seconds : Nat) :
    IsExpiry base seconds (expiry base seconds) := by
  obtain ⟨hmin, hmax⟩ := hbase
  have hzero : 0 ≤ maxTime := by decide
  unfold expiry
  constructor
  · constructor <;> omega
  · omega
  · omega
  · intro hexact
    omega

theorem expiry_mono {base base' : Int} {seconds seconds' : Nat} (hbase : base ≤ base')
    (hseconds : seconds ≤ seconds') : expiry base seconds ≤ expiry base' seconds' := by
  unfold expiry
  omega

/-! ## Windows -/

/-- A window that closes once and for all, and the later the longer it is. -/
structure IsWindow (isOpen : Int → Nat → Bool) : Prop where
  earlier : ∀ {now before length}, before ≤ now → isOpen now length = true →
    isOpen before length = true
  longer : ∀ {now length length'}, length ≤ length' → isOpen now length = true →
    isOpen now length' = true

theorem isWindow_of_mono {closing : Nat → Int}
    (hmono : ∀ {length length'}, length ≤ length' → closing length ≤ closing length') :
    IsWindow fun now length => decide (now ≤ closing length) where
  earlier hbefore h := decide_eq_true (Int.le_trans hbefore (of_decide_eq_true h))
  longer hlength h := decide_eq_true (Int.le_trans (of_decide_eq_true h) (hmono hlength))

variable (key : String) (value : Json)

theorem isWindow_fresh (base : Int) :
    IsWindow fun now ttl => (Record.write key value ttl base).isFresh now :=
  isWindow_of_mono fun h => expiry_mono (Int.le_refl base) h

theorem isWindow_stale (r : Record) : IsWindow r.isWithinWindow :=
  isWindow_of_mono fun h => expiry_mono (Int.le_refl r.expiresAt) h

/-- A record that is kept for longer may stand in for longer. -/
theorem isWindow_kept (base : Int) (maxStale : Nat) :
    IsWindow fun now ttl => (Record.write key value ttl base).isWithinWindow now maxStale :=
  isWindow_of_mono fun h =>
    expiry_mono (expiry_mono (Int.le_refl base) h) (Nat.le_refl maxStale)

theorem isWithinWindow_of_isFresh {r : Record} (hexpiry : IsTime r.expiresAt) {now : Int}
    (h : r.isFresh now = true) (maxStale : Nat) : r.isWithinWindow now maxStale = true := by
  have hnow : now ≤ r.expiresAt := of_decide_eq_true h
  exact decide_eq_true (Int.le_trans hnow (isExpiry_expiry hexpiry maxStale).base_le)

/-- Times and lengths of time are words, and an expiry is computed from them without wrapping; it is
never before its base, never past the exact sum, and is that sum up to the last time wherever the
words can tell it.  So a record is fresh, or may stand in, no later than exact sums allow.  A fresh
record is within every window, and windows stay shut once they have closed and grow with the lengths
of time asked for. -/
theorem windows_exact :
    (∀ (base : Int64) (seconds : UInt64),
      (wordExpiry base seconds).toInt = expiry base.toInt seconds.toNat ∧
      IsExpiry base.toInt seconds.toNat (expiry base.toInt seconds.toNat)) ∧
    ∀ (key : String) (value : Json) (base now : Int64) (ttl maxStale : UInt64),
      let r := Record.write key value ttl.toNat base.toInt
      (r.isFresh now.toInt = true ↔ now ≤ wordExpiry base ttl) ∧
      (r.isWithinWindow now.toInt maxStale.toNat = true ↔
        now ≤ wordExpiry (wordExpiry base ttl) maxStale) ∧
      (r.isFresh now.toInt = true → ∀ length, r.isWithinWindow now.toInt length = true) ∧
      IsWindow (fun now ttl => (Record.write key value ttl base.toInt).isFresh now) ∧
      IsWindow (fun now ttl =>
        (Record.write key value ttl base.toInt).isWithinWindow now maxStale.toNat) ∧
      IsWindow r.isWithinWindow ∧
      (r.isFresh now.toInt = true → now.toInt ≤ base.toInt + ttl.toNat) ∧
      (r.isWithinWindow now.toInt maxStale.toNat = true →
        now.toInt ≤ base.toInt + ttl.toNat + maxStale.toNat) := by
  refine ⟨fun base seconds => ⟨toInt_wordExpiry base seconds,
    isExpiry_expiry (isTime_toInt base) seconds.toNat⟩, fun key value base now ttl maxStale => ?_⟩
  have hexpiry := toInt_wordExpiry base ttl
  have hclosing := toInt_wordExpiry (wordExpiry base ttl) maxStale
  have htime : IsTime (expiry base.toInt ttl.toNat) :=
    (isExpiry_expiry (isTime_toInt base) ttl.toNat).isTime
  rw [hexpiry] at hclosing
  refine ⟨?_, ?_, fun hfresh length => isWithinWindow_of_isFresh htime hfresh length,
    isWindow_fresh key value base.toInt, isWindow_kept key value base.toInt maxStale.toNat,
    isWindow_stale _, Record.le_of_isFresh_write, Record.le_of_isWithinWindow_write⟩
  · rw [Int64.le_iff_toInt_le, hexpiry]
    exact decide_eq_true_iff
  · rw [Int64.le_iff_toInt_le, hclosing]
    exact decide_eq_true_iff

end Cache
end RelayDesk
