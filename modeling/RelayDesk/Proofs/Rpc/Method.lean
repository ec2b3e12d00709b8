import RelayDesk.Proofs.Text.Lowercase
import RelayDesk.Rpc.Method

/-!
The two spellings of a method.  One stands in keys, the other goes to the node.  Methods with one
spelling in keys are one method of the table, and are sent alike, or both are missing from it, and
are sent in spellings that only the case of letters may tell apart.
-/

namespace RelayDesk
namespace Rpc

variable {a b spelling : String} {m : String × Policy}

/-! ## The table -/

theorem mem_knownMethods_of_method? (h : method? spelling = some m) : m ∈ knownMethods := by
  unfold method? methodOfFolded? at h
  split at h
  · next hfind =>
    obtain rfl := Option.some.inj h
    exact List.mem_of_find?_eq_some hfind
  · split at h
    · exact List.mem_of_find?_eq_some h
    · cases h

theorem isAscii_name : ∀ m ∈ knownMethods, Text.isAscii m.1 = true := by decide

theorem trim_name : ∀ m ∈ knownMethods, Text.trim m.1 = m.1 := by decide +kernel

/-- No two names differ in the case of letters only. -/
theorem eq_of_asciiLower_name : ∀ m ∈ knownMethods, ∀ n ∈ knownMethods,
    Text.asciiLower m.1 = Text.asciiLower n.1 → m = n := by
  decide +kernel

theorem methodOfFolded?_lower_name (hm : m ∈ knownMethods) :
    methodOfFolded? (Text.lower m.1) = some m := by
  unfold methodOfFolded?
  cases hfind : knownMethods.find? fun n => Text.lower n.1 == Text.lower m.1 with
  | some n =>
    have hn := List.mem_of_find?_eq_some hfind
    have hsame : Text.lower n.1 = Text.lower m.1 := by simpa using List.find?_some hfind
    rw [Text.lower_of_isAscii (isAscii_name n hn), Text.lower_of_isAscii (isAscii_name m hm)] at hsame
    exact congrArg some (eq_of_asciiLower_name n hn m hm hsame)
  | none => exact absurd (beq_self_eq_true _) (List.find?_eq_none.mp hfind m hm)

/-- The name of a known method means that method. -/
theorem method?_name (hm : m ∈ knownMethods) : method? m.1 = some m := by
  unfold method? Text.fold
  rw [trim_name m hm]
  exact methodOfFolded?_lower_name hm

/-- A spelling that is folded into no folded name and into no alias means no method. -/
theorem method?_eq_none {folded : String} (hfold : Text.fold spelling = folded)
    (hnames : ∀ m ∈ knownMethods, Text.asciiLower m.1 ≠ folded)
    (haliases : ∀ a ∈ methodAliases, a.1 ≠ folded) : method? spelling = none := by
  have hname : knownMethods.find? (fun m => Text.lower m.1 == folded) = none := by
    rw [List.find?_eq_none]
    intro m hm
    rw [Text.lower_of_isAscii (isAscii_name m hm), beq_iff_eq]
    exact hnames m hm
  have halias : methodAliases.find? (fun a => a.1 == folded) = none := by
    rw [List.find?_eq_none]
    intro a ha
    rw [beq_iff_eq]
    exact haliases a ha
  unfold method? methodOfFolded?
  rw [hfold, hname, halias]

/-! ## The spelling in keys -/

theorem canonicalMethod_of_known (h : method? spelling = some m) :
    canonicalMethod spelling = m.1 := by
  unfold canonicalMethod
  rw [h]

theorem canonicalMethod_of_unknown (h : method? spelling = none) :
    canonicalMethod spelling = Text.fold spelling := by
  unfold canonicalMethod
  rw [h]

theorem canonicalMethod_of_unlisted {folded : String} (hfold : Text.fold spelling = folded)
    (hnames : ∀ m ∈ knownMethods, Text.asciiLower m.1 ≠ folded)
    (haliases : ∀ a ∈ methodAliases, a.1 ≠ folded) : canonicalMethod spelling = folded :=
  (canonicalMethod_of_unknown (method?_eq_none hfold hnames haliases)).trans hfold

theorem canonicalMethod_eq_of_fold_eq (h : Text.fold a = Text.fold b) :
    canonicalMethod a = canonicalMethod b := by
  unfold canonicalMethod method?
  rw [h]

/-- The spelling in keys means what the given one means.  A spelling that means no method is folded,
and folding it again leaves it as it is. -/
theorem method?_canonicalMethod (spelling : String) :
    method? (canonicalMethod spelling) = method? spelling := by
  cases h : method? spelling with
  | some m =>
    rw [canonicalMethod_of_known h]
    exact method?_name (mem_knownMethods_of_method? h)
  | none =>
    rw [canonicalMethod_of_unknown h, ← h]
    unfold method?
    rw [Text.fold_fold]

theorem canonicalMethod_canonicalMethod (spelling : String) :
    canonicalMethod (canonicalMethod spelling) = canonicalMethod spelling := by
  cases h : method? spelling with
  | some m =>
    have hagain := (method?_canonicalMethod spelling).trans h
    rw [canonicalMethod_of_known hagain, canonicalMethod_of_known h]
  | none =>
    have hagain := (method?_canonicalMethod spelling).trans h
    rw [canonicalMethod_of_unknown hagain, canonicalMethod_of_unknown h, Text.fold_fold]

/-- Spellings that look alike in keys mean one method of the table, or none. -/
theorem method?_eq_of_canonicalMethod_eq (h : canonicalMethod a = canonicalMethod b) :
    method? a = method? b := by
  rw [← method?_canonicalMethod a, h, method?_canonicalMethod b]

/-! ## The spelling sent -/

theorem wireMethod_of_known (h : method? spelling = some m) : wireMethod spelling = m.1 := by
  unfold wireMethod
  rw [h]

theorem wireMethod_of_unknown (h : method? spelling = none) :
    wireMethod spelling = Text.trim spelling := by
  unfold wireMethod
  rw [h]

/-- The spelling that is sent means what the given one means. -/
theorem method?_wireMethod (spelling : String) :
    method? (wireMethod spelling) = method? spelling := by
  cases h : method? spelling with
  | some m =>
    rw [wireMethod_of_known h]
    exact method?_name (mem_knownMethods_of_method? h)
  | none =>
    rw [wireMethod_of_unknown h, ← h]
    unfold method? Text.fold
    rw [Text.trim_trim]

theorem isKnownMethod_wireMethod (spelling : String) :
    isKnownMethod (wireMethod spelling) = isKnownMethod spelling :=
  congrArg Option.isSome (method?_wireMethod spelling)

theorem wireMethod_eq_of_known (h : canonicalMethod a = canonicalMethod b)
    (hknown : isKnownMethod a = true) : wireMethod a = wireMethod b := by
  obtain ⟨m, ha⟩ := Option.isSome_iff_exists.mp hknown
  have hb : method? b = some m := (method?_eq_of_canonicalMethod_eq h).symm.trans ha
  rw [wireMethod_of_known ha, wireMethod_of_known hb]

/-- Methods that look alike in keys are sent in spellings with one lowercase. -/
theorem lower_wireMethod_eq (h : canonicalMethod a = canonicalMethod b) :
    Text.lower (wireMethod a) = Text.lower (wireMethod b) := by
  cases ha : method? a with
  | some m => rw [wireMethod_eq_of_known h (Option.isSome_of_eq_some ha)]
  | none =>
    have hb : method? b = none := (method?_eq_of_canonicalMethod_eq h).symm.trans ha
    rw [canonicalMethod_of_unknown ha, canonicalMethod_of_unknown hb] at h
    rw [wireMethod_of_unknown ha, wireMethod_of_unknown hb]
    exact h

end Rpc
end RelayDesk
