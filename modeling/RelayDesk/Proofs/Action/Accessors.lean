import RelayDesk.Proofs.Action.ValueSpelling

/-!
What an accessor of params accepts.  The values under the names of a field are parsed one by one,
null and what is blank counting as absent.  A field is refused exactly when one of the values does
not parse or two of them parse differently; otherwise it is what they all parse as, or nothing if
there are none.  So the order of the names does not matter.
-/

namespace RelayDesk
namespace Action

open Params (Means Sees Agreed)

/-- A value that stands under one of the names, and is neither null nor absent in another way. -/
def Params.Present (p : Params) (absent : Json → Prop) (names : List String) (v : Json) : Prop :=
  (∃ name ∈ names, Keyed.find? name p.members = some v) ∧ v ≠ .null ∧ ¬ absent v

/-- No value but null is absent. -/
def NeverAbsent (_ : Json) : Prop := False

/-- An accessor that takes what all present values parse as, and refuses them if they differ. -/
structure TakesAgreeing {α : Type} (absent : Json → Prop) (parse : Json → Option α)
    (accessor : Params → List String → Except Invalid (Option α)) : Prop where
  refused_iff : ∀ p names, (∃ e, accessor p names = .error e) ↔
    (∃ v, p.Present absent names v ∧ parse v = none) ∨
      ∃ v w a b, p.Present absent names v ∧ p.Present absent names w ∧
        parse v = some a ∧ parse w = some b ∧ a ≠ b
  some_iff : ∀ p names a, accessor p names = .ok (some a) ↔
    (∃ v, p.Present absent names v) ∧ ∀ v, p.Present absent names v → parse v = some a
  none_iff : ∀ p names, accessor p names = .ok none ↔ ∀ v, ¬ p.Present absent names v
  /-- Neither the result nor whether there is one depends on the order of the names. -/
  toOption_eq_of_perm : ∀ p {names names' : List String}, names.Perm names' →
    (accessor p names).toOption = (accessor p names').toOption

/-! ## Present values -/

section Present

variable {p : Params} {absent : Json → Prop} {name : String} {names names' : List String} {v : Json}

theorem Params.find?_eq_some_iff :
    p.find? name = some v ↔ Keyed.find? name p.members = some v ∧ v ≠ .null := by
  unfold Params.find?
  split
  · next hnull =>
    rw [hnull]
    constructor
    · intro h
      cases h
    · rintro ⟨h, hne⟩
      exact absurd (Option.some.inj h).symm hne
  · next hother =>
    constructor
    · intro h
      refine ⟨h, ?_⟩
      rintro rfl
      exact hother h
    · exact And.left

theorem present_iff : p.Present absent names v ↔ v ∈ p.given names ∧ ¬ absent v := by
  unfold Params.Present Params.given
  rw [List.mem_filterMap]
  simp only [Params.find?_eq_some_iff]
  constructor
  · rintro ⟨⟨name, hname, hfind⟩, hne, habsent⟩
    exact ⟨⟨name, hname, hfind, hne⟩, habsent⟩
  · rintro ⟨⟨name, hname, hfind, hne⟩, habsent⟩
    exact ⟨⟨name, hname, hfind⟩, hne, habsent⟩

theorem present_congr (h : names.Perm names') :
    p.Present absent names v ↔ p.Present absent names' v := by
  unfold Params.Present
  simp only [h.mem_iff]

theorem present_append_iff :
    p.Present absent (names ++ names') v ↔
      p.Present absent names v ∨ p.Present absent names' v := by
  simp only [present_iff, Params.given, List.filterMap_append, List.mem_append, or_and_right]

theorem present_iff_exists :
    p.Present absent names v ↔ ∃ name ∈ names, p.Present absent [name] v := by
  unfold Params.Present
  constructor
  · rintro ⟨⟨name, hname, hfind⟩, hv⟩
    exact ⟨name, hname, ⟨name, List.mem_singleton_self name, hfind⟩, hv⟩
  · rintro ⟨name, hname, ⟨name', hname', hfind⟩, hv⟩
    obtain rfl := List.mem_singleton.mp hname'
    exact ⟨⟨name', hname, hfind⟩, hv⟩

theorem present_singleton_iff : p.Present absent [name] v ↔ p.find? name = some v ∧ ¬ absent v := by
  rw [present_iff, Params.given, List.mem_filterMap]
  simp

theorem contains_eq_false_iff :
    p.contains name = false ↔ ∀ v, ¬ p.Present NeverAbsent [name] v := by
  unfold Params.contains
  simp only [present_singleton_iff, NeverAbsent, not_false_eq_true, and_true]
  cases p.find? name <;> simp

/-- What a field is read as is what any of its values parses as. -/
theorem TakesAgreeing.parse_of_present {α : Type} {parse : Json → Option α}
    {accessor : Params → List String → Except Invalid (Option α)} {a? : Option α}
    (h : TakesAgreeing absent parse accessor) (hv : p.Present absent names v)
    (hok : accessor p names = .ok a?) : a?.isSome = true ∧ parse v = a? := by
  cases a? with
  | none => exact absurd hv ((h.none_iff p names).mp hok v)
  | some a => exact ⟨rfl, ((h.some_iff p names a).mp hok).2 v hv⟩

end Present

/-! ## Accessors that compare with the value found first -/

/-- What a reader sees, if it passes over the absent values and parses the others. -/
structure Views {α : Type} (absent : Json → Prop) (parse : Json → Option α)
    (view : Json → Option (Option α)) : Prop where
  of_absent : ∀ v, absent v → view v = some none
  of_present : ∀ v, ¬ absent v → view v = (parse v).map some

section Views

variable {α : Type} {absent : Json → Prop} {parse : Json → Option α}
  {view : Json → Option (Option α)} {p : Params} {names : List String} {v : Json} {a : α}

theorem Views.eq_none_iff (h : Views absent parse view) :
    view v = none ↔ ¬ absent v ∧ parse v = none := by
  by_cases habsent : absent v
  · simp [h.of_absent v habsent, habsent]
  · simp [h.of_present v habsent, habsent]

theorem Views.eq_nothing_iff (h : Views absent parse view) : view v = some none ↔ absent v := by
  by_cases habsent : absent v
  · simp [h.of_absent v habsent, habsent]
  · simp [h.of_present v habsent, habsent]

theorem Views.eq_some_iff (h : Views absent parse view) :
    view v = some (some a) ↔ ¬ absent v ∧ parse v = some a := by
  by_cases habsent : absent v
  · simp [h.of_absent v habsent, habsent]
  · simp [h.of_present v habsent, habsent]

theorem Views.means_some_iff (h : Views absent parse view) :
    Means view (p.given names) (some a) ↔
      (∃ v, p.Present absent names v) ∧ ∀ v, p.Present absent names v → parse v = some a := by
  simp only [present_iff]
  constructor
  · intro hmeans
    obtain ⟨v, hv, hview⟩ := hmeans.told a rfl
    refine ⟨⟨v, hv, (h.eq_some_iff.mp hview).1⟩, ?_⟩
    rintro w ⟨hw, hpresent⟩
    rcases hmeans.agreed w hw with hnothing | hsome
    · exact absurd (h.eq_nothing_iff.mp hnothing) hpresent
    · exact (h.eq_some_iff.mp hsome).2
  · rintro ⟨⟨v, hv, hpresent⟩, hall⟩
    refine ⟨fun w hw => ?_, fun b hb => ?_⟩
    · by_cases habsent : absent w
      · exact .inl (h.of_absent w habsent)
      · exact .inr (h.eq_some_iff.mpr ⟨habsent, hall w ⟨hw, habsent⟩⟩)
    · obtain rfl := Option.some.inj hb
      exact ⟨v, hv, h.eq_some_iff.mpr ⟨hpresent, hall v ⟨hv, hpresent⟩⟩⟩

theorem Views.means_none_iff (h : Views absent parse view) :
    Means view (p.given names) none ↔ ∀ v, ¬ p.Present absent names v := by
  simp only [present_iff]
  constructor
  · rintro hmeans v ⟨hv, hpresent⟩
    have hnothing : view v = some none := by simpa using hmeans.agreed v hv
    exact hpresent (h.eq_nothing_iff.mp hnothing)
  · intro hnone
    refine ⟨fun v hv => .inl (h.of_absent v ?_), fun b hb => by cases hb⟩
    by_contra habsent
    exact hnone v ⟨hv, habsent⟩

theorem Views.not_means_iff (h : Views absent parse view) :
    (¬ ∃ k, Means view (p.given names) k) ↔
      (∃ v, p.Present absent names v ∧ parse v = none) ∨
        ∃ v w a b, p.Present absent names v ∧ p.Present absent names w ∧
          parse v = some a ∧ parse w = some b ∧ a ≠ b := by
  rw [Params.exists_means_iff, not_and_or]
  simp only [present_iff]
  refine or_congr ?_ ?_
  · simp only [not_forall, exists_prop, Bool.not_eq_true, Option.isSome_eq_false_iff,
      Option.isNone_iff_eq_none, h.eq_none_iff, and_assoc]
  · unfold Agreed
    simp only [not_forall, exists_prop]
    constructor
    · rintro ⟨v, hv, w, hw, a, b, ha, hb, hne⟩
      obtain ⟨hpv, hparse⟩ := h.eq_some_iff.mp ha
      obtain ⟨hpw, hparse'⟩ := h.eq_some_iff.mp hb
      exact ⟨v, w, a, b, ⟨hv, hpv⟩, ⟨hw, hpw⟩, hparse, hparse', hne⟩
    · rintro ⟨v, w, a, b, ⟨hv, hpv⟩, ⟨hw, hpw⟩, hparse, hparse', hne⟩
      exact ⟨v, hv, w, hw, a, b, h.eq_some_iff.mpr ⟨hpv, hparse⟩,
        h.eq_some_iff.mpr ⟨hpw, hparse'⟩, hne⟩

variable [BEq α] {read : String → Json → Except Invalid (Option α)}

theorem takesAgreeing_of_sees (hsees : Sees read (· == ·) id view)
    (h : Views absent parse view) :
    TakesAgreeing absent parse fun p names => p.agree read (· == ·) names := by
  have hsome : ∀ (p : Params) (names : List String) (a : α),
      p.agree read (· == ·) names = .ok (some a) ↔
        (∃ v, p.Present absent names v) ∧ ∀ v, p.Present absent names v → parse v = some a :=
    fun p names a => (Params.agree_eq_ok_iff hsees).trans h.means_some_iff
  have hnone : ∀ (p : Params) (names : List String),
      p.agree read (· == ·) names = .ok none ↔ ∀ v, ¬ p.Present absent names v :=
    fun p names => (Params.agree_eq_ok_iff hsees).trans h.means_none_iff
  refine ⟨fun p names => ?_, hsome, hnone, fun p names names' hperm => ?_⟩
  · rw [← h.not_means_iff]
    apply refused_iff_not
    · rintro ⟨k, hk⟩
      exact ⟨k, (Params.agree_eq_ok_iff hsees).mpr hk⟩
    · intro hmeans
      cases hend : p.agree read (· == ·) names with
      | ok k => exact absurd ⟨k, (Params.agree_eq_ok_iff hsees).mp hend⟩ hmeans
      | error e => exact ⟨e, rfl⟩
  · ext k
    rw [toOption_eq_some_iff, toOption_eq_some_iff]
    cases k with
    | none => simp only [hnone, present_congr hperm]
    | some a => simp only [hsome, present_congr hperm]

end Views

/-! ## The accessors -/

def IsBlankText (v : Json) : Prop := ∃ s, v = .str s ∧ Text.isAllBlank s = true

/-- A text without the blanks around it, or the text of a number. -/
def trimmedText? : Json → Option String
  | .str s => some (Text.trim s)
  | .num text => some text
  | _ => none

/-- The number of 64 bits that a value denotes. -/
def wholeOf? : Json → Option Nat
  | .num text => Number.unsigned? text.toList
  | .str s => Number.unsigned? (Text.trimChars s.toList)
  | _ => none

def boolOf? : Json → Option Bool
  | .bool b => some b
  | .str s => Params.boolOfText? s
  | _ => none

theorem readWhole_eq (name : String) (v : Json) :
    Params.readWhole name v =
      match wholeOf? v with
      | some n => .ok (some n)
      | none => .error (.notWhole name v.text) := rfl

theorem readBool_eq (name : String) (v : Json) :
    Params.readBool name v =
      match boolOf? v with
      | some b => .ok (some b)
      | none => .error (.notBool name v.text) := rfl

theorem sees_whole : Sees Params.readWhole (· == ·) id fun v => (wholeOf? v).map some := by
  apply sees_of_toOption
  intro name v
  rw [readWhole_eq]
  cases wholeOf? v <;> rfl

theorem sees_bool : Sees Params.readBool (· == ·) id fun v => (boolOf? v).map some := by
  apply sees_of_toOption
  intro name v
  rw [readBool_eq]
  cases boolOf? v <;> rfl

theorem views_of_parse {α : Type} (parse : Json → Option α) :
    Views NeverAbsent parse fun v => (parse v).map some where
  of_absent _ h := h.elim
  of_present _ _ := rfl

theorem views_text : Views IsBlankText trimmedText? textView where
  of_absent v h := by
    obtain ⟨s, rfl, hblank⟩ := h
    simp [textView, Text.trim_eq_empty_iff.mpr hblank]
  of_present v h := by
    cases v with
    | str s =>
      have hne : Text.trim s ≠ "" := fun htrim =>
        h ⟨s, rfl, Text.trim_eq_empty_iff.mp htrim⟩
      simp [textView, trimmedText?, hne]
    | _ => rfl

theorem takesAgreeing_amount :
    TakesAgreeing NeverAbsent Quote.Amount.ofJson? Params.amount? :=
  takesAgreeing_of_sees sees_amount (views_of_parse _)

/-- Values are compared as they are, texts without the blanks around them, and numbers, booleans and
amounts by what they denote. -/
theorem accessors_take_agreeing :
    TakesAgreeing NeverAbsent some Params.value? ∧
      TakesAgreeing IsBlankText trimmedText? Params.text? ∧
      TakesAgreeing NeverAbsent wholeOf? Params.whole? ∧
      TakesAgreeing NeverAbsent boolOf? Params.bool? ∧
      TakesAgreeing NeverAbsent Quote.Amount.ofJson? Params.amount? :=
  ⟨takesAgreeing_of_sees sees_value (views_of_parse some),
    takesAgreeing_of_sees sees_text views_text,
    takesAgreeing_of_sees sees_whole (views_of_parse wholeOf?),
    takesAgreeing_of_sees sees_bool (views_of_parse boolOf?), takesAgreeing_amount⟩

/-- The order shows in the refusal, which has the names as they were gone through. -/
example :
    let p : Params := { members := [("ttl", .num "5"), ("ttlSeconds", .num "6")] }
    p.whole? ["ttl", "ttlSeconds"] = .error (.disagree "ttl" "ttlSeconds") ∧
      p.whole? ["ttlSeconds", "ttl"] = .error (.disagree "ttlSeconds" "ttl") :=
  ⟨rfl, rfl⟩

end Action
end RelayDesk
