import RelayDesk.Proofs.Action.Spellings
import RelayDesk.Proofs.Quote.Amount
import RelayDesk.Proofs.Quote.Meaning

/-!
Values of one meaning.  A text may be spelt as any other of its meaning or as a number, an amount in
decimal, in hexadecimal or as a number, and a list of names as an array or as text.  What the readers
of params see of a value is told here, and that they see values of one meaning alike.
-/

namespace RelayDesk
namespace Action

open Params (Sees)
open Quote (Amount)

/-! ## Values of one meaning -/

def textOf? : Json → Option String
  | .str s => some s
  | .num text => if Text.isAllBlank text then none else some text
  | _ => none

/-- One value, or two texts of one meaning. -/
def SameText (meaning : String → String) (v w : Json) : Prop :=
  v = w ∨ ∃ s t, textOf? v = some s ∧ textOf? w = some t ∧ meaning s = meaning t

def SameAmount (v w : Json) : Prop := v = w ∨ ∃ n, Amount.Spells n v ∧ Amount.Spells n w

/-- The ways of writing a list of names. -/
inductive Lists (names : List String) : Json → Prop
  | array : Lists names (.arr (names.map .str))
  | joined (h : ∀ name ∈ names, ',' ∉ name.toList) : Lists names (.str (",".intercalate names))

def SameList (v w : Json) : Prop := v = w ∨ ∃ names, Lists names v ∧ Lists names w

/-! ## What readers see -/

/-- A text as it is compared: trimmed, and nothing if it is blank. -/
def textView : Json → Option (Option String)
  | .str s => some (if (Text.trim s).isEmpty then none else some (Text.trim s))
  | .num text => some (some text)
  | _ => none

def valueView (v : Json) : Option (Option Json) := some (some v)

/-- A reader that compares by equality. -/
theorem sees_of_toOption {α : Type} [BEq α] [LawfulBEq α]
    {read : String → Json → Except Invalid (Option α)} {view : Json → Option (Option α)}
    (h : ∀ name v, (read name v).toOption = view v) : Sees read (· == ·) id view where
  read_eq name v := by simp [h]
  same_iff _ _ := beq_iff_eq

theorem sees_text : Sees Params.readText (· == ·) id textView := by
  apply sees_of_toOption
  intro name v
  cases v <;> rfl

theorem sees_value : Sees (fun _ v => .ok (some v)) (· == ·) id valueView :=
  sees_of_toOption fun _ _ => rfl

theorem sees_amount :
    Sees Params.readAmount (· == ·) id fun v => (Amount.ofJson? v).map some := by
  apply sees_of_toOption
  intro name v
  rw [← Amount.toOption_ofJson name v]
  unfold Params.readAmount
  cases Amount.ofJson name v <;> rfl

/-- The finite number that a value denotes. -/
def floatOf? (v : Json) : Option Number.Binary64 :=
  (match v with
    | .num text => Number.Binary64.read? text.toList
    | .str s => Number.Binary64.read? (Text.trimChars s.toList)
    | _ => none).filter (·.isFinite)

theorem readFloat_eq (name : String) (v : Json) :
    Params.readFloat name v =
      match floatOf? v with
      | some x => .ok (some x)
      | none => .error (.notNumber name v.text) := rfl

theorem isFinite_of_readFloat {name : String} {v : Json} {x : Number.Binary64}
    (h : Params.readFloat name v = .ok (some x)) : x.isFinite = true := by
  rw [readFloat_eq] at h
  split at h
  · next y hy =>
    obtain rfl := Option.some.inj (Except.ok.inj h)
    exact (Option.filter_eq_some_iff.mp hy).2
  · cases h

theorem sees_float :
    Sees Params.readFloat Number.Binary64.same Number.Binary64.unsignedZero fun v =>
      (floatOf? v).map fun x => some x.unsignedZero where
  read_eq name v := by
    rw [readFloat_eq]
    cases floatOf? v <;> rfl
  same_iff ha hb := Number.Binary64.same_iff (isFinite_of_readFloat ha) (isFinite_of_readFloat hb)

/-! ## Values of one meaning are seen alike -/

theorem textView_of_textOf? {meaning : String → String} (hmeaning : Text.IsMeaning meaning)
    {v : Json} {s : String} (h : textOf? v = some s) :
    (textView v).map (Option.map meaning) =
      some (if meaning s = "" then none else some (meaning s)) := by
  have hempty := hmeaning.empty_iff s
  cases v with
  | str s' =>
    obtain rfl := Option.some.inj h
    unfold textView
    by_cases hblank : Text.trim s' = ""
    · simp [hblank, hempty.mpr hblank]
    · simp [hblank, mt hempty.mp hblank, hmeaning.trim_eq]
  | num text =>
    have hgiven : (if Text.isAllBlank text then none else some text) = some s := h
    by_cases hblank : Text.isAllBlank text = true
    · rw [if_pos hblank] at hgiven
      cases hgiven
    · rw [if_neg hblank] at hgiven
      obtain rfl := Option.some.inj hgiven
      have hne : meaning text ≠ "" := fun heq =>
        hblank (Text.trim_eq_empty_iff.mp (hempty.mp heq))
      simp [textView, hne]
  | _ => cases h

theorem SameText.view_eq {meaning : String → String} (hmeaning : Text.IsMeaning meaning)
    {v w : Json} (h : SameText meaning v w) :
    (textView v).map (Option.map meaning) = (textView w).map (Option.map meaning) := by
  rcases h with rfl | ⟨s, t, hs, ht, heq⟩
  · rfl
  · rw [textView_of_textOf? hmeaning hs, textView_of_textOf? hmeaning ht, heq]

theorem SameAmount.view_eq {v w : Json} (h : SameAmount v w) :
    (Amount.ofJson? v).map some = (Amount.ofJson? w).map some := by
  rcases h with rfl | ⟨n, hv, hw⟩
  · rfl
  · rw [Amount.ofJson?_of_spells hv, Amount.ofJson?_of_spells hw]

/-- The names in a list, folded and without the blank ones. -/
def namesOf? (field : String) (v : Json) : Option (List String) :=
  (Params.readEntries field v).toOption.map Quote.Constraint.preferences

theorem readEntries_array (field : String) (names : List String) :
    Params.readEntries field (.arr (names.map .str)) = .ok names := by
  show (names.map Json.str).mapM _ = _
  rw [mapM_eq_ok_iff, List.forall₂_map_left_iff]
  exact List.forall₂_same.mpr fun _ _ => rfl

theorem readEntries_joined (field : String) {names : List String}
    (hcomma : ∀ name ∈ names, ',' ∉ name.toList) (hne : names ≠ []) :
    Params.readEntries field (.str (",".intercalate names)) = .ok names := by
  have hcut : (",".intercalate names).toList.splitOn ',' = names.map String.toList := by
    rw [String.toList_intercalate]
    apply List.splitOn_intercalate
    · intro part hpart
      obtain ⟨name, hname, rfl⟩ := List.mem_map.mp hpart
      exact hcomma name hname
    · exact List.map_eq_nil_iff.not.mpr hne
  show Except.ok ((List.splitOn ',' _).map String.ofList) = _
  rw [hcut, List.map_map]
  simp [Function.comp_def]

theorem namesOf?_of_lists (field : String) {names : List String} {v : Json} (h : Lists names v) :
    namesOf? field v = some (Quote.Constraint.preferences names) := by
  unfold namesOf?
  cases h with
  | array =>
    rw [readEntries_array]
    rfl
  | joined hcomma =>
    by_cases hne : names = []
    · -- No names at all are read as one blank name, which is dropped.
      rw [hne]
      rfl
    · rw [readEntries_joined field hcomma hne]
      rfl

theorem SameList.names_eq (field : String) {v w : Json} (h : SameList v w) :
    namesOf? field v = namesOf? field w := by
  rcases h with rfl | ⟨names, hv, hw⟩
  · rfl
  · rw [namesOf?_of_lists field hv, namesOf?_of_lists field hw]

end Action
end RelayDesk
