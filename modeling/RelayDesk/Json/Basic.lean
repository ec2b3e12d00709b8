import RelayDesk.Keyed
import RelayDesk.Text.Basic

/-!
JSON values.  A number is its text, so that no digit is lost and `1.0` differs from `1.00`.  An
object is its list of members, kept in increasing order of their keys, each key once.
-/

namespace RelayDesk

inductive Json where
  | null
  | bool (value : Bool)
  | num (text : String)
  | str (text : String)
  | arr (items : List Json)
  | obj (members : List (String × Json))
  deriving Inhabited, Repr

namespace Json

mutual

/-- Structural equality: numbers by their text, objects by their ordered members. -/
def same : Json → Json → Bool
  | null, null => true
  | bool a, bool b => a == b
  | num a, num b => a == b
  | str a, str b => a == b
  | arr a, arr b => sameItems a b
  | obj a, obj b => sameMembers a b
  | _, _ => false

def sameItems : List Json → List Json → Bool
  | [], [] => true
  | x :: xs, y :: ys => same x y && sameItems xs ys
  | _, _ => false

def sameMembers : List (String × Json) → List (String × Json) → Bool
  | [], [] => true
  | (j, x) :: xs, (k, y) :: ys => j == k && same x y && sameMembers xs ys
  | _, _ => false

end

mutual

theorem same_refl : ∀ a : Json, same a a = true
  | null => rfl
  | bool _ => by simp [same]
  | num _ => by simp [same]
  | str _ => by simp [same]
  | arr xs => by simpa [same] using sameItems_refl xs
  | obj ms => by simpa [same] using sameMembers_refl ms

theorem sameItems_refl : ∀ xs : List Json, sameItems xs xs = true
  | [] => rfl
  | x :: xs => by simp [sameItems, same_refl x, sameItems_refl xs]

theorem sameMembers_refl : ∀ ms : List (String × Json), sameMembers ms ms = true
  | [] => rfl
  | (_, x) :: ms => by simp [sameMembers, same_refl x, sameMembers_refl ms]

end

mutual

theorem eq_of_same : ∀ {a b : Json}, same a b = true → a = b
  | null, b, h => by cases b <;> simp_all [same]
  | bool _, b, h => by cases b <;> simp_all [same]
  | num _, b, h => by cases b <;> simp_all [same]
  | str _, b, h => by cases b <;> simp_all [same]
  | arr xs, b, h => by
    cases b with
    | arr ys =>
      have hs : sameItems xs ys = true := by simpa [same] using h
      rw [eq_of_sameItems hs]
    | _ => simp [same] at h
  | obj ms, b, h => by
    cases b with
    | obj ns =>
      have hs : sameMembers ms ns = true := by simpa [same] using h
      rw [eq_of_sameMembers hs]
    | _ => simp [same] at h

theorem eq_of_sameItems : ∀ {xs ys : List Json}, sameItems xs ys = true → xs = ys
  | [], ys, h => by cases ys <;> simp_all [sameItems]
  | x :: xs, ys, h => by
    cases ys with
    | nil => simp [sameItems] at h
    | cons y ys =>
      simp only [sameItems, Bool.and_eq_true] at h
      rw [eq_of_same h.1, eq_of_sameItems h.2]

theorem eq_of_sameMembers :
    ∀ {ms ns : List (String × Json)}, sameMembers ms ns = true → ms = ns
  | [], ns, h => by cases ns <;> simp_all [sameMembers]
  | (j, x) :: ms, ns, h => by
    cases ns with
    | nil => simp [sameMembers] at h
    | cons n ns =>
      obtain ⟨k, y⟩ := n
      simp only [sameMembers, Bool.and_eq_true, beq_iff_eq] at h
      rw [h.1.1, eq_of_same h.1.2, eq_of_sameMembers h.2]

end

theorem same_iff {a b : Json} : same a b = true ↔ a = b :=
  ⟨eq_of_same, fun h => h ▸ same_refl a⟩

instance : DecidableEq Json := fun _ _ => decidable_of_iff _ same_iff

/-- The object with these members: of two with one key the later stays. -/
def object (members : List (String × Json)) : Json := obj (Keyed.ofList members)

/-- The value of a member, when the value is an object that has it. -/
def member? (key : String) : Json → Option Json
  | obj members => Keyed.find? key members
  | _ => none

def string? : Json → Option String
  | str s => some s
  | _ => none

def bool? : Json → Option Bool
  | bool b => some b
  | _ => none

def typeName : Json → String
  | null => "null"
  | bool _ => "bool"
  | num _ => "number"
  | str _ => "string"
  | arr _ => "array"
  | obj _ => "object"

def ofNat (n : Nat) : Json := num (String.ofList (Text.decimal n))

def ofInt (n : Int) : Json := num (String.ofList (Text.decimalInt n))

end Json
end RelayDesk
