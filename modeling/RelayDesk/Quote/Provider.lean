import RelayDesk.Quote.Fault
import RelayDesk.Text.Basic
import RelayDesk.Text.Case

/-!
Which providers may serve a request.  A provider asked for by name is the only one; a list of
preferred providers keeps the rows of the first one that has any, and every row when none has.
-/

namespace RelayDesk
namespace Quote

/-- The providers that a request asks for. -/
structure Constraint where
  exact : Option String
  /-- Preferred providers, the first one most. -/
  priority : List String
  deriving DecidableEq, Repr

class HasProvider (ρ : Type) where
  provider : ρ → String

namespace Constraint

def none : Constraint := { exact := .none, priority := [] }

def only (provider : String) : Constraint := { exact := some provider, priority := [] }

/-- Names as preferences: folded, without the blank ones. -/
def preferences (names : List String) : List String :=
  (names.map Text.fold).filter fun n => !n.isEmpty

def isUnconstrained (c : Constraint) : Bool := c.exact.isNone && c.priority.isEmpty

/-- Is a provider asked for, and is it this one? -/
def isExactly (c : Constraint) (name : String) : Bool :=
  match c.exact with
  | some p => Text.sameLetters (Text.trim p) name
  | .none => false

/-- The position of the first preference that names the provider. -/
def rank? (priority : List String) (provider : String) : Option Nat :=
  priority.findIdx? fun p => Text.sameLetters p (Text.trim provider)

variable {ρ : Type} [HasProvider ρ]

/-- The best position that some row has. -/
def bestRank? (priority : List String) (rows : List ρ) : Option Nat :=
  (rows.filterMap fun r => rank? priority (HasProvider.provider r)).min?

/-- The rows that may serve, in their order. -/
def keep (c : Constraint) (rows : List ρ) : List ρ :=
  match c.exact with
  | some name =>
    rows.filter fun r =>
      Text.sameLetters (Text.trim (HasProvider.provider r)) (Text.trim name)
  | .none =>
    match bestRank? c.priority rows with
    | some best =>
      rows.filter fun r => rank? c.priority (HasProvider.provider r) == some best
    | .none => rows

end Constraint
end Quote
end RelayDesk
