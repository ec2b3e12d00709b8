import RelayDesk.Json.Basic
import RelayDesk.Text.Basic
import RelayDesk.Text.Quoted

/-!
Registers of actions.  Each entry is reached by its name and by its remote key, and no two entries
may share either.
-/

namespace RelayDesk
namespace Action

/-- An action with the two keys by which it is reached. -/
structure Entry (α : Type) where
  name : String
  remoteKey : String
  action : α
  deriving DecidableEq, Repr

def Entry.keys {α : Type} (e : Entry α) : List String := [e.name, e.remoteKey]

/-- Why a list of entries makes no register. -/
inductive RegistryFault where
  | duplicate (key first second : String)
  | emptyKey (shown : String)
  deriving DecidableEq, Repr

namespace RegistryFault

def kind : RegistryFault → String
  | .duplicate _ _ _ => "duplicate"
  | .emptyKey _ => "empty_key"

def message : RegistryFault → String
  | .duplicate key first second =>
    "duplicate action name or remote key " ++ Text.quoted key ++ " (registered by " ++ first ++
      " and " ++ second ++ ")"
  | .emptyKey shown => "action " ++ shown ++ " has an empty name or remote key"

end RegistryFault

def entryWithKey? {α : Type} (entries : List (Entry α)) (key : String) : Option (Entry α) :=
  entries.find? fun e => e.name == key || e.remoteKey == key

/-- Entries without blank or shared keys, in the order in which they were registered. -/
structure Registry (α : Type) where
  entries : List (Entry α)
  deriving DecidableEq, Repr

namespace Registry

variable {α : Type}

/-- The first key of an entry that an earlier entry has, with that entry. -/
def conflict? (earlier : List (Entry α)) (e : Entry α) : Option (String × Entry α) :=
  e.keys.findSome? fun key => (entryWithKey? earlier key).map fun other => (key, other)

def checkEntry (earlier : List (Entry α)) (e : Entry α) : Except RegistryFault Unit :=
  if Text.isAllBlank e.name || Text.isAllBlank e.remoteKey then
    .error (.emptyKey (if e.name.isEmpty then e.remoteKey else e.name))
  else match conflict? earlier e with
    | some (key, other) => .error (.duplicate key other.name e.name)
    | none => .ok ()

def checkFrom (earlier : List (Entry α)) : List (Entry α) → Except RegistryFault Unit
  | [] => .ok ()
  | e :: rest => do
    checkEntry earlier e
    checkFrom (earlier ++ [e]) rest

/-- The register of some entries, or what is wrong with them. -/
def new (entries : List (Entry α)) : Except RegistryFault (Registry α) := do
  checkFrom [] entries
  return { entries }

/-- The entry that a name or remote key reaches, blanks around it apart. -/
def find? (r : Registry α) (action : String) : Option (Entry α) :=
  entryWithKey? r.entries (Text.trim action)

def size (r : Registry α) : Nat := r.entries.length

def catalog (r : Registry α) : List (List (String × Json)) :=
  r.entries.map fun e => [("name", .str e.name), ("remoteKey", .str e.remoteKey)]

end Registry
end Action
end RelayDesk
