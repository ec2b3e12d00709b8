import RelayDesk.Json.Record

/-!
Cached records and their ages.  Times are whole seconds, signed numbers of 64 bits; an expiry that
would pass the largest of them stays there, so a sum of times never wraps.
-/

namespace RelayDesk
namespace Cache

open Json (Field Shape)

/-- The last time that can be told. -/
def maxTime : Int := Number.maxSigned

/-- The first time that can be told. -/
def minTime : Int := -(Number.maxSigned : Int) - 1

/-- The time `seconds` after `base`. -/
def expiry (base : Int) (seconds : Nat) : Int :=
  min (base + min (seconds : Int) maxTime) maxTime

/-- A value kept under a key until a time. -/
structure Record where
  key : String
  value : Json
  expiresAt : Int
  deriving DecidableEq, Repr

inductive LookupStatus where
  | hit
  | stale
  | miss
  deriving DecidableEq, Repr

def LookupStatus.name : LookupStatus → String
  | .hit => "hit"
  | .stale => "stale"
  | .miss => "miss"

namespace Record

/-- The record of a value written at `now` to be kept for `ttl` seconds. -/
def write (key : String) (value : Json) (ttl : Nat) (now : Int) : Record :=
  { key, value, expiresAt := expiry now ttl }

/-- The second of expiry still counts. -/
def isFresh (r : Record) (now : Int) : Bool := now ≤ r.expiresAt

/-- Has the record expired at most `maxStale` seconds ago? -/
def isWithinWindow (r : Record) (now : Int) (maxStale : Nat) : Bool :=
  now ≤ expiry r.expiresAt maxStale

/-- The string under `result` in the record's value. -/
def result? (r : Record) : Option String :=
  match r.value.member? "result" with
  | some (.str s) => some s
  | _ => none

/-- The record as a file holds it. -/
def text (r : Record) : String :=
  Json.recordText
    [("key", .str r.key), ("value", r.value), ("expiresAtUnix", .ofInt r.expiresAt)]

def shape : Shape Record where
  name := "CacheRecord"
  blank := { key := "", value := .null, expiresAt := 0 }
  fields :=
    [.of "key" true (fun _ => Json.readText "a string") fun s r => { r with key := s },
     .of "value" true Json.readValue fun v r => { r with value := v },
     .of "expiresAtUnix" true (fun _ => Json.readInteger minTime maxTime "i64") fun n r =>
       { r with expiresAt := n }]

def read (text : String) : Except Json.Refusal Record := shape.readText text

end Record

/-- What a look that found `record?` has found at `now`. -/
def LookupStatus.of (record? : Option Record) (now : Int) : LookupStatus :=
  match record? with
  | some r => if r.isFresh now then .hit else .stale
  | none => .miss

end Cache
end RelayDesk
