import RelayDesk.Cache.Record
import RelayDesk.Digest.Sha256
import RelayDesk.Keyed

/-!
Stores of records.  A store answers with the last record put under a key, or fails.  Besides the
memory and the directory of files there are a directory that may refuse to be read or written and
a store that refuses everything.

A file of a directory holds a text.  A file whose bytes are not UTF-8, which no put writes, has no
counterpart here.
-/

namespace RelayDesk
namespace Cache

inductive StoreFault where
  | io (message : String)
  | corrupt (refusal : Json.Refusal)
  | other (message : String)
  deriving DecidableEq, Repr

namespace StoreFault

def kind : StoreFault → String
  | .io _ => "io"
  | .corrupt _ => "corrupt"
  | .other _ => "other"

def message : StoreFault → String
  | .io message => "cache I/O error: " ++ message
  | .corrupt refusal => "cache record is corrupt: " ++ refusal.message
  | .other message => message

end StoreFault

/-- A type of stores. -/
class Store (σ : Type) where
  /-- The record under a key, expired or not. -/
  get : σ → String → Except StoreFault (Option Record)
  /-- The store with a record put under its key. -/
  put : σ → Record → Except StoreFault σ

structure Memory where
  records : List (String × Record)
  deriving DecidableEq, Repr

namespace Memory

def empty : Memory := { records := [] }

def insert (m : Memory) (r : Record) : Memory :=
  { records := Keyed.insert r.key r m.records }

def find? (m : Memory) (key : String) : Option Record := Keyed.find? key m.records

def size (m : Memory) : Nat := m.records.length

instance : Store Memory where
  get m key := .ok (m.find? key)
  put m r := .ok (m.insert r)

end Memory

/-- The record of a key in the text of a file.  Another key's record counts as none. -/
def recordOf (key text : String) : Except StoreFault (Option Record) :=
  match Record.read text with
  | .error refusal => .error (.corrupt refusal)
  | .ok r => .ok (if r.key = key then some r else none)

/-- Files of one directory, as one process sees them.  Of the files that are written in steps it
keeps count, so that no two of them have one name. -/
structure Directory where
  /-- The files by name, once the directory exists. -/
  listing? : Option (List (String × String))
  /-- The number of the process. -/
  process : Nat
  /-- How many files the process has written in steps. -/
  staged : Nat
  deriving DecidableEq, Repr

namespace Directory

/-- A directory that does not exist. -/
def absent (process staged : Nat) : Directory := { listing? := none, process, staged }

def empty : Directory := absent 0 0

/-- A directory that does not exist has no files. -/
def files (d : Directory) : List (String × String) := d.listing?.getD []

/-- The file of a key.  Its name is the digest of the key, so that any key makes a name. -/
def fileName (key : String) : String := Digest.sha256Hex key ++ ".json"

/-- The name under which a text is written before it takes the place of a file. -/
def stagedName (d : Directory) (name : String) : String :=
  name ++ "." ++ String.ofList (Text.decimal d.process) ++ "." ++
    String.ofList (Text.decimal d.staged) ++ ".tmp"

/-- The directory with a text in a file of that name.  It is made if it does not exist. -/
def write (d : Directory) (name text : String) : Directory :=
  { d with listing? := some (Keyed.insert name text d.files) }

def contents? (d : Directory) (name : String) : Option String := Keyed.find? name d.files

/-- The directory once a file has another name.  A file that has that name already gives way. -/
def rename (d : Directory) (source target : String) : Directory :=
  match d.contents? source with
  | none => d
  | some text =>
    { d with listing? := some (Keyed.insert target text (Keyed.erase source d.files)) }

/-- The text is written under a name of its own first and then moved, so that a reader sees all of
it or nothing. -/
def replace (d : Directory) (name text : String) : Directory :=
  let place := d.stagedName name
  ({ d with staged := d.staged + 1 }.write place text).rename place name

def find (d : Directory) (key : String) : Except StoreFault (Option Record) :=
  match d.contents? (fileName key) with
  | none => .ok none
  | some text => recordOf key text

instance : Store Directory where
  get := find
  put d r := .ok (d.replace (fileName r.key) r.text)

end Directory

/-- A directory that may refuse to be read, and may refuse to be written. -/
structure Guarded where
  directory : Directory
  /-- Why it cannot be read, if it cannot. -/
  readFault : Option StoreFault
  /-- Why it cannot be written, if it cannot. -/
  writeFault : Option StoreFault
  deriving DecidableEq, Repr

instance : Store Guarded where
  get s key :=
    match s.readFault with
    | some fault => .error fault
    | none => s.directory.find key
  put s r :=
    match s.writeFault with
    | some fault => .error fault
    | none => do return { s with directory := ← Store.put s.directory r }

/-- A store that fails in the same way whatever is asked of it. -/
structure Failing where
  fault : StoreFault
  deriving DecidableEq, Repr

instance : Store Failing where
  get s _ := .error s.fault
  put s _ := .error s.fault

end Cache
end RelayDesk
