import RelayDesk.Text.Basic
import RelayDesk.Text.Bytes

/-!
Paths of files, and why a file system refuses one.  A path is a list of names, from the root or
from the working folder.  A slash at its end asks for a folder.
-/

namespace RelayDesk
namespace Files

inductive Fault where
  | absent
  | alreadyThere
  | notFolder
  | isFolder
  | nameTooLong
  | nulByte
  deriving DecidableEq, Repr

namespace Fault

def words : Fault → String
  | .absent => "No such file or directory"
  | .alreadyThere => "File exists"
  | .notFolder => "Not a directory"
  | .isFolder => "Is a directory"
  | .nameTooLong => "File name too long"
  | .nulByte => "file name contained an unexpected NUL byte"

/-- The number that goes with a fault, if it comes from the system. -/
def number? : Fault → Option Nat
  | .absent => some 2
  | .alreadyThere => some 17
  | .notFolder => some 20
  | .isFolder => some 21
  | .nameTooLong => some 36
  | .nulByte => none

def message (f : Fault) : String :=
  match f.number? with
  | some n => f.words ++ " (os error " ++ String.ofList (Text.decimal n) ++ ")"
  | none => f.words

def all : List Fault := [.absent, .alreadyThere, .notFolder, .isFolder, .nameTooLong, .nulByte]

/-- The fault that a number stands for. -/
def ofNumber? (n : Nat) : Option Fault := all.find? (·.number? == some n)

end Fault

structure Path where
  absolute : Bool
  /-- The names, the last one first. -/
  names : List String
  closed : Bool
  deriving DecidableEq, Repr

namespace Path

def nameLimit : Nat := 255

def lengthLimit : Nat := 4095

/-- Read a path.  Slashes that stand together count as one. -/
def ofText (text : String) : Except Fault Path :=
  let cs := text.toList
  if cs.contains '\x00' then .error .nulByte
  else if lengthLimit < Text.byteLength cs then .error .nameTooLong
  else
    .ok
      { absolute := cs.head? == some '/'
        names := (((cs.splitOn '/').filter (!·.isEmpty)).map String.ofList).reverse
        closed := cs.getLast? == some '/' }

def text (p : Path) : String :=
  (if p.absolute then "/" else "") ++ "/".intercalate p.names.reverse

/-- The path of nothing at all, which is not that of the working folder. -/
def isEmpty (p : Path) : Bool := !p.absolute && p.names.isEmpty

/-- The names to go through, in their order.  The dot of a closed path asks that a folder be
there. -/
def steps (p : Path) : List String :=
  p.names.reverse ++ if p.closed then ["."] else []

/-- What is left of a list as its first elements go, until nothing is left. -/
def outward : List String → List (List String)
  | [] => []
  | name :: above => (name :: above) :: outward above

/-- The path and the paths of the folders above it, nearest first.  A dot has the same folders
above it as the name before it. -/
def folders (p : Path) : List Path :=
  if p.names.isEmpty then []
  else
    let above := outward (p.names.filter (· != ".")).tail
    p :: above.map fun names => { p with names, closed := false }

end Path

/-- The text of the path of a file in a folder. -/
def pathIn (folder name : String) : String :=
  match folder.toList.getLast? with
  | none => name
  | some last => if last = '/' then folder ++ name else folder ++ "/" ++ name

end Files
end RelayDesk
