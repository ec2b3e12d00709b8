import RelayDesk.Files.Path

/-!
A tree of files held in memory.  A path is followed name by name, so what stands in its way decides
how it is refused: a folder that is absent, a file where a folder should be, or a name that is too
long.  A file holds a text, so a file whose bytes are not UTF-8 has no counterpart in a tree.
-/

namespace RelayDesk
namespace Files

inductive Node where
  | file (text : String)
  /-- A sealed folder takes nothing new. -/
  | folder (isSealed : Bool)
  deriving DecidableEq, Repr

/-- Where a file or folder is: the names that lead to it from the root, the last one first. -/
abbrev Place := List String

/-- The working folder.  A dot in a path stays where it is, so no path from the root leads here. -/
def workingFolder : Place := ["."]

structure Tree where
  nodes : List (Place × Node)
  deriving DecidableEq, Repr

namespace Tree

/-- A root and a working folder with nothing in them. -/
def bare : Tree := { nodes := [([], .folder false), (workingFolder, .folder false)] }

def node? (t : Tree) (place : Place) : Option Node :=
  (t.nodes.find? (·.1 == place)).map (·.2)

/-- Put a file or folder in a place, whatever was there. -/
def set (t : Tree) (place : Place) (node : Node) : Tree :=
  { nodes := (place, node) :: t.nodes.filter (·.1 != place) }

/-- Without what one place holds, every other place still holds what it held. -/
theorem find?_filter_of_ne {place p : Place} (h : place ≠ p) (nodes : List (Place × Node)) :
    (nodes.filter (·.1 != place)).find? (·.1 == p) = nodes.find? (·.1 == p) := by
  induction nodes with
  | nil => rfl
  | cons q rest ih =>
    by_cases hq : q.1 = place
    · have hqp : ¬ q.1 = p := fun e => h (hq.symm.trans e)
      simpa [hq, h, hqp] using ih
    · by_cases hqp : q.1 = p
      · simp [hqp, Ne.symm h]
      · simpa [hq, hqp] using ih

/-- What was put in a place is there, and no other place is touched. -/
theorem node?_set (t : Tree) (place p : Place) (node : Node) :
    (t.set place node).node? p = if place = p then some node else t.node? p := by
  by_cases h : place = p
  · simp [node?, set, h]
  · have hne : (place == p) = false := by simp [h]
    simp only [node?, set, List.find?_cons, hne, h, if_false, find?_filter_of_ne h]

/-- The place that a name leads to from a place.  Only a folder holds names. -/
def step (t : Tree) (place : Place) (name : String) : Except Fault Place :=
  match t.node? place with
  | none => .error .absent
  | some (.file _) => .error .notFolder
  | some (.folder _) =>
    if name = "." then .ok place
    else if name = ".." then .ok place.tail
    else if Path.nameLimit < name.utf8ByteSize then .error .nameTooLong
    else .ok (name :: place)

/-- The place that a path leads to.  All but the place itself has to be there. -/
def place (t : Tree) (p : Path) : Except Fault Place :=
  if p.isEmpty then .error .absent
  else p.steps.foldlM t.step (if p.absolute then [] else workingFolder)

/-- What a path leads to. -/
def find (t : Tree) (p : Path) : Except Fault Node := do
  match t.node? (← t.place p) with
  | none => .error .absent
  | some node => .ok node

def read (t : Tree) (p : Path) : Except Fault String := do
  match ← t.find p with
  | .file text => .ok text
  | .folder _ => .error .isFolder

/-- Put something in a place that holds nothing yet. -/
def create (t : Tree) (place : Place) (node : Node) : Except Fault Tree :=
  if t.node? place.tail = some (.folder true) then .error .absent else .ok (t.set place node)

def write (t : Tree) (p : Path) (text : String) : Except Fault Tree := do
  let place ← t.place p
  match t.node? place with
  | none => t.create place (.file text)
  | some (.file _) => .ok (t.set place (.file text))
  | some (.folder _) => .error .isFolder

def isFolder (t : Tree) (p : Path) : Bool :=
  match t.find p with
  | .ok (.folder _) => true
  | _ => false

def makeFolder (t : Tree) (p : Path) : Except Fault Tree := do
  let place ← t.place { p with closed := false }
  match t.node? place with
  | none => t.create place (.folder false)
  | some _ => .error .alreadyThere

/-- Make a folder, unless it is there already. -/
def ensureFolder (t : Tree) (p : Path) : Except Fault Tree :=
  match t.makeFolder p with
  | .ok made => .ok made
  | .error fault => if t.isFolder p then .ok t else .error fault

/-- Make the first folder of a list.  Those that follow, which are above it, are made only if it
cannot be made without them. -/
def makeFolders (t : Tree) : List Path → Except Fault Tree
  | [] => .ok t
  | p :: above =>
    match t.makeFolder p with
    | .error .absent => do (← t.makeFolders above).ensureFolder p
    | _ => t.ensureFolder p

end Tree
end Files
end RelayDesk
