import RelayDesk.Cache.Store
import RelayDesk.Files.Tree

/-!
A store in a folder of a tree of files.  The folder is made when the first record is put.  Where
the tree refuses the folder or a file in it, the store fails.
-/

namespace RelayDesk
namespace Cache

structure Shelf where
  tree : Files.Tree
  folder : String
  deriving DecidableEq, Repr

namespace Shelf

def path (s : Shelf) (key : String) : Except Files.Fault Files.Path :=
  Files.Path.ofText (Files.pathIn s.folder (Directory.fileName key))

def contents (s : Shelf) (key : String) : Except Files.Fault String := do
  s.tree.read (← s.path key)

def find (s : Shelf) (key : String) : Except StoreFault (Option Record) :=
  match s.contents key with
  | .error .absent => .ok none
  | .error fault => .error (.io fault.message)
  | .ok text => recordOf key text

/-- The tree after a text was written to the file of a key. -/
def write (s : Shelf) (key text : String) : Except Files.Fault Files.Tree := do
  let tree ← s.tree.makeFolders (← Files.Path.ofText s.folder).folders
  tree.write (← s.path key) text

instance : Store Shelf where
  get := find
  put s r :=
    match s.write r.key r.text with
    | .error fault => .error (.io fault.message)
    | .ok tree => .ok { s with tree }

end Shelf
end Cache
end RelayDesk
