import RelayDesk.App.Program
import RelayDesk.Cache.Shelf

/-!
Runs of the program where everything outside is known beforehand: the files are a tree in memory,
and the variables, the time and the answer to a request are given.  A run is then a function from
one tree to the next.
-/

namespace RelayDesk
namespace App

structure Scene where
  environment : Environment
  defaultCacheDir : String
  time : Int
  /-- What comes of the request, if one is sent. -/
  answer : Rpc.Answer

namespace Scene

/-- The place of the input among the files. -/
def inputPlace : Files.Place := ["stdin", "dev"]

def inputPath : String := "/dev/stdin"

/-- Take the text of a file, or the reason why there is none.  The input can be taken only once,
and what is left of it is empty. -/
def take (path : String) : StateM Files.Tree (Except String String) := do
  let tree ← get
  let found := do
    let p ← Files.Path.ofText path
    return (← tree.place p, ← tree.read p)
  match found with
  | .error fault => return .error fault.message
  | .ok (place, text) =>
    if place = inputPlace then set (tree.set place (.file ""))
    return .ok text

def host (s : Scene) : Host (StateM Files.Tree) where
  defaultCacheDir := return s.defaultCacheDir
  readVariable name := return s.environment name
  fileContents := take
  readInput := take inputPath
  serve settings request := do
    let shelf : Cache.Shelf := { tree := ← get, folder := settings.cacheDir }
    let (envelope, relay) := settings.desk.answer (.start shelf) request s.time s.answer
    set relay.store.tree
    return envelope

end Scene
end App
end RelayDesk
