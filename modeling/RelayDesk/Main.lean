import RelayDesk.App.Program
import RelayDesk.Files.Path
import Std.Time.DateTime.Timestamp

/-!
The program itself: the files, the clock and the environment of the machine it runs on.  There is
no network here, so a request to a node is always answered by a failure of the connection.
-/

namespace RelayDesk
namespace Machine

/-- The number of a failure of the file system, which some operations give with its sign
changed. -/
def positiveCode (code : UInt32) : Nat := min code.toNat (UInt32.size - code.toNat)

/-- The reason for a failure of the file system, with its number. -/
def numberedReason (code : UInt32) (details : String) : String :=
  let number := positiveCode code
  match Files.Fault.ofNumber? number with
  | some fault => fault.message
  | none =>
    details.capitalize ++ " (os error " ++ String.ofList (Text.decimal number) ++ ")"

def reason : IO.Error → String
  | .noFileOrDirectory _ code details => numberedReason code details
  | .alreadyExists _ code details => numberedReason code details
  | .permissionDenied _ code details => numberedReason code details
  | .inappropriateType _ code details => numberedReason code details
  | .resourceExhausted _ code details => numberedReason code details
  | .invalidArgument _ code details => numberedReason code details
  | .noSuchThing _ code details => numberedReason code details
  | .otherError code details => numberedReason code details
  | .userError _ => "stream did not contain valid UTF-8"
  | e => e.toString

def readFile (path : String) : IO (Except String String) := do
  try return .ok (← IO.FS.readFile path)
  catch e => return .error (reason e)

def readInput : IO (Except String String) := do
  try return .ok (← (← IO.getStdin).readToEnd)
  catch e => return .error (reason e)

def defaultCacheDir : IO String := do
  let base := (← IO.getEnv "TMPDIR").getD "/tmp"
  return base ++ "/chainexec-cache"

/-- The seconds since the beginning of 1970. -/
def now : IO Int := do
  return (← Std.Time.Timestamp.now).toSecondsSinceUnixEpoch.val

/-- The part of a cache directory that holds one key. -/
def loadCache (dir : String) (key? : Option String) : IO Cache.Guarded := do
  let found (directory : Cache.Directory) : Cache.Guarded :=
    { directory, readFault := none, writeFault := none }
  let unreadable (reason : String) : Cache.Guarded :=
    { directory := .empty, readFault := some (.io reason), writeFault := none }
  match key? with
  | none => return found .empty
  | some key =>
    let name := Cache.Directory.fileName key
    match Files.Path.ofText (Files.pathIn dir name) with
    | .error fault => return unreadable fault.message
    | .ok path =>
      try return found (Cache.Directory.empty.write name (← IO.FS.readFile path.text))
      catch
        | .noFileOrDirectory _ _ _ => return found .empty
        | e => return unreadable (reason e)

/-- Is there a folder at a path?  If so, the dot in it is there already. -/
def isFolder (p : Files.Path) : IO Bool := do
  try
    IO.FS.createDir (p.text ++ "/.")
    return false
  catch
    | .alreadyExists _ _ _ => return true
    | _ => return false

def ensureFolder (p : Files.Path) : IO Unit := do
  try IO.FS.createDir p.text
  catch e => unless ← isFolder p do throw e

/-- Make the first folder of a list.  Those that follow, which are above it, are made only if it
cannot be made without them. -/
def makeFolders : List Files.Path → IO Unit
  | [] => return
  | p :: above => do
    try IO.FS.createDir p.text
    catch
      | .noFileOrDirectory _ _ _ =>
        makeFolders above
        ensureFolder p
      | e => unless ← isFolder p do throw e

/-- Write the files of a directory that differ from before.  Each takes its place in one move, so
that no reader sees half of it. -/
def saveCache (dir : String) (before after : Cache.Directory) : IO (Option Cache.StoreFault) := do
  match Files.Path.ofText dir with
  | .error fault => return some (.io fault.message)
  | .ok folder =>
    try
      for (name, text) in after.files do
        unless before.contents? name == some text do
          makeFolders folder.folders
          let path := Files.pathIn dir name
          IO.FS.writeFile (path ++ ".new") text
          IO.FS.rename (path ++ ".new") path
      return none
    catch e => return some (.io (reason e))

/-- What comes of every request to a node. -/
def noAnswer : Rpc.Answer := .failure "no connection to the node"

/-- The envelope that answers a request.  When the cache cannot be written, the request is
answered as over a cache that refuses to be written. -/
def serve (settings : App.Settings) (request : Action.Request) : IO Action.Envelope := do
  let desk := settings.desk
  let time ← now
  let before ← loadCache settings.cacheDir (desk.key? request)
  let (envelope, relay) := desk.answer (.start before) request time noAnswer
  match ← saveCache settings.cacheDir before.directory relay.store.directory with
  | none => return envelope
  | some fault =>
    let refusing : Cache.Guarded := { before with writeFault := some fault }
    return (desk.answer (.start refusing) request time noAnswer).1

def host : App.Host IO where
  defaultCacheDir := defaultCacheDir
  readVariable name := IO.getEnv name
  fileContents := readFile
  readInput := readInput
  serve := serve

end Machine
end RelayDesk

def main (args : List String) : IO UInt32 := do
  let exit ← RelayDesk.Machine.host.run args
  IO.print exit.output
  if let some trouble := exit.trouble then
    IO.eprintln ("Error: " ++ trouble)
  return exit.code.toUInt32
