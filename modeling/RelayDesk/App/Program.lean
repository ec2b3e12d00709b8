import RelayDesk.Action.Dispatch
import RelayDesk.App.CommandLine
import RelayDesk.App.Settings

/-!
One run of the program.  The settings are loaded before the command is looked at, so bad settings
stop even a command that needs none.  What a run needs from outside is a `Host`, and the rest is
computed.
-/

namespace RelayDesk
namespace App

structure Exit where
  code : Nat
  output : String
  /-- What went wrong, when no answer could be given. -/
  trouble : Option String
  deriving DecidableEq, Repr

inductive Trouble where
  | settings (fault : SettingsFault)
  | paramsText (refusal : Json.Refusal)
  | requestText (refusal : Json.Refusal)
  | input (reason : String)
  deriving DecidableEq, Repr

def Trouble.message : Trouble → String
  | .settings fault => fault.message
  | .paramsText refusal => "--params is not valid JSON: " ++ refusal.message
  | .requestText refusal =>
    "stdin is not an \x7baction, params\x7d envelope: " ++ refusal.message
  | .input reason => "reading request from stdin: " ++ reason

namespace Exit

def printed (output : String) : Exit := { code := 0, output, trouble := none }

def troubled (t : Trouble) : Exit := { code := 1, output := "", trouble := some t.message }

def misused : Exit := { code := 2, output := "", trouble := none }

/-- An envelope on one line; the code tells whether the action succeeded. -/
def answered (envelope : Action.Envelope) (resultsOnly : Bool) : Exit where
  code := if envelope.isOk then 0 else 1
  output := (envelope.output resultsOnly).text ++ "\n"
  trouble := none

end Exit

def versionLine : String := "chainexec 0.1.0\n"

/-- The catalog of the actions, on lines of its own. -/
def catalogText : String :=
  (Json.arr (Action.builtin.catalog.map Json.obj)).indentedText ++ "\n"

def helpText : String :=
  "Cached JSON-RPC calls and bridge/swap quotes, one action per invocation\n\n" ++
  "Usage: chainexec [--config PATH] [-v] [--json-logs] COMMAND\n\n" ++
  "Commands:\n" ++
  "  call ACTION [--params JSON] [--results-only]\n" ++
  "  run [--results-only]\n" ++
  "  actions\n" ++
  "  version\n"

def Command.readsInput : Command → Bool
  | .run _ => true
  | _ => false

/-- The request for an action that a command makes, if it makes one. -/
def Command.request (c : Command) (input : String) : Except Trouble (Option Action.Request) :=
  match c with
  | .call action params resultsOnly => do
    let params ← (Json.read params).mapError .paramsText
    return some { action, params, resultsOnly }
  | .run resultsOnly => do
    let request ← (Action.Request.read input).mapError .requestText
    return some { request with resultsOnly := request.resultsOnly || resultsOnly }
  | _ => .ok none

def Command.printout : Command → String
  | .version => versionLine
  | _ => catalogText

/-- The settings as the options change them. -/
def Options.amend (o : Options) (s : Settings) : Settings :=
  { s with log :=
    { s.log with
      level := if o.verbose then "debug" else s.log.level
      json := o.jsonLogs || s.log.json } }

def Settings.desk (s : Settings) : Action.Desk :=
  { config := s.relay, tables := .builtin, blocked := s.blockedActions }

/-- What a run needs from outside. -/
structure Host (m : Type → Type) where
  defaultCacheDir : m String
  readVariable : String → m (Option String)
  fileContents : String → m (Except String String)
  readInput : m (Except String String)
  /-- The envelope that answers a request, over the cache in the directory of the settings. -/
  serve : Settings → Action.Request → m Action.Envelope

namespace Host

variable {m : Type → Type} [Monad m]

/-- The environment, as far as settings depend on it. -/
def environment (h : Host m) : m Environment := do
  let pairs ← Environment.names.mapM fun name => do return (name, ← h.readVariable name)
  return fun name => (pairs.find? (·.1 == name)).bind (·.2)

/-- The file that an option names, with what is in it. -/
def settingsFile (h : Host m) : Option String → m (Option (String × Except String String))
  | none => return none
  | some path => do return some (path, ← h.fileContents path)

def loadSettings (h : Host m) (options : Options) : m (Except SettingsFault Settings) := do
  let blank := Settings.default (← h.defaultCacheDir)
  let file ← h.settingsFile options.config
  let env ← h.environment
  return (Settings.load blank file env).map options.amend

/-- The input, if the command reads it. -/
def inputOf (h : Host m) (c : Command) : m (Except Trouble String) := do
  if c.readsInput then return (← h.readInput).mapError .input else return .ok ""

def runCommand (h : Host m) (settings : Settings) (c : Command) : m Exit := do
  match (← h.inputOf c) >>= c.request with
  | .error trouble => return .troubled trouble
  | .ok none => return .printed c.printout
  | .ok (some request) =>
    return .answered (← h.serve settings request) request.wantsResultsOnly

/-- Run the program on a command line. -/
def run (h : Host m) (args : List String) : m Exit := do
  match Invocation.of args with
  | .misuse => return .misused
  | .showVersion => return .printed versionLine
  | .showHelp => return .printed helpText
  | .command options command =>
    match ← h.loadSettings options with
    | .error fault => return .troubled (.settings fault)
    | .ok settings => h.runCommand settings command

end Host
end App
end RelayDesk
