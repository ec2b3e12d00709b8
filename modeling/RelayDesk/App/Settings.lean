import RelayDesk.Cache.Call

/-!
Settings of the program.  They are read from a file, if one is named, and the environment is laid
over them.  A variable that is blank leaves a text as it is but turns a switch off.
-/

namespace RelayDesk
namespace App

open Json (Field Shape)

/-- What is logged, and in which form. -/
structure LogSettings where
  /-- The level of every component without one of its own. -/
  level : String
  /-- Levels of single components, in the order of their names. -/
  components : List (String × String)
  json : Bool
  deriving DecidableEq, Repr

namespace LogSettings

def default : LogSettings := { level := "warn", components := [], json := false }

def shape : Shape LogSettings where
  name := "LogConfig"
  blank := default
  fields :=
    [.of "level" false (fun _ => Json.readText "a string") fun s l => { l with level := s },
     .of "components" false Json.readTextMap fun ms l =>
       { l with components := Keyed.ofList ms },
     .of "json" false (fun _ => Json.readBool) fun b l => { l with json := b }]

/-- The name by which a filter knows a component. -/
def filterName (component : String) : String :=
  String.ofList (component.toList.map fun c => if c = '-' then '_' else c)

/-- The filter that the levels make together: the general level, then one part for each component
with a level of its own. -/
def directives (l : LogSettings) : String :=
  String.join (l.level :: l.components.map fun c => "," ++ filterName c.1 ++ "=" ++ c.2)

end LogSettings

/-- Settings of the program. -/
structure Settings where
  relay : Cache.Config
  /-- The directory of the cache. -/
  cacheDir : String
  requestTimeoutSecs : Nat
  /-- Actions that are refused. -/
  blockedActions : List String
  log : LogSettings
  deriving DecidableEq, Repr

/-- What is wrong with the settings. -/
inductive SettingsFault where
  | unreadable (path reason : String)
  | unparsable (path : String) (refusal : Json.Refusal)
  /-- A variable that is no boolean, trimmed and in lowercase. -/
  | notBool (name value : String)
  | notSeconds (name : String) (fault : Number.WholeFault)
  deriving DecidableEq, Repr

def SettingsFault.message : SettingsFault → String
  | .unreadable path reason => "reading config " ++ path ++ ": " ++ reason
  | .unparsable path refusal => "parsing config " ++ path ++ ": " ++ refusal.message
  | .notBool name value => name ++ " must be a boolean (got " ++ Text.quoted value ++ ")"
  | .notSeconds name fault => name ++ " must be a whole number of seconds: " ++ fault.message

/-- The values of variables that are set. -/
abbrev Environment := String → Option String

namespace Environment

def strictMode : String := "CHAINEXEC_STRICT_MODE"

def allowStale : String := "CHAINEXEC_ALLOW_STALE"

def cacheDir : String := "CHAINEXEC_CACHE_DIR"

def timeoutSecs : String := "CHAINEXEC_TIMEOUT_SECS"

def log : String := "CHAINEXEC_LOG"

/-- The variables that settings may depend on. -/
def names : List String := [strictMode, allowStale, cacheDir, timeoutSecs, log]

/-- The switch that a variable sets, or the switch as it was. -/
def switch (env : Environment) (name : String) (before : Bool) : Except SettingsFault Bool :=
  match env name with
  | none => .ok before
  | some raw =>
    let value := Text.asciiLower (Text.trim raw)
    if ["1", "true", "yes", "on"].contains value then .ok true
    else if ["0", "false", "no", "off", ""].contains value then .ok false
    else .error (.notBool name value)

/-- The text that a variable sets, trimmed, or the text as it was. -/
def text (env : Environment) (name before : String) : String :=
  match (env name).map Text.trim with
  | none => before
  | some value => if value.isEmpty then before else value

/-- The number of seconds that a variable sets, or the number as it was. -/
def seconds (env : Environment) (name : String) (before : Nat) : Except SettingsFault Nat :=
  match env name with
  | none => .ok before
  | some raw =>
    (Number.readUnsigned (Text.trimChars raw.toList)).mapError (.notSeconds name)

end Environment

namespace Settings

/-- The settings where nothing else is said. -/
def default (cacheDir : String) : Settings where
  relay := .default
  cacheDir := cacheDir
  requestTimeoutSecs := 30
  blockedActions := []
  log := .default

/-- The shape of the file.  Fields that it leaves out are as in `blank`. -/
def shape (blank : Settings) : Shape Settings where
  name := "AppConfig"
  blank := blank
  fields :=
    [.of "executor" false Cache.Config.shape.read fun c s => { s with relay := c },
     .of "cacheDir" false (fun _ => Json.readText "path string") fun t s =>
       { s with cacheDir := t },
     .of "requestTimeoutSecs" false (fun _ => Json.readInteger 0 Number.maxUnsigned "u64")
       fun n s => { s with requestTimeoutSecs := n.toNat },
     .of "blockedActions" false Json.readTextList fun ts s => { s with blockedActions := ts },
     .of "log" false LogSettings.shape.read fun l s => { s with log := l }]

/-- The settings in the file at `path`, given its contents or the reason why there are none. -/
def ofFile (blank : Settings) (path : String) :
    Except String String → Except SettingsFault Settings
  | .error reason => .error (.unreadable path reason)
  | .ok contents => ((shape blank).readText contents).mapError (.unparsable path)

/-- The settings with the environment laid over them.  Of two bad variables the first one in this
order is reported. -/
def overlay (s : Settings) (env : Environment) : Except SettingsFault Settings := do
  let strictMode ← env.switch Environment.strictMode s.relay.strictMode
  let allowStaleFallback ← env.switch Environment.allowStale s.relay.allowStaleFallback
  let requestTimeoutSecs ← env.seconds Environment.timeoutSecs s.requestTimeoutSecs
  return { s with
    relay := { strictMode, allowStaleFallback }
    cacheDir := env.text Environment.cacheDir s.cacheDir
    requestTimeoutSecs
    log := { s.log with level := env.text Environment.log s.log.level } }

/-- Load settings: from a file at a path, if there is one, and from the environment. -/
def load (blank : Settings) (file : Option (String × Except String String))
    (env : Environment) : Except SettingsFault Settings := do
  let base ← match file with
    | some (path, contents) => ofFile blank path contents
    | none => .ok blank
  base.overlay env

end Settings
end App
end RelayDesk
