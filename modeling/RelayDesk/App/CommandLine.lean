import RelayDesk.Text.Basic

/-!
The command line.  A line is read from the left: flags of the program, a verb, and then the flags
and the operand of the verb.  Three flags may stand on either side of the verb; on both sides the
one behind the verb counts.  The first mistake ends the reading, and so does a flag that asks for
the version or for help.
-/

namespace RelayDesk
namespace App

/-- Flags that may stand on either side of the verb. -/
structure Options where
  config : Option String
  verbose : Bool
  jsonLogs : Bool
  deriving DecidableEq, Repr

inductive Command where
  /-- Run an action on params given as JSON text. -/
  | call (action params : String) (resultsOnly : Bool)
  /-- Run the request that the input holds. -/
  | run (resultsOnly : Bool)
  | actions
  | version
  deriving DecidableEq, Repr

inductive Invocation where
  | command (options : Options) (command : Command)
  | showVersion
  | showHelp
  | misuse
  deriving DecidableEq, Repr

inductive Flag where
  | config
  | verbose
  | jsonLogs
  | params
  | resultsOnly
  | help
  | version
  deriving DecidableEq, Repr

namespace Flag

def name : Flag → String
  | .config => "config"
  | .verbose => "verbose"
  | .jsonLogs => "json-logs"
  | .params => "params"
  | .resultsOnly => "results-only"
  | .help => "help"
  | .version => "version"

/-- The letter that may stand for the flag. -/
def letter? : Flag → Option Char
  | .verbose => some 'v'
  | .help => some 'h'
  | .version => some 'V'
  | _ => none

def takesValue : Flag → Bool
  | .config | .params => true
  | _ => false

end Flag

inductive Verb where
  | call
  | run
  | actions
  | version
  deriving DecidableEq, Repr

namespace Verb

def name : Verb → String
  | .call => "call"
  | .run => "run"
  | .actions => "actions"
  | .version => "version"

def all : List Verb := [.call, .run, .actions, .version]

def ofName? (name : String) : Option Verb := all.find? (·.name == name)

end Verb

/-- The part of the line before the verb, or behind it. -/
inductive Level where
  | program
  | verb (verb : Verb)
  deriving DecidableEq, Repr

namespace Level

/-- The flags that have a meaning at the level. -/
def flags : Level → List Flag
  | .program => [.config, .verbose, .jsonLogs, .help, .version]
  | .verb .call => [.config, .verbose, .jsonLogs, .help, .params, .resultsOnly]
  | .verb .run => [.config, .verbose, .jsonLogs, .help, .resultsOnly]
  | .verb _ => [.config, .verbose, .jsonLogs, .help]

def operandLimit : Level → Nat
  | .verb .call => 1
  | _ => 0

def flagOfName? (l : Level) (name : String) : Option Flag := l.flags.find? (·.name == name)

def flagOfLetter? (l : Level) (c : Char) : Option Flag :=
  l.flags.find? (·.letter? == some c)

end Level

inductive Argument where
  /-- Two dashes, behind which nothing is a flag. -/
  | divider
  | long (name : String) (value : Option String)
  | short (letters : List Char)
  | word (text : String)
  deriving DecidableEq, Repr

/-- A name and what follows its first equals sign. -/
def splitEquals (cs : List Char) : String × Option String :=
  let name := String.ofList (cs.takeWhile (· != '='))
  match cs.dropWhile (· != '=') with
  | [] => (name, none)
  | _ :: value => (name, some (String.ofList value))

/-- The form of an argument.  A single dash is a word. -/
def Argument.of (text : String) : Argument :=
  match text.toList with
  | ['-', '-'] => .divider
  | '-' :: '-' :: rest =>
    let (name, value) := splitEquals rest
    .long name value
  | '-' :: c :: rest => .short (c :: rest)
  | _ => .word text

inductive Stop where
  | misuse
  | help
  | version
  deriving DecidableEq, Repr

/-- What was found at a level: flags with their values, and operands. -/
structure Findings where
  flags : List (Flag × String)
  operands : List String
  deriving DecidableEq, Repr

namespace Findings

def empty : Findings := { flags := [], operands := [] }

def value? (f : Findings) (flag : Flag) : Option String :=
  (f.flags.find? (·.1 == flag)).map (·.2)

def has (f : Findings) (flag : Flag) : Bool := (f.value? flag).isSome

def addFlag (f : Findings) (flag : Flag) (value : String) : Except Stop Findings :=
  match flag with
  | .help => .error .help
  | .version => .error .version
  | flag =>
    if f.has flag || (flag == .config && value.isEmpty) then .error .misuse
    else .ok { f with flags := (flag, value) :: f.flags }

/-- Add the flags that a group of letters stands for. -/
def addLetters (level : Level) : Findings → List Char → Except Stop Findings
  | f, [] => .ok f
  | f, c :: rest =>
    match level.flagOfLetter? c with
    | none => .error .misuse
    | some flag => do addLetters level (← f.addFlag flag "") rest

def addOperand (level : Level) (f : Findings) (operand : String) : Except Stop Findings :=
  if f.operands.length < level.operandLimit then
    .ok { f with operands := f.operands ++ [operand] }
  else .error .misuse

end Findings

/-- Read one level; answers with what was found and, at the level of the program, with the word
that ended it and the arguments behind that word. -/
def readLevel (level : Level) :
    Findings → List String → Except Stop (Findings × Option (String × List String))
  | f, [] => .ok (f, none)
  | f, arg :: rest =>
    match Argument.of arg with
    | .divider => do return (← rest.foldlM (Findings.addOperand level) f, none)
    | .short letters => do readLevel level (← f.addLetters level letters) rest
    | .word text =>
      match level with
      | .program => .ok (f, some (text, rest))
      | .verb _ => do readLevel level (← f.addOperand level text) rest
    | .long name value =>
      match level.flagOfName? name with
      | none => .error .misuse
      | some flag =>
        if flag.takesValue then
          match value, rest with
          | some v, rest => do readLevel level (← f.addFlag flag v) rest
          | none, [] => .error .misuse
          | none, next :: rest =>
            match Argument.of next with
            | .word v => do readLevel level (← f.addFlag flag v) rest
            | _ => .error .misuse
        else if value.isSome then .error .misuse
        else do readLevel level (← f.addFlag flag "") rest

/-- The options, from what stands before the verb and behind it. -/
def Options.of (before behind : Findings) : Options where
  config := behind.value? .config <|> before.value? .config
  verbose := before.has .verbose || behind.has .verbose
  jsonLogs := before.has .jsonLogs || behind.has .jsonLogs

def noParams : String := "\x7b\x7d"

/-- The command of a verb with what was found behind it.  Only a call has an operand, and it must
have it. -/
def Command.of? (verb : Verb) (f : Findings) : Option Command :=
  match verb with
  | .call => f.operands.head?.map fun action =>
      .call action ((f.value? .params).getD noParams) (f.has .resultsOnly)
  | .run => some (.run (f.has .resultsOnly))
  | .actions => some .actions
  | .version => some .version

/-- The word that asks for help where a verb is expected. -/
def helpWord : String := "help"

/-- Help is given on the program and on single verbs. -/
def readHelp : List String → Stop
  | [] => .help
  | [topic] => if topic == helpWord || (Verb.ofName? topic).isSome then .help else .misuse
  | _ => .misuse

def readLine (args : List String) : Except Stop (Options × Command) := do
  match ← readLevel .program .empty args with
  | (_, none) => .error .misuse
  | (before, some (word, rest)) =>
    if word = helpWord then .error (readHelp rest)
    else match Verb.ofName? word with
      | none => .error .misuse
      | some verb =>
        let (behind, _) ← readLevel (.verb verb) .empty rest
        match Command.of? verb behind with
        | some command => return (.of before behind, command)
        | none => .error .misuse

def Invocation.of (args : List String) : Invocation :=
  match readLine args with
  | .ok (options, asked) => .command options asked
  | .error .version => .showVersion
  | .error .help => .showHelp
  | .error .misuse => .misuse

end App
end RelayDesk
