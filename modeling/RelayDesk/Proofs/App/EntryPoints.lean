import RelayDesk.App.Scene
import RelayDesk.Proofs.Action.RequestText
import RelayDesk.Proofs.App.CommandLine

/-!
The two ways to ask for an action.  A call that has the action and its params on the command line
makes the request that a run reads from the input, and from there on both do the same.
-/

namespace RelayDesk
namespace App

/-! ## Requests -/

section Requests

variable {action params text : String} {v : Json} {request : Action.Request}

theorem Command.request_call (hparams : Json.read params = .ok v) (action : String)
    (resultsOnly : Bool) (input : String) :
    (Command.call action params resultsOnly).request input =
      .ok (some { action, params := v, resultsOnly }) := by
  simp only [request, hparams]
  rfl

theorem Command.request_run (hread : Action.Request.read text = .ok request)
    (resultsOnly : Bool) :
    (Command.run resultsOnly).request text =
      .ok (some { request with resultsOnly := request.resultsOnly || resultsOnly }) := by
  simp only [Command.request, hread]
  rfl

end Requests

/-! ## Answers -/

theorem Exit.code_answered_eq_zero_iff {envelope : Action.Envelope} {resultsOnly : Bool} :
    (answered envelope resultsOnly).code = 0 ↔ envelope.status = .ok := by
  cases hstatus : envelope.status <;> simp [answered, Action.Envelope.isOk, hstatus]

namespace Host

variable {m : Type → Type} [Monad m]

/-- The host with another input. -/
def withInput (h : Host m) (text : String) : Host m := { h with readInput := return .ok text }

/-- Load the settings and serve a request. -/
def answer (h : Host m) (options : Options) (request : Action.Request) : m Exit := do
  match ← h.loadSettings options with
  | .error fault => return .troubled (.settings fault)
  | .ok settings => return .answered (← h.serve settings request) request.wantsResultsOnly

/-- Nothing but the request counts of the command that makes it. -/
theorem run_of_request [LawfulMonad m] {h : Host m} {line : List String} {options : Options}
    {c : Command} {input : String} {request : Action.Request}
    (hline : Invocation.of line = .command options c) (hinput : h.inputOf c = pure (.ok input))
    (hrequest : c.request input = .ok (some request)) :
    h.run line = h.answer options request := by
  unfold run answer
  rw [hline]
  refine bind_congr fun loaded => ?_
  cases loaded with
  | error fault => rfl
  | ok settings =>
    simp only [runCommand, hinput, pure_bind, ok_bind, hrequest]

theorem run_call [LawfulMonad m] (h : Host m) {line : List String} {options : Options}
    {action params : String} {v : Json} {resultsOnly : Bool}
    (hline : Invocation.of line = .command options (.call action params resultsOnly))
    (hparams : Json.read params = .ok v) :
    h.run line = h.answer options { action, params := v, resultsOnly } := by
  have hinput : h.inputOf (.call action params resultsOnly) = pure (.ok "") := rfl
  exact run_of_request hline hinput (Command.request_call hparams action resultsOnly "")

theorem run_run [LawfulMonad m] (h : Host m) {line : List String} {options : Options}
    {text : String} {request : Action.Request} {resultsOnly : Bool}
    (hline : Invocation.of line = .command options (.run resultsOnly))
    (hread : Action.Request.read text = .ok request) :
    (h.withInput text).run line =
      h.answer options { request with resultsOnly := request.resultsOnly || resultsOnly } := by
  have hinput : (h.withInput text).inputOf (.run resultsOnly) = pure (.ok text) := by
    simp [inputOf, withInput, Command.readsInput, Except.mapError]
  exact run_of_request hline hinput (Command.request_run hread resultsOnly)

end Host

end App

/-! ## Files -/

namespace Files
namespace Tree

theorem set_set (t : Tree) (place : Place) (first second : Node) :
    (t.set place first).set place second = t.set place second := by
  simp [set, List.filter_filter]

theorem read_file {t : Tree} {p : Path} {place : Place} {text : String}
    (hplace : t.place p = .ok place) (hfile : t.node? place = some (.file text)) :
    t.read p = .ok text := by
  simp only [read, find, hplace, ok_bind, hfile]

end Tree
end Files

/-! ## Scenes -/

namespace App
namespace Scene

/-- The tree with a text as its input. -/
def giveInput (tree : Files.Tree) (text : String) : Files.Tree := tree.set inputPlace (.file text)

/-- The folders that lead to the input are there. -/
structure LeadsToInput (tree : Files.Tree) : Prop where
  root : ∃ isSealed, tree.node? [] = some (.folder isSealed)
  devices : ∃ isSealed, tree.node? ["dev"] = some (.folder isSealed)

/-- The path of the input, read. -/
def inputLocation : Files.Path := { absolute := true, names := inputPlace, closed := false }

theorem LeadsToInput.place {tree : Files.Tree} (h : LeadsToInput tree) (text : String) :
    (giveInput tree text).place inputLocation = .ok inputPlace := by
  obtain ⟨rootSeal, hroot⟩ := h.root
  obtain ⟨devSeal, hdevices⟩ := h.devices
  have hdev : (giveInput tree text).step [] "dev" = .ok ["dev"] := by
    simp only [Files.Tree.step, giveInput, Files.Tree.node?_set, inputPlace, hroot]
    rfl
  have hstdin : (giveInput tree text).step ["dev"] "stdin" = .ok inputPlace := by
    simp only [Files.Tree.step, giveInput, Files.Tree.node?_set, inputPlace, hdevices]
    rfl
  show ["dev", "stdin"].foldlM (giveInput tree text).step [] = _
  rw [List.foldlM_cons, hdev, ok_bind, List.foldlM_cons, hstdin]
  rfl

/-- The input is taken once. -/
theorem take_input {tree : Files.Tree} (h : LeadsToInput tree) (text : String) :
    (take inputPath).run (giveInput tree text) = (.ok text, giveInput tree "") := by
  have hpath : Files.Path.ofText inputPath = .ok inputLocation := by decide +kernel
  have hplace := h.place text
  have hfile : (giveInput tree text).node? inputPlace = some (.file text) := by
    rw [giveInput, Files.Tree.node?_set, if_pos rfl]
  have hused : (giveInput tree text).set inputPlace (.file "") = giveInput tree "" :=
    Files.Tree.set_set tree inputPlace (.file text) (.file "")
  have hread := Files.Tree.read_file hplace hfile
  simp [take, hpath, hplace, hread, hused]
  rfl

/-- Where no file is named, settings are loaded without a look at the files. -/
theorem exists_loadSettings_eq_pure (s : Scene) {options : Options}
    (hfile : options.config = none) : ∃ loaded, s.host.loadSettings options = pure loaded := by
  obtain ⟨env, henv⟩ : ∃ env, s.host.environment = pure env := ⟨_, rfl⟩
  have hdir : s.host.defaultCacheDir = pure s.defaultCacheDir := rfl
  refine ⟨(Settings.load (.default s.defaultCacheDir) none env).map options.amend, ?_⟩
  simp only [Host.loadSettings, hdir, hfile, Host.settingsFile, henv, pure_bind]

/-- Two runs that end alike: with the same exit, and with the same in every place but that of the
input. -/
structure EndAlike (p q : Exit × Files.Tree) : Prop where
  exit : p.1 = q.1
  files : ∀ place, place ≠ inputPlace → p.2.node? place = q.2.node? place

/-- A run takes what the files hold as its input. -/
theorem run_giveInput (s : Scene) {tree : Files.Tree} (h : LeadsToInput tree) {line : List String}
    {options : Options} {resultsOnly : Bool} (hfile : options.config = none)
    (hline : Invocation.of line = .command options (.run resultsOnly)) (text : String) :
    EndAlike ((s.host.run line).run (giveInput tree text))
      (((s.host.withInput text).run line).run (giveInput tree "")) := by
  obtain ⟨loaded, hheld⟩ := s.exists_loadSettings_eq_pure hfile
  have hhanded : (s.host.withInput text).loadSettings options = pure loaded := hheld
  unfold Host.run
  rw [hline]
  simp only [hheld, hhanded, pure_bind]
  cases loaded with
  | error fault =>
    -- The input is not taken, so it is the only thing that the files differ in.
    refine ⟨rfl, fun place hplace => ?_⟩
    show (giveInput tree text).node? place = (giveInput tree "").node? place
    rw [giveInput, giveInput, Files.Tree.node?_set, Files.Tree.node?_set, if_neg hplace.symm,
      if_neg hplace.symm]
  | ok settings =>
    have htaken : (s.host.inputOf (.run resultsOnly)).run (giveInput tree text) =
        ((s.host.withInput text).inputOf (.run resultsOnly)).run (giveInput tree "") := by
      have hread : (s.host.readInput).run (giveInput tree text) = (.ok text, giveInput tree "") :=
        take_input h text
      simp only [Host.inputOf, Command.readsInput, if_true, StateT.run_bind, hread]
      rfl
    have hsame : (s.host.runCommand settings (.run resultsOnly)).run (giveInput tree text) =
        ((s.host.withInput text).runCommand settings (.run resultsOnly)).run
          (giveInput tree "") := by
      simp only [Host.runCommand, StateT.run_bind, htaken]
      rfl
    exact ⟨congrArg Prod.fst hsame, fun place _ => by rw [hsame]⟩

end Scene

/-! ## Agreement -/

/-- A line is run as another one with a text as its input: every host serves the same request for
both, and where the text is held by the files the runs end alike.  The code tells whether the
request succeeded. -/
structure RunAlike (line other : List String) (text : String) (request : Action.Request) :
    Prop where
  answer : ∀ (m : Type → Type) [Monad m] [LawfulMonad m] (h : Host m),
    h.run line = h.answer .unset request ∧ (h.withInput text).run other = h.answer .unset request
  ends : ∀ (s : Scene) (tree : Files.Tree), Scene.LeadsToInput tree →
    Scene.EndAlike ((s.host.run line).run (Scene.giveInput tree ""))
      ((s.host.run other).run (Scene.giveInput tree text))
  code : ∀ envelope, (Exit.answered envelope request.wantsResultsOnly).code = 0 ↔
    envelope.status = .ok

/-- A call makes the request that a run reads from the input, for any action, any params that leave
room for one more container around them, and however the input spells the three members.  The lines
of both then run alike.  A line that has the action and its params as arguments of their own is such
a call exactly when both are words. -/
theorem call_and_run_agree {action params text : String} {v : Json} {asked held : Bool}
    (hparams : Json.read params = .ok v)
    (hnests : Json.nestsWithin 126 .outside params.toList = true)
    (htext : Action.IsRequestText action params held text) :
    (∀ input, (Command.call action params (asked || held)).request input =
      .ok (some { action, params := v, resultsOnly := asked || held })) ∧
    (Command.run asked).request text =
      .ok (some { action, params := v, resultsOnly := asked || held }) ∧
    (Invocation.of (plainCall action params (asked || held)) =
      .command .unset (.call action params (asked || held)) ↔ IsWord action ∧ IsWord params) ∧
    ∀ line, CallLine action params (asked || held) line →
      RunAlike line (runLine asked) text
        { action, params := v, resultsOnly := asked || held } := by
  have hread : Action.Request.read text = .ok { action, params := v, resultsOnly := held } :=
    Action.Request.read_of_isRequestText hparams hnests htext
  rw [Bool.or_comm asked held]
  refine ⟨Command.request_call hparams action _, Command.request_run hread asked,
    ⟨isWord_of_invocation, fun hwords => (CallLine.plain hwords.1 hwords.2).invocation⟩,
    fun line hline => ?_⟩
  have hrun := invocation_runLine asked
  have hanswer : ∀ (m : Type → Type) [Monad m] [LawfulMonad m] (h : Host m),
      h.run line = h.answer .unset { action, params := v, resultsOnly := held || asked } ∧
      (h.withInput text).run (runLine asked) =
        h.answer .unset { action, params := v, resultsOnly := held || asked } :=
    fun m _ _ h => ⟨h.run_call hline.invocation hparams, h.run_run hrun hread⟩
  refine ⟨hanswer, fun s tree htree => ?_, fun envelope => Exit.code_answered_eq_zero_iff⟩
  obtain ⟨hcall, hhanded⟩ := hanswer _ s.host
  obtain ⟨hexit, hfiles⟩ := s.run_giveInput htree rfl hrun text
  rw [hcall, ← hhanded]
  exact ⟨hexit.symm, fun place hplace => (hfiles place hplace).symm⟩

/-! A question to the cache, with its members in another order, blanks around them and escapes in
their strings. -/

def spelledParams : String := "\x7b \"key\":\"k\"\x7d"

def spelledText : String :=
  "\x7b\"resultsOnly\": true,\n\"params\" : \x7b \"key\":\"k\"\x7d ," ++
    " \"\\u0061ction\":\"cache\\u0047et\"\x7d\n"

theorem isRequestText_spelledText :
    Action.IsRequestText "cacheGet" spelledParams true spelledText := by
  have haction : Json.IsMemberText "action" (fun x => Json.read x = .ok (.str "cacheGet"))
      " \"\\u0061ction\":\"cache\\u0047et\"".toList :=
    ⟨" \"\\u0061ction\"", "\"cache\\u0047et\"", by decide +kernel, by decide +kernel, by decide⟩
  have hspace : Json.AllJsonBlank [' '] := List.forall_mem_singleton.mpr rfl
  have hfeed : Json.AllJsonBlank ['\n'] := List.forall_mem_singleton.mpr rfl
  have hparams : Json.IsMemberText "params" (Action.IsPadded spelledParams)
      "\n\"params\" : \x7b \"key\":\"k\"\x7d ".toList :=
    ⟨"\n\"params\" ", " \x7b \"key\":\"k\"\x7d ", by decide +kernel,
      ⟨[' '], [' '], hspace, hspace, by decide⟩, by decide⟩
  have hflag : Json.IsMemberText Action.resultsOnlyKey (fun x => Json.read x = .ok (.bool true))
      "\"resultsOnly\": true".toList :=
    ⟨"\"resultsOnly\"", " true", by decide +kernel, by decide +kernel, by decide⟩
  refine ⟨_, _, _, _, haction, hparams, hflag, List.reverse_perm _, ?_⟩
  exact ⟨[], ['\n'], nofun, hfeed, by decide⟩

/-- Folders for the input and for files, with nothing in them. -/
def bareTree : Files.Tree :=
  Files.Tree.bare.set ["dev"] (.folder false)

def bareScene : Scene where
  environment := fun _ => none
  defaultCacheDir := "/cache"
  time := 1000
  answer := .failure "no connection to the node"

/-- It is answered as the call that asks for the bare result. -/
theorem spelled_question_agrees :
    (Command.run false).request spelledText =
      .ok (some { action := "cacheGet", params := .obj [("key", .str "k")], resultsOnly := true }) ∧
    Scene.EndAlike
      ((bareScene.host.run ["call", "cacheGet", "--params", spelledParams, "--results-only"]).run
        (Scene.giveInput bareTree ""))
      ((bareScene.host.run ["run"]).run (Scene.giveInput bareTree spelledText)) := by
  obtain ⟨-, hrequest, -, hlines⟩ := @call_and_run_agree "cacheGet" spelledParams spelledText
    (.obj [("key", .str "k")]) false true (by decide +kernel) (by decide) isRequestText_spelledText
  have htree : Scene.LeadsToInput bareTree := ⟨⟨false, by decide⟩, ⟨false, by decide⟩⟩
  exact ⟨hrequest, (hlines _ (.plain (by decide) (by decide))).ends bareScene bareTree htree⟩

/-- A negative number begins with a dash, so that a call does not take it for params in an argument
of its own, while a run takes it from the input. -/
theorem negative_params_refused :
    Json.read "-1" = .ok (.num "-1") ∧
    Json.nestsWithin 126 .outside "-1".toList = true ∧
    Action.IsRequestText "cacheGet" "-1" false
      "\x7b\"action\":\"cacheGet\",\"params\":-1,\"resultsOnly\":false\x7d" ∧
    (Command.run false).request
        "\x7b\"action\":\"cacheGet\",\"params\":-1,\"resultsOnly\":false\x7d" =
      .ok (some { action := "cacheGet", params := .num "-1", resultsOnly := false }) ∧
    Invocation.of ["run"] = .command .unset (.run false) ∧
    Invocation.of ["call", "cacheGet", "--params", "-1"] = .misuse := by
  refine ⟨by decide +kernel, by decide, ?_, by decide +kernel, by decide, by decide⟩
  refine ⟨_, _, _, _, ⟨"\"action\"", "\"cacheGet\"", by decide +kernel, by decide +kernel, rfl⟩,
    ⟨"\"params\"", "-1", by decide +kernel, ⟨[], [], nofun, nofun, rfl⟩, rfl⟩,
    ⟨"\"resultsOnly\"", "false", by decide +kernel, by decide +kernel, rfl⟩, .refl _, ?_⟩
  exact ⟨[], [], nofun, nofun, by decide⟩

end App
end RelayDesk
