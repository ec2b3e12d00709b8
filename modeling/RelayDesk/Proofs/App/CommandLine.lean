import RelayDesk.App.CommandLine
import RelayDesk.Proofs.Except

/-!
What a level finds in its arguments, one argument after the other, and the lines that ask for a call
or for a request from the input.  Behind the divider an operand may begin with a dash, and so may a
value behind an equals sign; a word on its own may not.
-/

namespace RelayDesk
namespace App

/-! ## Arguments -/

/-- A text that begins with a dash is no word, unless it is nothing else. -/
def IsWord (text : String) : Prop := text = "-" ∨ text.toList.head? ≠ some '-'

instance (text : String) : Decidable (IsWord text) := inferInstanceAs (Decidable (_ ∨ _))

theorem Argument.of_word {text : String} (h : IsWord text) : Argument.of text = .word text := by
  rcases h with rfl | h
  · rfl
  · unfold Argument.of
    split
    · next htext => simp [htext] at h
    · next htext => simp [htext] at h
    · next htext => simp [htext] at h
    · rfl

theorem Argument.of_ne_word {text : String} (h : ¬ IsWord text) (word : String) :
    Argument.of text ≠ .word word := by
  have hone : text.toList ≠ ['-'] := fun hchars => h (.inl (String.toList_inj.mp hchars))
  have hdash : text.toList.head? = some '-' := not_not.mp (not_or.mp h).2
  unfold Argument.of
  split
  · exact nofun
  · exact nofun
  · exact nofun
  · next htwo hlong hshort =>
    obtain ⟨tail, hchars⟩ := List.head?_eq_some_iff.mp hdash
    cases tail with
    | nil => exact absurd hchars hone
    | cons c rest => exact absurd hchars (hshort c rest)

/-- What follows an equals sign is a value, whatever it begins with. -/
theorem Argument.of_valued (value : String) :
    Argument.of ("--params=" ++ value) = .long "params" (some value) := by
  have hchars : ("--params=" ++ value).toList =
      '-' :: '-' :: 'p' :: ("arams=".toList ++ value.toList) := String.toList_append
  have hsplit : splitEquals ('p' :: ("arams=".toList ++ value.toList)) =
      ("params", some value) := by
    unfold splitEquals
    simp
  unfold Argument.of
  rw [hchars]
  exact congrArg (fun p => Argument.long p.1 p.2) hsplit

/-! ## Levels -/

section Levels

variable {level : Level} {verb : Verb} {flag : Flag} {arg name value : String}

theorem Findings.addFlag_ok {f : Findings} (hplain : flag ∉ [.help, .version, .config])
    (hnew : f.has flag = false) (value : String) :
    f.addFlag flag value = .ok { f with flags := (flag, value) :: f.flags } := by
  unfold addFlag
  split
  · simp at hplain
  · simp at hplain
  · have hother : (flag == .config) = false := by
      simp only [List.mem_cons, not_or] at hplain
      simpa using hplain.2.2.1
    rw [hnew, hother]
    rfl

theorem Findings.operands_of_addFlag {f f' : Findings} (h : f.addFlag flag value = .ok f') :
    f'.operands = f.operands := by
  unfold addFlag at h
  split at h
  · cases h
  · cases h
  · split_ifs at h
    cases h
    rfl

theorem Findings.operands_of_addLetters {letters : List Char} {f f' : Findings}
    (h : f.addLetters level letters = .ok f') : f'.operands = f.operands := by
  induction letters generalizing f with
  | nil =>
    cases h
    rfl
  | cons c rest ih =>
    unfold addLetters at h
    split at h
    · cases h
    · obtain ⟨added, hadded, h⟩ := bind_eq_ok_iff.mp h
      rw [ih h, operands_of_addFlag hadded]

theorem readLevel_word (h : IsWord arg) (f : Findings) (rest : List String) :
    readLevel (.verb verb) f (arg :: rest) =
      (do readLevel (.verb verb) (← f.addOperand (.verb verb) arg) rest) := by
  rw [readLevel, Argument.of_word h]

theorem readLevel_switch (harg : Argument.of arg = .long name none)
    (hflag : level.flagOfName? name = some flag) (hswitch : flag.takesValue = false)
    (f : Findings) (rest : List String) :
    readLevel level f (arg :: rest) = (do readLevel level (← f.addFlag flag "") rest) := by
  rw [readLevel, harg]
  simp [hflag, hswitch]

theorem readLevel_value (harg : Argument.of arg = .long name none)
    (hflag : level.flagOfName? name = some flag) (htakes : flag.takesValue = true)
    (hvalue : IsWord value) (f : Findings) (rest : List String) :
    readLevel level f (arg :: value :: rest) =
      (do readLevel level (← f.addFlag flag value) rest) := by
  rw [readLevel, harg]
  simp [hflag, htakes, Argument.of_word hvalue]

/-- What stands on its own and is no word is not taken for a value. -/
theorem readLevel_value_refused (harg : Argument.of arg = .long name none)
    (hflag : level.flagOfName? name = some flag) (htakes : flag.takesValue = true)
    (hvalue : ¬ IsWord value) (f : Findings) (rest : List String) :
    readLevel level f (arg :: value :: rest) = .error .misuse := by
  rw [readLevel, harg]
  cases hof : Argument.of value with
  | word w => exact absurd hof (Argument.of_ne_word hvalue w)
  | divider | long _ _ | short _ => simp [hflag, htakes, hof]

theorem readLevel_valued (harg : Argument.of arg = .long name (some value))
    (hflag : level.flagOfName? name = some flag) (htakes : flag.takesValue = true)
    (f : Findings) (rest : List String) :
    readLevel level f (arg :: rest) = (do readLevel level (← f.addFlag flag value) rest) := by
  rw [readLevel, harg]
  simp [hflag, htakes]

theorem readLevel_divider (level : Level) (f : Findings) (rest : List String) :
    readLevel level f ("--" :: rest) =
      (do return (← rest.foldlM (Findings.addOperand level) f, none)) := by
  have harg : Argument.of "--" = .divider := by decide
  rw [readLevel, harg]

/-- Neither the divider nor a word, an argument adds no operand, as long as no word follows that it
could take for a value. -/
theorem exists_found_behind_flag {next : String} {rest : List String} {f : Findings}
    {found : Findings × Option (String × List String)} (hword : ¬ IsWord arg)
    (hdivider : Argument.of arg ≠ .divider) (hnext : ¬ IsWord next)
    (h : readLevel level f (arg :: next :: rest) = .ok found) :
    ∃ f', f'.operands = f.operands ∧ readLevel level f' (next :: rest) = .ok found := by
  rw [readLevel] at h
  cases hof : Argument.of arg with
  | divider => exact absurd hof hdivider
  | word w => exact absurd hof (Argument.of_ne_word hword w)
  | short letters =>
    rw [hof] at h
    obtain ⟨f', hadded, h⟩ := bind_eq_ok_iff.mp h
    exact ⟨f', Findings.operands_of_addLetters hadded, h⟩
  | long name value =>
    rw [hof] at h
    dsimp only at h
    split at h
    · cases h
    · next flag hflag =>
      split_ifs at h with htakes hvalue
      · cases value with
        | none =>
          dsimp only at h
          split at h
          · next w hw => exact absurd hw (Argument.of_ne_word hnext w)
          · cases h
        | some v =>
          obtain ⟨f', hadded, h⟩ := bind_eq_ok_iff.mp h
          exact ⟨f', Findings.operands_of_addFlag hadded, h⟩
      · obtain ⟨f', hadded, h⟩ := bind_eq_ok_iff.mp h
        exact ⟨f', Findings.operands_of_addFlag hadded, h⟩

/-- A line that begins with a verb asks for what is found behind it. -/
theorem invocation_verb_eq_command_iff {rest : List String} {options : Options} {c : Command} :
    Invocation.of (verb.name :: rest) = .command options c ↔
      ∃ behind left, readLevel (.verb verb) .empty rest = .ok (behind, left) ∧
        Command.of? verb behind = some c ∧ options = .of .empty behind := by
  have hword : Argument.of verb.name = .word verb.name := by cases verb <;> decide
  have hname : Verb.ofName? verb.name = some verb := by cases verb <;> rfl
  have hhelp : verb.name ≠ helpWord := by cases verb <;> decide
  have hprogram : readLevel .program .empty (verb.name :: rest) =
      .ok (.empty, some (verb.name, rest)) := by
    rw [readLevel, hword]
  unfold Invocation.of readLine
  simp only [hprogram, ok_bind, if_neg hhelp, hname]
  cases readLevel (.verb verb) .empty rest with
  | error stop => cases stop <;> simp
  | ok found =>
    obtain ⟨behind, left⟩ := found
    simp only [ok_bind]
    cases hcommand : Command.of? verb behind with
    | none => simp [hcommand]
    | some asked =>
      have hok : (pure (Options.of .empty behind, asked) : Except Stop (Options × Command)) =
          .ok (.of .empty behind, asked) := rfl
      simp [hcommand, hok, eq_comm, and_comm]

end Levels

/-! ## Calls and runs -/

/-- No option is given. -/
def Options.unset : Options := { config := none, verbose := false, jsonLogs := false }

def resultsOnlyWords (resultsOnly : Bool) : List String :=
  if resultsOnly then ["--results-only"] else []

/-- The line of a call with the action and its params as arguments of their own. -/
def plainCall (action params : String) (resultsOnly : Bool) : List String :=
  ["call", action, "--params", params] ++ resultsOnlyWords resultsOnly

/-- The line of a call on which neither of the two is taken for a flag. -/
def guardedCall (action params : String) (resultsOnly : Bool) : List String :=
  ["call", "--params=" ++ params] ++ resultsOnlyWords resultsOnly ++ ["--", action]

/-- A line that asks for an action on params. -/
inductive CallLine (action params : String) (resultsOnly : Bool) : List String → Prop
  | plain (haction : IsWord action) (hparams : IsWord params) :
      CallLine action params resultsOnly (plainCall action params resultsOnly)
  | guarded : CallLine action params resultsOnly (guardedCall action params resultsOnly)

/-- A line that asks for the request in the input. -/
def runLine (resultsOnly : Bool) : List String := "run" :: resultsOnlyWords resultsOnly

/-- What is found behind the verb of such a line. -/
def callFindings (action params : String) (resultsOnly : Bool) : Findings where
  flags := (if resultsOnly then [(.resultsOnly, "")] else []) ++ [(.params, params)]
  operands := [action]

theorem readLevel_resultsOnlyWords {level : Level}
    (hflag : level.flagOfName? "results-only" = some .resultsOnly) {f : Findings}
    (hnew : f.has .resultsOnly = false) (resultsOnly : Bool) (rest : List String) :
    readLevel level f (resultsOnlyWords resultsOnly ++ rest) =
      readLevel level
        { f with flags := (if resultsOnly then [(.resultsOnly, "")] else []) ++ f.flags } rest := by
  have harg : Argument.of "--results-only" = .long "results-only" none := by decide
  cases resultsOnly with
  | false => rfl
  | true =>
    show readLevel level f ("--results-only" :: rest) = _
    rw [readLevel_switch harg hflag rfl, Findings.addFlag_ok (by decide) hnew]
    rfl

section Calls

variable {action params : String} {resultsOnly : Bool}

theorem CallLine.exists_found {line : List String} (h : CallLine action params resultsOnly line) :
    ∃ rest, line = Verb.call.name :: rest ∧
      readLevel (.verb .call) .empty rest = .ok (callFindings action params resultsOnly, none) := by
  have hresults : (Level.verb .call).flagOfName? "results-only" = some .resultsOnly := rfl
  have hparamsFlag : (Level.verb .call).flagOfName? "params" = some .params := rfl
  have hnew : Flag.params ∉ [.help, .version, .config] := by decide
  cases h with
  | plain haction hparams =>
    have hname : Argument.of "--params" = .long "params" none := by decide
    refine ⟨_, rfl, ?_⟩
    show readLevel _ _ (action :: "--params" :: params :: resultsOnlyWords resultsOnly) = _
    have hoperand : Findings.empty.addOperand (.verb .call) action =
        .ok { flags := [], operands := [action] } := rfl
    rw [readLevel_word haction, hoperand, ok_bind,
      readLevel_value hname hparamsFlag rfl hparams, Findings.addFlag_ok hnew rfl, ok_bind,
      ← List.append_nil (resultsOnlyWords resultsOnly), readLevel_resultsOnlyWords hresults rfl]
    rfl
  | guarded =>
    refine ⟨_, rfl, ?_⟩
    show readLevel _ _ (("--params=" ++ params) ::
      (resultsOnlyWords resultsOnly ++ ["--", action])) = _
    rw [readLevel_valued (Argument.of_valued params) hparamsFlag rfl,
      Findings.addFlag_ok hnew rfl, ok_bind, readLevel_resultsOnlyWords hresults rfl,
      readLevel_divider]
    rfl

theorem CallLine.invocation {line : List String} (h : CallLine action params resultsOnly line) :
    Invocation.of line = .command .unset (.call action params resultsOnly) := by
  obtain ⟨rest, rfl, hfound⟩ := h.exists_found
  have hcommand : Command.of? .call (callFindings action params resultsOnly) =
      some (.call action params resultsOnly) := by
    cases resultsOnly <;> rfl
  have hoptions : Options.of .empty (callFindings action params resultsOnly) = .unset := by
    cases resultsOnly <;> rfl
  exact invocation_verb_eq_command_iff.mpr ⟨_, none, hfound, hcommand, hoptions.symm⟩

theorem isWord_of_readLevel {f behind : Findings} {left : Option (String × List String)}
    (h : readLevel (.verb .call) f ("--params" :: params :: resultsOnlyWords resultsOnly) =
      .ok (behind, left)) : IsWord params ∧ behind.operands = f.operands := by
  have hname : Argument.of "--params" = .long "params" none := by decide
  have hparamsFlag : (Level.verb .call).flagOfName? "params" = some .params := rfl
  by_cases hword : IsWord params
  · refine ⟨hword, ?_⟩
    rw [readLevel_value hname hparamsFlag rfl hword] at h
    obtain ⟨f', hparams, h⟩ := bind_eq_ok_iff.mp h
    rw [← Findings.operands_of_addFlag hparams]
    cases resultsOnly with
    | false =>
      cases h
      rfl
    | true =>
      have hresults : Argument.of "--results-only" = .long "results-only" none := by decide
      have hresultsFlag : (Level.verb .call).flagOfName? "results-only" = some .resultsOnly := rfl
      have hlast : readLevel (.verb .call) f' ["--results-only"] = .ok (behind, left) := h
      rw [readLevel_switch hresults hresultsFlag rfl] at hlast
      obtain ⟨f'', hflag, hlast⟩ := bind_eq_ok_iff.mp hlast
      cases hlast
      exact Findings.operands_of_addFlag hflag
  · rw [readLevel_value_refused hname hparamsFlag rfl hword] at h
    cases h

/-- Where the action or its params are no word, the line asks for something else. -/
theorem isWord_of_invocation {options : Options} {asked : Bool}
    (h : Invocation.of (plainCall action params resultsOnly) =
      .command options (.call action params asked)) : IsWord action ∧ IsWord params := by
  have hverb : Invocation.of (Verb.call.name :: action :: "--params" :: params ::
      resultsOnlyWords resultsOnly) = .command options (.call action params asked) := h
  obtain ⟨behind, left, hlevel, hcommand, -⟩ := invocation_verb_eq_command_iff.mp hverb
  have hoperand : behind.operands.head? = some action := by
    obtain ⟨operand, hhead, hcall⟩ := Option.map_eq_some_iff.mp hcommand
    cases hcall
    exact hhead
  by_cases hword : IsWord action
  · rw [readLevel_word hword] at hlevel
    obtain ⟨f, -, hlevel⟩ := bind_eq_ok_iff.mp hlevel
    exact ⟨hword, (isWord_of_readLevel hlevel).1⟩
  · by_cases hdivider : Argument.of action = .divider
    · -- Behind the divider there would be two operands.
      rw [readLevel, hdivider] at hlevel
      cases hlevel
    · obtain ⟨f, hnone, hlevel⟩ := exists_found_behind_flag hword hdivider (by decide) hlevel
      rw [(isWord_of_readLevel hlevel).2, hnone] at hoperand
      cases hoperand

theorem invocation_runLine (resultsOnly : Bool) :
    Invocation.of (runLine resultsOnly) = .command .unset (.run resultsOnly) := by
  cases resultsOnly <;> rfl

end Calls
end App
end RelayDesk
