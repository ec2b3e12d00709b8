import RelayDesk.Proofs.Json.Value

/-!
Where in a text strings begin and end.  A walk along the text keeps track of whether it is inside
a string.  Outside strings compact JSON has no bar and no backslash, so a text cut off at a bar was
cut inside a string; what is left then has its strings and its gaps exchanged, and a text whose
walk ends well both ways does not exist.
-/

namespace RelayDesk
namespace Json

/-- Where a character of a text stands. -/
inductive Zone where
  | outside
  | inside
  /-- Behind a backslash. -/
  | escaped
  deriving DecidableEq

namespace Zone

/-- The zone behind a character.  A bar or a backslash outside strings is no JSON. -/
def next : Zone → Char → Option Zone
  | outside, c =>
    if c = '"' then some inside else if c = '\\' ∨ c = '|' then none else some outside
  | inside, c =>
    if c = '"' then some outside else if c = '\\' then some escaped else some inside
  | escaped, _ => some inside

def walk (z : Zone) : List Char → Option Zone
  | [] => some z
  | c :: rest => (z.next c).bind fun y => y.walk rest

theorem walk_append (z : Zone) (cs ds : List Char) :
    z.walk (cs ++ ds) = (z.walk cs).bind fun y => y.walk ds := by
  induction cs generalizing z with
  | nil => rfl
  | cons c cs ih =>
    show (z.next c).bind (fun y => y.walk (cs ++ ds)) = ((z.next c).bind fun y => y.walk cs).bind _
    cases z.next c with
    | none => rfl
    | some y => exact ih y

/-- One walk is inside a string where the other is outside. -/
def Opposite (y z : Zone) : Prop := (y = outside ∧ z = inside) ∨ (y = inside ∧ z = outside)

theorem Opposite.next {y z y' z' : Zone} {c : Char} (h : Opposite y z) (hy : y.next c = some y')
    (hz : z.next c = some z') : Opposite y' z' := by
  -- A backslash stops the walk that is outside, so only quotes and plain characters are left.
  rcases h with ⟨rfl, rfl⟩ | ⟨rfl, rfl⟩
  · by_cases hquote : c = '"'
    · simp only [Zone.next, if_pos hquote, Option.some.injEq] at hy hz
      exact .inr ⟨hy.symm, hz.symm⟩
    · by_cases hback : c = '\\'
      · simp [Zone.next, hback] at hy
      · simp only [Zone.next, if_neg hquote, hback, false_or, if_false] at hy hz
        split_ifs at hy
        exact .inl ⟨(Option.some.inj hy).symm, (Option.some.inj hz).symm⟩
  · by_cases hquote : c = '"'
    · simp only [Zone.next, if_pos hquote, Option.some.injEq] at hy hz
      exact .inl ⟨hy.symm, hz.symm⟩
    · by_cases hback : c = '\\'
      · simp [Zone.next, hback] at hz
      · simp only [Zone.next, if_neg hquote, hback, false_or, if_false] at hy hz
        split_ifs at hz
        exact .inr ⟨(Option.some.inj hy).symm, (Option.some.inj hz).symm⟩

/-- Two walks along one text that begin opposite end opposite. -/
theorem Opposite.walk {y z y' z' : Zone} {cs : List Char} (h : Opposite y z)
    (hy : y.walk cs = some y') (hz : z.walk cs = some z') : Opposite y' z' := by
  induction cs generalizing y z with
  | nil =>
    obtain rfl := Option.some.inj hy
    obtain rfl := Option.some.inj hz
    exact h
  | cons c cs ih =>
    obtain ⟨y₁, hy₁, hyrest⟩ := Option.bind_eq_some_iff.mp hy
    obtain ⟨z₁, hz₁, hzrest⟩ := Option.bind_eq_some_iff.mp hz
    exact ih (h.next hy₁ hz₁) hyrest hzrest

end Zone

/-- Text in which every string that begins also ends, with no bar or backslash between them. -/
def Balanced (cs : List Char) : Prop := Zone.outside.walk cs = some .outside

/-- What stands behind a bar in balanced text is not balanced: the bar is inside a string. -/
theorem not_balanced_behind_bar {cs ds : List Char} (h : Balanced (cs ++ '|' :: ds)) :
    ¬ Balanced ds := by
  intro hds
  unfold Balanced at h hds
  rw [Zone.walk_append] at h
  obtain ⟨z, -, h⟩ := Option.bind_eq_some_iff.mp h
  have hinside : Zone.inside.walk ds = some .outside := by
    cases z with
    | outside => cases h
    | inside => exact h
    | escaped => exact h
  have hopposite : Zone.Opposite .outside .inside := .inl ⟨rfl, rfl⟩
  rcases hopposite.walk hds hinside with ⟨-, h⟩ | ⟨h, -⟩ <;> cases h

/-! ## Text of values -/

theorem balanced_nil : Balanced [] := rfl

theorem Balanced.append {cs ds : List Char} (hcs : Balanced cs) (hds : Balanced ds) :
    Balanced (cs ++ ds) := by
  show Zone.outside.walk (cs ++ ds) = _
  rw [Zone.walk_append, hcs]
  exact hds

theorem balanced_cons {c : Char} (hc : c ≠ '"' ∧ c ≠ '\\' ∧ c ≠ '|') {cs : List Char}
    (hcs : Balanced cs) : Balanced (c :: cs) := by
  obtain ⟨hquote, hback, hbar⟩ := hc
  have hnext : Zone.outside.next c = some .outside := by
    simp only [Zone.next, if_neg hquote, hback, hbar, or_self, if_false]
  show (Zone.outside.next c).bind (fun y => y.walk cs) = _
  rw [hnext]
  exact hcs

theorem balanced_of_forall {cs : List Char} (h : ∀ c ∈ cs, c ≠ '"' ∧ c ≠ '\\' ∧ c ≠ '|') :
    Balanced cs := by
  induction cs with
  | nil => exact balanced_nil
  | cons c cs ih =>
    exact balanced_cons (h c List.mem_cons_self) (ih fun d hd => h d (List.mem_cons_of_mem c hd))

theorem walk_controlEscape : ∀ n < 0x20,
    Zone.inside.walk ['\\', 'u', '0', '0', Nat.digitChar (n / 16), Nat.digitChar (n % 16)] =
      some .inside := by
  decide

theorem walk_escapeChar (c : Char) : Zone.inside.walk (escapeChar c) = some .inside := by
  rcases escapeChar_cases c with ⟨e, he, -⟩ | ⟨he, hcontrol⟩ | ⟨he, hquote, hback, -⟩
  · rw [he]
    rfl
  · rw [he]
    exact walk_controlEscape c.toNat hcontrol
  · rw [he]
    simp only [Zone.walk, Zone.next, if_neg hquote, if_neg hback, Option.bind_some]

theorem walk_escaped (cs : List Char) :
    Zone.inside.walk (cs.flatMap escapeChar) = some .inside := by
  induction cs with
  | nil => rfl
  | cons c cs ih =>
    rw [List.flatMap_cons, Zone.walk_append, walk_escapeChar]
    exact ih

theorem balanced_stringChars (s : String) : Balanced (stringChars s) := by
  show Zone.inside.walk (s.toList.flatMap escapeChar ++ ['"']) = _
  rw [Zone.walk_append, walk_escaped]
  rfl

theorem plain_of_isDigit {c : Char} (h : Text.isDigit c = true) :
    c ≠ '"' ∧ c ≠ '\\' ∧ c ≠ '|' := by
  refine ⟨?_, ?_, ?_⟩ <;> (rintro rfl; cases h)

theorem balanced_numeral {n : Numeral} (wf : n.WellFormed) : Balanced n.chars := by
  have hsign : Balanced (if n.negative then ['-'] else []) := by
    split_ifs
    · rfl
    · rfl
  have hwhole : Balanced n.whole :=
    balanced_of_forall fun c hc => plain_of_isDigit (wf.whole_digits c hc)
  have hfraction : Balanced (if n.fraction.isEmpty then [] else '.' :: n.fraction) := by
    split_ifs
    · rfl
    · exact balanced_cons (by decide)
        (balanced_of_forall fun c hc => plain_of_isDigit (wf.fraction_digits c hc))
  refine ((hsign.append hwhole).append hfraction).append ?_
  cases he : n.exponent with
  | none => rfl
  | some e =>
    obtain ⟨negative, ds⟩ := e
    have hds : Balanced ds := balanced_of_forall fun c hc =>
      plain_of_isDigit ((wf.exponent_digits negative ds he).2 c hc)
    cases negative
    · exact balanced_cons (by decide) (balanced_cons (by decide) hds)
    · exact balanced_cons (by decide) (balanced_cons (by decide) hds)

theorem balanced_commaSeparated {parts : List (List Char)} (h : ∀ part ∈ parts, Balanced part) :
    Balanced (commaSeparated parts) := by
  cases parts with
  | nil => exact balanced_nil
  | cons part parts =>
    rw [commaSeparated_cons]
    refine (h part List.mem_cons_self).append ?_
    have hlater : ∀ part ∈ parts, Balanced part := fun p hp => h p (List.mem_cons_of_mem part hp)
    clear h
    induction parts with
    | nil => exact balanced_nil
    | cons next parts ih =>
      rw [List.flatMap_cons]
      exact (balanced_cons (by decide) (hlater next List.mem_cons_self)).append
        (ih fun p hp => hlater p (List.mem_cons_of_mem next hp))

theorem balanced_chars {depth : Nat} {v : Json} (h : Readable depth v) : Balanced v.chars := by
  induction h with
  | null => rfl
  | bool b => cases b <;> rfl
  | num wf => rw [chars_num]; exact balanced_numeral wf
  | str s => exact balanced_stringChars s
  | arr inner ih =>
    have hparts := balanced_commaSeparated (List.forall_mem_map.mpr ih)
    rw [chars_arr]
    exact balanced_cons (by decide) (hparts.append rfl)
  | obj sorted inner ih =>
    have hmember : ∀ m ∈ _, Balanced (memberChars chars m) := fun m hm =>
      (balanced_stringChars m.1).append (balanced_cons (by decide) (ih m hm))
    have hparts := balanced_commaSeparated (List.forall_mem_map.mpr hmember)
    rw [chars_obj]
    exact balanced_cons (by decide) (hparts.append rfl)

end Json
end RelayDesk
