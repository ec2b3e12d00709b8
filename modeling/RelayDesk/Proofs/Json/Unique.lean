import RelayDesk.Proofs.Json.Leaves

/-!
The compact text of a value tells the value, and where the text ends.  Nothing is asked of the
keys here, so the result holds of more values than reading gives back: a member with the key that
marks numbers is written like any other, and only reading treats it differently.
-/

namespace RelayDesk
namespace Json

/-! ## Parts -/

section Parts

variable {α : Type} {print : α → List Char}

theorem laterParts_unique {closing : Char} (hclosing : closing = ']' ∨ closing = '\x7d')
    {xs ys : List α} {r s : List Char}
    (hunique : ∀ x ∈ xs, ∀ y ∈ ys, ∀ r s, EndsValue r → EndsValue s →
      print x ++ r = print y ++ s → x = y ∧ r = s)
    (h : (xs.map print).flatMap (',' :: ·) ++ closing :: r =
      (ys.map print).flatMap (',' :: ·) ++ closing :: s) : xs = ys ∧ r = s := by
  have hcomma : closing ≠ ',' := by
    rcases hclosing with rfl | rfl <;> decide
  induction xs generalizing ys with
  | nil =>
    cases ys with
    | nil => exact ⟨rfl, (List.cons.inj h).2⟩
    | cons y ys => exact absurd (List.cons.inj h).1 hcomma
  | cons x xs ih =>
    cases ys with
    | nil => exact absurd (List.cons.inj h).1.symm hcomma
    | cons y ys =>
      simp only [List.map_cons, List.flatMap_cons, List.cons_append, List.append_assoc,
        List.cons.injEq, true_and] at h
      obtain ⟨rfl, hrest⟩ := hunique x List.mem_cons_self y List.mem_cons_self _ _
        (endsValue_parts hclosing _ r) (endsValue_parts hclosing _ s) h
      obtain ⟨rfl, hrs⟩ := ih (fun a ha b hb =>
        hunique a (List.mem_cons_of_mem x ha) b (List.mem_cons_of_mem x hb)) hrest
      exact ⟨rfl, hrs⟩

/-- What stands between the brackets of a container tells its parts. -/
theorem parts_unique {closing : Char} (hclosing : closing = ']' ∨ closing = '\x7d')
    {xs ys : List α} {r s : List Char}
    (hunique : ∀ x ∈ xs, ∀ y ∈ ys, ∀ r s, EndsValue r → EndsValue s →
      print x ++ r = print y ++ s → x = y ∧ r = s)
    (hxs : ∀ x ∈ xs, BeginsPart closing (print x)) (hys : ∀ y ∈ ys, BeginsPart closing (print y))
    (h : commaSeparated (xs.map print) ++ closing :: r =
      commaSeparated (ys.map print) ++ closing :: s) : xs = ys ∧ r = s := by
  have hends : ∀ {zs : List α} {z : α} {t u : List Char}, BeginsPart closing (print z) →
      closing :: t ≠ commaSeparated ((z :: zs).map print) ++ u := by
    rintro zs z t u ⟨c, cs, hz, -, hne⟩ heq
    rw [List.map_cons, commaSeparated_cons, hz] at heq
    exact hne (List.cons.inj heq).1.symm
  cases xs with
  | nil =>
    cases ys with
    | nil => exact ⟨rfl, (List.cons.inj h).2⟩
    | cons y ys => exact absurd h (hends (hys y List.mem_cons_self))
  | cons x xs =>
    cases ys with
    | nil => exact absurd h.symm (hends (hxs x List.mem_cons_self))
    | cons y ys =>
      simp only [List.map_cons, commaSeparated_cons, List.append_assoc] at h
      obtain ⟨rfl, hrest⟩ := hunique x List.mem_cons_self y List.mem_cons_self _ _
        (endsValue_parts hclosing _ r) (endsValue_parts hclosing _ s) h
      obtain ⟨rfl, hrs⟩ := laterParts_unique hclosing (fun a ha b hb =>
        hunique a (List.mem_cons_of_mem x ha) b (List.mem_cons_of_mem x hb)) hrest
      exact ⟨rfl, hrs⟩

theorem member_unique {m n : String × α} {r s : List Char}
    (hvalue : print m.2 ++ r = print n.2 ++ s → m.2 = n.2 ∧ r = s)
    (h : memberChars print m ++ r = memberChars print n ++ s) : m = n ∧ r = s := by
  rw [memberChars_append, memberChars_append] at h
  have hkey := reads_string m.1 (':' :: (print m.2 ++ r))
  rw [(List.cons.inj h).2] at hkey
  obtain ⟨hname, hrest⟩ := hkey.unique (reads_string n.1 (':' :: (print n.2 ++ s)))
  obtain ⟨hsame, hrs⟩ := hvalue (List.cons.inj hrest).2
  exact ⟨Prod.ext hname hsame, hrs⟩

end Parts

/-! ## Values -/

/-- Values whose texts begin alike are of one type. -/
theorem typeName_eq_of_chars {depth depth' : Nat} {v w : Json} (hv : Readable depth v)
    (hw : Readable depth' w) {r s : List Char} (h : v.chars ++ r = w.chars ++ s) :
    v.typeName = w.typeName := by
  obtain ⟨c, cs, hvc, hvtype⟩ := chars_eq_cons hv
  obtain ⟨d, ds, hwc, hwtype⟩ := chars_eq_cons hw
  rw [hvc, hwc] at h
  rw [(List.cons.inj h).1, hwtype] at hvtype
  exact (Option.some.inj hvtype).symm

/-- The text of a value is the beginning of no other value's text, as long as what follows ends a
value. -/
theorem chars_unique {depth depth' : Nat} {v w : Json} (hv : Readable depth v)
    (hw : Readable depth' w) {r s : List Char} (hr : EndsValue r) (hs : EndsValue s)
    (h : v.chars ++ r = w.chars ++ s) : v = w ∧ r = s := by
  -- Texts that begin alike are of values of one type, which leaves a pair of each type.
  induction hv generalizing depth' w r s with
  | null =>
    have htype := typeName_eq_of_chars (@Readable.null 0) hw h
    cases hw with
    | null => exact ⟨rfl, List.append_cancel_left h⟩
    | _ => simp [typeName] at htype
  | bool b =>
    have htype := typeName_eq_of_chars (@Readable.bool 0 b) hw h
    cases hw with
    | bool b' =>
      cases b <;> cases b' <;> simp_all [chars]
    | _ => simp [typeName] at htype
  | num wf =>
    have htype := typeName_eq_of_chars (@Readable.num 0 _ wf) hw h
    cases hw with
    | num wf' =>
      rw [chars_num, chars_num] at h
      have hread := reads_numeral wf hr.endsNumeral
      rw [h] at hread
      obtain ⟨rfl, hrs⟩ := hread.unique (reads_numeral wf' hs.endsNumeral)
      exact ⟨rfl, hrs⟩
    | _ => simp [typeName] at htype
  | str a =>
    have htype := typeName_eq_of_chars (@Readable.str 0 a) hw h
    cases hw with
    | str b =>
      rw [chars, chars, stringChars_append, stringChars_append] at h
      have hread := reads_string a r
      rw [(List.cons.inj h).2] at hread
      obtain ⟨rfl, hrs⟩ := hread.unique (reads_string b s)
      exact ⟨rfl, hrs⟩
    | _ => simp [typeName] at htype
  | arr inner ih =>
    have htype := typeName_eq_of_chars (.arr inner) hw h
    cases hw with
    | arr inner' =>
      rw [chars_arr, chars_arr] at h
      simp only [List.cons_append, List.append_assoc, List.nil_append, List.cons.injEq,
        true_and] at h
      obtain ⟨rfl, hrs⟩ := parts_unique (.inl rfl)
        (fun x hx y hy _ _ hr hs => ih x hx (inner' y hy) hr hs)
        (fun x hx => beginsPart_chars (.inl rfl) (inner x hx))
        (fun y hy => beginsPart_chars (.inl rfl) (inner' y hy)) h
      exact ⟨rfl, hrs⟩
    | _ => simp [typeName] at htype
  | obj sorted inner ih =>
    have htype := typeName_eq_of_chars (.obj sorted inner) hw h
    cases hw with
    | obj sorted' inner' =>
      rw [chars_obj, chars_obj] at h
      simp only [List.cons_append, List.append_assoc, List.nil_append, List.cons.injEq,
        true_and] at h
      obtain ⟨rfl, hrs⟩ := parts_unique (.inr rfl)
        (fun m hm n hn _ _ hr hs => member_unique (ih m hm (inner' n hn) hr hs))
        (fun m _ => beginsPart_member chars m) (fun n _ => beginsPart_member chars n) h
      exact ⟨rfl, hrs⟩
    | _ => simp [typeName] at htype

theorem eq_of_text_eq {depth depth' : Nat} {v w : Json} (hv : Readable depth v)
    (hw : Readable depth' w) (h : v.text = w.text) : v = w := by
  have hchars : v.chars ++ [] = w.chars ++ [] := by
    rw [List.append_nil, List.append_nil]
    exact String.ofList_injective h
  exact (chars_unique hv hw endsValue_nil endsValue_nil hchars).1

end Json
end RelayDesk
