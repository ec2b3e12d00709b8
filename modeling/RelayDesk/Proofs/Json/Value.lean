import RelayDesk.Json.Reader
import RelayDesk.Proofs.Keyed

/-!
The values that text can hold.  A number is the text of a numeral, the members of an object are
sorted, and containers are nested no deeper than a bound.
-/

namespace RelayDesk
namespace Json

/-- The parts that reading a number can give. -/
structure Numeral.WellFormed (n : Numeral) : Prop where
  whole_ne_nil : n.whole ≠ []
  whole_digits : ∀ c ∈ n.whole, Text.isDigit c = true
  /-- A zero at the beginning is the whole part. -/
  whole_of_zero : n.whole.head? = some '0' → n.whole = ['0']
  fraction_digits : ∀ c ∈ n.fraction, Text.isDigit c = true
  exponent_digits : ∀ sign ds, n.exponent = some (sign, ds) →
    ds ≠ [] ∧ ∀ c ∈ ds, Text.isDigit c = true

/-- A value that reading can give where containers may be nested `depth` deep. -/
inductive Readable : Nat → Json → Prop where
  | null {depth : Nat} : Readable depth .null
  | bool {depth : Nat} (b : Bool) : Readable depth (.bool b)
  | num {depth : Nat} {n : Numeral} (wf : n.WellFormed) : Readable depth (.num n.text)
  | str {depth : Nat} (s : String) : Readable depth (.str s)
  | arr {depth : Nat} {items : List Json} (inner : ∀ v ∈ items, Readable depth v) :
      Readable (depth + 1) (.arr items)
  | obj {depth : Nat} {members : List (String × Json)} (sorted : Keyed.Sorted members)
      (inner : ∀ m ∈ members, Readable depth m.2) : Readable (depth + 1) (.obj members)

theorem Readable.of_find? {depth : Nat} {members : List (String × Json)} {name : String} {v : Json}
    (h : Readable depth (.obj members)) (hfind : Keyed.find? name members = some v) :
    ∃ depth, Readable depth v := by
  cases h with
  | obj _ inner => exact ⟨_, inner _ (Keyed.mem_of_find? hfind)⟩

theorem member?_object (name : String) (members : List (String × Json)) :
    (object members).member? name = (members.reverse.find? fun m => m.1 == name).map (·.2) :=
  Keyed.find?_ofList name members

mutual

/-- The keys of members at any depth of a value. -/
def keysWithin : Json → List String
  | .arr items => keysWithinItems items
  | .obj members => keysWithinMembers members
  | _ => []

def keysWithinItems : List Json → List String
  | [] => []
  | item :: rest => keysWithin item ++ keysWithinItems rest

def keysWithinMembers : List (String × Json) → List String
  | [] => []
  | (key, value) :: rest => key :: keysWithin value ++ keysWithinMembers rest

end

theorem mem_keysWithin_arr {key : String} {items : List Json} :
    key ∈ keysWithin (.arr items) ↔ ∃ v ∈ items, key ∈ keysWithin v := by
  show key ∈ keysWithinItems items ↔ _
  induction items with
  | nil => simp [keysWithinItems]
  | cons v rest ih => simp [keysWithinItems, ih]

theorem mem_keysWithin_obj {key : String} {members : List (String × Json)} :
    key ∈ keysWithin (.obj members) ↔ ∃ m ∈ members, key = m.1 ∨ key ∈ keysWithin m.2 := by
  show key ∈ keysWithinMembers members ↔ _
  induction members with
  | nil => simp [keysWithinMembers]
  | cons m rest ih =>
    obtain ⟨k, v⟩ := m
    simp [keysWithinMembers, ih, or_assoc]

/-! ## Escapes -/

/-- A character in a string stands as a one-letter escape, as its code, or as itself. -/
theorem escapeChar_cases (c : Char) :
    (∃ e, escapeChar c = ['\\', e] ∧ shortEscape? e = some c ∧ e ≠ 'u') ∨
      (escapeChar c = controlEscape c ∧ c.toNat < 0x20) ∨
      (escapeChar c = [c] ∧ c ≠ '"' ∧ c ≠ '\\' ∧ ¬ c.toNat < 0x20) := by
  unfold escapeChar
  split_ifs with hquote hback hbs htab hlf hff hcr hcontrol
  iterate 7
    · subst c
      exact .inl ⟨_, rfl, rfl, by decide⟩
  · exact .inr (.inl ⟨rfl, hcontrol⟩)
  · exact .inr (.inr ⟨rfl, hquote, hback, hcontrol⟩)

theorem escapeChar_ne_nil (c : Char) : escapeChar c ≠ [] := by
  rcases escapeChar_cases c with ⟨e, he, -⟩ | ⟨he, -⟩ | ⟨he, -⟩
  · rw [he]
    exact List.cons_ne_nil _ _
  · rw [he]
    exact List.cons_ne_nil _ _
  · rw [he]
    exact List.cons_ne_nil _ _

/-! ## Parts of containers -/

theorem itemParts_eq_map (items : List Json) : itemParts items = items.map chars := by
  induction items with
  | nil => rfl
  | cons v rest ih => simp only [itemParts, ih, List.map_cons]

/-- A member as it is written, when `print` writes its value. -/
def memberChars {α : Type} (print : α → List Char) (m : String × α) : List Char :=
  stringChars m.1 ++ ':' :: print m.2

theorem stringChars_append (s : String) (rest : List Char) :
    stringChars s ++ rest = '"' :: (s.toList.flatMap escapeChar ++ '"' :: rest) := by
  simp [stringChars]

theorem memberChars_append {α : Type} (print : α → List Char) (m : String × α)
    (rest : List Char) :
    memberChars print m ++ rest =
      '"' :: (m.1.toList.flatMap escapeChar ++ '"' :: ':' :: (print m.2 ++ rest)) := by
  rw [memberChars, List.append_assoc, stringChars_append, List.cons_append]

theorem memberParts_eq_map (members : List (String × Json)) :
    memberParts members = members.map (memberChars chars) := by
  induction members with
  | nil => rfl
  | cons m rest ih => simp only [memberParts, ih, List.map_cons, memberChars]

/-- Behind the first part each part has its comma in front of it. -/
theorem commaSeparated_cons (part : List Char) (rest : List (List Char)) :
    commaSeparated (part :: rest) = part ++ rest.flatMap (',' :: ·) := by
  induction rest generalizing part with
  | nil => simp [commaSeparated, List.intercalate]
  | cons next rest ih =>
    have hcomma : commaSeparated (part :: next :: rest) =
        part ++ ',' :: commaSeparated (next :: rest) := by
      unfold commaSeparated
      rw [List.intercalate_cons_cons, List.append_assoc, List.singleton_append]
    rw [hcomma, ih, List.flatMap_cons, List.cons_append]

theorem chars_arr (items : List Json) :
    chars (.arr items) = '[' :: (commaSeparated (items.map chars) ++ [']']) := by
  simp only [chars, itemParts_eq_map]

theorem chars_obj (members : List (String × Json)) :
    chars (.obj members) =
      '\x7b' :: (commaSeparated (members.map (memberChars chars)) ++ ['\x7d']) := by
  simp only [chars, memberParts_eq_map]

theorem chars_num (n : Numeral) : chars (.num n.text) = n.chars := String.toList_ofList

/-! ## What may follow -/

/-- The characters that may stand behind a value in compact text. -/
def EndsValue (rest : List Char) : Prop :=
  ∀ c ∈ rest.head?, c = ',' ∨ c = ']' ∨ c = '\x7d'

theorem endsValue_nil : EndsValue [] := by
  intro c hc
  cases hc

theorem endsValue_cons {c : Char} {rest : List Char} (h : c = ',' ∨ c = ']' ∨ c = '\x7d') :
    EndsValue (c :: rest) := by
  intro d hd
  obtain rfl : c = d := Option.some.inj hd
  exact h

/-- Behind a part stands the comma of the next one, or the end of the container. -/
theorem endsValue_parts {closing : Char} (hclosing : closing = ']' ∨ closing = '\x7d')
    (parts : List (List Char)) (rest : List Char) :
    EndsValue (parts.flatMap (',' :: ·) ++ closing :: rest) := by
  cases parts with
  | nil => exact endsValue_cons (.inr hclosing)
  | cons part parts => exact endsValue_cons (.inl rfl)

/-- The type of value that begins with a character, where one does. -/
def leadType? (c : Char) : Option String :=
  if c = '-' || Text.isDigit c then some "number"
  else if c = 'n' then some "null"
  else if c = 't' || c = 'f' then some "bool"
  else if c = '"' then some "string"
  else if c = '[' then some "array"
  else if c = '\x7b' then some "object"
  else none

theorem chars_eq_cons {depth : Nat} {v : Json} (h : Readable depth v) :
    ∃ c cs, v.chars = c :: cs ∧ leadType? c = some v.typeName := by
  cases h with
  | null => exact ⟨_, _, rfl, rfl⟩
  | bool b =>
    cases b
    · exact ⟨_, _, rfl, rfl⟩
    · exact ⟨_, _, rfl, rfl⟩
  | @num _ n wf =>
    obtain ⟨d, ds, hwhole⟩ := List.exists_cons_of_ne_nil wf.whole_ne_nil
    have hd : Text.isDigit d = true := wf.whole_digits d (hwhole ▸ List.mem_cons_self)
    rw [chars_num]
    unfold Numeral.chars
    rw [hwhole]
    cases n.negative with
    | true => exact ⟨_, _, rfl, rfl⟩
    | false => exact ⟨_, _, rfl, by simp [leadType?, hd, typeName]⟩
  | str s => exact ⟨_, _, rfl, rfl⟩
  | arr inner => exact ⟨_, _, chars_arr _, rfl⟩
  | obj sorted inner => exact ⟨_, _, chars_obj _, rfl⟩

theorem leadType?_number {c : Char} (h : leadType? c = some "number") :
    (c = '-' || Text.isDigit c) = true := by
  by_contra hno
  unfold leadType? at h
  rw [if_neg hno] at h
  split_ifs at h <;> simp at h

/-- No number of a text begins with a plus sign. -/
theorem Readable.head?_ne_plus {depth : Nat} {text : String} (h : Readable depth (.num text)) :
    text.toList.head? ≠ some '+' := by
  obtain ⟨c, cs, hchars, htype⟩ := chars_eq_cons h
  have htext : text.toList = c :: cs := hchars
  rw [htext, List.head?_cons]
  intro hplus
  obtain rfl : c = '+' := Option.some.inj hplus
  cases htype

/-- Nothing that begins a value is a blank or ends a container. -/
theorem not_blank_of_leadType? {c : Char} {type : String} (h : leadType? c = some type) :
    Cursor.isJsonBlank c = false ∧ c ≠ ']' ∧ c ≠ '\x7d' := by
  have hne : ∀ d, leadType? d = none → c ≠ d := by
    rintro d hd rfl
    rw [hd] at h
    cases h
  refine ⟨?_, hne _ (by decide), hne _ (by decide)⟩
  simp [Cursor.isJsonBlank, hne ' ' (by decide), hne '\t' (by decide), hne '\n' (by decide),
    hne '\r' (by decide)]

/-- Text that can be a part of a container: no blank stands in front, and nothing that would end
the container. -/
def BeginsPart (closing : Char) (text : List Char) : Prop :=
  ∃ c cs, text = c :: cs ∧ Cursor.isJsonBlank c = false ∧ c ≠ closing

theorem beginsPart_chars {closing : Char} (hclosing : closing = ']' ∨ closing = '\x7d')
    {depth : Nat} {v : Json} (h : Readable depth v) : BeginsPart closing v.chars := by
  obtain ⟨c, cs, hchars, htype⟩ := chars_eq_cons h
  obtain ⟨hblank, hbracket, hbrace⟩ := not_blank_of_leadType? htype
  refine ⟨c, cs, hchars, hblank, ?_⟩
  rcases hclosing with rfl | rfl
  · exact hbracket
  · exact hbrace

theorem beginsPart_member {α : Type} (print : α → List Char) (m : String × α) :
    BeginsPart '\x7d' (memberChars print m) :=
  ⟨'"', _, rfl, by decide, by decide⟩

end Json
end RelayDesk
