import Mathlib.Data.List.Pairwise
import Mathlib.Data.List.Perm.Basic
import RelayDesk.Json.Record
import RelayDesk.Proofs.Json.Before

/-!
Records read from any text of theirs.  A key and a value may be spelt in several ways and may have
blanks around them; a reader gives the same for all of them, and may leave blanks in front of what
follows.  A record is what its members make of it, one after the other, in the order in which they
are written.
-/

namespace RelayDesk
namespace Json

/-! ## Strings and flags -/

section Values

variable {depth : Nat} {cur next : Cursor} {v : Json}

theorem typeName_of_readTaggedNumber (h : readTaggedNumber cur = .ok (v, next)) :
    v.typeName = "number" := by
  unfold readTaggedNumber at h
  dsimp only at h
  split at h
  · cases h
  · split_ifs at h
    obtain ⟨_, -, h⟩ := bind_eq_ok_iff.mp h
    obtain ⟨_, -, h⟩ := bind_eq_ok_iff.mp h
    cases h
    rfl

theorem typeName_of_readBraced {item : Cursor → Except Refusal (Json × Cursor)}
    (h : readBraced item cur = .ok (v, next)) : v.typeName ∈ ["number", "object"] := by
  unfold readBraced at h
  split at h
  · obtain ⟨_, -, h⟩ := bind_eq_ok_iff.mp h
    obtain ⟨⟨w, _⟩, hw, h⟩ := bind_eq_ok_iff.mp h
    obtain ⟨-, -, h⟩ := bind_eq_ok_iff.mp h
    cases h
    rw [typeName_of_readTaggedNumber hw]
    decide
  · obtain ⟨_, -, h⟩ := bind_eq_ok_iff.mp h
    cases h
    simp [object, typeName]

/-- A string or a flag is written as one. -/
theorem readScalar_of_readValue (h : readValue depth cur = .ok (v, next))
    (hv : v.typeName ∈ ["string", "bool"]) :
    ∃ c tail, cur.skipBlank.rest = c :: tail ∧ readScalar c cur.skipBlank = .ok (v, next) := by
  unfold readValue at h
  dsimp only at h
  split at h
  · cases h
  · next c tail hrest =>
    split_ifs at h
    · split at h
      · cases h
      · obtain ⟨_, -, h⟩ := bind_eq_ok_iff.mp h
        cases h
        simp [typeName] at hv
    · split at h
      · cases h
      · have hother := typeName_of_readBraced h
        simp only [List.mem_cons, List.not_mem_nil, or_false] at hv hother
        rcases hv with hv | hv <;> rw [hv] at hother <;> exact absurd hother (by decide)
    · exact ⟨c, tail, hrest, h⟩

theorem readString_of_readValue {s : String} (h : readValue depth cur = .ok (.str s, next)) :
    ∃ tail, cur.skipBlank.rest = '"' :: tail ∧
      readString cur.skipBlank.advance = .ok (s, next) := by
  obtain ⟨c, tail, hrest, h⟩ := readScalar_of_readValue h (by simp [typeName])
  unfold readScalar at h
  split_ifs at h with hnull htrue hfalse hnumeral hquote
  all_goals obtain ⟨p, hp, h⟩ := bind_eq_ok_iff.mp h
  all_goals cases h
  exact ⟨tail, by rw [hrest, hquote], hp⟩

theorem readText_of_readValue {s : String} (h : readValue depth cur = .ok (.str s, next))
    (expected : String) : readText expected cur = .ok (s, next) := by
  obtain ⟨tail, hrest, hstring⟩ := readString_of_readValue h
  unfold readText
  simp only [hrest, if_true, hstring]

theorem readBool_of_readValue {b : Bool} (h : readValue depth cur = .ok (.bool b, next)) :
    readBool cur = .ok (b, next) := by
  obtain ⟨c, tail, hrest, h⟩ := readScalar_of_readValue h (by simp [typeName])
  unfold readBool
  unfold readScalar at h
  split_ifs at h with hnull htrue hfalse hnumeral hquote
  all_goals obtain ⟨p, hp, h⟩ := bind_eq_ok_iff.mp h
  all_goals cases h
  · simp only [hrest, if_pos htrue, hp]
    rfl
  · simp only [hrest, if_neg htrue, if_pos hfalse, hp]
    rfl

/-- A text that holds a string is read as one, whatever the string is called. -/
theorem reads_text_of_read {t s : String} (h : Json.read t = .ok (.str s)) (expected : String)
    {rest : List Char} (hrest : EndsNumeral rest) :
    ∃ blanks, AllJsonBlank blanks ∧
      Reads (readText expected) (t.toList ++ rest) s (blanks ++ rest) := by
  obtain ⟨blanks, hblanks, hvalue⟩ := reads_of_read h hrest
  refine ⟨blanks, hblanks, fun place => ?_⟩
  obtain ⟨next, hvalue⟩ := hvalue place
  exact ⟨next, readText_of_readValue hvalue expected⟩

theorem reads_bool_of_read {t : String} {b : Bool} (h : Json.read t = .ok (.bool b))
    {rest : List Char} (hrest : EndsNumeral rest) :
    ∃ blanks, AllJsonBlank blanks ∧ Reads readBool (t.toList ++ rest) b (blanks ++ rest) := by
  obtain ⟨blanks, hblanks, hvalue⟩ := reads_of_read h hrest
  refine ⟨blanks, hblanks, fun place => ?_⟩
  obtain ⟨next, hvalue⟩ := hvalue place
  exact ⟨next, readBool_of_readValue hvalue⟩

end Values

/-! ## Keys -/

section Keys

variable {key name : String}

theorem endsNumeral_colon (rest : List Char) : EndsNumeral (':' :: rest) := by
  constructor <;> (intro c hc; cases hc; decide)

/-- A key that is spelt in any way is read as the first one of an object. -/
theorem reads_firstKey (hkey : Json.read key = .ok (.str name)) (rest : List Char)
    (place : Place) :
    ∃ start blanks next, AllJsonBlank blanks ∧
      nextKey true ⟨key.toList ++ ':' :: rest, place⟩ = .ok (true, start) ∧
      readString start.advance = .ok (name, ⟨blanks ++ ':' :: rest, next⟩) := by
  obtain ⟨blanks, hblanks, hvalue⟩ := reads_of_read hkey (endsNumeral_colon rest)
  obtain ⟨next, hvalue⟩ := hvalue place
  obtain ⟨tail, hquote, hstring⟩ := readString_of_readValue hvalue
  refine ⟨_, blanks, next, hblanks, ?_, hstring⟩
  unfold nextKey
  simp only [hquote, if_true]
  rfl

/-- Behind a comma it is read as one of the others. -/
theorem reads_laterKey (hkey : Json.read key = .ok (.str name)) {before : List Char}
    (hbefore : AllJsonBlank before) (rest : List Char) (place : Place) :
    ∃ start blanks next, AllJsonBlank blanks ∧
      nextKey false ⟨before ++ ',' :: (key.toList ++ ':' :: rest), place⟩ = .ok (true, start) ∧
      readString start.advance = .ok (name, ⟨blanks ++ ':' :: rest, next⟩) := by
  obtain ⟨middle, hskip⟩ :=
    skipBlank_append_cons (c := ',') hbefore rfl (key.toList ++ ':' :: rest) place
  obtain ⟨blanks, hblanks, hvalue⟩ := reads_of_read hkey (endsNumeral_colon rest)
  obtain ⟨next, hvalue⟩ := hvalue (middle.after ',')
  obtain ⟨tail, hquote, hstring⟩ := readString_of_readValue hvalue
  refine ⟨_, blanks, next, hblanks, ?_, hstring⟩
  unfold nextKey
  rw [hskip]
  simp only [Cursor.advance_cons, hquote]
  rfl

end Keys

/-! ## Members -/

section Fields

variable {α : Type}

/-- The field takes the text of a value for `set`, a change of the record, whatever may follow the
value. -/
def Field.TakesText (f : Field α) (depth : Nat) (text : List Char) (set : α → α) : Prop :=
  ∀ rest, EndsValue rest → ∀ place, ∃ blanks next, AllJsonBlank blanks ∧
    f.read depth ⟨text ++ rest, place⟩ = .ok (set, ⟨blanks ++ rest, next⟩)

theorem Field.takesText_of {β : Type} {name : String} {required : Bool}
    {read : Nat → Cursor → Except Refusal (β × Cursor)} {set : β → α → α} {depth : Nat}
    {text : List Char} {b : β}
    (h : ∀ rest, EndsValue rest →
      ∃ blanks, AllJsonBlank blanks ∧ Reads (read depth) (text ++ rest) b (blanks ++ rest)) :
    (Field.of name required read set).TakesText depth text (set b) := by
  intro rest hrest place
  obtain ⟨blanks, hblanks, hread⟩ := h rest hrest
  obtain ⟨next, hread⟩ := hread place
  refine ⟨blanks, next, hblanks, ?_⟩
  show placedReading (read depth ⟨text ++ rest, place⟩ >>= _) = _
  rw [hread, ok_bind]
  rfl

/-- A member as it is spelt, with what it changes in the record. -/
structure SpeltMember (α : Type) where
  field : Field α
  key : String
  value : List Char
  set : α → α

namespace SpeltMember

def chars (m : SpeltMember α) : List Char := m.key.toList ++ ':' :: m.value

/-- The member is read as one of the record. -/
structure ReadsIn (m : SpeltMember α) (s : Shape α) (depth : Nat) : Prop where
  field : s.fields.find? (·.name == m.field.name) = some m.field
  key : Json.read m.key = .ok (.str m.field.name)
  value : m.field.TakesText depth m.value m.set

/-- Either of two members may be read first. -/
def Commutes (m m' : SpeltMember α) : Prop := ∀ a, m.set (m'.set a) = m'.set (m.set a)

instance : Std.Symm (@Commutes α) := ⟨fun _ _ h a => (h a).symm⟩

end SpeltMember

/-- The text of a member with the key, spelt in any way, and a value that is spelt in one of the
given ways. -/
def IsMemberText (key : String) (isValue : String → Prop) (part : List Char) : Prop :=
  ∃ name value : String, Json.read name = .ok (.str key) ∧ isValue value ∧
    part = name.toList ++ ':' :: value.toList

/-- If a field takes all of these values for one change, then such a member is read as it. -/
theorem IsMemberText.exists_spelt {s : Shape α} {depth : Nat} {f : Field α}
    {isValue : String → Prop} {part : List Char} {set : α → α}
    (h : IsMemberText f.name isValue part)
    (hfield : s.fields.find? (·.name == f.name) = some f)
    (htakes : ∀ value : String, isValue value → f.TakesText depth value.toList set) :
    ∃ m : SpeltMember α, m.chars = part ∧ m.field = f ∧ m.set = set ∧ m.ReadsIn s depth := by
  obtain ⟨name, value, hname, hvalue, rfl⟩ := h
  exact ⟨{ field := f, key := name, value := value.toList, set }, rfl, rfl, rfl,
    ⟨hfield, hname, htakes value hvalue⟩⟩

/-- The record that members make of another. -/
def recordOf (ms : List (SpeltMember α)) (a : α) : α := ms.foldl (fun a m => m.set a) a

/-- Members of which either one of two may be read first make the same in any order. -/
theorem recordOf_perm {ms ms' : List (SpeltMember α)} (h : ms.Perm ms')
    (hcomm : ms'.Pairwise SpeltMember.Commutes) (a : α) : recordOf ms a = recordOf ms' a := by
  have hall : ∀ m ∈ ms', ∀ m' ∈ ms', m.Commutes m' :=
    List.Pairwise.forall_of_forall (fun _ _ _ => rfl) hcomm
  exact h.foldl_eq' (fun m hm m' hm' b => hall m' (h.subset hm') m (h.subset hm) b) a

namespace Shape

variable {s : Shape α} {depth : Nat}

theorem missing?_eq_none {seen : List String}
    (h : ∀ f ∈ s.fields, f.required = true → f.name ∈ seen) : s.missing? seen = none := by
  refine List.find?_eq_none.mpr fun f hf => ?_
  cases hrequired : f.required with
  | false => simp
  | true => simp [h f hf hrequired]

/-- One member is read, and its field counts as seen. -/
theorem readNamed_spelt (fuel : Nat) {seen : List String} (a : α) {m : SpeltMember α}
    (hm : m.ReadsIn s depth) (hnew : m.field.name ∉ seen) {cur start : Cursor}
    {blanks rest : List Char} {middle : Place} (hblanks : AllJsonBlank blanks)
    (hstart : nextKey seen.isEmpty cur = .ok (true, start))
    (hkey : readString start.advance =
      .ok (m.field.name, ⟨blanks ++ ':' :: (m.value ++ rest), middle⟩))
    (hrest : EndsValue rest) :
    ∃ blanks next, AllJsonBlank blanks ∧ s.readNamed depth (fuel + 1) seen a cur =
      s.readNamed depth fuel (m.field.name :: seen) (m.set a) ⟨blanks ++ rest, next⟩ := by
  have hcolon : ∃ next, readColon ⟨blanks ++ ':' :: (m.value ++ rest), middle⟩ =
      .ok ⟨m.value ++ rest, next⟩ := by
    obtain ⟨next, hskip⟩ :=
      skipBlank_append_cons (c := ':') hblanks rfl (m.value ++ rest) middle
    refine ⟨next.after ':', ?_⟩
    unfold readColon
    rw [hskip]
    rfl
  obtain ⟨p, hcolon⟩ := hcolon
  obtain ⟨left, next, hleft, hvalue⟩ := hm.value rest hrest p
  refine ⟨left, next, hleft, ?_⟩
  have hseen : seen.contains m.field.name = false := by simpa using hnew
  rw [readNamed, hstart]
  simp only [placedReading, Except.mapError, ok_bind, if_true, hkey, hm.field, hseen,
    Bool.false_eq_true, if_false, hcolon, hvalue]

theorem readNamed_end (fuel : Nat) {seen : List String} (a : α)
    (hmissing : s.missing? seen = none) {before : List Char} (hbefore : AllJsonBlank before)
    (rest : List Char) (place : Place) :
    ∃ next, s.readNamed depth (fuel + 1) seen a ⟨before ++ '\x7d' :: rest, place⟩ =
      .ok (a, ⟨'\x7d' :: rest, next⟩) := by
  obtain ⟨next, hskip⟩ := skipBlank_append_cons (c := '\x7d') hbefore rfl rest place
  have hend : nextKey seen.isEmpty ⟨before ++ '\x7d' :: rest, place⟩ =
      .ok (false, ⟨'\x7d' :: rest, next⟩) := by
    unfold nextKey
    rw [hskip]
    rfl
  refine ⟨next, ?_⟩
  rw [readNamed, hend]
  simp only [placedReading, Except.mapError, ok_bind, Bool.false_eq_true, if_false, hmissing]

theorem readNamed_later {ms : List (SpeltMember α)} (hms : ∀ m ∈ ms, m.ReadsIn s depth)
    {seen : List String} (hne : seen ≠ []) (hnew : ∀ m ∈ ms, m.field.name ∉ seen)
    (honce : (ms.map (·.field.name)).Nodup)
    (hall : ∀ f ∈ s.fields, f.required = true → f.name ∈ ms.map (·.field.name) ∨ f.name ∈ seen)
    {fuel : Nat} (hfuel : ms.length < fuel) (a : α) {before : List Char}
    (hbefore : AllJsonBlank before) (rest : List Char) (place : Place) :
    ∃ next, s.readNamed depth fuel seen a
        ⟨before ++ ((ms.map (·.chars)).flatMap (',' :: ·) ++ '\x7d' :: rest), place⟩ =
      .ok (recordOf ms a, ⟨'\x7d' :: rest, next⟩) := by
  -- With each member its name moves from those that are to come to those that have been seen.
  induction ms generalizing seen fuel a before place with
  | nil =>
    obtain ⟨fuel, rfl⟩ : ∃ n, fuel = n + 1 := ⟨fuel - 1, by simp at hfuel; omega⟩
    refine readNamed_end fuel a (missing?_eq_none fun f hf hrequired => ?_) hbefore rest place
    exact (hall f hf hrequired).resolve_left List.not_mem_nil
  | cons m ms ih =>
    obtain ⟨fuel, rfl⟩ : ∃ n, fuel = n + 1 := ⟨fuel - 1, by simp at hfuel; omega⟩
    obtain ⟨hm, hlater⟩ := List.forall_mem_cons.mp hms
    obtain ⟨honce_head, honce_rest⟩ := List.nodup_cons.mp honce
    obtain ⟨start, blanks, middle, hblanks, hstart, hkey⟩ := reads_laterKey hm.key hbefore
      (m.value ++ ((ms.map (·.chars)).flatMap (',' :: ·) ++ '\x7d' :: rest)) place
    rw [← List.isEmpty_eq_false_iff.mpr hne] at hstart
    obtain ⟨left, next, hleft, hmember⟩ := readNamed_spelt fuel a hm (hnew m List.mem_cons_self)
      hblanks hstart hkey (endsValue_parts (.inr rfl) _ rest)
    obtain ⟨last, hrecord⟩ := ih hlater (List.cons_ne_nil m.field.name seen)
      (fun m' hm' => List.not_mem_cons_of_ne_of_not_mem
        (fun heq => honce_head (List.mem_map.mpr ⟨m', hm', heq⟩))
        (hnew m' (List.mem_cons_of_mem m hm')))
      honce_rest
      (fun f hf hrequired => by
        rcases hall f hf hrequired with hcome | hseen
        · rcases List.mem_cons.mp hcome with hnow | hlater
          · exact .inr (hnow ▸ List.mem_cons_self)
          · exact .inl hlater
        · exact .inr (List.mem_cons_of_mem _ hseen))
      (Nat.lt_of_succ_lt_succ hfuel) (m.set a) hleft next
    refine ⟨last, ?_⟩
    have hshape : (List.map (·.chars) (m :: ms)).flatMap (',' :: ·) ++ '\x7d' :: rest =
        ',' :: (m.key.toList ++ ':' ::
          (m.value ++ ((ms.map (·.chars)).flatMap (',' :: ·) ++ '\x7d' :: rest))) := by
      simp [SpeltMember.chars]
    rw [hshape, hmember, hrecord]
    rfl

theorem readNamed_all {ms : List (SpeltMember α)} (hms : ∀ m ∈ ms, m.ReadsIn s depth)
    (honce : (ms.map (·.field.name)).Nodup)
    (hall : ∀ f ∈ s.fields, f.required = true → f.name ∈ ms.map (·.field.name)) {fuel : Nat}
    (hfuel : ms.length < fuel) (a : α) (rest : List Char) (place : Place) :
    ∃ next, s.readNamed depth fuel [] a
        ⟨commaSeparated (ms.map (·.chars)) ++ '\x7d' :: rest, place⟩ =
      .ok (recordOf ms a, ⟨'\x7d' :: rest, next⟩) := by
  obtain ⟨fuel, rfl⟩ : ∃ n, fuel = n + 1 := ⟨fuel - 1, by omega⟩
  cases ms with
  | nil =>
    have hnone : AllJsonBlank [] := nofun
    exact readNamed_end fuel a (missing?_eq_none hall) hnone rest place
  | cons m ms =>
    obtain ⟨hm, hlater⟩ := List.forall_mem_cons.mp hms
    obtain ⟨honce_head, honce_rest⟩ := List.nodup_cons.mp honce
    obtain ⟨start, blanks, middle, hblanks, hstart, hkey⟩ := reads_firstKey hm.key
      (m.value ++ ((ms.map (·.chars)).flatMap (',' :: ·) ++ '\x7d' :: rest)) place
    have hfirst : nextKey ([] : List String).isEmpty _ = .ok (true, start) := hstart
    obtain ⟨left, next, hleft, hmember⟩ := readNamed_spelt fuel a hm List.not_mem_nil hblanks
      hfirst hkey (endsValue_parts (.inr rfl) _ rest)
    obtain ⟨last, hrecord⟩ := readNamed_later hlater (List.cons_ne_nil m.field.name [])
      (fun m' hm' hseen => honce_head
        (List.mem_map.mpr ⟨m', hm', List.mem_singleton.mp hseen⟩))
      honce_rest
      (fun f hf hrequired => (List.mem_cons.mp (hall f hf hrequired)).symm.imp_right
        List.mem_singleton.mpr)
      (Nat.lt_of_succ_lt_succ hfuel) (m.set a) hleft rest next
    refine ⟨last, ?_⟩
    have hshape : commaSeparated (List.map (·.chars) (m :: ms)) ++ '\x7d' :: rest =
        m.key.toList ++ ':' ::
          (m.value ++ ((ms.map (·.chars)).flatMap (',' :: ·) ++ '\x7d' :: rest)) := by
      rw [List.map_cons, commaSeparated_cons]
      simp [SpeltMember.chars]
    rw [hshape, hmember, hrecord]
    rfl

/-- The text of an object whose members are spelt so, with blanks around it. -/
def IsObjectText (parts : List (List Char)) (text : String) : Prop :=
  ∃ before after, AllJsonBlank before ∧ AllJsonBlank after ∧
    text.toList = before ++ '\x7b' :: (commaSeparated parts ++ '\x7d' :: after)

/-- A record that is written as an object, each field at most once and every required one among
them, is what its members make of the record without any. -/
theorem readText_of_spelt {ms : List (SpeltMember α)} {text : String}
    (htext : IsObjectText (ms.map (·.chars)) text)
    (hms : ∀ m ∈ ms, m.ReadsIn s (nestingLimit - 1))
    (honce : (ms.map (·.field.name)).Nodup)
    (hall : ∀ f ∈ s.fields, f.required = true → f.name ∈ ms.map (·.field.name)) :
    s.readText text = .ok (recordOf ms s.blank) := by
  obtain ⟨before, after, hbefore, hafter, hchars⟩ := htext
  obtain ⟨place, hskip⟩ := skipBlank_append_cons (c := '\x7b') hbefore rfl
    (commaSeparated (ms.map (·.chars)) ++ '\x7d' :: after) ⟨1, 0⟩
  have hfuel := length_lt_of_parts (ms.map (·.chars)) '\x7d' after
  rw [List.length_map] at hfuel
  obtain ⟨next, hread⟩ := readNamed_all hms honce hall (Nat.lt_succ_of_lt hfuel) s.blank after
    (place.after '\x7b')
  have hclosed : s.read nestingLimit (.start text) =
      .ok (recordOf ms s.blank, ⟨after, next.after '\x7d'⟩) := by
    unfold read
    rw [Cursor.start, hchars, hskip]
    exact congrArg (closeBody closeObject) hread
  have hend : readEnd ⟨after, next.after '\x7d'⟩ = .ok () := readEnd_eq_ok_iff.mpr hafter
  unfold readText
  rw [hclosed, ok_bind]
  simp only [hend, ok_bind]
  rfl

/-- The same for the members in another order. -/
theorem readText_of_perm {ms : List (SpeltMember α)} {parts : List (List Char)} {text : String}
    (htext : IsObjectText parts text) (hparts : parts.Perm (ms.map (·.chars)))
    (hms : ∀ m ∈ ms, m.ReadsIn s (nestingLimit - 1))
    (honce : (ms.map (·.field.name)).Nodup)
    (hall : ∀ f ∈ s.fields, f.required = true → f.name ∈ ms.map (·.field.name))
    (hcomm : ms.Pairwise SpeltMember.Commutes) : s.readText text = .ok (recordOf ms s.blank) := by
  obtain ⟨written, rfl, hperm⟩ : ∃ written : List (SpeltMember α),
      parts = written.map (·.chars) ∧ written.Perm ms :=
    (congrFun (congrFun (List.eq_map_comp_perm SpeltMember.chars) parts) ms).mpr hparts
  have hnames := hperm.map (·.field.name)
  rw [← recordOf_perm hperm hcomm]
  exact readText_of_spelt htext (fun m hm => hms m (hperm.subset hm)) (hnames.nodup_iff.mpr honce)
    (fun f hf hrequired => hnames.symm.subset (hall f hf hrequired))

end Shape
end Fields
end Json
end RelayDesk
