import Mathlib
import RelayDesk.Cache.Key
import RelayDesk.Proofs.Json.RoundTrip
import RelayDesk.Proofs.Json.Sound
import RelayDesk.Proofs.Json.Unique

/-!
The text of params in keys is JSON.  It is the compact text of the params with their account
addresses in lowercase, so it is read back as those params, and two params share it exactly when
they differ in the case of addresses only.
-/

namespace RelayDesk
namespace Cache

open Json (Readable numberKey keysWithin)

mutual

/-- The value with every string that is an account address in lowercase.  Keys of members are
left alone. -/
def lowerAddresses : Json → Json
  | .str s => .str (lowerAddress s)
  | .arr items => .arr (lowerAddressesItems items)
  | .obj members => .obj (lowerAddressesMembers members)
  | scalar => scalar

def lowerAddressesItems : List Json → List Json
  | [] => []
  | item :: rest => lowerAddresses item :: lowerAddressesItems rest

def lowerAddressesMembers : List (String × Json) → List (String × Json)
  | [] => []
  | (key, value) :: rest => (key, lowerAddresses value) :: lowerAddressesMembers rest

end

def lowerMember (m : String × Json) : String × Json := (m.1, lowerAddresses m.2)

theorem lowerAddresses_arr (items : List Json) :
    lowerAddresses (.arr items) = .arr (items.map lowerAddresses) := by
  have hitems : lowerAddressesItems items = items.map lowerAddresses := by
    induction items with
    | nil => rfl
    | cons item rest ih => rw [lowerAddressesItems, ih, List.map_cons]
  rw [lowerAddresses, hitems]

theorem lowerAddresses_obj (members : List (String × Json)) :
    lowerAddresses (.obj members) = .obj (members.map lowerMember) := by
  have hmembers : lowerAddressesMembers members = members.map lowerMember := by
    induction members with
    | nil => rfl
    | cons m rest ih => rw [lowerAddressesMembers, ih, List.map_cons, lowerMember]
  rw [lowerAddresses, hmembers]

/-! ## Lowering keeps values in normal form -/

theorem sorted_map_lowerMember {members : List (String × Json)} (h : Keyed.Sorted members) :
    Keyed.Sorted (members.map lowerMember) := by
  rw [Keyed.Sorted, List.pairwise_map]
  exact h

theorem readable_lowerAddresses {depth : Nat} {v : Json} (h : Readable depth v) :
    Readable depth (lowerAddresses v) := by
  induction h with
  | null => exact .null
  | bool b => exact .bool b
  | num wf => exact .num wf
  | str s => exact .str _
  | arr inner ih =>
    rw [lowerAddresses_arr]
    exact .arr (List.forall_mem_map.mpr ih)
  | obj sorted inner ih =>
    rw [lowerAddresses_obj]
    exact .obj (sorted_map_lowerMember sorted) (List.forall_mem_map.mpr ih)

theorem mem_keysWithin_lowerAddresses {depth : Nat} {v : Json} (h : Readable depth v)
    {key : String} (hkey : key ∈ keysWithin (lowerAddresses v)) : key ∈ keysWithin v := by
  induction h with
  | null => exact hkey
  | bool b => exact hkey
  | num wf => exact hkey
  | str s => exact hkey
  | arr inner ih =>
    rw [lowerAddresses_arr, Json.mem_keysWithin_arr] at hkey
    obtain ⟨w, hw, hkey⟩ := hkey
    obtain ⟨v, hv, rfl⟩ := List.mem_map.mp hw
    exact Json.mem_keysWithin_arr.mpr ⟨v, hv, ih v hv hkey⟩
  | obj sorted inner ih =>
    rw [lowerAddresses_obj, Json.mem_keysWithin_obj] at hkey
    obtain ⟨n, hn, hkey⟩ := hkey
    obtain ⟨m, hm, rfl⟩ := List.mem_map.mp hn
    exact Json.mem_keysWithin_obj.mpr ⟨m, hm, hkey.imp_right (ih m hm)⟩

theorem asciiLower_asciiLower (s : String) :
    Text.asciiLower (Text.asciiLower s) = Text.asciiLower s := by
  unfold Text.asciiLower
  rw [String.toList_ofList, List.map_map]
  congr 2
  exact funext Char.toLower_toLower_eq_toLower

theorem lowerAddress_lowerAddress (s : String) :
    lowerAddress (lowerAddress s) = lowerAddress s := by
  by_cases h : isAddress s = true
  · have hlower : lowerAddress s = Text.asciiLower s := if_pos h
    rw [hlower]
    unfold lowerAddress
    rw [asciiLower_asciiLower, ite_self]
  · have hsame : lowerAddress s = s := if_neg h
    rw [hsame, hsame]

theorem lowerAddresses_lowerAddresses {depth : Nat} {v : Json} (h : Readable depth v) :
    lowerAddresses (lowerAddresses v) = lowerAddresses v := by
  induction h with
  | null => rfl
  | bool b => rfl
  | num wf => rfl
  | str s => exact congrArg Json.str (lowerAddress_lowerAddress s)
  | arr inner ih =>
    rw [lowerAddresses_arr, lowerAddresses_arr, List.map_map]
    exact congrArg Json.arr (List.map_congr_left ih)
  | obj sorted inner ih =>
    rw [lowerAddresses_obj, lowerAddresses_obj, List.map_map]
    refine congrArg Json.obj (List.map_congr_left fun m hm => ?_)
    exact Prod.ext rfl (ih m hm)

/-! ## The text is that of the lowered value -/

theorem canonicalChars_arr (items : List Json) :
    canonicalChars (.arr items) =
      '[' :: (Json.commaSeparated (items.map canonicalChars) ++ [']']) := by
  have hitems : canonicalItems items = items.map canonicalChars := by
    induction items with
    | nil => rfl
    | cons item rest ih => rw [canonicalItems, ih, List.map_cons]
  show '[' :: (Json.commaSeparated (canonicalItems items) ++ [']']) = _
  rw [hitems]

/-- Members that are in order already are written in that order. -/
theorem canonicalChars_obj {members : List (String × Json)} (h : Keyed.Sorted members) :
    canonicalChars (.obj members) =
      '\x7b' :: (Json.commaSeparated (members.map (Json.memberChars canonicalChars)) ++
        ['\x7d']) := by
  have hmembers : canonicalMembers members = members.map fun m => (m.1, canonicalChars m.2) := by
    clear h
    induction members with
    | nil => rfl
    | cons m rest ih => rw [canonicalMembers, ih, List.map_cons]
  have hsorted : sortEntries (canonicalMembers members) = canonicalMembers members := by
    refine List.mergeSort_of_pairwise ?_
    rw [hmembers, List.pairwise_map]
    exact h.imp fun hlt => decide_eq_true (le_of_lt hlt)
  show '\x7b' :: (Json.commaSeparated ((sortEntries (canonicalMembers members)).map entryChars) ++
    ['\x7d']) = _
  rw [hsorted, hmembers, List.map_map]
  rfl

theorem canonicalChars_eq {depth : Nat} {v : Json} (h : Readable depth v) :
    canonicalChars v = (lowerAddresses v).chars := by
  induction h with
  | null => rfl
  | bool b => rfl
  | num wf => rfl
  | str s => rfl
  | arr inner ih =>
    rw [canonicalChars_arr, lowerAddresses_arr, Json.chars_arr, List.map_map,
      List.map_congr_left ih]
    rfl
  | @obj depth members sorted inner ih =>
    have hmember : ∀ m ∈ members,
        Json.memberChars canonicalChars m = Json.memberChars Json.chars (lowerMember m) := by
      intro m hm
      unfold Json.memberChars lowerMember
      rw [ih m hm]
    rw [canonicalChars_obj sorted, lowerAddresses_obj, Json.chars_obj, List.map_map,
      List.map_congr_left hmember]
    rfl

theorem canonicalText_eq {depth : Nat} {v : Json} (h : Readable depth v) :
    canonicalText v = (lowerAddresses v).text := by
  unfold canonicalText Json.text
  rw [canonicalChars_eq h]

theorem canonicalText_eq_iff {depth depth' : Nat} {v w : Json} (hv : Readable depth v)
    (hw : Readable depth' w) :
    canonicalText v = canonicalText w ↔ lowerAddresses v = lowerAddresses w := by
  constructor
  · intro h
    rw [canonicalText_eq hv, canonicalText_eq hw] at h
    exact Json.eq_of_text_eq (readable_lowerAddresses hv) (readable_lowerAddresses hw) h
  · intro h
    rw [canonicalText_eq hv, canonicalText_eq hw, h]

/-- The text of a value that was read is read as the value with its addresses in lowercase. -/
theorem read_canonicalText {v : Json} (h : Readable Json.nestingLimit v)
    (hkeys : numberKey ∉ keysWithin v) :
    Json.read (canonicalText v) = .ok (lowerAddresses v) := by
  rw [canonicalText_eq h]
  exact Json.read_text (readable_lowerAddresses h)
    fun hkey => hkeys (mem_keysWithin_lowerAddresses h hkey)

/-- The text of params in keys loses nothing but the case of addresses: it is read back, it is
the text of what is read back, it tells values apart, and it is the same for params given as text
and as a value. -/
theorem canonicalText_round_trip {t : String} {v : Json} (h : Json.read t = .ok v)
    (hkeys : numberKey ∉ keysWithin v) :
    Json.read (canonicalText v) = .ok (lowerAddresses v) ∧
      (Json.read (canonicalText v)).map canonicalText = .ok (canonicalText v) ∧
      (∀ t' w, Json.read t' = .ok w →
        (canonicalText v = canonicalText w ↔ lowerAddresses v = lowerAddresses w)) ∧
      ∀ url method, keyOfText url method v.text = keyOfValue url method v := by
  have hv := Json.readable_of_read h
  have hread := read_canonicalText hv hkeys
  refine ⟨hread, ?_, ?_, ?_⟩
  · rw [hread]
    show Except.ok (canonicalText (lowerAddresses v)) = _
    rw [canonicalText_eq (readable_lowerAddresses hv), lowerAddresses_lowerAddresses hv,
      canonicalText_eq hv]
  · intro t' w hw
    exact canonicalText_eq_iff hv (Json.readable_of_read hw)
  · intro url method
    unfold keyOfText
    rw [Json.read_text hv hkeys]

/-- Params whose members are not in order, with an address in capitals and a number that keeps its
zero. -/
def ownerText : String :=
  "[\x7b\"to\": \"0xABCDEFABCDEFABCDEFABCDEFABCDEFABCDEFABCD\", \"data\": \"0x\"\x7d, 1.0]"

def ownerParams : Json :=
  .arr [.obj [("data", .str "0x"), ("to", .str "0xABCDEFABCDEFABCDEFABCDEFABCDEFABCDEFABCD")],
    .num "1.0"]

theorem ownerParams_round_trip :
    Json.read ownerText = .ok ownerParams ∧ numberKey ∉ keysWithin ownerParams ∧
      Json.read (canonicalText ownerParams) = .ok (lowerAddresses ownerParams) ∧
      (Json.read (canonicalText ownerParams)).map canonicalText =
        .ok (canonicalText ownerParams) := by
  have hread : Json.read ownerText = .ok ownerParams := by cbv
  have hkeys : numberKey ∉ keysWithin ownerParams := by decide
  obtain ⟨hback, hagain, -⟩ := canonicalText_round_trip hread hkeys
  exact ⟨hread, hkeys, hback, hagain⟩

end Cache
end RelayDesk
