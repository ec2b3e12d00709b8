import RelayDesk.Proofs.Json.Integer
import RelayDesk.Proofs.Json.Sound
import RelayDesk.Proofs.Number.Whole
import RelayDesk.Rpc.Reply

/-!
What a reply comes to.  The status is asked first, then the shape of the body, then an error in it,
and the result last.  A failure passes when the status says so, or when the body returns an error
whose code is listed, or, where no code is, one whose message has one of the listed phrases in it.
A good reply gives back the result that it was made to carry, whatever characters are in it.
-/

namespace RelayDesk

namespace Text

/-- One of the phrases stands somewhere in the lowercase of the message. -/
def Mentions (phrases : List String) (message : String) : Prop :=
  ∃ phrase ∈ phrases, phrase.toList <:+: (lower message).toList

theorem containsChars_iff {needle hay : List Char} :
    containsChars needle hay = true ↔ needle <:+: hay := by
  induction hay with
  | nil => rw [containsChars, List.isEmpty_iff, List.infix_nil]
  | cons c rest ih =>
    rw [containsChars, Bool.or_eq_true, List.isPrefixOf_iff_prefix, ih, List.infix_cons_iff]

theorem any_contains_iff {phrases : List String} {message : String} :
    phrases.any (contains (lower message)) = true ↔ Mentions phrases message := by
  simp only [List.any_eq_true, contains, containsChars_iff, Mentions]

theorem mentions_append_iff (phrases phrases' : List String) {message : String} :
    Mentions (phrases ++ phrases') message ↔
      Mentions phrases message ∨ Mentions phrases' message := by
  simp only [Mentions, List.mem_append, or_and_right, exists_or]

end Text

namespace Rpc

open FailureKind (ofMessage ofNodeError ofStatus?)
open Text (Mentions)

/-- An object has a code when its member of that name is an integer of 64 bits. -/
def HasCode (error : Json) (c : Int) : Prop :=
  ∃ members text, error = .obj members ∧ Keyed.find? "code" members = some (.num text) ∧
    Number.Writes c text.toList ∧ -(2 : Int) ^ 63 ≤ c ∧ c < (2 : Int) ^ 63

/-- The message of an error: that of an object, which may be missing, a text itself, and the JSON
text of any other value. -/
inductive HasMessage : Json → String → Prop
  | told {members : List (String × Json)} {s : String}
      (found : Keyed.find? "message" members = some (.str s)) : HasMessage (.obj members) s
  | untold {members : List (String × Json)}
      (missing : ∀ s, Keyed.find? "message" members ≠ some (.str s)) :
      HasMessage (.obj members) ""
  | text (s : String) : HasMessage (.str s) s
  | other {error : Json} (no_object : ∀ members, error ≠ .obj members)
      (no_text : ∀ s, error ≠ .str s) : HasMessage error error.text

def IsCoded (codes : List Int) (error : Json) : Prop := ∃ c ∈ codes, HasCode error c

def IsWorded (phrases : List String) (error : Json) : Prop :=
  ∃ message, HasMessage error message ∧ Mentions phrases message

/-- The node is asked too often.  Words count where no code is listed. -/
def IsRateLimit (error : Json) : Prop :=
  IsCoded [429, -32005] error ∨
    ¬ IsCoded [429, -32005, -32000, -32004] error ∧ IsWorded ["rate limit", "too many"] error

/-- The node is out of reach.  Words of a rate limit outweigh those of an outage. -/
def IsOutage (error : Json) : Prop :=
  IsCoded [-32000, -32004] error ∨
    ¬ IsCoded [429, -32005, -32000, -32004] error ∧
      ¬ IsWorded ["rate limit", "too many"] error ∧
      IsWorded ["temporarily unavailable", "service unavailable", "timeout"] error

/-- The error is of a kind that passes. -/
def Passes (error : Json) : Prop :=
  IsCoded [429, -32005, -32000, -32004] error ∨
    ¬ IsCoded [429, -32005, -32000, -32004] error ∧
      IsWorded ["rate limit", "too many", "temporarily unavailable", "service unavailable",
        "timeout"] error

/-- The body of a reply with status 200 is an object with these members. -/
structure Reply.Holds (r : Reply) (members : List (String × Json)) : Prop where
  status : r.status = 200
  body : Json.read r.body = .ok (.obj members)

def HasNoError (members : List (String × Json)) : Prop :=
  Keyed.find? "error" members = none ∨ Keyed.find? "error" members = some .null

/-- The body returns an error, which null is not. -/
def Reply.Returns (r : Reply) (error : Json) : Prop :=
  ∃ members, r.Holds members ∧ Keyed.find? "error" members = some error ∧ error ≠ .null

/-! ## Returned errors -/

def codeOf? : Json → Option Int
  | .obj error => integerMember? "code" error
  | _ => none

def messageOf : Json → String
  | .obj error => stringMember "message" error
  | .str message => message
  | other => other.text

section Errors

variable {members : List (String × Json)} {error : Json} {depth : Nat} {c : Int}
  {code : Option Int} {message : String} {codes : List Int} {phrases : List String}

theorem returnedError?_of_hasNoError (h : HasNoError members) : returnedError? members = none := by
  unfold returnedError?
  rcases h with h | h
  · rw [h]
  · rw [h]

theorem returnedError?_of_error (h : Keyed.find? "error" members = some error)
    (hnull : error ≠ .null) :
    returnedError? members = some (.node (codeOf? error) (messageOf error)) := by
  unfold returnedError?
  rw [h]
  cases error with
  | null => exact absurd rfl hnull
  | _ => rfl

theorem codeOf?_eq_some_iff (h : Json.Readable depth error) :
    codeOf? error = some c ↔ HasCode error c := by
  unfold codeOf? HasCode
  split
  · next members =>
    unfold integerMember?
    split
    · next text hfind =>
      obtain ⟨_, hcode⟩ := h.of_find? hfind
      simp [hfind, Number.signed?_eq_some_iff hcode.head?_ne_plus]
    · next hother =>
      have hnone : ∀ text, Keyed.find? "code" members ≠ some (.num text) := hother
      simp [hnone]
  · next hother =>
    have hnone : ∀ members, error ≠ .obj members := hother
    simp [hnone]

theorem stringMember_of_str {name s : String} (h : Keyed.find? name members = some (.str s)) :
    stringMember name members = s := by
  unfold stringMember
  rw [h]

theorem stringMember_of_other {name : String}
    (h : ∀ s, Keyed.find? name members ≠ some (.str s)) : stringMember name members = "" := by
  unfold stringMember
  split
  · next s hfind => exact absurd hfind (h s)
  · rfl

theorem hasMessage_messageOf (error : Json) : HasMessage error (messageOf error) := by
  cases error with
  | obj members =>
    show HasMessage _ (stringMember "message" members)
    by_cases htold : ∃ s, Keyed.find? "message" members = some (.str s)
    · obtain ⟨s, hfind⟩ := htold
      rw [stringMember_of_str hfind]
      exact .told hfind
    · have hother := not_exists.mp htold
      rw [stringMember_of_other hother]
      exact .untold hother
  | str s => exact .text s
  | _ => exact .other nofun nofun

theorem HasMessage.eq (h : HasMessage error message) : message = messageOf error := by
  cases h with
  | told found => exact (stringMember_of_str found).symm
  | untold missing => exact (stringMember_of_other missing).symm
  | text => rfl
  | other no_object no_text =>
    cases error with
    | obj members => exact absurd rfl (no_object members)
    | str s => exact absurd rfl (no_text s)
    | _ => rfl

theorem isCoded_iff (h : Json.Readable depth error) :
    IsCoded codes error ↔ ∃ c ∈ codes, codeOf? error = some c := by
  simp only [IsCoded, codeOf?_eq_some_iff h]

theorem isWorded_iff : IsWorded phrases error ↔ Mentions phrases (messageOf error) := by
  constructor
  · rintro ⟨message, hmessage, hphrases⟩
    exact hmessage.eq ▸ hphrases
  · intro hphrases
    exact ⟨_, hasMessage_messageOf error, hphrases⟩

/-! ## Kinds -/

theorem ofMessage_cases (message : String) :
    Mentions ["rate limit", "too many"] message ∧ ofMessage message = .rateLimited ∨
      ¬ Mentions ["rate limit", "too many"] message ∧
        (Mentions ["temporarily unavailable", "service unavailable", "timeout"] message ∧
            ofMessage message = .unavailable ∨
          ¬ Mentions ["temporarily unavailable", "service unavailable", "timeout"] message ∧
            ofMessage message = .returnedError) := by
  have hmessage : ofMessage message =
      if ["rate limit", "too many"].any (Text.contains (Text.lower message)) = true
      then .rateLimited
      else if ["temporarily unavailable", "service unavailable", "timeout"].any
        (Text.contains (Text.lower message)) = true then .unavailable
      else .returnedError := rfl
  rw [hmessage, ← Text.any_contains_iff, ← Text.any_contains_iff]
  split
  · next hrate => exact .inl ⟨hrate, rfl⟩
  · next hrate =>
    split
    · next houtage => exact .inr ⟨hrate, .inl ⟨houtage, rfl⟩⟩
    · next houtage => exact .inr ⟨hrate, .inr ⟨houtage, rfl⟩⟩

theorem isCoded_listed_iff :
    IsCoded [429, -32005, -32000, -32004] error ↔
      IsCoded [429, -32005] error ∨ IsCoded [-32000, -32004] error := by
  show IsCoded ([429, -32005] ++ [-32000, -32004]) error ↔ _
  simp only [IsCoded, List.mem_append, or_and_right, exists_or]

theorem isWorded_listed_iff :
    IsWorded ["rate limit", "too many", "temporarily unavailable", "service unavailable",
        "timeout"] error ↔
      IsWorded ["rate limit", "too many"] error ∨
        IsWorded ["temporarily unavailable", "service unavailable", "timeout"] error := by
  rw [isWorded_iff, isWorded_iff, isWorded_iff]
  exact Text.mentions_append_iff ["rate limit", "too many"] _

/-- A listed code is judged by itself, and where none is listed the message is. -/
theorem ofNodeError_cases (h : Json.Readable depth error) (message : String) :
    IsCoded [429, -32005] error ∧ ¬ IsCoded [-32000, -32004] error ∧
        ofNodeError (codeOf? error) message = .rateLimited ∨
      ¬ IsCoded [429, -32005] error ∧
        (IsCoded [-32000, -32004] error ∧
            ofNodeError (codeOf? error) message = .unavailable ∨
          ¬ IsCoded [-32000, -32004] error ∧
            ofNodeError (codeOf? error) message = ofMessage message) := by
  rw [isCoded_iff h, isCoded_iff h]
  cases codeOf? error with
  | none => simp [ofNodeError]
  | some c =>
    have hnode : ofNodeError (some c) message =
        if [429, -32005].contains c = true then .rateLimited
        else if [-32000, -32004].contains c = true then .unavailable
        else ofMessage message := rfl
    simp only [hnode, List.contains_iff_mem, Option.some.injEq, exists_eq_right']
    split
    · next hrate =>
      have hapart : ∀ c ∈ ([429, -32005] : List Int), c ∉ ([-32000, -32004] : List Int) := by decide
      exact .inl ⟨hrate, hapart c hrate, rfl⟩
    · next hrate =>
      split
      · next houtage => exact .inr ⟨hrate, .inl ⟨houtage, rfl⟩⟩
      · next houtage => exact .inr ⟨hrate, .inr ⟨houtage, rfl⟩⟩

theorem kind_returned_iff (h : Json.Readable depth error) :
    (ofNodeError (codeOf? error) (messageOf error) = .rateLimited ↔ IsRateLimit error) ∧
      (ofNodeError (codeOf? error) (messageOf error) = .unavailable ↔ IsOutage error) := by
  unfold IsRateLimit IsOutage
  rw [isCoded_listed_iff, isWorded_iff, isWorded_iff]
  rcases ofNodeError_cases h (messageOf error) with
    ⟨hrate, houtage, hkind⟩ | ⟨hrate, ⟨houtage, hkind⟩ | ⟨houtage, hkind⟩⟩
  · simp [hrate, houtage, hkind]
  · simp [hrate, houtage, hkind]
  · rcases ofMessage_cases (messageOf error) with
      ⟨hlimit, hword⟩ | ⟨hlimit, ⟨hout, hword⟩ | ⟨hout, hword⟩⟩
    · simp [hrate, houtage, hkind, hlimit, hword]
    · simp [hrate, houtage, hkind, hlimit, hout, hword]
    · simp [hrate, houtage, hkind, hlimit, hout, hword]

theorem passes_iff : Passes error ↔ IsRateLimit error ∨ IsOutage error := by
  unfold Passes IsRateLimit IsOutage
  rw [isWorded_listed_iff, isCoded_listed_iff]
  tauto

end Errors

/-! ## Good replies -/

theorem members_okResult {result : String} {m : String × Json}
    (h : m ∈ Keyed.ofList
      [("jsonrpc", .str "2.0"), ("id", .ofNat 1), ("result", .str result)]) :
    m = ("jsonrpc", .str "2.0") ∨ m = ("id", .ofNat 1) ∨ m = ("result", .str result) := by
  simpa using Keyed.mem_of_mem_ofList h

theorem read_okResult (result : String) :
    Json.read (Reply.okResult result).body =
      .ok (Json.object [("jsonrpc", .str "2.0"), ("id", .ofNat 1), ("result", .str result)]) := by
  refine Json.read_text (.obj (Keyed.sorted_ofList _) fun m hm => ?_) fun hkey => ?_
  · rcases members_okResult hm with rfl | rfl | rfl
    · exact .str _
    · exact Json.readable_ofInt _ 1
    · exact .str _
  · obtain ⟨m, hm, hkey⟩ := Json.mem_keysWithin_obj.mp hkey
    rcases members_okResult hm with rfl | rfl | rfl
    · simp [Json.keysWithin, Json.numberKey] at hkey
    · simp [Json.keysWithin, Json.numberKey, Json.ofNat] at hkey
    · simp [Json.keysWithin, Json.numberKey] at hkey

theorem result_okResult (result : String) : (Reply.okResult result).result = .ok result := by
  unfold Reply.result
  rw [read_okResult]
  show resultOfMembers (Keyed.ofList _) = _
  unfold resultOfMembers returnedError?
  simp only [Keyed.find?_ofList]
  rfl

/-! ## Replies -/

section Replies

variable {r : Reply} {members : List (String × Json)} {error : Json} {kind : FailureKind}
  {s : String} {f : Failure}

theorem ofStatus?_eq_none_iff {status : Nat} : ofStatus? status = none ↔ status = 200 := by
  unfold ofStatus?
  split_ifs <;> simp_all

theorem ofStatus?_eq_rateLimited_iff {status : Nat} :
    ofStatus? status = some .rateLimited ↔ status = 429 := by
  unfold ofStatus?
  split_ifs <;> simp_all

theorem ofStatus?_eq_unavailable_iff {status : Nat} :
    ofStatus? status = some .unavailable ↔ 500 ≤ status := by
  unfold ofStatus?
  split_ifs <;> simp_all

/-- What a reply comes to, with the reason for it. -/
inductive Reply.Verdict (r : Reply) : Except Failure String → Prop
  | status {kind : FailureKind} (told : ofStatus? r.status = some kind) :
      Verdict r (.error (.status r.status kind (excerpt r.body)))
  | notJson {refusal : Json.Refusal} (good : r.status = 200)
      (refused : Json.read r.body = .error refusal) : Verdict r (.error (.notJson refusal))
  | notObject {v : Json} (good : r.status = 200) (body : Json.read r.body = .ok v)
      (no_object : ∀ members, v ≠ .obj members) :
      Verdict r (.error (.notObject (excerpt r.body)))
  | returned {error : Json} (returned : r.Returns error) :
      Verdict r (.error (.node (codeOf? error) (messageOf error)))
  | noResult {members : List (String × Json)} (holds : r.Holds members)
      (clean : HasNoError members) (missing : Keyed.find? "result" members = none) :
      Verdict r (.error .noResult)
  | resultType {members : List (String × Json)} {v : Json} (holds : r.Holds members)
      (clean : HasNoError members) (found : Keyed.find? "result" members = some v)
      (no_text : ∀ s, v ≠ .str s) : Verdict r (.error (.resultType v.typeName))
  | carried {members : List (String × Json)} {s : String} (holds : r.Holds members)
      (clean : HasNoError members) (found : Keyed.find? "result" members = some (.str s)) :
      Verdict r (.ok s)

theorem result_of_status (told : ofStatus? r.status = some kind) :
    r.result = .error (.status r.status kind (excerpt r.body)) := by
  unfold Reply.result
  rw [told]

theorem result_of_not_object {v : Json} (good : r.status = 200) (body : Json.read r.body = .ok v)
    (no_object : ∀ members, v ≠ .obj members) : r.result = .error (.notObject (excerpt r.body)) := by
  unfold Reply.result
  rw [ofStatus?_eq_none_iff.mpr good, body]
  cases v with
  | obj members => exact absurd rfl (no_object members)
  | _ => rfl

theorem result_of_holds (h : r.Holds members) : r.result = resultOfMembers members := by
  unfold Reply.result
  rw [ofStatus?_eq_none_iff.mpr h.status, h.body]

theorem resultOfMembers_of_error (h : Keyed.find? "error" members = some error)
    (hnull : error ≠ .null) :
    resultOfMembers members = .error (.node (codeOf? error) (messageOf error)) := by
  unfold resultOfMembers
  rw [returnedError?_of_error h hnull]

theorem resultOfMembers_of_clean (h : HasNoError members) :
    resultOfMembers members =
      match Keyed.find? "result" members with
      | none => .error .noResult
      | some (.str s) => .ok s
      | some v => .error (.resultType v.typeName) := by
  unfold resultOfMembers
  rewrite [returnedError?_of_hasNoError h]
  rfl

theorem result_of_returns (h : r.Returns error) :
    r.result = .error (.node (codeOf? error) (messageOf error)) := by
  obtain ⟨members, hholds, hfind, hnull⟩ := h
  rw [result_of_holds hholds, resultOfMembers_of_error hfind hnull]

theorem result_of_carried (h : r.Holds members) (hclean : HasNoError members)
    (hfind : Keyed.find? "result" members = some (.str s)) : r.result = .ok s := by
  rw [result_of_holds h, resultOfMembers_of_clean hclean, hfind]

theorem verdict_of_holds (h : r.Holds members) : r.Verdict (resultOfMembers members) := by
  by_cases hclean : HasNoError members
  · rw [resultOfMembers_of_clean hclean]
    split
    · next hfind => exact .noResult h hclean hfind
    · next s hfind => exact .carried h hclean hfind
    · next v hother hfind => exact .resultType h hclean hfind fun s hs => hother s (hs ▸ rfl)
  · obtain ⟨hpresent, hnull⟩ := not_or.mp hclean
    obtain ⟨error, hfind⟩ := Option.ne_none_iff_exists'.mp hpresent
    have hne : error ≠ .null := fun heq => hnull (heq ▸ hfind)
    rw [resultOfMembers_of_error hfind hne]
    exact .returned ⟨members, h, hfind, hne⟩

/-- Every reply comes to what it comes to for a reason. -/
theorem verdict_result (r : Reply) : r.Verdict r.result := by
  cases hstatus : ofStatus? r.status with
  | some kind =>
    rw [result_of_status hstatus]
    exact .status hstatus
  | none =>
    have hgood := ofStatus?_eq_none_iff.mp hstatus
    cases hread : Json.read r.body with
    | error refusal =>
      unfold Reply.result
      rw [hstatus, hread]
      exact .notJson hgood hread
    | ok v =>
      by_cases hobject : ∃ members, v = .obj members
      · obtain ⟨members, rfl⟩ := hobject
        have hholds : r.Holds members := ⟨hgood, hread⟩
        rw [result_of_holds hholds]
        exact verdict_of_holds hholds
      · have hother := not_exists.mp hobject
        rw [result_of_not_object hgood hread hother]
        exact .notObject hgood hread hother

/-- A failure that passes is told by the status or by an error that the body returns. -/
theorem exists_kind_iff (hpasses : kind.isStaleEligible = true) :
    (∃ f, r.result = .error f ∧ f.kind = kind) ↔
      ofStatus? r.status = some kind ∨
        ∃ error, r.Returns error ∧ ofNodeError (codeOf? error) (messageOf error) = kind := by
  constructor
  · rintro ⟨f, hresult, rfl⟩
    have hverdict := verdict_result r
    rw [hresult] at hverdict
    cases hverdict with
    | status told => exact .inl told
    | returned returned => exact .inr ⟨_, returned, rfl⟩
    | notJson | notObject | noResult | resultType => cases hpasses
  · rintro (told | ⟨error, returned, hkind⟩)
    · exact ⟨_, result_of_status told, rfl⟩
    · exact ⟨_, result_of_returns returned, hkind⟩

theorem exists_isStaleEligible_iff {x : Except Failure String} :
    (∃ f, x = .error f ∧ f.isStaleEligible = true) ↔
      (∃ f, x = .error f ∧ f.kind = .rateLimited) ∨ ∃ f, x = .error f ∧ f.kind = .unavailable := by
  simp only [Failure.isStaleEligible, FailureKind.isStaleEligible_iff, and_or_left, exists_or]

theorem Reply.Returns.readable (h : r.Returns error) : ∃ depth, Json.Readable depth error := by
  obtain ⟨members, hholds, hfind, -⟩ := h
  exact (Json.readable_of_read hholds.body).of_find? hfind

end Replies

/-- A reply gives a result exactly when its status is 200 and its body an object without an error
whose member `result` is that text.  It fails in a way that passes exactly when its status is 429 or
500 and more, or an error that it returns is of a kind that passes; a rate limit and an outage are
told apart. -/
theorem replies_judged (r : Reply) :
    (∀ s, r.result = .ok s ↔ ∃ members, r.Holds members ∧ HasNoError members ∧
      Keyed.find? "result" members = some (.str s)) ∧
    ((∃ f, r.result = .error f ∧ f.isStaleEligible = true) ↔
      r.status = 429 ∨ 500 ≤ r.status ∨ ∃ error, r.Returns error ∧ Passes error) ∧
    ((∃ f, r.result = .error f ∧ f.kind = .rateLimited) ↔
      r.status = 429 ∨ ∃ error, r.Returns error ∧ IsRateLimit error) ∧
    ((∃ f, r.result = .error f ∧ f.kind = .unavailable) ↔
      500 ≤ r.status ∨ ∃ error, r.Returns error ∧ IsOutage error) ∧
    ∀ s, (Reply.okResult s).result = .ok s := by
  have hrate : (∃ f, r.result = .error f ∧ f.kind = .rateLimited) ↔
      r.status = 429 ∨ ∃ error, r.Returns error ∧ IsRateLimit error := by
    rw [exists_kind_iff rfl, ofStatus?_eq_rateLimited_iff]
    refine or_congr_right (exists_congr fun error => and_congr_right fun hreturns => ?_)
    obtain ⟨_, hreadable⟩ := hreturns.readable
    exact (kind_returned_iff hreadable).1
  have houtage : (∃ f, r.result = .error f ∧ f.kind = .unavailable) ↔
      500 ≤ r.status ∨ ∃ error, r.Returns error ∧ IsOutage error := by
    rw [exists_kind_iff rfl, ofStatus?_eq_unavailable_iff]
    refine or_congr_right (exists_congr fun error => and_congr_right fun hreturns => ?_)
    obtain ⟨_, hreadable⟩ := hreturns.readable
    exact (kind_returned_iff hreadable).2
  refine ⟨fun s => ⟨fun hresult => ?_, ?_⟩, ?_, hrate, houtage, result_okResult⟩
  · have hverdict := verdict_result r
    rw [hresult] at hverdict
    cases hverdict with
    | carried holds clean found => exact ⟨_, holds, clean, found⟩
  · rintro ⟨members, hholds, hclean, hfind⟩
    exact result_of_carried hholds hclean hfind
  · rw [exists_isStaleEligible_iff, hrate, houtage]
    simp only [passes_iff, and_or_left, exists_or]
    rw [or_or_or_comm, or_assoc]

end Rpc
end RelayDesk
