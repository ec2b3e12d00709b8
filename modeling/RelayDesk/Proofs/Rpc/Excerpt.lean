import RelayDesk.Proofs.Rpc.Judgement

/-!
What a message shows of a body: the longest beginning within the limit.  Only the character behind
it keeps it below the limit, and a character takes four bytes at most.  There is such a beginning of
every body, so that every reply is judged.
-/

namespace RelayDesk

namespace Text

variable {limit : Nat} {s start : String}

/-- Two longest beginnings take equally many bytes of one text. -/
theorem IsLongestStart.unique {other : String} (h : IsLongestStart limit s start)
    (hother : IsLongestStart limit s other) : start = other := by
  obtain ⟨rest, hs⟩ := h.starts
  obtain ⟨later, hlater⟩ := hother.starts
  have hsize : start.utf8ByteSize = other.utf8ByteSize :=
    Nat.le_antisymm (hother.longest start rest hs h.fits) (h.longest other later hlater hother.fits)
  have hbytes := congrArg String.toByteArray (hs.symm.trans hlater)
  rw [String.toByteArray_append, String.toByteArray_append] at hbytes
  exact String.toByteArray_inj.mp (ByteArray.append_inj_left hbytes hsize)

theorem isLongestStart_iff : IsLongestStart limit s start ↔ cut? limit s = some start := by
  have hcut := isLongestStart_cut limit s
  rw [cut?_eq_some_cut, Option.some_inj]
  constructor
  · exact hcut.unique
  · rintro rfl
    exact hcut

theorem IsLongestStart.eq_iff (h : IsLongestStart limit s start) :
    start = s ↔ s.utf8ByteSize ≤ limit := by
  constructor
  · rintro rfl
    exact h.fits
  · intro hfits
    have hcut := isLongestStart_iff.mp h
    rw [cut?, if_pos hfits] at hcut
    exact (Option.some.inj hcut).symm

/-- Where something is left out, the limit ends inside the next character. -/
theorem IsLongestStart.limit_lt (h : IsLongestStart limit s start) (hne : start ≠ s) :
    limit < start.utf8ByteSize + 4 := by
  obtain ⟨rest, hs⟩ := h.starts
  cases hchars : rest.toList with
  | nil =>
    rw [String.toList_eq_nil_iff.mp hchars, String.append_empty] at hs
    exact absurd hs.symm hne
  | cons c later =>
    have hrest : rest = String.singleton c ++ String.ofList later := by
      rw [← String.ofList_cons, ← hchars, String.ofList_toList]
    have hnext : s = (start ++ String.singleton c) ++ String.ofList later := by
      rw [hs, hrest, String.append_assoc]
    have hsize : (start ++ String.singleton c).utf8ByteSize = start.utf8ByteSize + c.utf8Size := by
      rw [String.utf8ByteSize_append, String.utf8ByteSize_singleton]
    have hlonger := h.longest _ _ hnext
    have hpos := c.utf8Size_pos
    have hfour := c.utf8Size_le_four
    omega

end Text

namespace Rpc

/-- Of every body there is a cut to show: the one longest beginning of the trimmed body in 200 bytes,
which is all of it when it fits and takes 197 bytes or more when it does not.  So a reply with a
status other than 200, and one whose body is not an object, is given its failure, with that
beginning in it. -/
theorem excerpts_longest (body : String) :
    ∃ shown, Text.cut? 200 (Text.trim body) = some shown ∧ excerpt body = shown ∧
      (∀ start, Text.IsLongestStart 200 (Text.trim body) start ↔ start = shown) ∧
      (shown = Text.trim body ↔ (Text.trim body).utf8ByteSize ≤ 200) ∧
      (shown = Text.trim body ∨ 197 ≤ shown.utf8ByteSize) ∧
      (∀ status, status ≠ 200 → ∃ kind, FailureKind.ofStatus? status = some kind ∧
        Reply.result { status, body } = .error (.status status kind shown)) ∧
      ∀ v, Json.read body = .ok v → (∀ members, v ≠ .obj members) →
        Reply.result { status := 200, body } = .error (.notObject shown) := by
  have hcut : Text.cut? 200 (Text.trim body) = some (excerpt body) :=
    Text.cut?_eq_some_cut 200 (Text.trim body)
  have hlongest : Text.IsLongestStart 200 (Text.trim body) (excerpt body) :=
    Text.isLongestStart_iff.mpr hcut
  refine ⟨excerpt body, hcut, rfl, fun start => ?_, hlongest.eq_iff, ?_, fun status hstatus => ?_,
    fun v hread hother => ?_⟩
  · rw [Text.isLongestStart_iff, hcut, Option.some_inj, eq_comm]
  · by_cases hwhole : excerpt body = Text.trim body
    · exact .inl hwhole
    · have hgap := hlongest.limit_lt hwhole
      exact .inr (by omega)
  · obtain ⟨kind, told⟩ := Option.ne_none_iff_exists'.mp (mt ofStatus?_eq_none_iff.mp hstatus)
    exact ⟨kind, told, result_of_status told⟩
  · exact result_of_not_object rfl hread hother

/-- A beginning of 199 bytes: a quotation mark and letters. -/
def openedChars : List Char := '"' :: List.replicate 198 'a'

/-- A JSON text between blanks.  The euro sign in it takes the bytes from 199 to 201. -/
def euroBody : String := String.ofList (' ' :: openedChars ++ ['€', '"', '\n'])

/-- The euro sign across the limit is left out, and both replies with that body are judged. -/
theorem sign_across_limit_left_out :
    (503 ≠ 200 ∧ ∃ s, Json.read euroBody = .ok (.str s)) ∧
      Text.cut? 200 (Text.trim euroBody) = some (String.ofList openedChars) ∧
      Reply.result { status := 503, body := euroBody } =
        .error (.status 503 .unavailable (String.ofList openedChars)) ∧
      Reply.result { status := 200, body := euroBody } =
        .error (.notObject (String.ofList openedChars)) := by
  have hread : Json.read euroBody =
      .ok (.str (String.ofList (List.replicate 198 'a' ++ ['€']))) := by
    unfold Json.read Json.Cursor.start euroBody
    rw [String.toList_ofList]
    decide +kernel
  have htrim : Text.trim euroBody = String.ofList openedChars ++ "€\"" := by
    unfold Text.trim euroBody
    rw [String.toList_ofList]
    decide +kernel
  have hinside : Text.isBoundary (Text.trim euroBody) 200 = false := by
    rw [htrim]
    decide +kernel
  have hsize : (String.ofList openedChars).utf8ByteSize = 199 := by decide +kernel
  have hopened : Text.IsLongestStart 200 (Text.trim euroBody) (String.ofList openedChars) :=
    { starts := ⟨_, htrim⟩
      fits := by omega
      longest := fun other rest hs hfits => by
        have hne : other.utf8ByteSize ≠ 200 := fun heq => by
          have hend := Text.isBoundary_of_append hs
          rw [heq, hinside] at hend
          cases hend
        omega }
  obtain ⟨shown, hcut, -, hlongest, -, -, hstatus, hother⟩ := excerpts_longest euroBody
  obtain rfl := (hlongest _).mp hopened
  obtain ⟨kind, told, hresult⟩ := hstatus 503 (by decide)
  obtain rfl : .unavailable = kind := Option.some.inj told
  exact ⟨⟨by decide, _, hread⟩, hcut, hresult, hother _ hread fun _ heq => by cases heq⟩

end Rpc
end RelayDesk
