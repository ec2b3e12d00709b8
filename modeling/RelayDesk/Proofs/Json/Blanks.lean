import RelayDesk.Proofs.Json.RoundTrip

/-!
Blanks between the parts of a text.  They are skipped in front of a value and behind it, so a text
holds what is read from it as soon as nothing but blanks is left.
-/

namespace RelayDesk
namespace Json

theorem Cursor.rest_advance {cur : Cursor} {c : Char} {tail : List Char}
    (h : cur.rest = c :: tail) : cur.advance.rest = tail := by
  unfold advance
  rw [h]

def AllJsonBlank (cs : List Char) : Prop := ∀ c ∈ cs, Cursor.isJsonBlank c = true

/-- A blank does not go on a number. -/
theorem AllJsonBlank.endsNumeral {cs : List Char} (h : AllJsonBlank cs) : EndsNumeral cs := by
  have hblank : ∀ c ∈ cs.head?, c = ' ' ∨ c = '\t' ∨ c = '\n' ∨ c = '\r' := by
    intro c hc
    simpa [Cursor.isJsonBlank, or_assoc] using h c (List.mem_of_head? hc)
  constructor
  · intro c hc
    rcases hblank c hc with rfl | rfl | rfl | rfl <;> decide
  · intro c hc
    rcases hblank c hc with rfl | rfl | rfl | rfl <;> decide

theorem AllJsonBlank.endsNumeral_append {cs rest : List Char} (h : AllJsonBlank cs)
    (hrest : EndsNumeral rest) : EndsNumeral (cs ++ rest) := by
  cases cs with
  | nil => exact hrest
  | cons b cs =>
    have hb : AllJsonBlank [b] := List.forall_mem_singleton.mpr (h b List.mem_cons_self)
    exact hb.endsNumeral

theorem skipBlank_blanks {before : List Char} (hbefore : AllJsonBlank before) (rest : List Char)
    (place : Place) :
    ∃ next, Cursor.skipBlank ⟨before ++ rest, place⟩ = Cursor.skipBlank ⟨rest, next⟩ := by
  induction before generalizing place with
  | nil => exact ⟨place, rfl⟩
  | cons b before ih =>
    obtain ⟨hb, hlater⟩ := List.forall_mem_cons.mp hbefore
    obtain ⟨next, hskip⟩ := ih hlater (place.after b)
    refine ⟨next, ?_⟩
    rw [← hskip]
    simp [Cursor.skipBlank, Cursor.skipBlankFrom, hb]

theorem skipBlank_append {before rest : List Char} (hbefore : AllJsonBlank before)
    (hrest : ∀ c ∈ rest.head?, Cursor.isJsonBlank c = false) (place : Place) :
    ∃ next, Cursor.skipBlank ⟨before ++ rest, place⟩ = ⟨rest, next⟩ := by
  obtain ⟨next, hskip⟩ := skipBlank_blanks hbefore rest place
  refine ⟨next, hskip.trans ?_⟩
  cases rest with
  | nil => rfl
  | cons c tail => exact skipBlank_cons (hrest c rfl) tail next

theorem skipBlank_append_cons {before : List Char} {c : Char} (hbefore : AllJsonBlank before)
    (hc : Cursor.isJsonBlank c = false) (tail : List Char) (place : Place) :
    ∃ next, Cursor.skipBlank ⟨before ++ c :: tail, place⟩ = ⟨c :: tail, next⟩ := by
  refine skipBlank_append hbefore (fun d hd => ?_) place
  cases hd
  exact hc

/-- What is skipped is blank, and no blank is left to skip. -/
theorem exists_skipped (cur : Cursor) :
    ∃ before, AllJsonBlank before ∧ cur.rest = before ++ cur.skipBlank.rest ∧
      ∀ c ∈ cur.skipBlank.rest.head?, Cursor.isJsonBlank c = false := by
  obtain ⟨rest, place⟩ := cur
  induction rest generalizing place with
  | nil => exact ⟨[], nofun, rfl, nofun⟩
  | cons c tail ih =>
    by_cases hblank : Cursor.isJsonBlank c = true
    · have hskip : Cursor.skipBlank ⟨c :: tail, place⟩ =
          Cursor.skipBlank ⟨tail, place.after c⟩ := by
        simp [Cursor.skipBlank, Cursor.skipBlankFrom, hblank]
      obtain ⟨before, hbefore, hrest, hhead⟩ := ih (place.after c)
      rw [hskip]
      refine ⟨c :: before, List.forall_mem_cons.mpr ⟨hblank, hbefore⟩, ?_, hhead⟩
      exact congrArg (c :: ·) hrest
    · rw [skipBlank_cons (by simpa using hblank)]
      refine ⟨[], nofun, rfl, fun d hd => ?_⟩
      obtain rfl : c = d := Option.some.inj hd
      simpa using hblank

theorem skipBlank_skipBlank (cur : Cursor) : cur.skipBlank.skipBlank = cur.skipBlank := by
  obtain ⟨-, -, -, hhead⟩ := exists_skipped cur
  cases hskip : cur.skipBlank with
  | mk rest place =>
    rw [hskip] at hhead
    cases rest with
    | nil => rfl
    | cons c tail => exact skipBlank_cons (hhead c rfl) tail place

theorem readEnd_eq_ok_iff {cur : Cursor} : readEnd cur = .ok () ↔ AllJsonBlank cur.rest := by
  obtain ⟨before, hbefore, hrest, hhead⟩ := exists_skipped cur
  unfold readEnd
  constructor
  · intro h
    dsimp only at h
    split at h
    · next hempty =>
      rw [hrest, List.isEmpty_iff.mp hempty, List.append_nil]
      exact hbefore
    · cases h
  · intro h
    cases hleft : cur.skipBlank.rest with
    | nil => simp [hleft]
    | cons c tail =>
      rw [hleft] at hrest hhead
      have hblank : Cursor.isJsonBlank c = true := h c (by simp [hrest])
      rw [hhead c rfl] at hblank
      cases hblank

theorem readValue_skipBlank (depth : Nat) (cur : Cursor) :
    readValue depth cur.skipBlank = readValue depth cur := by
  cases depth <;> simp only [readValue, skipBlank_skipBlank]

theorem readValue_blanks {before : List Char} (hbefore : AllJsonBlank before) (depth : Nat)
    (rest : List Char) (place : Place) :
    ∃ next, readValue depth ⟨before ++ rest, place⟩ = readValue depth ⟨rest, next⟩ := by
  obtain ⟨next, hskip⟩ := skipBlank_blanks hbefore rest place
  refine ⟨next, ?_⟩
  rw [← readValue_skipBlank, hskip, readValue_skipBlank]

/-- A text holds what is read from it, if nothing but blanks is left. -/
theorem read_eq_ok_iff {t : String} {v : Json} :
    Json.read t = .ok v ↔
      ∃ next, readValue nestingLimit (.start t) = .ok (v, next) ∧ AllJsonBlank next.rest := by
  unfold Json.read
  constructor
  · intro h
    obtain ⟨⟨w, next⟩, hw, h⟩ := bind_eq_ok_iff.mp h
    obtain ⟨_, hend, h⟩ := bind_eq_ok_iff.mp h
    cases h
    exact ⟨next, hw, readEnd_eq_ok_iff.mp hend⟩
  · rintro ⟨next, hw, hblank⟩
    rw [hw, ok_bind]
    simp only [readEnd_eq_ok_iff.mpr hblank, ok_bind]
    rfl

end Json
end RelayDesk
