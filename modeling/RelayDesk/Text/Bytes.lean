/-!
Lengths of texts in bytes of UTF-8, and their beginnings within a limit in bytes.  A text can be cut
in front of an offset only where no character is cut, so the limit is taken back byte by byte to the
last boundary of characters.  The beginning of the text is one, so there always is a cut.
-/

namespace RelayDesk
namespace Text

/-- The number of bytes that the characters take. -/
def byteLength (cs : List Char) : Nat :=
  cs.foldl (fun n c => n + c.utf8Size) 0

/-! ## Cuts -/

/-- Whether a character begins at an offset in bytes, or the text ends there. -/
def isBoundary (s : String) (offset : Nat) : Bool :=
  (String.Pos.Raw.mk offset).isValid s

/-- The boundary that an offset comes to when it is taken back byte by byte.  None is found by an
offset that would have to be taken back past the beginning. -/
def lastBoundary? (s : String) : Nat → Option Nat
  | 0 => if isBoundary s 0 then some 0 else none
  | n + 1 => if isBoundary s (n + 1) then some (n + 1) else lastBoundary? s n

/-- The text in front of an offset, which has to be a boundary. -/
def front? (s : String) (offset : Nat) : Option String :=
  if h : isBoundary s offset then
    some (s.sliceTo (s.pos ⟨offset⟩ (String.Pos.Raw.isValid_eq_true_iff.mp h))).copy
  else none

/-- A text that fits into the limit stays whole. -/
def cut? (limit : Nat) (s : String) : Option String :=
  if s.utf8ByteSize ≤ limit then some s else (lastBoundary? s limit).bind (front? s)

/-- A beginning of a text within the limit that no other one is longer than.  It is a text itself,
so that it ends with a whole character. -/
structure IsLongestStart (limit : Nat) (s start : String) : Prop where
  starts : ∃ rest, s = start ++ rest
  fits : start.utf8ByteSize ≤ limit
  longest : ∀ other rest, s = other ++ rest → other.utf8ByteSize ≤ limit →
    other.utf8ByteSize ≤ start.utf8ByteSize

section

variable {offset : Nat} {s : String}

theorem isBoundary_zero (s : String) : isBoundary s 0 = true :=
  String.Pos.Raw.isValid_eq_true_iff.mpr String.Pos.Raw.isValid_zero

theorem isBoundary_of_append {start rest : String} (h : s = start ++ rest) :
    isBoundary s start.utf8ByteSize = true :=
  String.Pos.Raw.isValid_eq_true_iff.mpr
    (String.Pos.Raw.isValid_iff_exists_append.mpr ⟨start, rest, h, rfl⟩)

/-- Taking an offset back passes no boundary, and it stops at the beginning at the latest. -/
theorem exists_lastBoundary? (s : String) (limit : Nat) :
    ∃ n, lastBoundary? s limit = some n ∧ isBoundary s n = true ∧ n ≤ limit ∧
      ∀ m, isBoundary s m = true → m ≤ limit → m ≤ n := by
  induction limit with
  | zero =>
    rw [lastBoundary?, if_pos (isBoundary_zero s)]
    exact ⟨0, rfl, isBoundary_zero s, Nat.le_refl 0, fun m _ hm => hm⟩
  | succ limit ih =>
    by_cases hend : isBoundary s (limit + 1) = true
    · rw [lastBoundary?, if_pos hend]
      exact ⟨limit + 1, rfl, hend, Nat.le_refl _, fun m _ hm => hm⟩
    · rw [lastBoundary?, if_neg hend]
      obtain ⟨n, hn, hboundary, hle, hlast⟩ := ih
      refine ⟨n, hn, hboundary, Nat.le_succ_of_le hle, fun m hm hmle => hlast m hm ?_⟩
      have hne : m ≠ limit + 1 := fun heq => hend (heq ▸ hm)
      omega

theorem exists_front? (h : isBoundary s offset = true) :
    ∃ start rest, front? s offset = some start ∧ s = start ++ rest ∧
      start.utf8ByteSize = offset := by
  let p := s.pos ⟨offset⟩ (String.Pos.Raw.isValid_eq_true_iff.mp h)
  have hoffset : offset = (s.sliceTo p).copy.utf8ByteSize :=
    congrArg String.Pos.Raw.byteIdx p.splits.offset_eq_rawEndPos
  rw [front?, dif_pos h]
  exact ⟨_, _, rfl, p.splits.eq_append, hoffset.symm⟩

/-- There always is a cut, and it leaves as much as the limit allows. -/
theorem exists_cut? (limit : Nat) (s : String) :
    ∃ start, cut? limit s = some start ∧ IsLongestStart limit s start := by
  by_cases hfits : s.utf8ByteSize ≤ limit
  · have hwhole : IsLongestStart limit s s :=
      { starts := ⟨"", String.append_empty.symm⟩
        fits := hfits
        longest := fun other rest hs _ => by
          rw [hs, String.utf8ByteSize_append]
          exact Nat.le_add_right _ _ }
    rw [cut?, if_pos hfits]
    exact ⟨s, rfl, hwhole⟩
  · obtain ⟨n, hscan, hboundary, hle, hlast⟩ := exists_lastBoundary? s limit
    obtain ⟨start, rest, hfront, happend, hsize⟩ := exists_front? hboundary
    have hcut : IsLongestStart limit s start :=
      { starts := ⟨rest, happend⟩
        fits := hsize ▸ hle
        longest := fun other rest hs hother =>
          hsize ▸ hlast other.utf8ByteSize (isBoundary_of_append hs) hother }
    rw [cut?, if_neg hfits, hscan]
    exact ⟨start, hfront, hcut⟩

theorem isSome_cut? (limit : Nat) (s : String) : (cut? limit s).isSome = true := by
  obtain ⟨start, hcut, -⟩ := exists_cut? limit s
  rw [hcut]
  rfl

/-- The longest beginning of a text within a limit in bytes. -/
def cut (limit : Nat) (s : String) : String := (cut? limit s).get (isSome_cut? limit s)

theorem cut?_eq_some_cut (limit : Nat) (s : String) : cut? limit s = some (cut limit s) :=
  (Option.some_get _).symm

theorem isLongestStart_cut (limit : Nat) (s : String) : IsLongestStart limit s (cut limit s) := by
  obtain ⟨start, hcut, hstart⟩ := exists_cut? limit s
  rw [cut?_eq_some_cut] at hcut
  rwa [Option.some.inj hcut]

end

end Text
end RelayDesk
