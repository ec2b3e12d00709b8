import RelayDesk.Quote.Provider

/-!
The rows that a constraint keeps.  They are those that pass one test, and the test depends on the
other rows only through the best position that any of them has.  Rows that are dropped or moved
leave the test as it is, as long as one row that was kept is still there.
-/

namespace RelayDesk
namespace Quote
namespace Constraint

/-- Does the constraint leave a provider, where `best` is the best position of the rows? -/
def allows (c : Constraint) (best : Option Nat) (provider : String) : Bool :=
  match c.exact, best with
  | some name, _ => Text.sameLetters (Text.trim provider) (Text.trim name)
  | .none, some best => rank? c.priority provider == some best
  | .none, .none => true

section Rows

variable {ρ : Type} [HasProvider ρ] {c : Constraint} {priority : List String}
  {rows rows' : List ρ}

theorem bestRank?_eq_none_iff :
    bestRank? priority rows = .none ↔
      ∀ r ∈ rows, rank? priority (HasProvider.provider r) = .none := by
  unfold bestRank?
  rw [List.min?_eq_none_iff, List.filterMap_eq_nil_iff]

theorem bestRank?_eq_some_iff {best : Nat} :
    bestRank? priority rows = some best ↔
      (∃ r ∈ rows, rank? priority (HasProvider.provider r) = some best) ∧
        ∀ r ∈ rows, ∀ n, rank? priority (HasProvider.provider r) = some n → best ≤ n := by
  unfold bestRank?
  rw [List.min?_eq_some_iff]
  simp only [List.mem_filterMap]
  refine and_congr_right fun _ => ⟨fun h r hr n hn => h n ⟨r, hr, hn⟩, ?_⟩
  rintro h n ⟨r, hr, hn⟩
  exact h r hr n hn

theorem keep_of_exact {name : String} (h : c.exact = some name) (rows : List ρ) :
    c.keep rows = rows.filter fun r =>
      Text.sameLetters (Text.trim (HasProvider.provider r)) (Text.trim name) := by
  unfold keep
  rw [h]

theorem mem_keep_iff_of_exact {name : String} {r : ρ} (h : c.exact = some name) :
    r ∈ c.keep rows ↔ r ∈ rows ∧ Text.asciiLower (Text.trim (HasProvider.provider r)) =
      Text.asciiLower (Text.trim name) := by
  rw [keep_of_exact h, List.mem_filter, Text.sameLetters, beq_iff_eq]

theorem keep_eq_filter (c : Constraint) (rows : List ρ) :
    c.keep rows =
      rows.filter fun r => c.allows (bestRank? c.priority rows) (HasProvider.provider r) := by
  unfold keep allows
  cases c.exact with
  | some name => rfl
  | none =>
    cases bestRank? c.priority rows with
    | some best => rfl
    | none => exact (List.filter_eq_self.mpr fun _ _ => rfl).symm

theorem bestRank?_of_subset (hsub : rows' ⊆ rows) {w : ρ} (hw : w ∈ rows')
    (hbest : ∀ best, bestRank? priority rows = some best →
      rank? priority (HasProvider.provider w) = some best) :
    bestRank? priority rows' = bestRank? priority rows := by
  cases hrank : bestRank? priority rows with
  | none => exact bestRank?_eq_none_iff.mpr fun r hr => bestRank?_eq_none_iff.mp hrank r (hsub hr)
  | some best =>
    exact bestRank?_eq_some_iff.mpr ⟨⟨w, hw, hbest best hrank⟩,
      fun r hr => (bestRank?_eq_some_iff.mp hrank).2 r (hsub hr)⟩

/-- Some of the rows, one that was kept among them, are kept by the test of them all. -/
theorem keep_of_subset (hsub : rows' ⊆ rows) {w : ρ} (hw : w ∈ rows') (hkept : w ∈ c.keep rows) :
    c.keep rows' =
      rows'.filter fun r => c.allows (bestRank? c.priority rows) (HasProvider.provider r) := by
  rw [keep_eq_filter, List.mem_filter] at hkept
  rw [keep_eq_filter]
  cases hexact : c.exact with
  | some name =>
    unfold allows
    rw [hexact]
  | none =>
    rw [bestRank?_of_subset hsub hw fun best hbest => ?_]
    have hallows := hkept.2
    rw [hbest] at hallows
    unfold allows at hallows
    rw [hexact] at hallows
    exact eq_of_beq hallows

theorem mem_of_mem_keep {w : ρ} (h : w ∈ c.keep rows) : w ∈ rows := by
  rw [keep_eq_filter] at h
  exact (List.mem_filter.mp h).1

/-- Around a row that is kept and usable, the kept and usable rows are those that pass one test. -/
theorem exists_test {isUsable : ρ → Bool} {w : ρ} (h : w ∈ (c.keep rows).filter isUsable) :
    ∃ test : ρ → Bool, test w = true ∧ ∀ rows', rows' ⊆ rows → w ∈ rows' →
      (c.keep rows').filter isUsable = rows'.filter test := by
  obtain ⟨hkept, husable⟩ := List.mem_filter.mp h
  refine ⟨fun r => isUsable r && c.allows (bestRank? c.priority rows) (HasProvider.provider r),
    ?_, fun rows' hsub hw => ?_⟩
  · rw [keep_eq_filter] at hkept
    exact Bool.and_eq_true_iff.mpr ⟨husable, (List.mem_filter.mp hkept).2⟩
  · rw [keep_of_subset hsub hw hkept, List.filter_filter]

end Rows

end Constraint
end Quote
end RelayDesk
