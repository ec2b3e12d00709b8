import RelayDesk.Proofs.Quote.Provider

/-!
The best tier.  A provider asked for by name leaves its own rows and no others.  Preferences leave
the rows of the first entry that names the provider of any row, and all rows where no entry does, so
they never leave nothing of something.  Entries behind those that name some row do not matter.
-/

namespace RelayDesk
namespace Quote
namespace Constraint

/-- An entry of the preferences names a provider, in whatever case and with blanks around it. -/
def Names (entry provider : String) : Prop := Text.sameLetters entry (Text.trim provider) = true

instance (entry provider : String) : Decidable (Names entry provider) :=
  inferInstanceAs (Decidable (_ = true))

/-- The entry at a position names a provider, and none before it does. -/
structure FirstNames (priority : List String) (provider : String) (p : Nat) : Prop where
  named : ∃ entry, priority[p]? = some entry ∧ Names entry provider
  before : ∀ j < p, ∀ entry, priority[j]? = some entry → ¬ Names entry provider

/-- The rows that have a property: all of them, as often as they are there, in their order. -/
def AreThose {ρ : Type} (kept rows : List ρ) (property : ρ → Prop) : Prop :=
  ∃ test : ρ → Bool, (∀ r, test r = true ↔ property r) ∧ kept = rows.filter test

variable {ρ : Type} [HasProvider ρ]

/-- Some entry names the provider of some row. -/
def NamesSome (priority : List String) (rows : List ρ) : Prop :=
  ∃ r ∈ rows, ∃ entry ∈ priority, Names entry (HasProvider.provider r)

/-- What is kept of some rows under a constraint. -/
structure KeepsBestTier (c : Constraint) (rows kept : List ρ) : Prop where
  in_order : kept.Sublist rows
  asked : ∀ name, c.exact = some name → AreThose kept rows fun r =>
    Text.sameLetters (Text.trim (HasProvider.provider r)) (Text.trim name) = true
  tier : c.exact = .none → NamesSome c.priority rows → ∃ best,
    AreThose kept rows (fun r => FirstNames c.priority (HasProvider.provider r) best) ∧
      ∀ r ∈ rows, ∀ j < best, ∀ entry, c.priority[j]? = some entry →
        ¬ Names entry (HasProvider.provider r)
  unnamed : c.exact = .none → ¬ NamesSome c.priority rows → kept = rows
  not_emptied : c.exact = .none → rows ≠ [] → kept ≠ []
  settled : NamesSome c.priority rows → ∀ more,
    keep { c with priority := c.priority ++ more } rows = kept

section Ranks

variable {priority more : List String} {provider : String} {p : Nat} {rows : List ρ}

theorem rank?_eq_some_iff : rank? priority provider = some p ↔ FirstNames priority provider p := by
  unfold rank?
  rw [List.findIdx?_eq_some_iff_getElem]
  constructor
  · rintro ⟨hp, hnamed, hbefore⟩
    refine ⟨⟨_, List.getElem?_eq_getElem hp, hnamed⟩, fun j hj entry hentry => ?_⟩
    have hlt : j < priority.length := Nat.lt_trans hj hp
    rw [List.getElem?_eq_getElem hlt] at hentry
    exact Option.some.inj hentry ▸ hbefore j hj
  · rintro ⟨⟨entry, hentry, hnamed⟩, hbefore⟩
    obtain ⟨hp, rfl⟩ := List.getElem?_eq_some_iff.mp hentry
    exact ⟨hp, hnamed, fun j hj => hbefore j hj _ (List.getElem?_eq_getElem (Nat.lt_trans hj hp))⟩

theorem rank?_eq_none_iff :
    rank? priority provider = .none ↔ ∀ entry ∈ priority, ¬ Names entry provider := by
  unfold rank? Names
  simp only [List.findIdx?_eq_none_iff, Bool.not_eq_true]

theorem FirstNames.lt_length (h : FirstNames priority provider p) : p < priority.length := by
  obtain ⟨entry, hentry, -⟩ := h.named
  exact (List.getElem?_eq_some_iff.mp hentry).1

theorem firstNames_singleton_iff {entry : String} :
    FirstNames [entry] provider 0 ↔ Names entry provider := by
  constructor
  · rintro ⟨⟨_, hentry, hname⟩, -⟩
    obtain rfl := Option.some.inj hentry
    exact hname
  · intro h
    exact ⟨⟨entry, rfl, h⟩, fun j hj => absurd hj (Nat.not_lt_zero j)⟩

/-- Whether an entry is the first to name a provider does not depend on what comes behind it. -/
theorem firstNames_append_iff (hp : p < priority.length) :
    FirstNames (priority ++ more) provider p ↔ FirstNames priority provider p := by
  have hentry : ∀ j ≤ p, (priority ++ more)[j]? = priority[j]? := fun j hj =>
    List.getElem?_append_left (Nat.lt_of_le_of_lt hj hp)
  constructor
  · rintro ⟨hnamed, hbefore⟩
    rw [hentry p (Nat.le_refl p)] at hnamed
    exact ⟨hnamed, fun j hj => hentry j (Nat.le_of_lt hj) ▸ hbefore j hj⟩
  · rintro ⟨hnamed, hbefore⟩
    rw [← hentry p (Nat.le_refl p)] at hnamed
    exact ⟨hnamed, fun j hj => (hentry j (Nat.le_of_lt hj)).symm ▸ hbefore j hj⟩

theorem bestRank?_eq_none_iff_unnamed :
    bestRank? priority rows = .none ↔ ¬ NamesSome priority rows := by
  rw [bestRank?_eq_none_iff]
  simp only [rank?_eq_none_iff, NamesSome, not_exists, not_and]

theorem namesSome_iff : NamesSome priority rows ↔ ∃ best, bestRank? priority rows = some best := by
  rw [← Option.ne_none_iff_exists', ne_eq, bestRank?_eq_none_iff_unnamed, Classical.not_not]

/-- No provider is named by an entry before the best position. -/
theorem not_names_of_lt_best {best j : Nat} {entry : String} {r : ρ}
    (h : bestRank? priority rows = some best) (hr : r ∈ rows) (hj : j < best)
    (hentry : priority[j]? = some entry) : ¬ Names entry (HasProvider.provider r) := by
  intro hnames
  cases hrank : rank? priority (HasProvider.provider r) with
  | none => exact rank?_eq_none_iff.mp hrank entry (List.mem_of_getElem? hentry) hnames
  | some n =>
    have hbest : best ≤ n := (bestRank?_eq_some_iff.mp h).2 r hr n hrank
    exact (rank?_eq_some_iff.mp hrank).before j (Nat.lt_of_lt_of_le hj hbest) entry hentry hnames

theorem bestRank?_lt_length {best : Nat} (h : bestRank? priority rows = some best) :
    best < priority.length := by
  obtain ⟨⟨w, -, hbest⟩, -⟩ := bestRank?_eq_some_iff.mp h
  exact (rank?_eq_some_iff.mp hbest).lt_length

/-- Entries added behind have a worse position than those that were there. -/
theorem bestRank?_append {best : Nat} (h : bestRank? priority rows = some best)
    (more : List String) : bestRank? (priority ++ more) rows = some best := by
  have hlt := bestRank?_lt_length h
  obtain ⟨⟨w, hw, hbest⟩, hleast⟩ := bestRank?_eq_some_iff.mp h
  refine bestRank?_eq_some_iff.mpr ⟨⟨w, hw, ?_⟩, fun r hr n hn => ?_⟩
  · rw [rank?_eq_some_iff] at hbest ⊢
    exact (firstNames_append_iff hlt).mpr hbest
  · by_cases hshort : n < priority.length
    · rw [rank?_eq_some_iff, firstNames_append_iff hshort, ← rank?_eq_some_iff] at hn
      exact hleast r hr n hn
    · omega

end Ranks

section Keep

variable {c : Constraint} {rows : List ρ} {best : Nat}

theorem keep_of_best (h : c.exact = .none) (hbest : bestRank? c.priority rows = some best) :
    c.keep rows =
      rows.filter fun r => rank? c.priority (HasProvider.provider r) == some best := by
  unfold keep
  rw [h, hbest]

theorem keep_of_unnamed (h : c.exact = .none) (hnone : ¬ NamesSome c.priority rows) :
    c.keep rows = rows := by
  unfold keep
  rw [h, bestRank?_eq_none_iff_unnamed.mpr hnone]

/-- A single preference keeps the rows that it names, or all rows if it names none. -/
theorem mem_keep_single_iff {entry : String} {row : ρ} (h : c.exact = .none)
    (hentry : c.priority = [entry]) (hrow : row ∈ rows) :
    row ∈ c.keep rows ↔ Names entry (HasProvider.provider row) ∨
      ∀ r ∈ rows, ¬ Names entry (HasProvider.provider r) := by
  have hnamed : NamesSome c.priority rows ↔
      ∃ r ∈ rows, Names entry (HasProvider.provider r) := by
    simp only [NamesSome, hentry, List.mem_singleton, exists_eq_left]
  by_cases hsome : NamesSome c.priority rows
  · obtain ⟨best, hbest⟩ := namesSome_iff.mp hsome
    have hzero : best = 0 := by
      have hlt := bestRank?_lt_length hbest
      rw [hentry] at hlt
      exact Nat.lt_one_iff.mp hlt
    have hnot : ¬ ∀ r ∈ rows, ¬ Names entry (HasProvider.provider r) := by
      obtain ⟨r, hr, hname⟩ := hnamed.mp hsome
      exact fun hnone => hnone r hr hname
    rw [keep_of_best h hbest, List.mem_filter, beq_iff_eq, rank?_eq_some_iff, hentry, hzero,
      firstNames_singleton_iff, or_iff_left hnot, and_iff_right hrow]
  · rw [keep_of_unnamed h hsome]
    rw [hnamed, not_exists] at hsome
    exact iff_of_true hrow (.inr fun r hr hname => hsome r ⟨hr, hname⟩)

theorem keep_ne_nil (h : c.exact = .none) (hrows : rows ≠ []) : c.keep rows ≠ [] := by
  by_cases hnamed : NamesSome c.priority rows
  · obtain ⟨best, hbest⟩ := namesSome_iff.mp hnamed
    obtain ⟨⟨w, hw, hrank⟩, -⟩ := bestRank?_eq_some_iff.mp hbest
    rw [keep_of_best h hbest]
    exact List.ne_nil_of_mem (List.mem_filter.mpr ⟨hw, beq_iff_eq.mpr hrank⟩)
  · rw [keep_of_unnamed h hnamed]
    exact hrows

theorem keep_append (hnamed : NamesSome c.priority rows) (more : List String) :
    keep { c with priority := c.priority ++ more } rows = c.keep rows := by
  obtain ⟨exact, priority⟩ := c
  cases exact with
  | some name => exact (keep_of_exact rfl rows).trans (keep_of_exact rfl rows).symm
  | none =>
    obtain ⟨best, hbest⟩ := namesSome_iff.mp hnamed
    rw [keep_of_best rfl hbest, keep_of_best rfl (bestRank?_append hbest more)]
    refine List.filter_congr fun r _ => ?_
    rw [Bool.eq_iff_iff, beq_iff_eq, beq_iff_eq, rank?_eq_some_iff, rank?_eq_some_iff,
      firstNames_append_iff (bestRank?_lt_length hbest)]

end Keep

/-- Under every constraint the rows of the best tier are kept. -/
theorem keeps_best_tier (c : Constraint) (rows : List ρ) : KeepsBestTier c rows (c.keep rows) where
  in_order := by
    rw [keep_eq_filter]
    exact List.filter_sublist
  asked name h := ⟨_, fun _ => Iff.rfl, keep_of_exact h rows⟩
  tier h hnamed := by
    obtain ⟨best, hbest⟩ := namesSome_iff.mp hnamed
    refine ⟨best, ⟨_, fun r => ?_, keep_of_best h hbest⟩,
      fun r hr j hj entry hentry => not_names_of_lt_best hbest hr hj hentry⟩
    rw [beq_iff_eq, rank?_eq_some_iff]
  unnamed h hnone := keep_of_unnamed h hnone
  not_emptied h hrows := keep_ne_nil h hrows
  settled hnamed more := keep_append hnamed more

end Constraint
end Quote
end RelayDesk
