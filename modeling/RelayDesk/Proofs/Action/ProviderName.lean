import RelayDesk.Proofs.Action.Accessors
import RelayDesk.Proofs.Action.SwapAmount
import RelayDesk.Proofs.Quote.Tier

/-!
Rows named as they spell themselves.  Params are folded into lowercase with all of Unicode, and the
names of rows are compared with what comes of it by the letters of ASCII.  So a name that is given
exactly as a row spells it finds the row when its capitals are letters from `A` to `Z`, and not
otherwise: `É` is `é` in the request, which is not the letter of the row.
-/

namespace RelayDesk
namespace Action

open Quote (Constraint HasProvider)
open Text (AsciiCapitals)

variable {ρ : Type} [HasProvider ρ]

/-- Whether a constraint from params keeps a row whose provider they spell as the row does. -/
structure KeepsAsSpelt (p : Params) (c : Constraint) (rows : List ρ) (row : ρ) : Prop where
  exact : p.find? "provider" = some (.str (HasProvider.provider row)) →
    (row ∈ c.keep rows ↔ AsciiCapitals (Text.trim (HasProvider.provider row)))
  /-- A preference that names no row leaves them all. -/
  preferred : (∀ v, ¬ p.Present IsBlankText ["provider"] v) →
    (∃ v, p.find? "providers" = some v ∧ Lists [HasProvider.provider row] v) →
      (row ∈ c.keep rows ↔ AsciiCapitals (Text.trim (HasProvider.provider row)) ∨
        ∀ r ∈ rows, ¬ Constraint.Names (Text.fold (HasProvider.provider row))
          (HasProvider.provider r))

section Constraints

variable {p : Params} {c : Constraint} {name : String}

theorem constraintOfParams_eq_ok_iff : constraintOfParams p = .ok c ↔
    ∃ exact priority, p.text? ["provider"] = .ok exact ∧
      p.list? ["providers", "providerPriority"] = .ok priority ∧
        c = { exact := exact.map Text.lower, priority := priority.getD [] } := by
  unfold constraintOfParams
  constructor
  · intro h
    obtain ⟨exact, hexact, h⟩ := bind_eq_ok_iff.mp h
    obtain ⟨priority, hpriority, h⟩ := bind_eq_ok_iff.mp h
    exact ⟨exact, priority, hexact, hpriority, (Except.ok.inj h).symm⟩
  · rintro ⟨exact, priority, hexact, hpriority, rfl⟩
    rw [hexact, ok_bind, hpriority, ok_bind]
    rfl

theorem text?_of_find? {field : String} {text? : Option String}
    (hfind : p.find? field = some (.str name)) (hname : Text.isAllBlank name = false)
    (h : p.text? [field] = .ok text?) : text? = some (Text.trim name) := by
  have hpresent : p.Present IsBlankText [field] (.str name) := by
    refine present_singleton_iff.mpr ⟨hfind, ?_⟩
    rintro ⟨s, hs, hblank⟩
    obtain rfl := Json.str.inj hs
    rw [hname] at hblank
    cases hblank
  exact ((takesAgreeing_of_sees sees_text views_text).parse_of_present hpresent h).2.symm

theorem list?_of_find? {field : String} {fields names : List String} {v : Json}
    {list? : Option (List String)} (hfield : field ∈ fields) (hfind : p.find? field = some v)
    (hlists : Lists names v) (h : p.list? fields = .ok list?) :
    list?.getD [] = Constraint.preferences names := by
  have hpresent : p.Present NeverAbsent fields v :=
    present_iff_exists.mpr ⟨field, hfield, present_singleton_iff.mpr ⟨hfind, not_false⟩⟩
  unfold Params.list? at h
  obtain ⟨value?, hvalue, h⟩ := bind_eq_ok_iff.mp h
  have hv := ((takesAgreeing_of_sees sees_value (views_of_parse some)).parse_of_present hpresent
    hvalue).2
  rw [← hv] at h
  obtain ⟨entries, hentries, h⟩ := bind_eq_ok_iff.mp h
  have hnames := namesOf?_of_lists (fields.headD "") hlists
  unfold namesOf? at hnames
  rw [hentries] at hnames
  have hpreferences : Constraint.preferences entries = Constraint.preferences names :=
    Option.some.inj hnames
  rw [← hpreferences, ← Except.ok.inj h]
  unfold Constraint.preferences
  by_cases hempty : (entries.map Text.fold).filter (fun s => !s.isEmpty) = []
  · simp [hempty]
  · simp [hempty]

theorem preferences_single (h : Text.isAllBlank name = false) :
    Constraint.preferences [name] = [Text.fold name] := by
  have hne : Text.fold name ≠ "" := by
    rw [Ne, Text.fold_eq_empty_iff, h]
    exact Bool.false_ne_true
  simp [Constraint.preferences, hne]

theorem names_fold_iff : Constraint.Names (Text.fold name) name ↔ AsciiCapitals (Text.trim name) :=
  Text.sameLetters_lower_iff

variable {rows : List ρ} {row : ρ}

theorem mem_keep_fold_iff (h : c.exact = some (Text.fold (HasProvider.provider row)))
    (hrow : row ∈ rows) :
    row ∈ c.keep rows ↔ AsciiCapitals (Text.trim (HasProvider.provider row)) := by
  rw [Constraint.mem_keep_iff_of_exact h, and_iff_right hrow, Text.trim_fold, eq_comm,
    ← Text.sameLetters_lower_iff, Text.sameLetters, beq_iff_eq]
  rfl

theorem keepsAsSpelt (h : constraintOfParams p = .ok c) (hrow : row ∈ rows)
    (hname : Text.isAllBlank (HasProvider.provider row) = false) : KeepsAsSpelt p c rows row := by
  obtain ⟨exact, priority, hexact, hpriority, rfl⟩ := constraintOfParams_eq_ok_iff.mp h
  constructor
  · intro hfind
    obtain rfl := text?_of_find? hfind hname hexact
    exact mem_keep_fold_iff rfl hrow
  · rintro habsent ⟨v, hfind, hlists⟩
    have hnone := ((takesAgreeing_of_sees sees_text views_text).none_iff p ["provider"]).mpr habsent
    obtain rfl : exact = none := Except.ok.inj (hexact.symm.trans hnone)
    have hentry := list?_of_find? List.mem_cons_self hfind hlists hpriority
    rw [preferences_single hname] at hentry
    rw [Constraint.mem_keep_single_iff rfl hentry hrow, names_fold_iff]

end Constraints

theorem constraintOfParams_of_bridge {p : Params} {request : Quote.BridgeRequest}
    (h : bridgeOfParams p = .ok request) : constraintOfParams p = .ok request.providers := by
  obtain ⟨amount?, -, h⟩ := bind_eq_ok_iff.mp h
  obtain ⟨amount, -, h⟩ := bind_eq_ok_iff.mp h
  obtain ⟨strategy?, -, h⟩ := bind_eq_ok_iff.mp h
  obtain ⟨strategy, -, h⟩ := bind_eq_ok_iff.mp h
  obtain ⟨fromChain, -, h⟩ := bind_eq_ok_iff.mp h
  obtain ⟨toChain, -, h⟩ := bind_eq_ok_iff.mp h
  obtain ⟨asset, -, h⟩ := bind_eq_ok_iff.mp h
  obtain ⟨providers, hproviders, h⟩ := bind_eq_ok_iff.mp h
  obtain rfl := Except.ok.inj h
  exact hproviders

/-- A row of the route is kept when it is asked for by its name as it spells it and all capitals of
the name are letters from `A` to `Z`.  With other capitals it is not found by name, and as a
preference only where the preference names no row. -/
theorem rows_kept_as_spelt (tables : Quote.Tables) (p : Params) :
    (∀ request, bridgeOfParams p = .ok request →
      ∀ row ∈ tables.bridgeRows request.fromChain request.toChain request.asset,
        Text.isAllBlank row.provider = false →
          KeepsAsSpelt p request.providers
            (tables.bridgeRows request.fromChain request.toChain request.asset) row) ∧
    (∀ request, swapOfParams p = .ok request →
      ∀ row ∈ tables.swapRows request.chain request.fromAsset request.toAsset request.tradeType,
        Text.isAllBlank row.provider = false →
          KeepsAsSpelt p request.providers
            (tables.swapRows request.chain request.fromAsset request.toAsset request.tradeType)
            row) := by
  constructor
  · intro request h row hrow hname
    exact keepsAsSpelt (constraintOfParams_of_bridge h) hrow hname
  · intro request h row hrow hname
    obtain ⟨-, -, hterms⟩ := swapOfParams_eq_ok_iff.mp h
    exact keepsAsSpelt hterms.providers hrow hname

/-! ## Accents -/

def bigRow : Quote.BridgeRow := ⟨"Évora", "eip155:1", "eip155:8453", "USDC", 0, 60⟩

def smallRow : Quote.BridgeRow := ⟨"évora", "eip155:1", "eip155:8453", "USDC", 30, 60⟩

def accentedSwap : Quote.SwapRow := ⟨" Évora ", "eip155:1", "ETH", "USDC", .exactInput, 30, 5⟩

/-- Bridges whose names differ in the case of an accented letter only, and a swap. -/
def accentedTables : Quote.Tables where
  bridges := [bigRow, smallRow]
  swaps := [accentedSwap]

def bridgeBy (field : String) (value : Json) : Params where
  members :=
    [("amount", .str "2500000"), ("asset", .str "USDC"), ("from", .str "eth"), (field, value),
     ("to", .str "base")]

def bridgeRequestBy (providers : Constraint) : Quote.BridgeRequest where
  fromChain := "eth"
  toChain := "base"
  asset := "USDC"
  amount := ⟨2500000, by decide⟩
  providers
  strategy := .bestOut

def accentedSwapParams : Params where
  members :=
    [("amount", .str "2500000"), ("chain", .str "eth"), ("fromAsset", .str "ETH"),
     ("providers", .arr [.str " Évora "]), ("toAsset", .str "USDC")]

def accentedSwapRequest : Quote.SwapRequest where
  chain := "eth"
  fromAsset := "ETH"
  toAsset := "USDC"
  amount := ⟨2500000, by decide⟩
  tradeType := .exactInput
  providers := { exact := none, priority := ["évora"] }
  strategy := .bestOut
  slippagePct := none

theorem bridgeRows_accented :
    accentedTables.bridgeRows "eth" "base" "USDC" = accentedTables.bridges := by
  decide +kernel

theorem swapRows_accented :
    accentedTables.swapRows "eth" "ETH" "USDC" .exactInput = accentedTables.swaps := by
  decide +kernel

/-- The small accent is found by its name, and the swap because its name in lowercase names no
row. -/
theorem accented_rows_kept :
    smallRow ∈ Constraint.keep { exact := some "évora", priority := [] } accentedTables.bridges ∧
      accentedSwap ∈ accentedSwapRequest.providers.keep accentedTables.swaps := by
  have hbridge : bridgeOfParams (bridgeBy "provider" (.str "évora")) =
      .ok (bridgeRequestBy { exact := some "évora", priority := [] }) := by
    rw [← toOption_eq_some_iff]
    decide +kernel
  have hswap : swapOfParams accentedSwapParams = .ok accentedSwapRequest := by
    rw [← toOption_eq_some_iff]
    decide +kernel
  have hsmall := (rows_kept_as_spelt accentedTables _).1 _ hbridge smallRow
    (by decide +kernel) (by decide)
  have hgiven := (rows_kept_as_spelt accentedTables _).2 _ hswap accentedSwap
    (by decide +kernel) (by decide)
  constructor
  · rw [← bridgeRows_accented]
    exact (hsmall.exact rfl).mpr (by decide +kernel)
  · rw [← swapRows_accented]
    have habsent : ∀ v, ¬ accentedSwapParams.Present IsBlankText ["provider"] v := by
      intro v hv
      exact absurd (present_singleton_iff.mp hv).1 nofun
    exact (hgiven.preferred habsent ⟨_, rfl, .array⟩).mpr (.inr (by decide +kernel))

/-- The capital is not found by its name, and stands back behind the other bridge where its name is
preferred.  Where it is the only row, the request that asks for it is refused. -/
theorem accented_capital_not_kept :
    (∃ request, bridgeOfParams (bridgeBy "provider" (.str "Évora")) = .ok request ∧
      bigRow ∈ accentedTables.bridgeRows request.fromChain request.toChain request.asset ∧
      bigRow ∉ request.providers.keep
        (accentedTables.bridgeRows request.fromChain request.toChain request.asset)) ∧
    (∃ request, bridgeOfParams (bridgeBy "providers" (.arr [.str "Évora"])) = .ok request ∧
      bigRow ∈ accentedTables.bridgeRows request.fromChain request.toChain request.asset ∧
      bigRow ∉ request.providers.keep
        (accentedTables.bridgeRows request.fromChain request.toChain request.asset)) ∧
    (bridgeQuote { bridges := [bigRow], swaps := [] }
      (bridgeBy "provider" (.str "Évora"))).toOption = none := by
  refine ⟨⟨bridgeRequestBy { exact := some "évora", priority := [] }, ?_, by decide +kernel,
      by decide +kernel⟩,
    ⟨bridgeRequestBy { exact := none, priority := ["évora"] }, ?_, by decide +kernel,
      by decide +kernel⟩, by decide +kernel⟩
  · rw [← toOption_eq_some_iff]
    decide +kernel
  · rw [← toOption_eq_some_iff]
    decide +kernel

end Action
end RelayDesk
