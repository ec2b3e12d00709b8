import RelayDesk.Proofs.Cache.KeyEnds

/-!
Addresses in keys.  What is left of an address is the trimmed address without some slashes at its
end.  The blanks are dropped before the slashes and not once more behind them, so a blank that
stood in front of the slashes is at the end then: such an address is no normal form, and taking it
again gives another one.
-/

namespace RelayDesk
namespace Cache

/-! ## Slashes -/

theorem exists_dropSlashes (cs : List Char) :
    ∃ n, cs = List.replicate n '/' ++ dropSlashes cs := by
  fun_induction dropSlashes cs with
  | case1 d rest ih =>
    obtain ⟨n, hrest⟩ := ih
    exact ⟨n + 1, congrArg ('/' :: ·) hrest⟩
  | case2 c d rest hc => exact ⟨0, rfl⟩
  | case3 cs hshort => exact ⟨0, rfl⟩

/-- A slash is left in front only if it is all that is left. -/
theorem dropSlashes_of_slash {cs : List Char} (h : (dropSlashes cs).head? = some '/') :
    dropSlashes cs = ['/'] := by
  fun_induction dropSlashes cs with
  | case1 d rest ih => exact ih h
  | case2 c d rest hc => exact absurd (Option.some.inj h) hc
  | case3 cs hshort =>
    cases cs with
    | nil => cases h
    | cons c rest =>
      cases rest with
      | nil => rw [Option.some.inj h]
      | cons d rest => exact absurd rfl (hshort c d rest)

theorem dropSlashes_cons_of_ne {c : Char} (hc : c ≠ '/') (rest : List Char) :
    dropSlashes (c :: rest) = c :: rest := by
  cases rest with
  | nil => rfl
  | cons d rest => rw [dropSlashes, if_neg hc]

theorem dropSlashes_replicate {c : Char} (hc : c ≠ '/') (n : Nat) (rest : List Char) :
    dropSlashes (List.replicate n '/' ++ c :: rest) = c :: rest := by
  induction n with
  | zero => exact dropSlashes_cons_of_ne hc rest
  | succ n ih =>
    cases n with
    | zero => exact ih
    | succ n => exact ih

/-! ## Addresses -/

section Address

variable {url : String}

/-- Whole characters are taken off the trimmed address, each of them a slash. -/
theorem trimChars_eq_normalizeUrl (url : String) :
    ∃ n, Text.trimChars url.toList = (normalizeUrl url).toList ++ List.replicate n '/' := by
  obtain ⟨n, hdrop⟩ := exists_dropSlashes (Text.trimChars url.toList).reverse
  refine ⟨n, ?_⟩
  have hback := congrArg List.reverse hdrop
  rw [List.reverse_reverse, List.reverse_append, List.reverse_replicate] at hback
  unfold normalizeUrl
  rw [String.toList_ofList]
  exact hback

theorem not_blank_head_normalizeUrl {c : Char}
    (h : (normalizeUrl url).toList.head? = some c) : Text.isBlank c = false := by
  rw [head?_normalizeUrl] at h
  exact (Text.trimmed_trimChars url.toList).head c h

theorem normalizeUrl_of_slash (h : (normalizeUrl url).toList.getLast? = some '/') :
    normalizeUrl url = "/" := by
  unfold normalizeUrl at h ⊢
  rw [String.toList_ofList, List.getLast?_reverse] at h
  rw [dropSlashes_of_slash h]
  rfl

/-- No blank is left at the end. -/
def EndsPlain (url : String) : Prop :=
  ∀ c, url.toList.getLast? = some c → Text.isBlank c = false

/-- An address without a blank at its end is left alone when it is taken again. -/
theorem normalizeUrl_normalizeUrl (h : EndsPlain (normalizeUrl url)) :
    normalizeUrl (normalizeUrl url) = normalizeUrl url := by
  have htrimmed : Text.Trimmed (normalizeUrl url).toList :=
    ⟨fun c => not_blank_head_normalizeUrl, h⟩
  have hslashes : dropSlashes (normalizeUrl url).toList.reverse =
      (normalizeUrl url).toList.reverse := by
    by_cases hslash : (normalizeUrl url).toList.getLast? = some '/'
    · rw [normalizeUrl_of_slash hslash]
      rfl
    · cases hlast : (normalizeUrl url).toList.reverse with
      | nil => rfl
      | cons c rest =>
        refine dropSlashes_cons_of_ne ?_ rest
        rintro rfl
        rw [← List.head?_reverse, hlast] at hslash
        exact hslash rfl
  rw [normalizeUrl, Text.trimChars_of_trimmed htrimmed, hslashes, List.reverse_reverse,
    String.ofList_toList]

/-- Taking an address again makes it shorter by the blanks at its end, if there are any. -/
theorem endsPlain_of_normalizeUrl_eq (h : normalizeUrl url = url) : EndsPlain url := by
  obtain ⟨n, htrim⟩ := trimChars_eq_normalizeUrl url
  obtain ⟨before, after, -, -, hparts⟩ := Text.exists_blanks url.toList
  rw [h] at htrim
  have hlength : url.toList.length = before.length + (url.toList.length + n) + after.length := by
    conv_lhs => rw [hparts, htrim]
    simp only [List.length_append, List.length_replicate]
  have hn : n = 0 := by omega
  rw [hn, List.replicate_zero, List.append_nil] at htrim
  have htrimmed := Text.trimmed_trimChars url.toList
  rw [htrim] at htrimmed
  exact htrimmed.last

theorem normalizeUrl_idempotent_iff :
    normalizeUrl (normalizeUrl url) = normalizeUrl url ↔ EndsPlain (normalizeUrl url) :=
  ⟨endsPlain_of_normalizeUrl_eq, normalizeUrl_normalizeUrl⟩

/-- A blank is left at the end exactly when one stood in front of the slashes at the end. -/
theorem not_endsPlain_iff :
    ¬ EndsPlain (normalizeUrl url) ↔
      ∃ front b n, Text.isBlank b = true ∧
        Text.trimChars url.toList = front ++ b :: List.replicate (n + 1) '/' := by
  obtain ⟨n, htrim⟩ := trimChars_eq_normalizeUrl url
  constructor
  · intro hblank
    obtain ⟨b, hlast, hb⟩ : ∃ b, (normalizeUrl url).toList.getLast? = some b ∧
        Text.isBlank b = true := by
      simpa [EndsPlain] using hblank
    obtain ⟨front, hfront⟩ := List.getLast?_eq_some_iff.mp hlast
    cases n with
    | zero =>
      -- Without a slash behind it the blank would be at the end of the trimmed address.
      rw [List.replicate_zero, List.append_nil] at htrim
      rw [← htrim] at hlast
      rw [(Text.trimmed_trimChars url.toList).last b hlast] at hb
      cases hb
    | succ n =>
      refine ⟨front, b, n, hb, ?_⟩
      rw [htrim, hfront, List.append_assoc, List.singleton_append]
  · rintro ⟨front, b, n, hb, hshape⟩ hplain
    have hslash : b ≠ '/' := by
      rintro rfl
      cases hb
    have hlast : (normalizeUrl url).toList = front ++ [b] := by
      unfold normalizeUrl
      rw [String.toList_ofList, hshape, List.reverse_append, List.reverse_cons,
        List.reverse_replicate, List.append_assoc, List.singleton_append,
        dropSlashes_replicate hslash, List.reverse_cons, List.reverse_reverse]
    rw [hplain b (by rw [hlast, List.getLast?_concat])] at hb
    cases hb

end Address

theorem keyOfValue_eq_iff_of_url {u u' : String} (method : String) (params : Json) :
    keyOfValue u method params = keyOfValue u' method params ↔
      normalizeUrl u = normalizeUrl u' := by
  unfold keyOfValue joinKey
  rw [String.append_left_inj, String.append_left_inj, String.append_left_inj,
    String.append_left_inj]

/-- What is left of an address are the whole characters of the trimmed address in front of some
slashes at its end.  It begins with no blank and ends with a slash only if it is one.  Taking it
again leaves it alone exactly when no blank is at its end, and one is there exactly when it stood
in front of those slashes.  Calls that differ in their addresses only have one key exactly when the
same is left of both. -/
theorem normalizeUrl_form (url : String) :
    (∃ n, Text.trim url = normalizeUrl url ++ String.ofList (List.replicate n '/')) ∧
    (∀ c, (normalizeUrl url).toList.head? = some c → Text.isBlank c = false) ∧
    ((normalizeUrl url).toList.getLast? = some '/' → normalizeUrl url = "/") ∧
    (normalizeUrl (normalizeUrl url) = normalizeUrl url ↔ EndsPlain (normalizeUrl url)) ∧
    (¬ EndsPlain (normalizeUrl url) ↔
      ∃ front b n, Text.isBlank b = true ∧
        Text.trimChars url.toList = front ++ b :: List.replicate (n + 1) '/') ∧
    ∀ (url' method : String) (params : Json),
      keyOfValue url method params = keyOfValue url' method params ↔
        normalizeUrl url = normalizeUrl url' := by
  refine ⟨?_, fun c => not_blank_head_normalizeUrl, normalizeUrl_of_slash,
    normalizeUrl_idempotent_iff, not_endsPlain_iff,
    fun url' method params => keyOfValue_eq_iff_of_url method params⟩
  obtain ⟨n, htrim⟩ := trimChars_eq_normalizeUrl url
  refine ⟨n, ?_⟩
  rw [Text.trim, htrim, String.ofList_append, String.ofList_toList]

/-- A blank in front of the slash at the end of an address is left.  Taking the address again drops
it, and a call whose address differs in that slash only has another key. -/
theorem blank_before_slash_left :
    normalizeUrl "u /" = "u " ∧ ¬ EndsPlain (normalizeUrl "u /") ∧
      normalizeUrl (normalizeUrl "u /") ≠ normalizeUrl "u /" ∧
      keyOfValue "u /" "eth_gasPrice" (.arr []) ≠ keyOfValue "u " "eth_gasPrice" (.arr []) := by
  have hleft : normalizeUrl "u /" = "u " := by decide
  have hagain : normalizeUrl "u " = "u" := by decide
  have hne : normalizeUrl "u /" ≠ normalizeUrl "u " := by
    rw [hleft, hagain]
    decide
  refine ⟨hleft, ?_, ?_, ?_⟩
  · rw [← normalizeUrl_idempotent_iff, hleft]
    exact hne ∘ (hleft.trans ·.symm)
  · rw [hleft]
    exact hne ∘ (hleft.trans ·.symm)
  · rw [Ne, keyOfValue_eq_iff_of_url]
    exact hne

end Cache
end RelayDesk
