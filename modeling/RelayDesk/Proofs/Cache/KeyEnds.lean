import RelayDesk.Cache.Key
import RelayDesk.Proofs.Text.Trim

/-!
The ends of a key.  A key begins with its address, which is trimmed, or with a bar, and ends as its
params end.  The key of a container of params has therefore no blank at either end, and trimming it
changes nothing.
-/

namespace RelayDesk

/-- An array or an object. -/
def Json.isContainer : Json → Bool
  | .arr _ | .obj _ => true
  | _ => false

namespace Cache

open Rpc (canonicalMethod)

theorem toList_joinKey (url method paramsText : String) :
    (joinKey url method paramsText).toList =
      ((normalizeUrl url).toList ++ '|' :: (canonicalMethod method).toList) ++
        '|' :: paramsText.toList := by
  simp [joinKey]

/-! ## The beginning of an address -/

/-- The last of the characters is never dropped. -/
theorem getLast?_dropSlashes (cs : List Char) : (dropSlashes cs).getLast? = cs.getLast? := by
  fun_induction dropSlashes cs with
  | case1 d rest ih => rw [ih, List.getLast?_cons_cons]
  | case2 c d rest hc => rfl
  | case3 cs hshort => rfl

theorem head?_normalizeUrl (url : String) :
    (normalizeUrl url).toList.head? = (Text.trimChars url.toList).head? := by
  unfold normalizeUrl
  rw [String.toList_ofList, List.head?_reverse, getLast?_dropSlashes, List.getLast?_reverse]

/-! ## The end of the params -/

theorem getLast?_canonicalChars {v : Json} (hv : v.isContainer = true) :
    ∃ c, (canonicalChars v).getLast? = some c ∧ Text.isBlank c = false := by
  cases v with
  | arr items =>
    refine ⟨']', ?_, rfl⟩
    show ('[' :: Json.commaSeparated (canonicalItems items) ++ [']']).getLast? = some ']'
    exact List.getLast?_concat
  | obj members =>
    refine ⟨'\x7d', ?_, rfl⟩
    show ('\x7b' :: Json.commaSeparated ((sortEntries (canonicalMembers members)).map entryChars) ++
      ['\x7d']).getLast? = some '\x7d'
    exact List.getLast?_concat
  | _ => cases hv

/-! ## The key -/

theorem trimmed_keyOfValue (url method : String) {v : Json} {e : Char}
    (hend : (canonicalChars v).getLast? = some e) (hblank : Text.isBlank e = false) :
    Text.Trimmed (keyOfValue url method v).toList := by
  have hkey := toList_joinKey url method (canonicalText v)
  unfold keyOfValue
  rw [hkey]
  constructor
  · intro c h
    cases hurl : (normalizeUrl url).toList with
    | nil =>
      rw [hurl] at h
      obtain rfl : '|' = c := Option.some.inj h
      rfl
    | cons u rest =>
      rw [hurl] at h
      obtain rfl : u = c := Option.some.inj h
      have hhead := head?_normalizeUrl url
      rw [hurl] at hhead
      exact (Text.trimmed_trimChars url.toList).head u hhead.symm
  · intro c h
    unfold canonicalText at h
    rw [String.toList_ofList, List.getLast?_append, List.getLast?_cons, hend] at h
    obtain rfl : e = c := Option.some.inj h
    exact hblank

theorem trim_keyOfValue (url method : String) {v : Json} (hv : v.isContainer = true) :
    Text.trim (keyOfValue url method v) = keyOfValue url method v := by
  obtain ⟨e, hend, hblank⟩ := getLast?_canonicalChars hv
  exact Text.trim_of_trimmed (trimmed_keyOfValue url method hend hblank)

end Cache
end RelayDesk
