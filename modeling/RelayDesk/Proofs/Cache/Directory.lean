import RelayDesk.Proofs.Cache.Agree
import RelayDesk.Proofs.Cache.Record

/-!
A directory that holds what a memory holds.  The record of each key stands in the file of the key,
and there is no other file: a text that was staged under a name of its own has left that name by
the time a put ends.  As long as no two keys in use have one digest, the directory answers as the
memory does.
-/

namespace RelayDesk
namespace Cache

/-- No two of the keys have one digest. -/
def NoCollision (keys : List String) : Prop :=
  ∀ j ∈ keys, ∀ k ∈ keys, Digest.sha256Hex j = Digest.sha256Hex k → j = k

namespace Directory

/-! ## Names -/

theorem fileName_injOn {keys : List String} (h : NoCollision keys) {j k : String} (hj : j ∈ keys)
    (hk : k ∈ keys) (hname : fileName j = fileName k) : j = k := by
  have hchars : (Digest.sha256Hex j).toList ++ ".json".toList =
      (Digest.sha256Hex k).toList ++ ".json".toList := by
    simpa only [fileName, String.toList_append] using congrArg String.toList hname
  exact h j hj k hk (String.toList_injective (List.append_cancel_right hchars))

/-- A staged text is never in the file of a key. -/
theorem stagedName_ne_fileName (d : Directory) (name key : String) :
    d.stagedName name ≠ fileName key := by
  intro h
  obtain ⟨front, hstaged⟩ : ∃ front, (d.stagedName name).toList = front ++ ".tmp".toList :=
    ⟨_, String.toList_append⟩
  have hlast := congrArg (fun s => s.toList.getLast?) h
  simp only [hstaged, fileName, String.toList_append, List.getLast?_append] at hlast
  exact absurd (Option.some.inj hlast) (by decide)

/-! ## Reading and replacing files -/

theorem mem_files_iff {d : Directory} {name : String} :
    name ∈ Keyed.keys d.files ↔ ∃ text, d.contents? name = some text := Keyed.mem_keys_iff

/-- A file that is replaced has the text, and what was staged for it is gone. -/
theorem contents?_replace (d : Directory) (name text n : String) :
    (d.replace name text).contents? n =
      if name = n then some text else if d.stagedName name = n then none else d.contents? n := by
  have hplaced : ({ d with staged := d.staged + 1 }.write (d.stagedName name) text).contents?
      (d.stagedName name) = some text := by
    show Keyed.find? _ (Keyed.insert _ _ d.files) = _
    rw [Keyed.find?_insert, if_pos rfl]
  unfold replace
  simp only
  unfold rename
  rw [hplaced]
  show Keyed.find? n (Keyed.insert name text
    (Keyed.erase _ (Keyed.insert (d.stagedName name) text d.files))) = _
  rw [Keyed.find?_insert, Keyed.find?_erase, Keyed.find?_insert]
  by_cases hn : d.stagedName name = n
  · simp [hn]
  · simp only [if_neg hn]
    rfl

/-! ## Holding what a memory holds -/

/-- The memory has records of these keys only, each under its own key and fit for a file, and the
files of the directory are those of its records. -/
structure Mirrors (keys : List String) (d : Directory) (m : Memory) : Prop where
  held : ∀ key r, m.find? key = some r → key ∈ keys ∧ r.key = key ∧ r.Storable
  files : ∀ name text, d.contents? name = some text ↔
    ∃ key r, m.find? key = some r ∧ fileName key = name ∧ r.text = text

theorem mirrors_absent (keys : List String) (process staged : Nat) :
    Mirrors keys (absent process staged) Memory.empty where
  held _ _ h := nomatch h
  files _ _ := ⟨nofun, fun ⟨_, _, h, _⟩ => nomatch h⟩

namespace Mirrors

variable {keys : List String} {d : Directory} {m : Memory}

theorem mem_files_iff (h : Mirrors keys d m) {name : String} :
    name ∈ Keyed.keys d.files ↔ ∃ key r, m.find? key = some r ∧ fileName key = name := by
  rw [Directory.mem_files_iff]
  constructor
  · rintro ⟨text, htext⟩
    obtain ⟨key, r, hfound, hname, -⟩ := (h.files name text).mp htext
    exact ⟨key, r, hfound, hname⟩
  · rintro ⟨key, r, hfound, hname⟩
    exact ⟨r.text, (h.files name r.text).mpr ⟨key, r, hfound, hname, rfl⟩⟩

/-- A look into the file of a key finds what the memory has under the key. -/
theorem find_eq (h : Mirrors keys d m) (hdistinct : NoCollision keys) {key : String}
    (hkey : key ∈ keys) : d.find key = .ok (m.find? key) := by
  unfold find
  cases hfile : d.contents? (fileName key) with
  | none =>
    cases hfound : m.find? key with
    | none => rfl
    | some r =>
      have htext := (h.files (fileName key) r.text).mpr ⟨key, r, hfound, rfl, rfl⟩
      rw [hfile] at htext
      cases htext
  | some text =>
    obtain ⟨k, r, hfound, hname, rfl⟩ := (h.files _ _).mp hfile
    obtain ⟨hk, rfl, hstorable⟩ := h.held k r hfound
    -- The file is that of the record's own key, which can only be the one that was asked for.
    obtain rfl := fileName_injOn hdistinct hk hkey hname
    rw [hfound]
    exact recordOf_text hstorable

theorem put (h : Mirrors keys d m) (hdistinct : NoCollision keys) {r : Record}
    (hkey : r.key ∈ keys) (hstorable : r.Storable) :
    Mirrors keys (d.replace (fileName r.key) r.text) (m.insert r) where
  held key r' hfound := by
    rw [Memory.find?_insert] at hfound
    split at hfound
    · next heq =>
      obtain rfl := Option.some.inj hfound
      exact ⟨heq ▸ hkey, heq, hstorable⟩
    · exact h.held key r' hfound
  files name text := by
    rw [contents?_replace]
    constructor
    · intro hcontents
      split at hcontents
      · next hname =>
        refine ⟨r.key, r, ?_, hname, Option.some.inj hcontents⟩
        rw [Memory.find?_insert, if_pos rfl]
      · next hname =>
        split at hcontents
        · cases hcontents
        · obtain ⟨key, r', hfound, rfl, htext⟩ := (h.files name text).mp hcontents
          refine ⟨key, r', ?_, rfl, htext⟩
          rw [Memory.find?_insert, if_neg fun heq => hname (congrArg fileName heq)]
          exact hfound
    · rintro ⟨key, r', hfound, rfl, rfl⟩
      rw [Memory.find?_insert] at hfound
      split at hfound
      · next heq =>
        obtain rfl := Option.some.inj hfound
        rw [if_pos (congrArg fileName heq)]
      · next hne =>
        have hname : fileName r.key ≠ fileName key := fun heq =>
          hne (fileName_injOn hdistinct hkey (h.held key r' hfound).1 heq)
        rw [if_neg hname, if_neg (stagedName_ne_fileName d _ key)]
        exact (h.files _ _).mpr ⟨key, r', hfound, rfl, rfl⟩

end Mirrors

/-- The directory and the memory stand in for one another. -/
theorem agree {keys : List String} (hdistinct : NoCollision keys) :
    Agree (Mirrors keys) (· ∈ keys) Record.Storable where
  get h hkey := h.find_eq hdistinct hkey
  put h hkey hstorable := ⟨_, _, rfl, rfl, h.put hdistinct hkey hstorable⟩

end Directory

/-! ## Places of records -/

/-- Stores that keep the record of each key at one place, so that a put shows under no key that has
another place. -/
class Placed (σ : Type) [Store σ] where
  place : String → String
  get_put : ∀ {s s' : σ} {r : Record} {key : String}, Store.put s r = .ok s' →
    place key ≠ place r.key → Store.get s' key = Store.get s key

instance : Placed Memory where
  place key := key
  get_put {m m' r key} hput hplace := by
    obtain rfl : m.insert r = m' := Except.ok.inj hput
    show Except.ok ((m.insert r).find? key) = .ok (m.find? key)
    rw [Memory.find?_insert, if_neg (Ne.symm hplace)]

instance : Placed Directory where
  place := Directory.fileName
  get_put {d d' r key} hput hplace := by
    obtain rfl : d.replace (Directory.fileName r.key) r.text = d' := Except.ok.inj hput
    show (d.replace _ r.text).find key = d.find key
    have hstaged := Directory.stagedName_ne_fileName d (Directory.fileName r.key) key
    unfold Directory.find
    rw [Directory.contents?_replace, if_neg (Ne.symm hplace), if_neg hstaged]

end Cache
end RelayDesk
