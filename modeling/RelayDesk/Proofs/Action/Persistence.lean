import RelayDesk.Proofs.Action.Agreement
import RelayDesk.Proofs.Cache.Directory

/-!
Sessions over a directory.  A session that begins before the directory exists answers and sends as
it would over an empty memory, and at any time the directory has a file for each key written so far
and no other.  This asks of the keys in use that no two have one digest, and of the values that are
put directly that they can be read back inside a record.
-/

namespace RelayDesk
namespace Action

open Cache (Directory Memory Record Relay)

/-! ## What is asked of a session -/

/-- The keys under which the steps of a session read or write. -/
def Desk.usedKeys (d : Desk) (steps : List Step) : List String :=
  (d.visits steps).filterMap fun v => v.2.key? v.1

def Effect.put? : Effect → Option Write
  | .put w => some w
  | _ => none

/-- The writes of a session whose values come from outside, by a step or by an action. -/
def Desk.givenWrites (d : Desk) (steps : List Step) : List Write :=
  (d.visits steps).filterMap fun v => (v.2.effect v.1).put?

/-- The time of a step that has one. -/
def Step.time? : Step → Option Int
  | .call _ now _ => some now
  | .dispatch _ now _ => some now
  | .put _ _ _ now => some now
  | .get _ now => some now
  | .configure _ _ => none

/-! ## Times -/

def Effect.time? : Effect → Option Int
  | .attempt x => some x.now
  | .put w => some w.time
  | .nothing => none

theorem time_of_writeOfParams? {p : Params} {now : Int} {w : Write}
    (h : writeOfParams? p now = some w) : w.time = now := by
  unfold writeOfParams? at h
  simp only [Option.bind_eq_bind, Option.bind_eq_some_iff] at h
  obtain ⟨_, -, _, -, _, -, _, -, _, -, h⟩ := h
  obtain rfl := Option.some.inj h
  rfl

theorem time_of_operation {op : Operation} {p : Params} {now time : Int} {answer : Rpc.Answer}
    (h : (op.effect p now answer).time? = some time) : now = time := by
  unfold Operation.effect at h
  split at h
  · split at h
    · exact Option.some.inj h
    · cases h
  · split at h
    · next w hw => exact (time_of_writeOfParams? hw).symm.trans (Option.some.inj h)
    · cases h
  · cases h

/-- What a step does is done at the time of the step. -/
theorem time?_of_effect {d : Desk} {st : Step} {time : Int}
    (h : (st.effect d).time? = some time) : st.time? = some time := by
  cases st with
  | call c now answer => exact h
  | dispatch request now answer =>
    have hdesk : (d.effect request now answer).time? = some time := h
    unfold Desk.effect at hdesk
    split at hdesk
    · exact congrArg some (time_of_operation hdesk)
    · cases hdesk
  | put key value ttlSeconds now => exact h
  | get key now => cases h
  | configure config blocked => cases h

/-- Whatever a step puts can be held by a file, if its own time can be told and a value that it is
given can be read back inside a record. -/
theorem storable_of_mayPut {d : Desk} {st : Step} {record : Record}
    (htime : ∀ now ∈ st.time?, Cache.minTime ≤ now)
    (hgiven : ∀ w ∈ (st.effect d).put?, Json.Readable (Json.nestingLimit - 1) w.value ∧
      Json.numberKey ∉ w.value.keysWithin)
    (h : st.MayPut d record) : record.Storable := by
  have htime' : ∀ now, (st.effect d).time? = some now → Cache.minTime ≤ now := fun now hnow =>
    htime now (time?_of_effect hnow)
  unfold Step.MayPut at h
  cases heffect : st.effect d with
  | attempt x =>
    rw [heffect] at h htime'
    obtain ⟨result, rfl⟩ := h
    exact Relay.storable_keptRecord d.config result (htime' x.now rfl)
  | put w =>
    rw [heffect] at h htime' hgiven
    obtain rfl := h
    obtain ⟨hreadable, hordinary⟩ := hgiven w rfl
    exact Record.storable_write w.ttlSeconds hreadable hordinary (htime' w.time rfl)
  | nothing =>
    rw [heffect] at h
    exact h.elim

/-! ## Sessions -/

theorem exists_lastWrite?_iff {key : String} {ws : List Write} :
    (∃ w, lastWrite? key ws = some w) ↔ ∃ w ∈ ws, w.key = key := by
  rw [← Option.isSome_iff_exists]
  unfold lastWrite?
  simp [List.find?_isSome]

/-- The memory after a session has something under the keys that were written, and under no
other. -/
theorem exists_find?_iff (desk : Desk) (steps : List Step) (key : String) :
    (∃ r, ((Session.start desk Memory.empty).run steps).2.relay.store.find? key = some r) ↔
      ∃ w ∈ (Session.start desk Memory.empty).writes steps, w.key = key := by
  rw [Session.find?_run_empty, ← exists_lastWrite?_iff]
  simp [Option.map_eq_some_iff]

/-- After any part of a session that began before the directory existed, the reports are those of
the same session over an empty memory, and the directory has the files of the keys that were written
and no other. -/
theorem directory_session_like_memory {desk : Desk} {steps : List Step} (process staged : Nat)
    (hdistinct : Cache.NoCollision (desk.usedKeys steps))
    (hgiven : ∀ w ∈ desk.givenWrites steps, Json.Readable 126 w.value ∧
      Json.numberKey ∉ w.value.keysWithin)
    (htimes : ∀ st ∈ steps, ∀ now ∈ st.time?, Cache.minTime ≤ now)
    {before : List Step} (hbefore : before <+: steps) :
    ((Session.start desk (Directory.absent process staged)).run before).1 =
        ((Session.start desk Memory.empty).run before).1 ∧
      ∀ name, name ∈ Keyed.keys
          ((Session.start desk (Directory.absent process staged)).run before).2.relay.store.files ↔
        ∃ w ∈ (Session.start desk Memory.empty).writes before,
          name = Digest.sha256Hex w.key ++ ".json" := by
  have hstart : Session.Like (Directory.Mirrors (desk.usedKeys steps))
      (.start desk (Directory.absent process staged)) (.start desk Memory.empty) :=
    ⟨rfl, Relay.like_start (Directory.mirrors_absent _ process staged)⟩
  have hkeys : ∀ v ∈ desk.visits before, ∀ key ∈ v.2.key? v.1, key ∈ desk.usedKeys steps :=
    fun v hv key hkey =>
      List.mem_filterMap.mpr ⟨v, mem_visits_of_isPrefix hbefore hv, hkey⟩
  have hrecords : ∀ v ∈ desk.visits before, ∀ record, v.2.MayPut v.1 record → record.Storable := by
    intro v hv record hput
    have hvisit := mem_visits_of_isPrefix hbefore hv
    exact storable_of_mayPut (htimes v.2 (mem_steps_of_mem_visits hvisit))
      (fun w hw => hgiven w (List.mem_filterMap.mpr ⟨v, hvisit, hw⟩)) hput
  obtain ⟨hreports, hend⟩ := hstart.run (Directory.agree hdistinct) hkeys hrecords
  refine ⟨hreports, fun name => ?_⟩
  rw [hend.relay.store.mem_files_iff]
  constructor
  · rintro ⟨key, r, hfound, rfl⟩
    obtain ⟨w, hw, rfl⟩ := (exists_find?_iff desk before key).mp ⟨r, hfound⟩
    exact ⟨w, hw, rfl⟩
  · rintro ⟨w, hw, rfl⟩
    obtain ⟨r, hfound⟩ := (exists_find?_iff desk before w.key).mpr ⟨w, hw, rfl⟩
    exact ⟨w.key, r, hfound, rfl⟩

/-- A desk without quotes. -/
def plainDesk : Desk where
  config := .default
  tables := { bridges := [], swaps := [] }
  blocked := []

/-- A list put under one key, another one put there by an action, a set-up that blocks that action,
and a balance that is asked for and kept under a second key. -/
def busySession : List Step :=
  [.put "list" (.arr [.ofInt (-5), .null]) 5 100,
   .dispatch
     { action := "cache_put"
       params := .object
         [("key", .str "list"), ("ttl", .ofNat 9), ("value", .arr [.object [("a", .bool true)]])]
       resultsOnly := false } 101 (.failure "not asked"),
   .configure .default ["cachePut"],
   .call { url := "u", method := "eth_getBalance", params := .arr [], cacheKey := some "balance" } 102
     (.reply (.okResult "0x10")),
   .get "list" 103]

/-- Another process, which has staged files before, leaves one file for each of the two keys. -/
theorem busySession_leaves_two_files :
    ((Session.start plainDesk (Directory.absent 7 3)).run busySession).1 =
        ((Session.start plainDesk Memory.empty).run busySession).1 ∧
      ∀ name, name ∈ Keyed.keys
          ((Session.start plainDesk (Directory.absent 7 3)).run busySession).2.relay.store.files ↔
        name = Digest.sha256Hex "list" ++ ".json" ∨
          name = Digest.sha256Hex "balance" ++ ".json" := by
  have hused : plainDesk.usedKeys busySession = ["list", "list", "balance", "list"] := by
    decide +kernel
  have hgiven : plainDesk.givenWrites busySession =
      [{ key := "list", value := .arr [.ofInt (-5), .null], ttlSeconds := 5, time := 100 },
       { key := "list", value := .arr [.obj [("a", .bool true)]], ttlSeconds := 9, time := 101 }] := by
    decide +kernel
  have hwritten : ((Session.start plainDesk Memory.empty).writes busySession).map (·.key) =
      ["list", "list", "balance"] := by
    decide +kernel
  have hdistinct : Cache.NoCollision ["list", "list", "balance", "list"] := by
    unfold Cache.NoCollision
    decide +kernel
  have hreadable : ∀ w ∈ plainDesk.givenWrites busySession,
      Json.Readable 126 w.value ∧ Json.numberKey ∉ w.value.keysWithin := by
    rw [hgiven]
    intro w hw
    rcases List.mem_pair.mp hw with rfl | rfl
    · refine ⟨.arr fun v hv => ?_, by decide⟩
      rcases List.mem_pair.mp hv with rfl | rfl
      · exact Json.readable_ofInt _ _
      · exact .null
    · refine ⟨.arr fun v hv => ?_, by decide⟩
      obtain rfl := List.mem_singleton.mp hv
      refine .obj (List.pairwise_singleton _ _) fun m hm => ?_
      obtain rfl := List.mem_singleton.mp hm
      exact .bool true
  obtain ⟨hreports, hfiles⟩ := directory_session_like_memory 7 3 (hused ▸ hdistinct) hreadable
    (by decide) (List.prefix_refl busySession)
  refine ⟨hreports, fun name => ?_⟩
  have hwrites : (∃ w ∈ (Session.start plainDesk Memory.empty).writes busySession,
        name = Digest.sha256Hex w.key ++ ".json") ↔
      ∃ key ∈ ((Session.start plainDesk Memory.empty).writes busySession).map (·.key),
        name = Digest.sha256Hex key ++ ".json" := by
    simp only [List.mem_map, exists_exists_and_eq_and]
  rw [hfiles, hwrites, hwritten]
  simp only [List.mem_cons, List.not_mem_nil, or_false, exists_eq_or_imp, exists_eq_left,
    or_self_left]

end Action
end RelayDesk
