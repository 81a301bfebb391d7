import ConfigCenter.Server.ConcurrentRequests

/-!
# What readers get

Library `Server`. The life of one key under concurrent requests on a new store: a call
makes a draft of it, a publication makes it live, an update makes it a draft again and a
deletion removes a draft. `published_value_iff` reads off which value readers get from the
order of the store calls.
-/

namespace ConfigCenter.Server
open ConfigCenter.Storage ConfigCenter.Base

namespace StoreCall

/-- Namespace, key, value and operator of a call that writes a value. -/
def setting : StoreCall → Option (String × String × String × String)
  | .createConfig ns key value op | .updateConfig ns key value op _ => some (ns, key, value, op)
  | _ => none

/-- The call updates the key. -/
def Updates (ns key : String) (c : StoreCall) : Prop :=
  ∃ value op draft, c = .updateConfig ns key value op draft

/-- The call deletes the key. -/
def Deletes (ns key : String) (c : StoreCall) : Prop :=
  ∃ op draft, c = .deleteConfig ns key op draft

/-- The call publishes the namespace. -/
def Publishes (ns : String) (c : StoreCall) : Prop := ∃ note op, c = .publishRelease ns note op

/-- The call writes a configuration key and the store answers with `true`. -/
def acknowledged (db : Database) : StoreCall → Bool
  | .createConfig ns key _ _ => (db.ledger.row? ns key).isNone
  | .updateConfig ns key _ _ _ => (db.ledger.row? ns key).isSome
  | .deleteConfig _ _ _ _ => true
  | _ => false

/-- The call only ever writes drafts. -/
def OnlyDrafts : StoreCall → Prop
  | .updateConfig _ _ _ _ draft | .deleteConfig _ _ _ draft => draft = true
  | _ => True

end StoreCall

private theorem onlyDrafts_of_writes {parse : Parse} {request : ServerRequest} {c : StoreCall}
    (h : request.Writes parse c) : c.OnlyDrafts := by
  cases c with
  | updateConfig ns key value op draft => exact h.2
  | deleteConfig ns key op draft => exact h.2
  | _ => exact True.intro

/-! ### The life of a key -/

/-- Value and status of a key, where it has a row. -/
abbrev KeyState := Option (String × ConfigStatus)

/-- Value and status of a key in the store. -/
def keyState (ns key : String) (db : Database) : KeyState :=
  (db.ledger.row? ns key).map fun row ↦ (row.value, row.status)

/-- What a handler's call makes of a key. -/
def advance (ns key : String) (s : KeyState) : StoreCall → KeyState
  | .createConfig n k value _ => if n = ns ∧ k = key then some (s.getD (value, .draft)) else s
  | .updateConfig n k value _ _ => if n = ns ∧ k = key then s.map fun _ ↦ (value, .draft) else s
  | .deleteConfig n k _ _ => if n = ns ∧ k = key then s.filter fun x ↦ x.2 = .live else s
  | .publishRelease n _ _ => if n = ns then s.map fun x ↦ (x.1, .live) else s
  | _ => s

/-- The call writes the value, a creation to a free key and an update to a taken one. -/
def Takes (ns key value : String) (s : KeyState) (c : StoreCall) : Prop :=
  (∃ op, c = .createConfig ns key value op) ∧ s = none ∨
    (∃ op draft, c = .updateConfig ns key value op draft) ∧ s.isSome

section Advance
variable {ns key : String} {s : KeyState} {c : StoreCall} {value : String}

private theorem advance_of_takes (h : Takes ns key value s c) :
    advance ns key s c = some (value, .draft) := by
  obtain ⟨⟨op, rfl⟩, rfl⟩ | ⟨⟨op, draft, rfl⟩, hs⟩ := h
  · simp [advance]
  · obtain ⟨x, rfl⟩ := Option.isSome_iff_exists.mp hs
    simp [advance]

-- How a key comes to a value: a call writes it as a draft, or it was there and is neither updated
-- nor deleted as a draft, and becomes live by a publication only.
private theorem cases_of_advance {status : ConfigStatus}
    (h : advance ns key s c = some (value, status)) :
    (status = .draft ∧ Takes ns key value s c) ∨
      ¬ c.Updates ns key ∧
        (s = some (value, status) ∧ (c.Deletes ns key → status = .live) ∨
          s = some (value, .draft) ∧ status = .live ∧ c.Publishes ns) := by
  cases c with
  | createConfig n k v op =>
    have hu : ¬ (StoreCall.createConfig n k v op).Updates ns key := by
      rintro ⟨_, _, _, h⟩
      cases h
    have hd : ¬ (StoreCall.createConfig n k v op).Deletes ns key := by
      rintro ⟨_, _, h⟩
      cases h
    simp only [advance] at h
    split at h
    · next hk =>
      obtain ⟨rfl, rfl⟩ := hk
      cases s with
      | none =>
        cases h
        exact .inl ⟨rfl, .inl ⟨⟨op, rfl⟩, rfl⟩⟩
      | some x => exact .inr ⟨hu, .inl ⟨h, fun hdel ↦ absurd hdel hd⟩⟩
    · exact .inr ⟨hu, .inl ⟨h, fun hdel ↦ absurd hdel hd⟩⟩
  | updateConfig n k v op draft =>
    simp only [advance] at h
    split at h
    · next hk =>
      obtain ⟨rfl, rfl⟩ := hk
      obtain ⟨x, rfl, hx⟩ := Option.map_eq_some_iff.mp h
      cases hx
      exact .inl ⟨rfl, .inr ⟨⟨op, draft, rfl⟩, rfl⟩⟩
    · next hk =>
      refine .inr ⟨?_, .inl ⟨h, ?_⟩⟩
      · rintro ⟨_, _, _, ⟨⟩⟩
        exact hk ⟨rfl, rfl⟩
      · rintro ⟨_, _, ⟨⟩⟩
  | deleteConfig n k op draft =>
    have hu : ¬ (StoreCall.deleteConfig n k op draft).Updates ns key := by
      rintro ⟨_, _, _, ⟨⟩⟩
    simp only [advance] at h
    split at h
    · obtain ⟨hs, hlive⟩ := Option.filter_eq_some_iff.mp h
      exact .inr ⟨hu, .inl ⟨hs, fun _ ↦ by simpa using hlive⟩⟩
    · next hk =>
      refine .inr ⟨hu, .inl ⟨h, ?_⟩⟩
      rintro ⟨_, _, ⟨⟩⟩
      exact absurd ⟨rfl, rfl⟩ hk
  | publishRelease n note op =>
    have hu : ¬ (StoreCall.publishRelease n note op).Updates ns key := by
      rintro ⟨_, _, _, ⟨⟩⟩
    have hd : ¬ (StoreCall.publishRelease n note op).Deletes ns key := by
      rintro ⟨_, _, ⟨⟩⟩
    simp only [advance] at h
    split at h
    · next hn =>
      obtain ⟨⟨v, st⟩, rfl, hx⟩ := Option.map_eq_some_iff.mp h
      cases hx
      cases st with
      | draft => exact .inr ⟨hu, .inr ⟨rfl, rfl, note, op, by rw [hn]⟩⟩
      | live => exact .inr ⟨hu, .inl ⟨rfl, fun hdel ↦ absurd hdel hd⟩⟩
    · exact .inr ⟨hu, .inl ⟨h, fun hdel ↦ absurd hdel hd⟩⟩
  | _ =>
    refine .inr ⟨?_, .inl ⟨h, ?_⟩⟩
    · rintro ⟨_, _, _, ⟨⟩⟩
    · rintro ⟨_, _, ⟨⟩⟩

private theorem advance_of_publishes {st : ConfigStatus} (h : c.Publishes ns) :
    advance ns key (some (value, st)) c = some (value, .live) := by
  obtain ⟨note, op, rfl⟩ := h
  simp [advance]

private theorem advance_keeps {st : ConfigStatus} (hu : ¬ c.Updates ns key)
    (hd : c.Deletes ns key → st = .live) :
    ∃ st', advance ns key (some (value, st)) c = some (value, st') ∧
      (st = .live → st' = .live) := by
  cases c with
  | createConfig n k v op =>
    simp only [advance]
    split
    · exact ⟨st, rfl, id⟩
    · exact ⟨st, rfl, id⟩
  | updateConfig n k v op draft =>
    simp only [advance]
    split
    · next hk => exact absurd ⟨v, op, draft, by rw [hk.1, hk.2]⟩ hu
    · exact ⟨st, rfl, id⟩
  | deleteConfig n k op draft =>
    simp only [advance]
    split
    · next hk =>
      have hlive := hd ⟨op, draft, by rw [hk.1, hk.2]⟩
      exact ⟨st, by simp [hlive], id⟩
    · exact ⟨st, rfl, id⟩
  | publishRelease n note op =>
    simp only [advance]
    split
    · exact ⟨.live, rfl, fun _ ↦ rfl⟩
    · exact ⟨st, rfl, id⟩
  | _ => exact ⟨st, rfl, id⟩

end Advance

section Life
variable {ns key value : String}

/-- The key after the calls of a run. -/
def keyRun (ns key : String) (s : KeyState) (made : List (Program.Made Timestamp StoreCall)) :
    KeyState :=
  run (fun s m ↦ advance ns key s m.call) s made

-- How long a value lasts: after it was written the key is not updated; a draft is neither deleted,
-- and a live value was published before any deletion.
private def Lasts (ns key : String) (status : ConfigStatus)
    (later : List (Program.Made Timestamp StoreCall)) : Prop :=
  (∀ x ∈ later, ¬ x.call.Updates ns key) ∧
    match status with
    | .draft => ∀ x ∈ later, ¬ x.call.Deletes ns key
    | .live => ∃ mid p rest, later = mid ++ p :: rest ∧
        (∀ x ∈ mid, ¬ x.call.Deletes ns key) ∧ p.call.Publishes ns

private theorem Lasts.concat {status status' : ConfigStatus}
    {later : List (Program.Made Timestamp StoreCall)} {m : Program.Made Timestamp StoreCall}
    (h : Lasts ns key status later) (hu : ¬ m.call.Updates ns key)
    (hcase : status' = status ∧ (m.call.Deletes ns key → status = .live) ∨
      status = .draft ∧ status' = .live ∧ m.call.Publishes ns) :
    Lasts ns key status' (later ++ [m]) := by
  have hupdates : ∀ x ∈ later ++ [m], ¬ x.call.Updates ns key := by
    intro x hx
    rcases List.mem_append.mp hx with hx | hx
    · exact h.1 x hx
    · rwa [List.mem_singleton.mp hx]
  refine ⟨hupdates, ?_⟩
  obtain ⟨rfl, hd⟩ | ⟨rfl, rfl, hp⟩ := hcase
  · cases status' with
    | draft =>
      intro x hx
      rcases List.mem_append.mp hx with hx | hx
      · exact h.2 x hx
      · rw [List.mem_singleton.mp hx]
        intro hdel
        cases hd hdel
    | live =>
      obtain ⟨mid, p, rest, rfl, hmid, hp⟩ := h.2
      exact ⟨mid, p, rest ++ [m], by simp, hmid, hp⟩
  · exact ⟨later, m, [], rfl, h.2, hp⟩

private theorem source_of_keyRun {made : List (Program.Made Timestamp StoreCall)}
    {status : ConfigStatus} (h : keyRun ns key none made = some (value, status)) :
    ∃ pre m later, made = pre ++ m :: later ∧
      Takes ns key value (keyRun ns key none pre) m.call ∧ Lasts ns key status later := by
  induction made using List.reverseRecOn generalizing status with
  | nil => cases h
  | append_singleton made last ih =>
    rw [keyRun, run_concat] at h
    obtain ⟨rfl, htakes⟩ | ⟨hu, hcase⟩ := cases_of_advance h
    · exact ⟨made, last, [], rfl, htakes, by simp, by simp⟩
    · obtain ⟨hs, hd⟩ | ⟨hs, rfl, hp⟩ := hcase
      · obtain ⟨pre, m, later, rfl, htakes, hlasts⟩ := ih hs
        exact ⟨pre, m, later ++ [last], by simp, htakes, hlasts.concat hu (.inl ⟨rfl, hd⟩)⟩
      · obtain ⟨pre, m, later, rfl, htakes, hlasts⟩ := ih hs
        exact ⟨pre, m, later ++ [last], by simp, htakes,
          hlasts.concat hu (.inr ⟨rfl, rfl, hp⟩)⟩

private theorem keyRun_keeps {later : List (Program.Made Timestamp StoreCall)}
    {st : ConfigStatus} (hu : ∀ x ∈ later, ¬ x.call.Updates ns key)
    (hd : st = .live ∨ ∀ x ∈ later, ¬ x.call.Deletes ns key) :
    ∃ st', keyRun ns key (some (value, st)) later = some (value, st') ∧
      (st = .live → st' = .live) := by
  induction later generalizing st with
  | nil => exact ⟨st, rfl, id⟩
  | cons m later ih =>
    obtain ⟨st', hstep, hlive⟩ := advance_keeps (hu m (by simp)) fun hdel ↦
      hd.resolve_right fun hnone ↦ hnone m (by simp) hdel
    have hrest : st' = .live ∨ ∀ x ∈ later, ¬ x.call.Deletes ns key :=
      hd.imp hlive fun h x hx ↦ h x (List.mem_cons_of_mem m hx)
    obtain ⟨st'', hrun, hlive'⟩ := ih (fun x hx ↦ hu x (List.mem_cons_of_mem m hx)) hrest
    refine ⟨st'', ?_, fun h ↦ hlive' (hlive h)⟩
    rw [keyRun, run_cons, hstep]
    exact hrun

/-- A key is live with a value exactly when the value was taken, published before any update or
deletion, and not updated since. -/
theorem keyRun_live_iff (made : List (Program.Made Timestamp StoreCall)) :
    keyRun ns key none made = some (value, .live) ↔
      ∃ pre m mid p rest, made = pre ++ m :: (mid ++ p :: rest) ∧
        Takes ns key value (keyRun ns key none pre) m.call ∧
        (∀ x ∈ mid, ¬ x.call.Updates ns key ∧ ¬ x.call.Deletes ns key) ∧ p.call.Publishes ns ∧
        ∀ x ∈ rest, ¬ x.call.Updates ns key := by
  constructor
  · intro h
    obtain ⟨pre, m, later, rfl, htakes, hu, mid, p, rest, rfl, hmid, hp⟩ := source_of_keyRun h
    refine ⟨pre, m, mid, p, rest, rfl, htakes, fun x hx ↦ ⟨hu x (by simp [hx]), hmid x hx⟩, hp,
      fun x hx ↦ hu x (by simp [hx])⟩
  · rintro ⟨pre, m, mid, p, rest, rfl, htakes, hmid, hp, hrest⟩
    obtain ⟨st, hdraft, -⟩ : ∃ st, keyRun ns key (some (value, .draft)) mid = some (value, st) ∧
        (ConfigStatus.draft = .live → st = .live) :=
      keyRun_keeps (fun x hx ↦ (hmid x hx).1) (.inr fun x hx ↦ (hmid x hx).2)
    obtain ⟨st', hlast, hlive⟩ : ∃ st', keyRun ns key (some (value, .live)) rest =
        some (value, st') ∧ (ConfigStatus.live = .live → st' = .live) :=
      keyRun_keeps hrest (.inl rfl)
    have htaken := advance_of_takes htakes
    rw [keyRun] at hdraft hlast htaken
    rw [keyRun, run_append, run_cons, htaken, run_append, hdraft, run_cons,
      advance_of_publishes hp, hlast, hlive rfl]

end Life

section Published
variable {parse : Parse} {requests : List ServerRequest} {schedule : List (Timestamp × Nat)}
  {ns key : String}

private theorem keyState_step {db : Database} (hclosed : db.snapshot = none)
    {m : Program.Made Timestamp StoreCall} (hdraft : m.call.OnlyDrafts) :
    keyState ns key (step db (event m)) = advance ns key (keyState ns key db) m.call := by
  obtain ⟨client, ts, c⟩ := m
  unfold keyState
  rw [event, (ledger_step db ts c.toCall c.isTransactional_toCall).1]
  cases c with
  | createConfig n k value op =>
    simp only [StoreCall.toCall, Call.edit, Ledger.row?_create, advance]
    split
    · cases db.ledger.row? ns key <;> rfl
    · rfl
  | updateConfig n k value op draft =>
    cases (hdraft : draft = true)
    simp only [StoreCall.toCall, Call.edit, Ledger.row?_update, advance]
    split
    · cases db.ledger.row? ns key <;> rfl
    · rfl
  | deleteConfig n k op draft =>
    cases (hdraft : draft = true)
    simp only [StoreCall.toCall, Call.edit, Ledger.row?_delete, advance]
    split
    · cases hr : db.ledger.row? ns key with
      | none => rfl
      | some row => cases hs : row.status <;> simp [hs, Option.filter]
    · rfl
  | publishRelease n note op =>
    simp only [StoreCall.toCall, Call.edit, hclosed, Option.isSome_none, Bool.false_eq_true,
      if_false, Ledger.row?_publish, advance]
    split
    · cases db.ledger.row? ns key <;> rfl
    · cases db.ledger.row? ns key <;> rfl
  | _ => rfl

private theorem keyState_run {made : List (Program.Made Timestamp StoreCall)}
    (hdraft : ∀ m ∈ made, m.call.OnlyDrafts) {db : Database} (hclosed : db.snapshot = none) :
    keyState ns key (run step db (made.map event)) =
      keyRun ns key (keyState ns key db) made := by
  induction made generalizing db with
  | nil => rfl
  | cons m made ih =>
    have hnext : (step db (event m)).snapshot = none := by
      rw [event, (ledger_step db m.input m.call.toCall m.call.isTransactional_toCall).2, hclosed]
    rw [List.map_cons, run_cons, ih (fun x hx ↦ hdraft x (List.mem_cons_of_mem m hx)) hnext,
      keyState_step hclosed (hdraft m (by simp))]
    rfl

private theorem takes_iff {value : String} {db : Database} {c : StoreCall} :
    Takes ns key value (keyState ns key db) c ↔
      (∃ op, c.setting = some (ns, key, value, op)) ∧ c.acknowledged db := by
  have hnone : keyState ns key db = none ↔ (db.ledger.row? ns key).isNone := by
    simp [keyState]
  have hsome : (keyState ns key db).isSome ↔ (db.ledger.row? ns key).isSome := by
    simp [keyState]
  constructor
  · rintro (⟨⟨op, rfl⟩, hs⟩ | ⟨⟨op, draft, rfl⟩, hs⟩)
    · exact ⟨⟨op, rfl⟩, hnone.mp hs⟩
    · exact ⟨⟨op, rfl⟩, hsome.mp hs⟩
  · rintro ⟨⟨op, hset⟩, hack⟩
    cases c with
    | createConfig n k v o =>
      cases hset
      exact .inl ⟨⟨op, rfl⟩, hnone.mpr hack⟩
    | updateConfig n k v o draft =>
      cases hset
      exact .inr ⟨⟨op, draft, rfl⟩, hsome.mpr hack⟩
    | _ => cases hset

private theorem setting_of_writes {request : ServerRequest} {c : StoreCall}
    (hw : request.Writes parse c) {x : String × String × String × String}
    (hc : c.setting = some x) : request.setting parse = some x := by
  cases c with
  | createConfig n k v op =>
    cases hc
    exact hw
  | updateConfig n k v op draft =>
    cases hc
    exact hw.1
  | _ => cases hc

/-- On a store that was new, a key has a published value exactly when a request set it in an
acknowledged call, a request published the namespace before any update or deletion of the key,
and no update of the key came after that. -/
theorem published_value_iff (parse : Parse) (requests : List ServerRequest)
    (schedule : List (Timestamp × Nat)) (ns key value : String) :
    (∃ c, (SqliteConfigStore.getConfig ns key false noFaults
        (served parse requests .empty schedule).shared).1 = .ok (some c) ∧ c.value = value) ↔
      ∃ pre m mid p rest,
        storeCalls parse requests .empty schedule = pre ++ m :: (mid ++ p :: rest) ∧
        (∃ request op, requests[m.client]? = some request ∧
          request.setting parse = some (ns, key, value, op) ∧
          m.call.setting = some (ns, key, value, op) ∧
          m.call.acknowledged (run step .empty (pre.map event))) ∧
        (∀ x ∈ mid, ¬ x.call.Updates ns key ∧ ¬ x.call.Deletes ns key) ∧
        (∃ request note op, requests[p.client]? = some request ∧
          request.publishing parse = some (ns, note, op) ∧
          p.call = .publishRelease ns note op) ∧
        ∀ x ∈ rest, ¬ x.call.Updates ns key := by
  have hdrafts : ∀ m ∈ storeCalls parse requests .empty schedule, m.call.OnlyDrafts := by
    intro m hm
    obtain ⟨request, _, hwrites⟩ := request_of_mem_storeCalls hm
    exact onlyDrafts_of_writes hwrites
  have hstate : keyState ns key (served parse requests .empty schedule).shared =
      keyRun ns key none (storeCalls parse requests .empty schedule) := by
    rw [shared_served]
    exact keyState_run hdrafts rfl
  have hpublished : (∃ c, (SqliteConfigStore.getConfig ns key false noFaults
      (served parse requests .empty schedule).shared).1 = .ok (some c) ∧ c.value = value) ↔
      keyState ns key (served parse requests .empty schedule).shared = some (value, .live) := by
    simp [getConfig_run, Ledger.config?, keyState, Option.filter_eq_some_iff, and_assoc, and_comm]
  rw [hpublished, hstate, keyRun_live_iff]
  have hrunUpTo {pre later : List (Program.Made Timestamp StoreCall)}
      (hsplit : storeCalls parse requests .empty schedule = pre ++ later) :
      keyRun ns key none pre = keyState ns key (run step .empty (pre.map event)) := by
    have hpre : ∀ x ∈ pre, x.call.OnlyDrafts := by
      intro x hx
      refine hdrafts x ?_
      rw [hsplit]
      exact List.mem_append_left _ hx
    have hrun : keyState ns key (run step Database.empty (pre.map event)) =
        keyRun ns key (keyState ns key Database.empty) pre := keyState_run hpre rfl
    exact hrun.symm
  constructor
  · rintro ⟨pre, m, mid, p, rest, hsplit, htakes, hmid, ⟨note, op, hp⟩, hrest⟩
    have hm : m ∈ storeCalls parse requests .empty schedule := by simp [hsplit]
    have hpm : p ∈ storeCalls parse requests .empty schedule := by simp [hsplit]
    obtain ⟨setter, hi, hset⟩ := request_of_mem_storeCalls hm
    obtain ⟨publisher, hj, hpublish⟩ := request_of_mem_storeCalls hpm
    rw [hrunUpTo hsplit] at htakes
    obtain ⟨⟨sop, hcall⟩, hack⟩ := takes_iff.mp htakes
    rw [hp] at hpublish
    exact ⟨pre, m, mid, p, rest, hsplit,
      ⟨setter, sop, hi, setting_of_writes hset hcall, hcall, hack⟩, hmid,
      ⟨publisher, note, op, hj, hpublish, hp⟩, hrest⟩
  · rintro ⟨pre, m, mid, p, rest, hsplit, ⟨setter, sop, hi, -, hcall, hack⟩, hmid,
      ⟨publisher, note, op, hj, -, hp⟩, hrest⟩
    refine ⟨pre, m, mid, p, rest, hsplit, ?_, hmid, ⟨note, op, hp⟩, hrest⟩
    rw [hrunUpTo hsplit]
    exact takes_iff.mpr ⟨⟨sop, hcall⟩, hack⟩

end Published

end ConfigCenter.Server
