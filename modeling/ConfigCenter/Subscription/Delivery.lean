import ConfigCenter.Subscription.NotificationChannel
import Mathlib.Data.List.Nodup

/-!
# Catch-up and long polling

Library `Subscription`. Any number of clients watch one namespace: each asks once
for what it missed and then waits again and again, while publishers publish. All
of them take from the one `pending_` list, which forgets neither what a client
already got as missed nor whom a notification was for.

`Undisputed` says of a wait that nobody else still needs what it takes and that
its own client does not have it already. In a run whose waits are all of this
kind every client is handed every notification exactly once.
-/

namespace ConfigCenter.Subscription
open ConfigCenter.Base NotificationChannel

/-- A client: the last release it knew, the answer of its one `getMissedNotifications` call,
and what its waits returned so far. -/
structure Watcher where
  lastReleaseId : Int
  missed : Option (List Notification) := none
  taken : List Notification := []
  deriving DecidableEq

/-- Everything the client was handed. -/
def Watcher.handed (c : Watcher) : List Notification := c.missed.getD [] ++ c.taken

/-- Clients around one channel, with a record of everything published on it. -/
structure Watch (C : Type) where
  watchers : List Watcher
  channel : NotificationChannel C := .empty
  published : List Notification := []

/-- A publication, or the next call of one client. -/
inductive WatchEvent where
  | publish (notification : Notification)
  | turn (client : Nat)

variable {C : Type} {namespaceId : String}

/-- The next call of a client: the catch-up first, then waits. -/
def Watch.call (namespaceId : String) (w : Watch C) (c : Watcher) :
    Watcher × NotificationChannel C :=
  match c.missed with
  | none =>
    ({ c with
        missed := some (w.channel.getMissedNotifications namespaceId c.lastReleaseId) }, w.channel)
  | some _ =>
    match w.channel.waitForNotification namespaceId with
    | (some n, channel) => ({ c with taken := c.taken ++ [n] }, channel)
    | (none, channel) => (c, channel)

/-- One event; a turn of a client that does not exist is skipped. -/
def Watch.step (namespaceId : String) (w : Watch C) : WatchEvent → Watch C
  | .publish n =>
    { w with channel := (w.channel.publish n).2, published := w.published ++ [n] }
  | .turn i =>
    match w.watchers[i]? with
    | none => w
    | some c =>
      { w with
        watchers := w.watchers.set i (w.call namespaceId c).1
        channel := (w.call namespaceId c).2 }

/-- No client was handed a notification twice, and no client that waits now would time out
while something it needs was published and not handed to it. -/
structure Delivered (namespaceId : String) (w : Watch C) : Prop where
  once : ∀ c ∈ w.watchers, c.handed.Nodup
  complete : ∀ c ∈ w.watchers, c.missed.isSome →
    (w.channel.waitForNotification namespaceId).1 = none →
    ∀ n ∈ w.published, n.namespaceId = namespaceId → c.lastReleaseId < n.releaseId →
      n ∈ c.handed

/-- A publication carries a release id above all earlier ones. -/
def Rising (w : Watch C) : WatchEvent → Prop
  | .publish n => ∀ m ∈ w.published, m.releaseId < n.releaseId
  | .turn _ => True

/-- A client past its catch-up did not get `n` by it although it started below `n`. -/
def Watcher.Needs (c : Watcher) (n : Notification) : Prop :=
  ∃ missed ∈ c.missed, n ∉ missed ∧ c.lastReleaseId < n.releaseId

instance (c : Watcher) (n : Notification) : Decidable (c.Needs n) :=
  inferInstanceAs (Decidable (∃ missed ∈ c.missed, n ∉ missed ∧ c.lastReleaseId < n.releaseId))

/-- A wait takes the first pending notification of the namespace. Its client did not get this
one by its catch-up, and no other client needs it. -/
def Undisputed (namespaceId : String) (w : Watch C) : WatchEvent → Prop
  | .publish _ => True
  | .turn i => ∀ c ∈ w.watchers[i]?, ∀ missed ∈ c.missed,
      ∀ n ∈ (ofNamespace namespaceId w.channel.pending).head?,
        n ∉ missed ∧ ∀ d ∈ w.watchers.zipIdx, d.2 ≠ i → ¬ d.1.Needs n

instance (w : Watch C) (e : WatchEvent) : Decidable (Rising w e) :=
  match e with
  | .publish n => inferInstanceAs (Decidable (∀ m ∈ w.published, m.releaseId < n.releaseId))
  | .turn _ => isTrue True.intro

instance (w : Watch C) (e : WatchEvent) : Decidable (Undisputed namespaceId w e) :=
  match e with
  | .publish _ => isTrue True.intro
  | .turn i => inferInstanceAs (Decidable (∀ c ∈ w.watchers[i]?, ∀ missed ∈ c.missed,
      ∀ n ∈ (ofNamespace namespaceId w.channel.pending).head?,
        n ∉ missed ∧ ∀ d ∈ w.watchers.zipIdx, d.2 ≠ i → ¬ d.1.Needs n))

/-! ### The invariant -/

/-- What a client past its catch-up was handed: nothing twice, nothing unpublished, nothing
still pending, and everything it needs that is not pending. -/
structure Watcher.Served (namespaceId : String) (published pending : List Notification)
    (c : Watcher) : Prop where
  nodup : c.handed.Nodup
  real : ∀ n ∈ c.handed, n ∈ published
  taken : ∀ n ∈ c.taken, n ∉ pending
  covered : ∀ n ∈ published, n.namespaceId = namespaceId → c.lastReleaseId < n.releaseId →
    n ∈ c.handed ∨ n ∈ pending

/-- A client that has not caught up yet has nothing; one that has is served. -/
def Watcher.OnTrack (namespaceId : String) (published pending : List Notification)
    (c : Watcher) : Prop :=
  (c.missed = none ∧ c.taken = []) ∨
    (c.missed.isSome ∧ c.Served namespaceId published pending)

/-- The channel remembers what was published, and every client is on track. -/
structure Watch.Sound (namespaceId : String) (w : Watch C) : Prop where
  published : w.published.Nodup
  history : (w.channel.history namespaceId).getD [] = ofNamespace namespaceId w.published
  pending : w.channel.pending ⊆ w.published
  nodup : w.channel.pending.Nodup
  watchers : ∀ (i : Nat) (c : Watcher), w.watchers[i]? = some c →
    c.OnTrack namespaceId w.published w.channel.pending

/-- Sound states have delivered everything exactly once. -/
theorem Watch.Sound.delivered {w : Watch C} (h : w.Sound namespaceId) :
    Delivered namespaceId w where
  once c hc := by
    obtain ⟨i, hi⟩ := List.mem_iff_getElem?.mp hc
    obtain ⟨hm, ht⟩ | ⟨_, hs⟩ := h.watchers i c hi
    · simp [Watcher.handed, hm, ht]
    · exact hs.nodup
  complete c hc hm htimeout n hn hns hlast := by
    obtain ⟨i, hi⟩ := List.mem_iff_getElem?.mp hc
    obtain ⟨hnone, _⟩ | ⟨_, hs⟩ := h.watchers i c hi
    · rw [hnone] at hm
      cases hm
    · obtain hin | hpending := hs.covered n hn hns hlast
      · exact hin
      · have hempty : takePending namespaceId w.channel.pending = none := by
          unfold waitForNotification at htimeout
          split at htimeout
          · cases htimeout
          · assumption
        have hmem : n ∈ ofNamespace namespaceId w.channel.pending :=
          mem_ofNamespace.mpr ⟨hpending, hns⟩
        rw [ofNamespace_eq_nil_of_takePending hempty] at hmem
        cases hmem

/-! ### One event -/

private theorem sound_publish {w : Watch C} (h : w.Sound namespaceId) {n : Notification}
    (hrise : Rising w (.publish n)) : (w.step namespaceId (.publish n)).Sound namespaceId := by
  have hnew : n ∉ w.published := fun hn ↦ Int.lt_irrefl _ (hrise n hn)
  refine ⟨?_, ?_, ?_, ?_, ?_⟩
  · exact List.nodup_append.mpr ⟨h.published, List.nodup_singleton n, by
      rintro a ha b hb rfl
      exact hnew (List.mem_singleton.mp hb ▸ ha)⟩
  · simp only [Watch.step, history_publish, h.history, ofNamespace_append]
  · intro m hm
    simp only [Watch.step, NotificationChannel.publish, List.mem_append] at hm ⊢
    exact hm.imp (fun hp ↦ h.pending hp) id
  · refine List.nodup_append.mpr ⟨h.nodup, List.nodup_singleton n, ?_⟩
    rintro a ha b hb rfl
    exact hnew (List.mem_singleton.mp hb ▸ h.pending ha)
  · intro i c hc
    refine (h.watchers i c hc).imp id (And.imp id fun hs ↦ ⟨hs.nodup, ?_, ?_, ?_⟩)
    · intro m hm
      exact List.mem_append_left _ (hs.real m hm)
    · intro m hm hp
      simp only [Watch.step, NotificationChannel.publish, List.mem_append,
        List.mem_singleton] at hp
      obtain hp | rfl := hp
      · exact hs.taken m hm hp
      · exact hnew (hs.real m (List.mem_append_right _ hm))
    · intro m hm hns hlast
      simp only [Watch.step, NotificationChannel.publish, List.mem_append,
        List.mem_singleton] at hm ⊢
      obtain hm | rfl := hm
      · exact (hs.covered m hm hns hlast).imp id Or.inl
      · exact .inr (.inr rfl)

private theorem sound_catchUp {w : Watch C} (h : w.Sound namespaceId) {i : Nat} {c : Watcher}
    (hc : w.watchers[i]? = some c) (hm : c.missed = none) :
    (w.step namespaceId (.turn i)).Sound namespaceId := by
  simp only [Watch.step, Watch.call, hc, hm]
  refine ⟨h.published, h.history, h.pending, h.nodup, ?_⟩
  intro j d hd
  rw [List.getElem?_set] at hd
  split at hd
  · next hj =>
    split at hd
    · cases hd
      refine .inr ⟨rfl, ?_⟩
      obtain ⟨_, htaken⟩ | ⟨hsome, _⟩ := h.watchers i c hc
      · have hget : w.channel.getMissedNotifications namespaceId c.lastReleaseId =
            (ofNamespace namespaceId w.published).filter (c.lastReleaseId < ·.releaseId) := by
          rw [getMissedNotifications_eq, h.history]
        have hhanded : ∀ n, n ∈ (ofNamespace namespaceId w.published).filter
            (c.lastReleaseId < ·.releaseId) ↔
              (n ∈ w.published ∧ n.namespaceId = namespaceId) ∧ c.lastReleaseId < n.releaseId := by
          simp [mem_ofNamespace]
        refine ⟨?_, ?_, ?_, ?_⟩
        · simp only [Watcher.handed, htaken, hget, Option.getD_some, List.append_nil]
          exact (h.published.filter _).filter _
        · simp only [Watcher.handed, htaken, hget, Option.getD_some, List.append_nil, hhanded]
          exact fun n hn ↦ hn.1.1
        · simp [htaken]
        · simp only [Watcher.handed, htaken, hget, Option.getD_some, List.append_nil, hhanded]
          exact fun n hn hns hlast ↦ .inl ⟨⟨hn, hns⟩, hlast⟩
      · rw [hm] at hsome
        cases hsome
    · cases hd
  · exact h.watchers j d hd

private theorem served_take {published pending rest : List Notification} {c : Watcher}
    {missed : List Notification} {n : Notification}
    (hs : c.Served namespaceId published pending) (hm : c.missed = some missed)
    (hfresh : n ∉ missed) (hpn : n ∈ pending) (hn : n ∉ rest)
    (hrest : ∀ m, m ∈ pending ↔ m = n ∨ m ∈ rest) (hpub : n ∈ published) :
    Watcher.Served namespaceId published rest
      { c with missed := some missed, taken := c.taken ++ [n] } := by
  have hhanded : Watcher.handed { c with missed := some missed, taken := c.taken ++ [n] } =
      c.handed ++ [n] := by
    simp [Watcher.handed, hm]
  have hnew : n ∉ c.handed := by
    simp only [Watcher.handed, hm, Option.getD_some, List.mem_append, not_or]
    exact ⟨hfresh, fun ht ↦ hs.taken n ht hpn⟩
  refine ⟨?_, ?_, ?_, ?_⟩
  · rw [hhanded, ← List.concat_eq_append]
    exact hs.nodup.concat hnew
  · intro m hin
    rw [hhanded, List.mem_append, List.mem_singleton] at hin
    obtain hin | rfl := hin
    · exact hs.real m hin
    · exact hpub
  · intro m hin hr
    obtain hin | hin := List.mem_append.mp hin
    · exact hs.taken m hin ((hrest m).mpr (.inr hr))
    · exact hn (List.mem_singleton.mp hin ▸ hr)
  · intro m hmp hns hlast
    rw [hhanded, List.mem_append, List.mem_singleton]
    obtain hin | hin := hs.covered m hmp hns hlast
    · exact .inl (.inl hin)
    · exact ((hrest m).mp hin).imp Or.inr id

private theorem served_other {published pending rest : List Notification} {c : Watcher}
    {n : Notification} (hs : c.Served namespaceId published pending) (hsome : c.missed.isSome)
    (hneed : ¬ c.Needs n) (hrest : ∀ m, m ∈ pending ↔ m = n ∨ m ∈ rest) :
    c.Served namespaceId published rest := by
  refine ⟨hs.nodup, hs.real, fun m hin hr ↦ hs.taken m hin ((hrest m).mpr (.inr hr)), ?_⟩
  intro m hmp hns hlast
  obtain hin | hin := hs.covered m hmp hns hlast
  · exact .inl hin
  · obtain rfl | hin := (hrest m).mp hin
    · obtain ⟨missed, hm⟩ := Option.isSome_iff_exists.mp hsome
      refine .inl (List.mem_append_left _ ?_)
      by_contra hnot
      exact hneed ⟨missed, hm, by simpa [hm] using hnot, hlast⟩
    · exact .inr hin

private theorem sound_wait {w : Watch C} (h : w.Sound namespaceId) {i : Nat} {c : Watcher}
    {missed : List Notification} (hc : w.watchers[i]? = some c) (hm : c.missed = some missed)
    (hu : Undisputed namespaceId w (.turn i)) :
    (w.step namespaceId (.turn i)).Sound namespaceId := by
  simp only [Watch.step, Watch.call, hc, hm, waitForNotification]
  cases hscan : takePending namespaceId w.channel.pending with
  | none =>
    simpa only [set_of_getElem? hc] using h
  | some found =>
    obtain ⟨n, rest⟩ := found
    obtain ⟨hns, before, after, hp, rfl, hb⟩ := takePending_eq_some hscan
    have hhead : (ofNamespace namespaceId w.channel.pending).head? = some n := by
      rw [hp, ofNamespace_append, hb, List.nil_append, ofNamespace_cons_of_eq hns]
      rfl
    obtain ⟨hfresh, hothers⟩ := hu c hc missed hm n hhead
    have hpn : n ∈ w.channel.pending := by simp [hp]
    have hnodup := h.nodup
    rw [hp, List.nodup_middle, List.nodup_cons] at hnodup
    -- what is pending afterwards is what was pending before, without `n`
    have hrest : ∀ m, m ∈ w.channel.pending ↔ m = n ∨ m ∈ before ++ after := by
      intro m
      simp only [hp, List.mem_append, List.mem_cons]
      tauto
    refine ⟨h.published, h.history, ?_, hnodup.2, ?_⟩
    · exact fun m hin ↦ h.pending ((hrest m).mpr (.inr hin))
    · intro j d hd
      rw [List.getElem?_set] at hd
      split at hd
      · split at hd
        · cases hd
          refine .inr ⟨rfl, ?_⟩
          obtain ⟨hnone, _⟩ | ⟨_, hs⟩ := h.watchers i c hc
          · rw [hm] at hnone
            cases hnone
          · exact served_take hs hm hfresh hpn hnodup.1 hrest (h.pending hpn)
        · cases hd
      · next hj =>
        obtain hnone | ⟨hsome, hs⟩ := h.watchers j d hd
        · exact .inl hnone
        · have hneed : ¬ d.Needs n :=
            hothers (d, j) (List.mk_mem_zipIdx_iff_getElem?.mpr hd) (Ne.symm hj)
          exact .inr ⟨hsome, served_other hs hsome hneed hrest⟩

/-- One event that raises the release ids and takes nothing disputed keeps the system sound. -/
theorem Watch.sound_step {w : Watch C} {e : WatchEvent} (h : w.Sound namespaceId)
    (hrise : Rising w e) (hu : Undisputed namespaceId w e) :
    (w.step namespaceId e).Sound namespaceId := by
  cases e with
  | publish n => exact sound_publish h hrise
  | turn i =>
    cases hc : w.watchers[i]? with
    | none => simpa only [Watch.step, hc] using h
    | some c =>
      cases hm : c.missed with
      | none => exact sound_catchUp h hc hm
      | some missed => exact sound_wait h hc hm hu

/-! ### Runs -/

/-- Clients that have called nothing yet, around a new channel. -/
def Watch.start (C : Type) (lasts : List Int) : Watch C :=
  { watchers := lasts.map fun last ↦ { lastReleaseId := last } }

/-- A watch that starts is sound. -/
theorem Watch.sound_start (lasts : List Int) : (Watch.start C lasts).Sound namespaceId := by
  refine ⟨List.nodup_nil, rfl, List.Subset.refl _, List.nodup_nil, ?_⟩
  intro i c hc
  obtain ⟨last, _, rfl⟩ := List.mem_map.mp (List.mem_of_getElem? hc)
  exact .inl ⟨rfl, rfl⟩

/-- Under rising release ids, in every state of a run whose waits take nothing disputed every
client has been handed what it needs exactly once. -/
theorem delivered_of_undisputed (C : Type) (namespaceId : String) (lasts : List Int)
    (es : List WatchEvent)
    (hrise : Along (Watch.step namespaceId) Rising (Watch.start C lasts) es)
    (hu : Along (Watch.step namespaceId) (Undisputed namespaceId) (Watch.start C lasts) es)
    (pre : List WatchEvent) (hpre : pre <+: es) :
    Delivered namespaceId (run (Watch.step namespaceId) (Watch.start C lasts) pre) := by
  obtain ⟨rest, rfl⟩ := hpre
  have hboth := (along_and _ _ _ _ _).mpr
    ⟨((along_append _ _ _ _ _).mp hrise).1, ((along_append _ _ _ _ _).mp hu).1⟩
  exact (run_invariant_along (Watch.sound_start lasts)
    (fun w e hw he ↦ Watch.sound_step hw he.1 he.2) hboth).delivered

/-- One client waits for the first release; the other catches up after it and times out. -/
theorem delivered_to_two_watchers :
    Delivered "shop" (run (Watch.step "shop") (Watch.start Unit [0, 0])
      [.turn 0, .publish { namespaceId := "shop", releaseId := 1 }, .turn 0, .turn 1,
        .publish { namespaceId := "bank", releaseId := 2 }, .turn 1]) :=
  delivered_of_undisputed Unit "shop" [0, 0] _ (by decide) (by decide) _ List.prefix_rfl

/-- A client that catches up after a publication is handed it again by its first wait. -/
theorem not_delivered_after_catchUp :
    let es : List WatchEvent :=
      [.publish { namespaceId := "shop", releaseId := 1 }, .turn 0, .turn 0]
    Along (Watch.step "shop") Rising (Watch.start Unit [0]) es ∧
      ¬ Delivered "shop" (run (Watch.step "shop") (Watch.start Unit [0]) es) := by
  refine ⟨by decide, fun h ↦ ?_⟩
  have hnodup := h.once
    { lastReleaseId := 0, missed := some [{ namespaceId := "shop", releaseId := 1 }],
      taken := [{ namespaceId := "shop", releaseId := 1 }] } (by decide)
  exact absurd hnodup (by decide)

end ConfigCenter.Subscription
