import ConfigCenter.Base.Fifo
import ConfigCenter.Subscription.NamespaceIsolation

/-!
# Long polling

Library `Subscription`. Any number of callers inside `waitForNotification`, each of
which scans `pending_` when it begins, at every wake-up and once more when its time
is over. The predicate of `wait_for` takes what it finds, so every one of these
scans may hand a notification out. For each namespace the channel is a queue: what
is published leaves it once, in order, or is still pending.
-/

namespace ConfigCenter.Subscription
open ConfigCenter.Base NotificationChannel

variable {C : Type}

/-- The channel and the namespaces of the callers that are blocked in `wait_for`. -/
structure Polling (C : Type) where
  channel : NotificationChannel C := .empty
  blocked : List String := []

/-- Calls of the channel. A wait begins with `wait`; a blocked caller wakes up, notified or
not, or its time is over. -/
inductive PollingEvent (C : Type) where
  | subscribe (namespaceId : String) (callback : C)
  | unsubscribe (namespaceId : String)
  | publish (notification : Notification)
  | getMissedNotifications (namespaceId : String) (lastReleaseId : Int)
  | wait (namespaceId : String)
  | wake (caller : Nat)
  | expire (caller : Nat)

/-- A wait up to the point where it blocks, `notification_channel.cpp:39–50`: the first scan,
and without a match the predicate, which `wait_for` evaluates before it blocks. -/
def NotificationChannel.beginWait (ch : NotificationChannel C) (namespaceId : String) :
    Option Notification × NotificationChannel C :=
  match ch.waitForNotification namespaceId with
  | (some n, ch') => (some n, ch')
  | (none, ch') => ch'.waitForNotification namespaceId

/-- The notification that an event publishes. -/
def PollingEvent.published : PollingEvent C → List Notification
  | .publish n => [n]
  | _ => []

namespace Polling

/-- One event; a turn of a caller that does not exist is skipped. -/
def step (s : Polling C) : PollingEvent C → Polling C
  | .subscribe namespaceId callback =>
    { s with channel := s.channel.subscribe namespaceId callback }
  | .unsubscribe namespaceId => { s with channel := s.channel.unsubscribe namespaceId }
  | .publish n => { s with channel := (s.channel.publish n).2 }
  | .getMissedNotifications _ _ => s
  | .wait namespaceId =>
    match s.channel.beginWait namespaceId with
    | (some _, channel) => { s with channel }
    | (none, channel) => { channel, blocked := s.blocked ++ [namespaceId] }
  | .wake i =>
    match s.blocked[i]? with
    | none => s
    | some namespaceId =>
      match s.channel.waitForNotification namespaceId with
      | (some _, channel) => { channel, blocked := s.blocked.eraseIdx i }
      | (none, channel) => { s with channel }
  | .expire i =>
    match s.blocked[i]? with
    | none => s
    | some namespaceId =>
      { channel := (s.channel.waitForNotification namespaceId).2
        blocked := s.blocked.eraseIdx i }

/-- What an event hands out, with the namespace of the wait that returns it. -/
def handsOut (s : Polling C) : PollingEvent C → List (String × Notification)
  | .wait namespaceId => (s.channel.beginWait namespaceId).1.toList.map fun n ↦ (namespaceId, n)
  | .wake i | .expire i =>
    match s.blocked[i]? with
    | none => []
    | some namespaceId =>
      (s.channel.waitForNotification namespaceId).1.toList.map fun n ↦ (namespaceId, n)
  | _ => []

/-- What successful waits on a namespace return in a run, in order. -/
def handedOut (namespaceId : String) (s : Polling C) (es : List (PollingEvent C)) :
    List Notification :=
  (outputs step handsOut s es).filterMap fun h ↦ if h.1 = namespaceId then some h.2 else none

/-! ### One event -/

/-- The predicate finds nothing right after a scan that found nothing. -/
theorem beginWait_eq (ch : NotificationChannel C) (namespaceId : String) :
    ch.beginWait namespaceId = ch.waitForNotification namespaceId := by
  unfold beginWait
  cases h : takePending namespaceId ch.pending with
  | none => simp [waitForNotification, h]
  | some found => simp [waitForNotification, h]

/-- An event scans for one namespace and hands out what it finds, or publishes, or leaves both
the pending notifications and the history alone. -/
theorem step_cases (s : Polling C) (e : PollingEvent C) :
    (∃ ns, (s.step e).channel = (s.channel.waitForNotification ns).2 ∧
      s.handsOut e = (s.channel.waitForNotification ns).1.toList.map (fun n ↦ (ns, n)) ∧
      e.published = []) ∨
    (∃ n, (s.step e).channel = (s.channel.publish n).2 ∧ s.handsOut e = [] ∧
      e.published = [n]) ∨
    ((s.step e).channel.pending = s.channel.pending ∧
      (s.step e).channel.history = s.channel.history ∧ s.handsOut e = [] ∧
      e.published = []) := by
  cases e with
  | subscribe ns callback => exact .inr (.inr ⟨rfl, rfl, rfl, rfl⟩)
  | unsubscribe ns => exact .inr (.inr ⟨rfl, rfl, rfl, rfl⟩)
  | getMissedNotifications ns last => exact .inr (.inr ⟨rfl, rfl, rfl, rfl⟩)
  | publish n => exact .inr (.inl ⟨n, rfl, rfl, rfl⟩)
  | wait ns =>
    refine .inl ⟨ns, ?_, ?_, rfl⟩
    · simp only [step, beginWait_eq]
      cases s.channel.waitForNotification ns with
      | mk result channel => cases result <;> rfl
    · rw [handsOut, beginWait_eq]
  | wake i =>
    cases hi : s.blocked[i]? with
    | none => exact .inr (.inr (by simp [step, handsOut, hi, PollingEvent.published]))
    | some ns =>
      refine .inl ⟨ns, ?_, ?_, rfl⟩
      · simp only [step, hi]
        cases s.channel.waitForNotification ns with
        | mk result channel => cases result <;> rfl
      · simp only [handsOut, hi]
  | expire i =>
    cases hi : s.blocked[i]? with
    | none => exact .inr (.inr (by simp [step, handsOut, hi, PollingEvent.published]))
    | some ns =>
      refine .inl ⟨ns, ?_, ?_, rfl⟩
      · simp only [step, hi]
      · simp only [handsOut, hi]

/-- What was pending or is published for a namespace is handed out or pending after the event,
in the same order. -/
theorem pending_step (namespaceId : String) (s : Polling C) (e : PollingEvent C) :
    ofNamespace namespaceId s.channel.pending ++ ofNamespace namespaceId e.published =
      (s.handsOut e).filterMap (fun h ↦ if h.1 = namespaceId then some h.2 else none) ++
        ofNamespace namespaceId (s.step e).channel.pending := by
  rcases s.step_cases e with ⟨ns, hch, hout, hpub⟩ | ⟨n, hch, hout, hpub⟩ | ⟨hpend, -, hout, hpub⟩
  · rw [hch, hout, hpub, ofNamespace_nil, List.append_nil]
    by_cases hns : ns = namespaceId
    · subst hns
      obtain ⟨hfound, hrest⟩ := waitForNotification_ofNamespace s.channel ns
      rw [hfound, hrest]
      cases ofNamespace ns s.channel.pending <;> simp
    · rw [ofNamespace_waitForNotification_of_ne s.channel hns]
      cases (s.channel.waitForNotification ns).1 <;> simp [hns]
  · rw [hch, hout, hpub]
    exact (ofNamespace_append _ _ _).symm
  · rw [hpend, hout, hpub]
    simp

/-- The history of a namespace grows by what is published for it. -/
theorem history_step (namespaceId : String) (s : Polling C) (e : PollingEvent C) :
    ((s.step e).channel.history namespaceId).getD [] =
      (s.channel.history namespaceId).getD [] ++ ofNamespace namespaceId e.published := by
  rcases s.step_cases e with ⟨ns, hch, -, hpub⟩ | ⟨n, hch, -, hpub⟩ | ⟨-, hhist, -, hpub⟩
  · rw [hch, hpub, (waitForNotification_maps s.channel ns).2]
    simp
  · rw [hch, hpub, history_publish]
  · rw [hhist, hpub]
    simp

/-! ### Runs -/

private theorem flatMap_ofNamespace (namespaceId : String) (es : List (PollingEvent C)) :
    es.flatMap (fun e ↦ ofNamespace namespaceId e.published) =
      ofNamespace namespaceId (es.flatMap PollingEvent.published) := by
  rw [ofNamespace, List.filter_flatMap]
  rfl

/-- Long polling is a queue for each namespace: what is published is what successful waits
return, in order, followed by what is pending, and the history holds all of it. -/
theorem published_eq_handedOut_append_pending (es : List (PollingEvent C))
    (namespaceId : String) :
    let final := run step (σ := Polling C) {} es
    let published := ofNamespace namespaceId (es.flatMap PollingEvent.published)
    published =
        handedOut namespaceId {} es ++ ofNamespace namespaceId final.channel.pending ∧
      (final.channel.history namespaceId).getD [] = published := by
  intro final published
  have hpub : es.flatMap (fun e ↦ ofNamespace namespaceId e.published) = published :=
    flatMap_ofNamespace namespaceId es
  have hqueue := queue_run (pending_step (C := C) namespaceId) {} es
  let log (s : Polling C) : List Notification := (s.channel.history namespaceId).getD []
  have hstep : ∀ s e, log (step s e) = log s ++ ofNamespace namespaceId e.published :=
    history_step namespaceId
  have hlog := log_run hstep {} es
  rw [hpub] at hqueue hlog
  refine ⟨?_, hlog⟩
  rw [handedOut, outputs_filterMap]
  exact hqueue

end Polling
end ConfigCenter.Subscription
