import ConfigCenter.Base.Cursor
import ConfigCenter.Base.Run
import ConfigCenter.Subscription.NamespaceIsolation
import Mathlib.Data.Int.Order.Basic

/-!
# Catch-up polling

Library `Subscription`. A client that asks for missed notifications again and
again, each time from the last release it was given, among any calls of others.
Waits take from `pending_` and leave `history_` alone, and `history_` is never
trimmed, so the client reads an append-only log by a cursor.
-/

namespace ConfigCenter.Subscription
open ConfigCenter.Base NotificationChannel

variable {C : Type}

/-- The channel with everything published on it, and one client that polls: the last release
id it was given and all it was given. -/
structure CatchUp (C : Type) where
  channel : NotificationChannel C := .empty
  published : List Notification := []
  last : Int
  received : List Notification := []

/-- A call of someone on the channel, or a poll of the client. -/
inductive CatchUpEvent (C : Type) where
  | call (call : ChannelCall C)
  | poll

/-- What a call publishes. -/
def ChannelCall.published : ChannelCall C → List Notification
  | .publish n => [n]
  | _ => []

/-- One event; a poll appends what it returns and moves the client to its last element. -/
def CatchUp.step (namespaceId : String) (s : CatchUp C) : CatchUpEvent C → CatchUp C
  | .call call =>
    { s with
      channel := (s.channel.perform call).2
      published := s.published ++ call.published }
  | .poll =>
    let missed := s.channel.getMissedNotifications namespaceId s.last
    { s with
      last := match missed.getLast? with
        | none => s.last
        | some n => n.releaseId
      received := s.received ++ missed }

/-- A publication carries a release id above all earlier ones of its namespace. -/
def RisingInNamespace (s : CatchUp C) : CatchUpEvent C → Prop
  | .call (.publish n) =>
    ∀ m ∈ s.published, m.namespaceId = n.namespaceId → m.releaseId < n.releaseId
  | _ => True

instance (s : CatchUp C) (e : CatchUpEvent C) : Decidable (RisingInNamespace s e) :=
  match e with
  | .call (.publish n) => inferInstanceAs (Decidable (∀ m ∈ s.published,
      m.namespaceId = n.namespaceId → m.releaseId < n.releaseId))
  | .call (.subscribe _ _) | .call (.unsubscribe _) | .call (.waitForNotification _)
  | .call (.getMissedNotifications _ _) | .poll => isTrue True.intro

/-! ### The history -/

/-- A call adds to the history of a namespace what it publishes there. -/
theorem history_perform (ch : NotificationChannel C) (call : ChannelCall C)
    (namespaceId : String) :
    ((ch.perform call).2.history namespaceId).getD [] =
      (ch.history namespaceId).getD [] ++ ofNamespace namespaceId call.published := by
  cases call with
  | publish n => exact history_publish ch n namespaceId
  | waitForNotification other =>
    rw [perform, (waitForNotification_maps ch other).2]
    exact (List.append_nil _).symm
  | subscribe _ _ | unsubscribe _ | getMissedNotifications _ _ =>
    exact (List.append_nil _).symm

/-! ### The client -/

/-- The history is what was published, in rising order, and the client has read some part of
it from its start on. -/
structure CatchUp.Sound (namespaceId : String) (start : Int) (s : CatchUp C) : Prop where
  history : (s.channel.history namespaceId).getD [] = ofNamespace namespaceId s.published
  rising : (ofNamespace namespaceId s.published).Pairwise (fun a b ↦ a.releaseId < b.releaseId)
  last : s.last = cursor Notification.releaseId start s.received
  received : ∃ seen rest, ofNamespace namespaceId s.published = seen ++ rest ∧
    s.received = above Notification.releaseId start seen

variable {namespaceId : String} {start : Int}

private theorem CatchUp.sound_start :
    CatchUp.Sound (C := C) namespaceId start { last := start } where
  history := rfl
  rising := List.Pairwise.nil
  last := rfl
  received := ⟨[], [], rfl, rfl⟩

private theorem CatchUp.sound_call {s : CatchUp C} (h : s.Sound namespaceId start)
    {call : ChannelCall C} (hrise : RisingInNamespace s (.call call)) :
    (s.step namespaceId (.call call)).Sound namespaceId start := by
  obtain ⟨seen, rest, hsplit, hreceived⟩ := h.received
  refine ⟨?_, ?_, h.last, seen, rest ++ ofNamespace namespaceId call.published, ?_, hreceived⟩
  · simp only [step, history_perform, h.history, ofNamespace_append]
  · simp only [step, ofNamespace_append]
    refine List.pairwise_append.mpr ⟨h.rising, ?_, ?_⟩
    · refine List.Pairwise.filter _ ?_
      cases call <;> simp [ChannelCall.published]
    · intro a ha b hb
      obtain ⟨hap, han⟩ := mem_ofNamespace.mp ha
      obtain ⟨hbp, hbn⟩ := mem_ofNamespace.mp hb
      cases call with
      | publish n =>
        rw [List.mem_singleton.mp hbp] at hbn ⊢
        exact hrise a hap (han.trans hbn.symm)
      | _ => cases hbp
  · simp only [step, ofNamespace_append, hsplit, List.append_assoc]

-- A poll reads on from where the client stands to the end of the history.
private theorem CatchUp.received_poll {s : CatchUp C} (h : s.Sound namespaceId start) :
    (s.step namespaceId .poll).received =
      above Notification.releaseId start (ofNamespace namespaceId s.published) := by
  obtain ⟨seen, rest, hsplit, hreceived⟩ := h.received
  have hrising := h.rising
  rw [hsplit] at hrising
  simp only [step, getMissedNotifications_eq, h.history, h.last, hreceived, hsplit]
  exact above_append_cursor hrising start

private theorem CatchUp.sound_poll {s : CatchUp C} (h : s.Sound namespaceId start) :
    (s.step namespaceId .poll).Sound namespaceId start where
  history := h.history
  rising := h.rising
  last := by
    have hmoved : (s.step namespaceId .poll).last = cursor Notification.releaseId s.last
        (s.channel.getMissedNotifications namespaceId s.last) := by
      simp only [step, cursor]
      cases (s.channel.getMissedNotifications namespaceId s.last).getLast? <;> rfl
    rw [hmoved, h.last, cursor_append, ← h.last]
    rfl
  received := ⟨ofNamespace namespaceId s.published, [], (List.append_nil _).symm,
    CatchUp.received_poll h⟩

private theorem CatchUp.sound_run {es : List (CatchUpEvent C)}
    (hrise : Along (CatchUp.step namespaceId) RisingInNamespace { last := start } es) :
    (run (CatchUp.step namespaceId) { last := start } es).Sound namespaceId start := by
  refine run_invariant_along CatchUp.sound_start (fun s e hs he ↦ ?_) hrise
  cases e with
  | call call => exact CatchUp.sound_call hs he
  | poll => exact CatchUp.sound_poll hs

/-- After each of its polls the client has been given exactly the notifications of its namespace
published so far above its start, each once and in the order of publication. -/
theorem received_after_poll (namespaceId : String) (start : Int) (es : List (CatchUpEvent C))
    (hrise : Along (CatchUp.step namespaceId) RisingInNamespace { last := start } es)
    (pre : List (CatchUpEvent C)) (hpre : pre ++ [.poll] <+: es) :
    let s := run (CatchUp.step namespaceId) { last := start } (pre ++ [.poll])
    s.received = s.published.filter
        (fun n ↦ n.namespaceId = namespaceId ∧ start < n.releaseId) ∧
      s.received.Nodup := by
  obtain ⟨post, rfl⟩ := hpre
  have hpolled := ((along_append _ _ _ _ post).mp hrise).1
  have hbefore := CatchUp.sound_run ((along_concat _ _ _ pre .poll).mp hpolled).1
  have hafter := CatchUp.sound_run hpolled
  have hreceived := CatchUp.received_poll hbefore
  intro s
  have hs : s = (run (CatchUp.step namespaceId) { last := start } pre).step namespaceId .poll :=
    run_concat ..
  rw [← hs] at hreceived
  have hpublished : s.published =
      (run (CatchUp.step namespaceId) { last := start } pre).published := by rw [hs]; rfl
  rw [← hpublished] at hreceived
  constructor
  · rw [hreceived, above, ofNamespace, List.filter_filter]
    refine List.filter_congr fun n _ ↦ ?_
    rw [Bool.decide_and, Bool.and_comm]
  · rw [hreceived]
    exact (hafter.rising.imp fun hlt heq ↦ by rw [heq] at hlt; omega).filter _

/-- Two namespaces, a wait that consumes a notification, and three polls from release 1 on. -/
theorem received_after_poll_shop :
    let notice (namespaceId : String) (releaseId : Int) : CatchUpEvent String :=
      .call (.publish { namespaceId, releaseId })
    let es : List (CatchUpEvent String) :=
      [notice "shop" 1, notice "shop" 2, notice "other" 1, .call (.waitForNotification "shop"),
        .poll, notice "shop" 5, .call (.subscribe "shop" "callback"), .poll, .poll]
    Along (CatchUp.step "shop") RisingInNamespace { last := 1 } es ∧
      ∀ pre, pre ++ [.poll] <+: es →
        let s := run (CatchUp.step "shop") { last := 1 } (pre ++ [.poll])
        s.received = s.published.filter
            (fun n ↦ n.namespaceId = "shop" ∧ 1 < n.releaseId) ∧
          s.received.Nodup :=
  ⟨by decide, fun pre hpre ↦ received_after_poll "shop" 1 _ (by decide) pre hpre⟩

end ConfigCenter.Subscription
