import ConfigCenter.Subscription.NotificationChannel

/-!
# Namespaces in the notification channel

Library `Subscription`. Runs of `NotificationChannel` calls with everything they
let a caller observe. All namespaces share `pending_`, but a scan passes over the
notifications of the others; `SameFor` relates two channels that hold the same
for one namespace, and it is an unwinding of what this namespace can observe.
-/

namespace ConfigCenter.Subscription
open ConfigCenter.Base NotificationChannel

/-- Calls of `NotificationChannel`, `notification_channel.h:25–31`. -/
inductive ChannelCall (C : Type) where
  | subscribe (namespaceId : String) (callback : C)
  | unsubscribe (namespaceId : String)
  | publish (notification : Notification)
  | waitForNotification (namespaceId : String)
  | getMissedNotifications (namespaceId : String) (lastReleaseId : Int)

/-- What a call lets be observed, under the namespace it is about. -/
inductive Observation (C : Type) where
  | invoked (namespaceId : String) (callback : C) (notification : Notification)
  | waited (namespaceId : String) (result : Option Notification)
  | missed (namespaceId : String) (notifications : List Notification)

variable {C : Type}

/-- The namespace that a call concerns. -/
def ChannelCall.namespaceId : ChannelCall C → String
  | .subscribe namespaceId _ => namespaceId
  | .unsubscribe namespaceId => namespaceId
  | .publish notification => notification.namespaceId
  | .waitForNotification namespaceId => namespaceId
  | .getMissedNotifications namespaceId _ => namespaceId

/-- The namespace that an observation is about. -/
def Observation.namespaceId : Observation C → String
  | .invoked namespaceId _ _ => namespaceId
  | .waited namespaceId _ => namespaceId
  | .missed namespaceId _ => namespaceId

/-- One call: what it lets be observed and the channel after it. -/
def NotificationChannel.perform (ch : NotificationChannel C) :
    ChannelCall C → List (Observation C) × NotificationChannel C
  | .subscribe namespaceId callback => ([], ch.subscribe namespaceId callback)
  | .unsubscribe namespaceId => ([], ch.unsubscribe namespaceId)
  | .publish n =>
    ((ch.publish n).1.map fun callback ↦ .invoked n.namespaceId callback n, (ch.publish n).2)
  | .waitForNotification namespaceId =>
    ([.waited namespaceId (ch.waitForNotification namespaceId).1],
      (ch.waitForNotification namespaceId).2)
  | .getMissedNotifications namespaceId lastReleaseId =>
    ([.missed namespaceId (ch.getMissedNotifications namespaceId lastReleaseId)], ch)

/-- Everything observable in a run of calls, in order. -/
def NotificationChannel.trace (ch : NotificationChannel C) (calls : List (ChannelCall C)) :
    List (Observation C) :=
  outputs (fun ch call ↦ (ch.perform call).2) (fun ch call ↦ (ch.perform call).1) ch calls

/-- The part of a trace that is about one namespace. -/
def observed (namespaceId : String) (trace : List (Observation C)) : List (Observation C) :=
  trace.filter (fun o ↦ o.namespaceId = namespaceId)

/-- Two channels hold the same for a namespace. -/
structure SameFor (namespaceId : String) (a b : NotificationChannel C) : Prop where
  subscribers : a.subscribers namespaceId = b.subscribers namespaceId
  history : a.history namespaceId = b.history namespaceId
  pending : ofNamespace namespaceId a.pending = ofNamespace namespaceId b.pending

/-- A channel is the same for every namespace as itself. -/
theorem SameFor.refl (namespaceId : String) (ch : NotificationChannel C) :
    SameFor namespaceId ch ch := ⟨rfl, rfl, rfl⟩

/-! ### Waits -/

/-- A wait returns the first pending notification of its namespace and leaves the others. -/
theorem waitForNotification_ofNamespace (ch : NotificationChannel C) (namespaceId : String) :
    (ch.waitForNotification namespaceId).1 = (ofNamespace namespaceId ch.pending).head? ∧
      ofNamespace namespaceId (ch.waitForNotification namespaceId).2.pending =
        (ofNamespace namespaceId ch.pending).tail := by
  unfold waitForNotification
  cases h : takePending namespaceId ch.pending with
  | none => simp [ofNamespace_eq_nil_of_takePending h]
  | some found =>
    obtain ⟨hn, before, after, hp, hr, hb⟩ := takePending_eq_some h
    have hpending : ofNamespace namespaceId ch.pending =
        found.1 :: ofNamespace namespaceId after := by
      rw [hp, ofNamespace_append, hb, List.nil_append, ofNamespace_cons_of_eq hn]
    simp only [hpending, hr, ofNamespace_append, hb, List.nil_append, List.head?_cons,
      List.tail_cons, and_self]

/-- A wait on another namespace takes nothing of this one. -/
theorem ofNamespace_waitForNotification_of_ne (ch : NotificationChannel C)
    {namespaceId other : String} (hne : other ≠ namespaceId) :
    ofNamespace namespaceId (ch.waitForNotification other).2.pending =
      ofNamespace namespaceId ch.pending := by
  unfold waitForNotification
  cases h : takePending other ch.pending with
  | none => rfl
  | some found =>
    obtain ⟨hn, before, after, hp, hr, _⟩ := takePending_eq_some h
    have hother : found.1.namespaceId ≠ namespaceId := by rwa [hn]
    simp only [hp, hr, ofNamespace_append, ofNamespace_cons_of_ne hother]

/-- A wait touches neither subscribers nor history. -/
theorem waitForNotification_maps (ch : NotificationChannel C) (namespaceId : String) :
    (ch.waitForNotification namespaceId).2.subscribers = ch.subscribers ∧
      (ch.waitForNotification namespaceId).2.history = ch.history := by
  unfold waitForNotification
  split <;> exact ⟨rfl, rfl⟩

/-! ### The unwinding -/

private theorem same_of_other {namespaceId : String} {a b : NotificationChannel C}
    (h : SameFor namespaceId a b) {call : ChannelCall C} (hne : call.namespaceId ≠ namespaceId) :
    SameFor namespaceId (a.perform call).2 b := by
  cases call with
  | subscribe other callback =>
    exact ⟨(Function.update_of_ne hne.symm _ _).trans h.subscribers, h.history, h.pending⟩
  | unsubscribe other =>
    exact ⟨(Function.update_of_ne hne.symm _ _).trans h.subscribers, h.history, h.pending⟩
  | publish n =>
    refine ⟨h.subscribers, (Function.update_of_ne hne.symm _ _).trans h.history, ?_⟩
    simp only [perform, publish, ofNamespace_append, ofNamespace_nil, List.append_nil,
      ofNamespace_cons_of_ne (show n.namespaceId ≠ namespaceId from hne), h.pending]
  | waitForNotification other =>
    obtain ⟨hs, hh⟩ := waitForNotification_maps a other
    refine ⟨?_, ?_, (ofNamespace_waitForNotification_of_ne a hne).trans h.pending⟩
    · simp only [perform, hs, h.subscribers]
    · simp only [perform, hh, h.history]
  | getMissedNotifications other lastReleaseId => exact h

private theorem same_of_own {namespaceId : String} {a b : NotificationChannel C}
    (h : SameFor namespaceId a b) {call : ChannelCall C} (heq : call.namespaceId = namespaceId) :
    SameFor namespaceId (a.perform call).2 (b.perform call).2 ∧
      (a.perform call).1 = (b.perform call).1 := by
  subst heq
  cases call with
  | subscribe ns callback =>
    have hs := h.subscribers
    refine ⟨⟨?_, h.history, h.pending⟩, rfl⟩
    simp only [ChannelCall.namespaceId] at hs
    simp only [perform, subscribe, ChannelCall.namespaceId, Function.update_self, hs]
  | unsubscribe ns =>
    refine ⟨⟨?_, h.history, h.pending⟩, rfl⟩
    simp only [perform, unsubscribe, ChannelCall.namespaceId, Function.update_self]
  | publish n =>
    have hs := h.subscribers
    have hh := h.history
    have hp := h.pending
    simp only [ChannelCall.namespaceId] at hs hh hp
    refine ⟨⟨h.subscribers, ?_, ?_⟩, ?_⟩
    · simp only [perform, publish, ChannelCall.namespaceId, Function.update_self, hh]
    · simp only [perform, publish, ChannelCall.namespaceId, ofNamespace_append, hp]
    · simp only [perform, publish, hs]
  | waitForNotification ns =>
    obtain ⟨hsa, hha⟩ := waitForNotification_maps a ns
    obtain ⟨hsb, hhb⟩ := waitForNotification_maps b ns
    obtain ⟨hra, hpa⟩ := waitForNotification_ofNamespace a ns
    obtain ⟨hrb, hpb⟩ := waitForNotification_ofNamespace b ns
    have hp : ofNamespace ns a.pending = ofNamespace ns b.pending := h.pending
    refine ⟨⟨?_, ?_, ?_⟩, ?_⟩
    · simp only [perform, hsa, hsb, h.subscribers]
    · simp only [perform, hha, hhb, h.history]
    · simp only [perform, ChannelCall.namespaceId, hpa, hpb, hp]
    · simp only [perform, hra, hrb, hp]
  | getMissedNotifications ns lastReleaseId =>
    have hh : a.history ns = b.history ns := h.history
    exact ⟨h, by simp only [perform, getMissedNotifications, hh]⟩

/-- A call's observations are about the namespace it concerns. -/
theorem namespaceId_of_mem_perform {ch : NotificationChannel C} {call : ChannelCall C}
    {o : Observation C} (h : o ∈ (ch.perform call).1) : o.namespaceId = call.namespaceId := by
  cases call with
  | subscribe | unsubscribe => cases h
  | publish n =>
    obtain ⟨callback, _, rfl⟩ := List.mem_map.mp h
    rfl
  | waitForNotification | getMissedNotifications =>
    rw [List.mem_singleton.mp h]
    rfl

/-- Holding the same for a namespace is an unwinding of what is observable about it. -/
theorem unwinding_sameFor (namespaceId : String) :
    Unwinding (fun (ch : NotificationChannel C) call ↦ (ch.perform call).2)
      (fun ch call ↦ (ch.perform call).1) (fun call ↦ call.namespaceId = namespaceId)
      (fun o ↦ o.namespaceId = namespaceId) (SameFor namespaceId) where
  unseen a b call h hcall := by
    have hne : call.namespaceId ≠ namespaceId := by simpa using hcall
    refine ⟨same_of_other h hne, ?_⟩
    rw [List.filter_eq_nil_iff]
    intro o ho
    rw [namespaceId_of_mem_perform ho]
    simpa using hne
  seen a b call h hcall := by
    obtain ⟨hsame, hout⟩ := same_of_own h (by simpa using hcall)
    exact ⟨hsame, by rw [hout]⟩

/-- What is observable about a namespace in a run of calls is what is observable about it in
the run of those calls alone that concern it. -/
theorem observed_trace_filter (namespaceId : String) (ch : NotificationChannel C)
    (calls : List (ChannelCall C)) :
    observed namespaceId (ch.trace calls) =
      observed namespaceId
        (ch.trace (calls.filter (fun call ↦ call.namespaceId = namespaceId))) :=
  (unwinding_sameFor namespaceId).outputs_filter (SameFor.refl namespaceId ch) calls

end ConfigCenter.Subscription
