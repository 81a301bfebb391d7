import ConfigCenter.Base.Unwinding
import Mathlib.Data.List.Basic
import Mathlib.Logic.Function.Basic

/-!
# The notification channel

Library `Subscription`. Operations of `src/subscription/notification_channel.cpp`
on the members of `NotificationChannel`. One mutex makes every operation atomic,
`waitForNotification` apart, which gives the lock up while it blocks. A scan that
finds nothing leaves the channel as it is, and `wait_for` scans once more when
its time is over; so a wait takes effect at its last scan, and it times out
exactly when this scan finds nothing. Callbacks are names of type `C`: they are
invoked in order and neither throw nor call the channel.
-/

namespace ConfigCenter.Subscription
open ConfigCenter.Base

/-- `Notification`, `notification_channel.h:12–17`. -/
structure Notification where
  namespaceId : String
  releaseId : Int := 0
  changedKeys : List String := []
  timestamp : Int := 0
  deriving DecidableEq, Repr

/-- Data members of `NotificationChannel`, `notification_channel.h:33–38`; a map has an entry
or none under each namespace. -/
structure NotificationChannel (C : Type) where
  subscribers : String → Option (List C)
  history : String → Option (List Notification)
  pending : List Notification

namespace NotificationChannel

variable {C : Type}

/-- A new channel. -/
def empty : NotificationChannel C where
  subscribers := fun _ ↦ none
  history := fun _ ↦ none
  pending := []

/-- `subscribe`, `notification_channel.cpp:11–14`. -/
def subscribe (ch : NotificationChannel C) (namespaceId : String) (callback : C) :
    NotificationChannel C :=
  { ch with
    subscribers := Function.update ch.subscribers namespaceId
      (some ((ch.subscribers namespaceId).getD [] ++ [callback])) }

/-- `unsubscribe`, `notification_channel.cpp:16–19`. -/
def unsubscribe (ch : NotificationChannel C) (namespaceId : String) : NotificationChannel C :=
  { ch with subscribers := Function.update ch.subscribers namespaceId none }

/-- `publish`, `notification_channel.cpp:21–35`, with the callbacks it invokes. -/
def publish (ch : NotificationChannel C) (notification : Notification) :
    List C × NotificationChannel C :=
  let invoked := match ch.subscribers notification.namespaceId with
    | some callbacks => callbacks
    | none => []
  (invoked,
    { ch with
      history := Function.update ch.history notification.namespaceId
        (some ((ch.history notification.namespaceId).getD [] ++ [notification]))
      pending := ch.pending ++ [notification] })

/-- The scan of `pending_`, `notification_channel.cpp:42–48,51–58`: the first notification of
the namespace, and the others without it. -/
def takePending (namespaceId : String) :
    List Notification → Option (Notification × List Notification)
  | [] => none
  | n :: rest =>
    if n.namespaceId = namespaceId then some (n, rest)
    else (takePending namespaceId rest).map fun found ↦ (found.1, n :: found.2)

/-- `waitForNotification`, `notification_channel.cpp:37–62`, at its last scan; `none` is a
timeout. -/
def waitForNotification (ch : NotificationChannel C) (namespaceId : String) :
    Option Notification × NotificationChannel C :=
  match takePending namespaceId ch.pending with
  | some (n, rest) => (some n, { ch with pending := rest })
  | none => (none, ch)

/-- `getMissedNotifications`, `notification_channel.cpp:64–78`. -/
def getMissedNotifications (ch : NotificationChannel C) (namespaceId : String)
    (lastReleaseId : Int) : List Notification :=
  match ch.history namespaceId with
  | some notifications => notifications.filter (fun n ↦ lastReleaseId < n.releaseId)
  | none => []

/-! ### What a scan finds -/

/-- Notifications of one namespace among others. -/
def ofNamespace (namespaceId : String) (ns : List Notification) : List Notification :=
  ns.filter (fun n ↦ n.namespaceId = namespaceId)

/-- An empty list has nothing of a namespace. -/
@[simp] theorem ofNamespace_nil (namespaceId : String) : ofNamespace namespaceId [] = [] := rfl

/-- What two lists have of a namespace. -/
@[simp] theorem ofNamespace_append (namespaceId : String) (a b : List Notification) :
    ofNamespace namespaceId (a ++ b) = ofNamespace namespaceId a ++ ofNamespace namespaceId b :=
  List.filter_append a b

/-- A notification of the namespace stays. -/
theorem ofNamespace_cons_of_eq {namespaceId : String} {n : Notification}
    (h : n.namespaceId = namespaceId) (ns : List Notification) :
    ofNamespace namespaceId (n :: ns) = n :: ofNamespace namespaceId ns :=
  List.filter_cons_of_pos (by simpa using h)

/-- A notification of another namespace goes. -/
theorem ofNamespace_cons_of_ne {namespaceId : String} {n : Notification}
    (h : n.namespaceId ≠ namespaceId) (ns : List Notification) :
    ofNamespace namespaceId (n :: ns) = ofNamespace namespaceId ns :=
  List.filter_cons_of_neg (by simpa using h)

/-- What stays is of the namespace. -/
theorem mem_ofNamespace {namespaceId : String} {n : Notification} {ns : List Notification} :
    n ∈ ofNamespace namespaceId ns ↔ n ∈ ns ∧ n.namespaceId = namespaceId := by
  simp [ofNamespace]

/-- A publication is added to the history of its namespace and to no other. -/
theorem history_publish (ch : NotificationChannel C) (n : Notification) (namespaceId : String) :
    ((ch.publish n).2.history namespaceId).getD [] =
      (ch.history namespaceId).getD [] ++ ofNamespace namespaceId [n] := by
  simp only [publish]
  by_cases hn : n.namespaceId = namespaceId
  · subst hn
    rw [Function.update_self, ofNamespace_cons_of_eq rfl]
    rfl
  · rw [Function.update_of_ne (Ne.symm hn), ofNamespace_cons_of_ne hn, ofNamespace_nil,
      List.append_nil]

/-- Missed notifications are those of the history above the given id. -/
theorem getMissedNotifications_eq (ch : NotificationChannel C) (namespaceId : String)
    (last : Int) :
    ch.getMissedNotifications namespaceId last =
      ((ch.history namespaceId).getD []).filter (fun n ↦ last < n.releaseId) := by
  unfold getMissedNotifications
  cases ch.history namespaceId <;> rfl

/-- A scan that finds nothing has nothing of the namespace before it. -/
theorem ofNamespace_eq_nil_of_takePending {namespaceId : String} {pending : List Notification}
    (h : takePending namespaceId pending = none) : ofNamespace namespaceId pending = [] := by
  induction pending with
  | nil => rfl
  | cons n rest ih =>
    simp only [takePending] at h
    split at h
    · cases h
    · next hn =>
      rw [Option.map_eq_none_iff] at h
      rw [ofNamespace_cons_of_ne hn]
      exact ih h

/-- A scan that finds a notification finds one of the namespace and takes only this one. -/
theorem takePending_eq_some {namespaceId : String} {pending rest : List Notification}
    {n : Notification} (h : takePending namespaceId pending = some (n, rest)) :
    n.namespaceId = namespaceId ∧
      ∃ before after, pending = before ++ n :: after ∧ rest = before ++ after ∧
        ofNamespace namespaceId before = [] := by
  induction pending generalizing rest with
  | nil => cases h
  | cons m tail ih =>
    simp only [takePending] at h
    split at h
    · next hm =>
      obtain ⟨rfl, rfl⟩ := Prod.ext_iff.mp (Option.some.inj h)
      exact ⟨hm, [], tail, rfl, rfl, rfl⟩
    · next hm =>
      obtain ⟨found, hfound, hr⟩ := Option.map_eq_some_iff.mp h
      obtain ⟨rfl, rfl⟩ := Prod.ext_iff.mp hr
      obtain ⟨hn, before, after, rfl, ha, hb⟩ := ih hfound
      refine ⟨hn, m :: before, after, rfl, by simp only [ha, List.cons_append], ?_⟩
      rw [ofNamespace_cons_of_ne hm]
      exact hb

end NotificationChannel
end ConfigCenter.Subscription
