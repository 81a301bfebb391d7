import ConfigCenter.Subscription.NotificationChannel

/-!
# Callbacks that throw

Library `Subscription`. `NotificationChannel::publish` with callbacks that may throw.
The loop over the callbacks stands between the two updates of the channel, and
nothing catches what a callback throws: the loop ends there, the notification is
in `history_` already and does not reach `pending_`.
-/

namespace ConfigCenter.Subscription.NotificationChannel

variable {C : Type}

/-- The loop of `publish`, `notification_channel.cpp:28–30`: the callbacks it invokes, and
whether the last of them threw. -/
def invokeAll (throws : C → Bool) : List C → List C × Bool
  | [] => ([], false)
  | cb :: rest =>
    if throws cb then ([cb], true)
    else (cb :: (invokeAll throws rest).1, (invokeAll throws rest).2)

/-- What `publish` did by the time it returned or threw. -/
structure Published (C : Type) where
  invoked : List C
  threw : Bool
  channel : NotificationChannel C

/-- `publish`, `notification_channel.cpp:21–35`, where the callbacks with `throws` throw. -/
def publishThrowing (throws : C → Bool) (ch : NotificationChannel C)
    (notification : Notification) : Published C :=
  let logged : NotificationChannel C :=
    { ch with
      history := Function.update ch.history notification.namespaceId
        (some ((ch.history notification.namespaceId).getD [] ++ [notification])) }
  let (invoked, threw) := match ch.subscribers notification.namespaceId with
    | some callbacks => invokeAll throws callbacks
    | none => ([], false)
  if threw then { invoked, threw, channel := logged }
  else
    { invoked, threw, channel := { logged with pending := logged.pending ++ [notification] } }

/-- The callbacks subscribed to a namespace. -/
def callbacksOf (ch : NotificationChannel C) (namespaceId : String) : List C :=
  (ch.subscribers namespaceId).getD []

/-- A publication lost nothing: every callback of the namespace was invoked exactly once, and
the notification was appended to the history and to the pending ones, or after a failure to
neither. -/
def NothingLost (ch : NotificationChannel C) (n : Notification) (p : Published C) : Prop :=
  p.invoked = ch.callbacksOf n.namespaceId ∧
    ((p.channel.history n.namespaceId).getD [] = (ch.history n.namespaceId).getD [] ++ [n] ∧
        p.channel.pending = ch.pending ++ [n] ∨
      p.threw = true ∧
        (p.channel.history n.namespaceId).getD [] = (ch.history n.namespaceId).getD [] ∧
        p.channel.pending = ch.pending)

/-! ### The loop -/

/-- The loop ends at the first callback that throws. -/
theorem invokeAll_of_throws (throws : C → Bool) {before after : List C} {cb : C}
    (hbefore : ∀ c ∈ before, throws c = false) (hcb : throws cb = true) :
    invokeAll throws (before ++ cb :: after) = (before ++ [cb], true) := by
  induction before with
  | nil => simp [invokeAll, hcb]
  | cons c before ih =>
    have hc : throws c = false := hbefore c (by simp)
    have hrest := ih fun d hd ↦ hbefore d (by simp [hd])
    simp [invokeAll, hc, hrest]

/-- Without a callback that throws all are invoked, in order. -/
theorem invokeAll_of_forall (throws : C → Bool) {callbacks : List C}
    (h : ∀ cb ∈ callbacks, throws cb = false) :
    invokeAll throws callbacks = (callbacks, false) := by
  induction callbacks with
  | nil => rfl
  | cons cb rest ih =>
    have hcb : throws cb = false := h cb (by simp)
    simp [invokeAll, hcb, ih fun d hd ↦ h d (by simp [hd])]

/-! ### The publication -/

section Publication

variable {throws : C → Bool} {ch : NotificationChannel C} {n : Notification}

private theorem loop_eq :
    (match ch.subscribers n.namespaceId with
      | some callbacks => invokeAll throws callbacks
      | none => ([], false)) = invokeAll throws (ch.callbacksOf n.namespaceId) := by
  unfold callbacksOf
  cases ch.subscribers n.namespaceId <;> rfl

/-- Callbacks that return make a publication what it is without exceptions. -/
theorem publishThrowing_of_forall
    (h : ∀ cb ∈ ch.callbacksOf n.namespaceId, throws cb = false) :
    publishThrowing throws ch n =
      { invoked := (ch.publish n).1, threw := false, channel := (ch.publish n).2 } := by
  have hinvoked : (ch.publish n).1 = ch.callbacksOf n.namespaceId := by
    unfold publish callbacksOf
    cases ch.subscribers n.namespaceId <;> rfl
  rw [hinvoked]
  simp only [publishThrowing, loop_eq, invokeAll_of_forall throws h, Bool.false_eq_true, if_false]
  rfl

/-- A callback that throws leaves the notification in the history and out of the pending ones. -/
theorem publishThrowing_of_throws {before after : List C} {cb : C}
    (hsub : ch.callbacksOf n.namespaceId = before ++ cb :: after)
    (hbefore : ∀ c ∈ before, throws c = false) (hcb : throws cb = true) :
    let p := publishThrowing throws ch n
    p.invoked = before ++ [cb] ∧ p.threw = true ∧ p.channel.pending = ch.pending ∧
      (p.channel.history n.namespaceId).getD [] = (ch.history n.namespaceId).getD [] ++ [n] := by
  intro p
  have hp : p = publishThrowing throws ch n := rfl
  simp only [publishThrowing, loop_eq, hsub, invokeAll_of_throws throws hbefore hcb, if_true] at hp
  rw [hp]
  simp

end Publication

/-- A publication loses nothing exactly when no callback of its namespace throws. -/
theorem nothingLost_iff (throws : C → Bool) (ch : NotificationChannel C) (n : Notification) :
    NothingLost ch n (publishThrowing throws ch n) ↔
      ∀ cb ∈ ch.callbacksOf n.namespaceId, throws cb = false := by
  constructor
  · intro h
    by_contra hex
    simp only [not_forall, Bool.not_eq_false] at hex
    obtain ⟨c, hc, hthrows⟩ := hex
    -- split the callbacks at the first one that throws
    obtain ⟨cb, before, after, hbefore, hcb, hsub, -⟩ := List.exists_of_eraseP hc hthrows
    have hreturn : ∀ c ∈ before, throws c = false := fun c hc ↦ by simpa using hbefore c hc
    obtain ⟨-, -, hpending, hhistory⟩ := publishThrowing_of_throws hsub hreturn hcb
    rcases h.2 with ⟨-, happended⟩ | ⟨-, hkept, -⟩
    · simpa using hpending.symm.trans happended
    · simpa using hhistory.symm.trans hkept
  · intro h
    rw [publishThrowing_of_forall h]
    refine ⟨?_, .inl ⟨?_, rfl⟩⟩
    · unfold publish callbacksOf
      cases ch.subscribers n.namespaceId <;> rfl
    · rw [history_publish, ofNamespace_cons_of_eq rfl, ofNamespace_nil]

/-- The first of two callbacks throws: the second is not invoked, and a caller that polls never
gets the notification that the history holds. -/
theorem not_nothingLost_first_throws :
    let n : Notification := { namespaceId := "shop/DEV/default/web", releaseId := 1 }
    let ch : NotificationChannel Nat :=
      (empty.subscribe n.namespaceId 0).subscribe n.namespaceId 1
    ¬ NothingLost ch n (publishThrowing (fun cb ↦ cb == 0) ch n) := by
  rintro n ch ⟨hinvoked, -⟩
  exact absurd hinvoked (by decide)

end ConfigCenter.Subscription.NotificationChannel
