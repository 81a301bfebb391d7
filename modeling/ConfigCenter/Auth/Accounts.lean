import ConfigCenter.Auth.UserManager
import ConfigCenter.Storage.Transactions

/-!
# Accounts over whole runs

Library `Auth`. Which password opens an account after any calls of the store, those of the
transaction control included: the one of the first creation under the name that no rollback
takes back. Creations are never undone otherwise and never overwritten.
-/

namespace ConfigCenter.Auth
open ConfigCenter.Base ConfigCenter.Storage

/-- The user that a call asks the store to create. -/
def accountOf (e : Event) : Option User :=
  match e.2 with
  | .createUser user => some user
  | _ => none

/-- The users whose creation no rollback takes back, in the order of the calls. -/
def lastingAccounts (es : List Event) : List User :=
  ((Transacted.survivors false (es.map control)).map Prod.snd).filterMap accountOf

/-- A user without the id that the table hands out. -/
def withoutId (user : User) : User := { user with id := 0 }

/-- The account of a name, ids aside. -/
def account? (username : String) (users : List User) : Option User :=
  (users.find? fun u ↦ u.username = username).map withoutId

/-! ### One call -/

variable {t : Tables}

private theorem users_tablesAfter_of_none {e : Event} (h : accountOf e = none) (inside : Bool) :
    (tablesAfter inside t e).users = t.users := by
  obtain ⟨ts, c⟩ := e
  rw [tablesAfter]
  cases c with
  | createUser user => cases h
  | createApplication _ | deleteApplication _ | createNamespace _ | publishRelease _ _ _ =>
    simp only [Call.effect]
    split
    · rfl
    · rfl
  | _ => rfl

private theorem users_tablesAfter_of_some {e : Event} {user : User} (h : accountOf e = some user)
    (inside : Bool) :
    (tablesAfter inside t e).users.rows =
      if t.users.rows.any (fun x ↦ x.username = user.username) then t.users.rows
      else t.users.rows ++ [{ user with id := t.users.nextId }] := by
  obtain ⟨ts, c⟩ := e
  cases c with
  | createUser user' =>
    obtain rfl : user' = user := Option.some.inj h
    by_cases htaken : t.users.rows.any (fun x ↦ x.username = user'.username) = true
    · simp only [tablesAfter, Call.effect, htaken, if_true]
    · simp only [tablesAfter, Call.effect, htaken, Bool.false_eq_true, if_false,
        SerialTable.rows_append]
  | _ => cases h

/-- Of two users with a name the first has the account. -/
theorem account?_append (username : String) (users users' : List User) :
    account? username (users ++ users') =
      (account? username users).or (account? username users') := by
  rw [account?, List.find?_append]
  cases h : users.find? fun u ↦ u.username = username with
  | none => simp [account?, h]
  | some user => simp [account?, h]

/-- The account of one user. -/
theorem account?_singleton (username : String) (user : User) :
    account? username [user] =
      if user.username = username then some (withoutId user) else none := by
  by_cases h : user.username = username
  · simp [account?, h]
  · simp [account?, h]

private theorem account?_isSome (username : String) (users : List User) :
    (account? username users).isSome = users.any fun u ↦ u.username = username := by
  rw [account?, Option.isSome_map, List.isSome_find?]

/-- An account stays as it is; a free name goes to the user that a call creates. -/
theorem account?_tablesAfter (username : String) (inside : Bool) (e : Event) :
    account? username (tablesAfter inside t e).users.rows =
      (account? username t.users.rows).or (account? username (accountOf e).toList) := by
  cases h : accountOf e with
  | none =>
    rw [users_tablesAfter_of_none h]
    exact Option.or_none.symm
  | some user =>
    rw [users_tablesAfter_of_some h, Option.toList_some]
    split
    · next htaken =>
      rw [account?_singleton]
      split
      · next hname =>
        rw [hname, ← account?_isSome] at htaken
        exact (Option.or_of_isSome htaken).symm
      · exact Option.or_none.symm
    · rw [account?_append]
      exact congrArg _ (by simp only [account?_singleton, withoutId])

/-! ### Runs -/

private theorem account?_actions (username : String) (l : List (Bool × Event)) (t : Tables) :
    account? username (run (fun t x ↦ tablesAfter x.1 t x.2) t l).users.rows =
      (account? username t.users.rows).or
        (account? username ((l.map Prod.snd).filterMap accountOf)) := by
  induction l generalizing t with
  | nil => exact Option.or_none.symm
  | cons x l ih =>
    rw [run_cons, ih, account?_tablesAfter, Option.or_assoc, ← account?_append, List.map_cons]
    cases h : accountOf x.2 with
    | none => rw [List.filterMap_cons_none h, Option.toList_none, List.nil_append]
    | some user => rw [List.filterMap_cons_some h, Option.toList_some, List.singleton_append]

/-- After any calls on a new store the account of a name is that of the first creation under the
name that lasts. -/
theorem account?_run (es : List Event) (username : String) :
    account? username (run step .empty es).tables.users.rows =
      account? username (lastingAccounts es) := by
  have hstate : (run step .empty es).tables =
      run (fun t x ↦ tablesAfter x.1 t x.2) Tables.empty
        (Transacted.survivors false (es.map control)) := by
    change (run step Database.empty es).transacted.state = _
    rw [transacted_run, Transacted.state_run, Transacted.base_outside rfl]
    rfl
  rw [hstate, account?_actions]
  rfl

namespace UserManager

private theorem getUserByUsername_run (username : String) (db : Database) :
    SqliteConfigStore.getUserByUsername username noFaults db =
      (.ok (db.tables.users.rows.find? fun u ↦ u.username = username), db) := by
  simp [SqliteConfigStore.getUserByUsername, noFaults, List.head?_filter]

/-- After any calls on a new store, transactions included, a login answers true exactly when
the first creation under the name that no rollback takes back stored the digest text of this
password. -/
theorem authenticate_run (sha256 : String → Digest) (es : List Event)
    (username password : String) :
    (authenticate sha256 username password noFaults (run step .empty es)).1 =
      .ok (((lastingAccounts es).find? fun u ↦ u.username = username).any fun user ↦
        verifyPassword sha256 password user.passwordHash) := by
  have hlogin : authenticate sha256 username password noFaults (run step .empty es) =
      (.ok ((account? username (run step .empty es).tables.users.rows).any fun user ↦
        verifyPassword sha256 password user.passwordHash), run step .empty es) := by
    rw [authenticate, StorageM.bind_run, getUserByUsername_run, account?, Option.any_map]
    cases (run step .empty es).tables.users.rows.find? fun u ↦ u.username = username with
    | none => rfl
    | some user => rfl
  rw [hlogin, account?_run, account?, Option.any_map]
  rfl

end UserManager

end ConfigCenter.Auth
