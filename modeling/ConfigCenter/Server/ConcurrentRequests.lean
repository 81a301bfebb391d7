import ConfigCenter.Server.HandlerPrograms

/-!
# Concurrent requests

Library `Server`. HTTP sessions run on a pool of threads and gRPC calls on another, so
any number of requests is in work at once and their store calls mix in any order. The
store sees a run of calls, each of a kind its request may make; and every request but a
set request might as well have run in one piece, at the turn of its last call. An
exception that ends the server ends the schedule.
-/

namespace ConfigCenter.Server
open ConfigCenter.Storage ConfigCenter.Base StorageM

namespace ServerRequest

/-! ### What a request asks for -/

/-- Namespace, key, value and operator of a set request. -/
def setting (parse : Parse) : ServerRequest → Option (String × String × String × String)
  | .http request _ =>
    match HttpSession.route request.method request.target with
    | .setConfig ns key =>
      (HttpSession.requestedValue parse request.body).map fun value ↦ (ns, key, value, "system")
    | _ => none
  | .grpc (.setConfig ns key value op) => some (ns, key, value, GrpcService.opId op)
  | .grpc _ => none

/-- Namespace, key and operator of a delete request. -/
def deleting : ServerRequest → Option (String × String × String)
  | .http request _ =>
    match HttpSession.route request.method request.target with
    | .deleteConfig ns key => some (ns, key, "system")
    | _ => none
  | .grpc (.deleteConfig ns key op) => some (ns, key, GrpcService.opId op)
  | .grpc _ => none

/-- Namespace, note and operator of a publish request. -/
def publishing (parse : Parse) : ServerRequest → Option (String × String × String)
  | .http request _ =>
    match HttpSession.route request.method request.target with
    | .publish ns =>
      (parse request.body).bind fun j ↦
        (j.textOr? "release_note" "").map fun note ↦ (ns, note, "system")
    | _ => none
  | .grpc (.publishRelease ns note op) => some (ns, note, GrpcService.opId op)
  | .grpc _ => none

/-- The configuration writes that a request may make. -/
def Writes (parse : Parse) (request : ServerRequest) : StoreCall → Prop
  | .createConfig ns key value op => request.setting parse = some (ns, key, value, op)
  | .updateConfig ns key value op draft =>
    request.setting parse = some (ns, key, value, op) ∧ draft = true
  | .deleteConfig ns key op draft => request.deleting = some (ns, key, op) ∧ draft = true
  | .publishRelease ns note op => request.publishing parse = some (ns, note, op)
  | _ => True

end ServerRequest

section Only
variable {α β : Type} {P : StoreCall → Prop}

/-- A store call and what follows it. -/
theorem only_store_bind {c : StoreCall} {f : c.Answer → HandlerM β} (hc : P c)
    (hf : ∀ a, Program.Only P (f a).run) : Program.Only P (store c >>= f).run := by
  refine ⟨hc, fun r ↦ ?_⟩
  cases r with
  | error e => exact True.intro
  | ok a => exact hf a

/-- A required value makes no call. -/
theorem only_required_bind {o : Option α} {f : α → HandlerM β}
    (hf : ∀ a, o = some a → Program.Only P (f a).run) :
    Program.Only P (required o >>= f).run := by
  cases o with
  | none => exact True.intro
  | some a => exact hf a rfl

/-- The calls of a sequence are those of its parts. -/
theorem only_bind {h : HandlerM α} {f : α → HandlerM β} (hh : Program.Only P h.run)
    (hf : ∀ a, Program.Only P (f a).run) : Program.Only P (h >>= f).run := by
  refine Program.Only.andThen hh fun r ↦ ?_
  cases r with
  | error e => exact True.intro
  | ok a => exact hf a

/-- The calls of a choice are those of its branches. -/
theorem only_ite {c : Prop} [Decidable c] {h h' : HandlerM α} (ht : Program.Only P h.run)
    (hf : Program.Only P h'.run) : Program.Only P (if c then h else h').run := by
  split
  · exact ht
  · exact hf

end Only

namespace ServerRequest

private theorem only_createApp (parse : Parse) (body : String) (now : Timestamp)
    (P : StoreCall → Prop) (hget : ∀ appId, P (.getApplication appId))
    (hcreate : ∀ app, P (.createApplication app)) :
    Program.Only P (HandlerProgram.handleCreateApp parse body now).run := by
  refine only_required_bind fun j _ ↦ only_ite True.intro ?_
  refine only_required_bind fun appId _ ↦ only_required_bind fun name _ ↦ ?_
  refine only_required_bind fun description _ ↦ ?_
  refine only_bind (only_store_bind (hget appId) fun existing ↦ ?_)
    fun ok ↦ only_ite True.intro True.intro
  exact only_ite True.intro ⟨hcreate _, fun _ ↦ True.intro⟩

private theorem only_createNamespace (parse : Parse) (body : String) (now : Timestamp)
    (P : StoreCall → Prop) (hget : ∀ appId, P (.getApplication appId))
    (hcreate : ∀ ns, P (.createNamespace ns)) :
    Program.Only P (HandlerProgram.handleCreateNamespace parse body now).run := by
  refine only_required_bind fun j _ ↦ only_required_bind fun appId _ ↦ ?_
  refine only_required_bind fun env _ ↦ only_required_bind fun cluster _ ↦ ?_
  refine only_required_bind fun name _ ↦ only_required_bind fun type _ ↦ ?_
  refine only_required_bind fun parent _ ↦ ?_
  refine only_bind (only_store_bind (hget appId) fun app ↦ ?_)
    fun ok ↦ only_ite True.intro True.intro
  exact only_ite True.intro ⟨hcreate _, fun _ ↦ True.intro⟩

private theorem only_handle (parse : Parse) (request : HttpSession.Request) (now : Timestamp) :
    Program.Only ((http request now).Writes parse)
      (HandlerProgram.handle parse request.body now
        (HttpSession.route request.method request.target)).run := by
  cases hroute : HttpSession.route request.method request.target with
  | health | notifications | unserved | notFound => exact True.intro
  | login => exact only_required_bind fun _ _ ↦ True.intro
  | createApp =>
    exact only_createApp parse request.body now _ (fun _ ↦ True.intro) fun _ ↦ True.intro
  | createNamespace =>
    exact only_createNamespace parse request.body now _ (fun _ ↦ True.intro) fun _ ↦ True.intro
  | listApps | deleteApp _ | getReleases _ =>
    exact only_store_bind True.intro fun _ ↦ True.intro
  | listNamespaces appId =>
    exact only_store_bind True.intro fun _ ↦ only_store_bind True.intro fun _ ↦ True.intro
  | getApp appId =>
    refine only_store_bind True.intro fun app ↦ ?_
    cases app with
    | none => exact True.intro
    | some app => exact True.intro
  | getConfig ns key =>
    refine only_store_bind True.intro fun config ↦ ?_
    cases config with
    | none => exact True.intro
    | some config => exact True.intro
  | setConfig ns key =>
    refine only_required_bind fun j hj ↦ only_required_bind fun value hvalue ↦ ?_
    have hset : (http request now).setting parse = some (ns, key, value, "system") := by
      simp [setting, hroute, HttpSession.requestedValue, hj, hvalue]
    refine only_store_bind True.intro fun existing ↦ only_ite ?_ ?_
    · exact only_store_bind ⟨hset, rfl⟩ fun _ ↦ True.intro
    · exact only_store_bind hset fun _ ↦ True.intro
  | deleteConfig ns key =>
    have hdelete : (http request now).deleting = some (ns, key, "system") := by
      simp [deleting, hroute]
    exact only_store_bind ⟨hdelete, rfl⟩ fun _ ↦ True.intro
  | publish ns =>
    refine only_required_bind fun j hj ↦ only_required_bind fun note hnote ↦ ?_
    have hpublish : (http request now).publishing parse = some (ns, note, "system") := by
      simp [publishing, hroute, hj, hnote]
    exact only_store_bind hpublish fun _ ↦ only_ite True.intro True.intro

private theorem only_unary (parse : Parse) (call : GrpcService.UnaryCall) :
    Program.Only ((grpc call).Writes parse) call.handler.run := by
  cases call with
  | getConfig ns key =>
    refine only_store_bind True.intro fun config ↦ ?_
    cases config with
    | none => exact True.intro
    | some config => exact True.intro
  | setConfig ns key value op =>
    refine only_store_bind True.intro fun existing ↦ only_ite ?_ ?_
    · exact only_store_bind ⟨rfl, rfl⟩ fun _ ↦ only_store_bind True.intro fun _ ↦ True.intro
    · exact only_store_bind rfl fun _ ↦ only_store_bind True.intro fun _ ↦ True.intro
  | deleteConfig ns key op => exact only_store_bind ⟨rfl, rfl⟩ fun _ ↦ True.intro
  | publishRelease ns note op => exact only_store_bind rfl fun _ ↦ only_ite True.intro True.intro
  | getReleaseHistory ns page pageSize => exact only_store_bind True.intro fun _ ↦ True.intro

/-- A request makes no other configuration writes than those it asks for. -/
theorem program_only (parse : Parse) (request : ServerRequest) :
    Program.Only (request.Writes parse) (request.program parse) := by
  cases request with
  | http request now =>
    exact Program.Only.andThen
      (only_bind (only_handle parse request now) fun _ ↦ True.intro) fun _ ↦ True.intro
  | grpc call => exact Program.Only.andThen (only_unary parse call) fun _ ↦ True.intro

end ServerRequest

/-! ### Requests in one piece -/

section Atomic
variable {α β : Type}

-- a program that makes one store call at most
private def Single (p : HandlerProgram α) : Prop :=
  match p with
  | .done _ => True
  | .call _ next => ∀ r, (next r).isDone

private theorem Single.atomic {p : HandlerProgram α} (h : Single p) :
    Program.Atomic StoreCall.respond p := by
  cases p with
  | done a => exact True.intro
  | call c next => exact Program.atomic_of_single _ h

private theorem single_store_bind {c : StoreCall} {f : c.Answer → HandlerM β}
    (hf : ∀ a, (f a).run.isDone) : Single (store c >>= f).run := by
  intro r
  cases r with
  | error e => rfl
  | ok a => exact hf a

private theorem single_required_bind {o : Option α} {f : α → HandlerM β}
    (hf : ∀ a, Single (f a).run) : Single (required o >>= f).run := by
  cases o with
  | none => exact True.intro
  | some a => exact hf a

private theorem atomic_required_bind {o : Option α} {f : α → HandlerM β}
    (hf : ∀ a, Program.Atomic StoreCall.respond (f a).run) :
    Program.Atomic StoreCall.respond (required o >>= f).run := by
  cases o with
  | none => exact True.intro
  | some a => exact hf a

private theorem atomic_ite {c : Prop} [Decidable c] {h h' : HandlerM α}
    (ht : Program.Atomic StoreCall.respond h.run) (hf : Program.Atomic StoreCall.respond h'.run) :
    Program.Atomic StoreCall.respond (if c then h else h').run := by
  split
  · exact ht
  · exact hf

-- a handler's answer to what a computation of the namespace manager returns
private theorem atomic_report {h : HandlerM Bool} {f : Bool → HandlerM β}
    (hh : Program.Atomic StoreCall.respond h.run) (hf : ∀ ok, (f ok).run.isDone) :
    Program.Atomic StoreCall.respond (h >>= f).run := by
  refine Program.Repeats.andThen _ hh fun r ↦ ?_
  cases r with
  | error e => rfl
  | ok a => exact hf a

private theorem readOnly_getApplication (appId : String) :
    Program.ReadOnly StoreCall.respond (.getApplication appId) := by
  intro ts db
  rw [StoreCall.respond_state]
  rfl

private theorem createApplication_eq (appId name : String) (description : Option String)
    (now : Timestamp) (db : Database) :
    SqliteConfigStore.createApplication { appId, name, description, createdAt := now } noFaults db =
      NamespaceManager.registerApplication appId name description now noFaults db := by
  rw [NamespaceManager.registerApplication, bind_run, getApplication_run]
  cases hfound : db.tables.applications.find? appId with
  | none => rfl
  | some app =>
    have hrefused : db.tables.applications.insert?
        { appId, name, description, createdAt := now } = none :=
      (KeyedTable.insert?_eq_none_iff _ _).mpr ⟨app, hfound⟩
    simp [SqliteConfigStore.createApplication, insertApplication, noFaults, hrefused]

private theorem createNamespace_eq (appId env cluster name type : String)
    (parentNamespaceId : Option String) (now : Timestamp) (db : Database) :
    SqliteConfigStore.createNamespace
        { id := NamespaceManager.makeNamespaceId appId env cluster name, appId, env, cluster, name,
          type, parentNamespaceId, approvalEnabled := some false, createdAt := now } noFaults db =
      NamespaceManager.createNamespace appId env cluster name type parentNamespaceId now
        noFaults db := by
  rw [NamespaceManager.createNamespace, bind_run, getApplication_run]
  cases hfound : db.tables.applications.find? appId with
  | some app => rfl
  | none => simp [SqliteConfigStore.createNamespace, insertNamespace, noFaults, hfound]

-- The look at the application decides nothing that the insertion would not refuse.
private theorem atomic_registerApplication (appId name : String) (description : Option String)
    (now : Timestamp) : Program.Atomic StoreCall.respond
      (HandlerProgram.registerApplication appId name description now).run := by
  refine ⟨fun _ _ ↦ rfl, .inr (readOnly_getApplication appId), fun r ↦ ?_⟩
  cases r with
  | error e => exact True.intro
  | ok existing =>
    cases existing with
    | some app => exact True.intro
    | none =>
      refine ⟨fun ts db ↦ ?_, .inl fun _ ↦ rfl, fun _ ↦ True.intro⟩
      have hrun : Runs ts (HandlerProgram.registerApplication appId name description now) _ :=
        runs_registerApplication appId name description now
      exact (createApplication_eq appId name description now db).trans (hrun db).symm

-- The look at the application decides nothing that the foreign key would not refuse.
private theorem atomic_createNamespace (appId env cluster name type : String)
    (parent : Option String) (now : Timestamp) : Program.Atomic StoreCall.respond
      (HandlerProgram.createNamespace appId env cluster name type parent now).run := by
  refine ⟨fun _ _ ↦ rfl, .inr (readOnly_getApplication appId), fun r ↦ ?_⟩
  cases r with
  | error e => exact True.intro
  | ok app =>
    cases app with
    | none => exact True.intro
    | some app =>
      refine ⟨fun ts db ↦ ?_, .inl fun _ ↦ rfl, fun _ ↦ True.intro⟩
      have hrun : Runs ts
          (HandlerProgram.createNamespace appId env cluster name type parent now) _ :=
        runs_createNamespace appId env cluster name type parent now
      exact (createNamespace_eq appId env cluster name type parent now db).trans (hrun db).symm

private theorem atomic_listNamespaces (appId : String) :
    Program.Atomic StoreCall.respond (HandlerProgram.handleListNamespaces appId).run := by
  refine ⟨fun _ _ ↦ rfl, .inr fun _ _ ↦ rfl, fun r ↦ ?_⟩
  cases r with
  | error e => exact True.intro
  | ok apps =>
    refine ⟨fun _ _ ↦ rfl, .inl fun r ↦ by cases r <;> rfl, fun r ↦ ?_⟩
    cases r with
    | error e => exact True.intro
    | ok namespaces => exact True.intro

private theorem atomic_handle (parse : Parse) (body : String) (now : Timestamp) (called : Route)
    (hset : ∀ ns key, called ≠ .setConfig ns key) :
    Program.Atomic StoreCall.respond (HandlerProgram.handle parse body now called).run := by
  cases called with
  | health | notifications | unserved | notFound => exact True.intro
  | login =>
    refine atomic_required_bind fun _ ↦ ?_
    exact True.intro
  | createApp =>
    refine atomic_required_bind fun j ↦ atomic_ite True.intro ?_
    refine atomic_required_bind fun appId ↦ atomic_required_bind fun name ↦ ?_
    refine atomic_required_bind fun description ↦ ?_
    refine atomic_report (atomic_registerApplication _ _ _ now) fun ok ↦ ?_
    cases ok <;> rfl
  | createNamespace =>
    refine atomic_required_bind fun j ↦ atomic_required_bind fun appId ↦ ?_
    refine atomic_required_bind fun env ↦ atomic_required_bind fun cluster ↦ ?_
    refine atomic_required_bind fun name ↦ atomic_required_bind fun type ↦ ?_
    refine atomic_required_bind fun parent ↦ ?_
    refine atomic_report (atomic_createNamespace _ _ _ _ _ _ now) fun ok ↦ ?_
    cases ok <;> rfl
  | listNamespaces appId => exact atomic_listNamespaces appId
  | listApps | deleteApp _ | deleteConfig _ _ | getReleases _ =>
    exact (single_store_bind fun _ ↦ rfl).atomic
  | getApp appId => exact (single_store_bind fun app ↦ by cases app <;> rfl).atomic
  | getConfig ns key => exact (single_store_bind fun config ↦ by cases config <;> rfl).atomic
  | setConfig ns key => exact absurd rfl (hset ns key)
  | publish ns =>
    refine (single_required_bind fun j ↦ single_required_bind fun note ↦ ?_).atomic
    refine single_store_bind fun result ↦ ?_
    obtain ⟨ok, release⟩ := result
    cases ok <;> rfl

private theorem atomic_unary (call : GrpcService.UnaryCall)
    (hset : ∀ ns key value op, call ≠ .setConfig ns key value op) :
    Program.Atomic StoreCall.respond call.handler.run := by
  cases call with
  | setConfig ns key value op => exact absurd rfl (hset ns key value op)
  | getConfig ns key => exact (single_store_bind fun config ↦ by cases config <;> rfl).atomic
  | publishRelease ns note op =>
    refine (single_store_bind fun result ↦ ?_).atomic
    obtain ⟨ok, release⟩ := result
    cases ok <;> rfl
  | deleteConfig _ _ _ | getReleaseHistory _ _ _ => exact (single_store_bind fun _ ↦ rfl).atomic

end Atomic

namespace ServerRequest

/-- A request to set a key, over either interface. -/
def isSet : ServerRequest → Bool
  | .http request _ =>
    match HttpSession.route request.method request.target with
    | .setConfig _ _ => true
    | _ => false
  | .grpc (.setConfig _ _ _ _) => true
  | .grpc _ => false

/-- Every request but a set request is atomic. -/
theorem atomic_program (parse : Parse) {request : ServerRequest} (h : request.isSet = false) :
    Program.Atomic StoreCall.respond (request.program parse) := by
  cases request with
  | http request now =>
    have hset : ∀ ns key,
        HttpSession.route request.method request.target ≠ .setConfig ns key := by
      intro ns key hroute
      simp [isSet, hroute] at h
    refine Program.Repeats.andThen _ ?_ fun _ ↦ rfl
    refine Program.Repeats.andThen _ (atomic_handle parse request.body now _ hset) fun r ↦ ?_
    cases r <;> rfl
  | grpc call =>
    have hset : ∀ ns key value op, call ≠ .setConfig ns key value op := by
      rintro ns key value op rfl
      cases h
    exact Program.Repeats.andThen _ (atomic_unary call hset) fun _ ↦ rfl

end ServerRequest

/-! ### Schedules -/

section Schedules
variable (parse : Parse) (requests : List ServerRequest) (db : Database)
  (schedule : List (Timestamp × Nat))

/-- Requests that have all yet to start, on one store. -/
def waiting : Clients (HandlerProgram ServerAnswer) Database where
  locals := requests.map (·.program parse)
  shared := db

/-- The requests and the store after a schedule: an entry names the request that makes its next
store call and the clock reading of this call. -/
def served : Clients (HandlerProgram ServerAnswer) Database :=
  run (Clients.step (Program.act StoreCall.respond)) (waiting parse requests db) schedule

/-- The store calls of a schedule, in order. -/
def storeCalls : List (Program.Made Timestamp StoreCall) :=
  Program.calls StoreCall.respond (waiting parse requests db) schedule

/-- The answer to a request that has one. -/
def answerTo (c : Clients (HandlerProgram ServerAnswer) Database) (i : Nat) :
    Option ServerAnswer :=
  c.locals[i]?.bind Program.result?

/-- A store call with its clock reading. -/
def event (m : Program.Made Timestamp StoreCall) : Event := (m.input, m.call.toCall)

/-- The store sees a run of the store calls. -/
theorem shared_served :
    (served parse requests db schedule).shared =
      run step db ((storeCalls parse requests db schedule).map event) := by
  rw [served, Program.shared_run]
  change run _ db (storeCalls parse requests db schedule) = _
  generalize storeCalls parse requests db schedule = made
  induction made generalizing db with
  | nil => rfl
  | cons m made ih =>
    rw [List.map_cons, run_cons, run_cons, ih]
    exact congrArg (fun s ↦ run step s (made.map event))
      (StoreCall.respond_state m.input db m.call)

variable {parse requests db schedule}

private theorem exists_request_of_program {i : Nat} {p : HandlerProgram ServerAnswer}
    (h : (waiting parse requests db).locals[i]? = some p) :
    ∃ request, requests[i]? = some request ∧ request.program parse = p := by
  simpa [waiting] using h

/-- Every store call was made by a request that asks for it. -/
theorem request_of_mem_storeCalls {m : Program.Made Timestamp StoreCall}
    (h : m ∈ storeCalls parse requests db schedule) :
    ∃ request, requests[m.client]? = some request ∧ request.Writes parse m.call := by
  refine (Program.made_of_mem_calls _ (P := fun i c ↦ ∃ request, requests[i]? = some request ∧
    request.Writes parse c) (fun i p hp ↦ ?_) h).1
  obtain ⟨request, hi, rfl⟩ := exists_request_of_program hp
  exact (request.program_only parse).mono fun c hc ↦ ⟨request, hi, hc⟩

/-! ### The serial run -/

variable (parse requests) in
/-- The store after one piece of a serial run: the handler of a request in one piece, or one store
call. -/
def performed (db : Database) : Program.Piece Timestamp StoreCall → Database
  | .whole i ts =>
    match requests[i]? with
    | some request => (request.handle parse ts db).2
    | none => db
  | .single m => step db (event m)

variable (parse requests db schedule) in
/-- At turn `t` a request made a store call, and the piece is this call or the whole request, if
it has its answer with this call. -/
def StandsAt (t : Nat) (piece : Program.Piece Timestamp StoreCall) : Prop :=
  ∃ m : Program.Made Timestamp StoreCall,
    schedule[t]? = some (m.input, m.client) ∧
    storeCalls parse requests db (schedule.take (t + 1)) =
      storeCalls parse requests db (schedule.take t) ++ [m] ∧
    (piece = .single m ∨ piece = .whole m.client m.input ∧
      (answerTo (served parse requests db (schedule.take (t + 1))) m.client).isSome)

variable (parse requests db schedule) in
/-- A serial run comes to what the schedule comes to: it leaves the same store and gives the same
answers; a request that is no set request is in one piece, and a set request makes its calls. Each
piece has its turn, in the order of the schedule: a call its own turn, a whole request the turn of
its last store call, at the clock reading of this turn. So a request that had its answer before
another made its first store call comes before it. -/
structure Serializes (placed : List (Nat × Program.Piece Timestamp StoreCall)) : Prop where
  store : run (performed parse requests) db (placed.map Prod.snd) =
    (served parse requests db schedule).shared
  told : Along (performed parse requests)
    (fun s piece ↦ ∀ i ts, piece = .whole i ts → ∃ request, requests[i]? = some request ∧
      answerTo (served parse requests db schedule) i = some (request.handle parse ts s).1)
    db (placed.map Prod.snd)
  once : ∀ (i : Nat) (request : ServerRequest), requests[i]? = some request →
    request.isSet = false →
      (∀ answer, answerTo (served parse requests db schedule) i = some answer →
        (∀ ts s, request.handle parse ts s = (answer, s)) ∨
          ∃ ts, (placed.map Prod.snd).filter (·.client = i) = [.whole i ts]) ∧
      (answerTo (served parse requests db schedule) i = none →
        (placed.map Prod.snd).filter (·.client = i) = [])
  sets : ∀ (i : Nat) (request : ServerRequest), requests[i]? = some request → request.isSet →
    (placed.map Prod.snd).filter (·.client = i) =
      ((storeCalls parse requests db schedule).filter (·.client = i)).map .single
  turns : ∀ t piece, (t, piece) ∈ placed → StandsAt parse requests db schedule t piece
  order : placed.Pairwise (·.1 < ·.1)
  apart : ∀ n i j, (answerTo (served parse requests db (schedule.take n)) i).isSome →
    (∀ m ∈ storeCalls parse requests db (schedule.take n), m.client ≠ j) →
    ∀ t piece t' piece', (t, piece) ∈ placed → piece.client = i →
      (t', piece') ∈ placed → piece'.client = j → t < n ∧ n ≤ t'

/-- The store call that a piece stands at is its own request's. -/
theorem StandsAt.call {t : Nat} {piece : Program.Piece Timestamp StoreCall}
    (h : StandsAt parse requests db schedule t piece) :
    ∃ m : Program.Made Timestamp StoreCall, m.client = piece.client ∧
      schedule[t]? = some (m.input, m.client) ∧
      storeCalls parse requests db (schedule.take (t + 1)) =
        storeCalls parse requests db (schedule.take t) ++ [m] := by
  obtain ⟨m, hturn, hcalls, rfl | ⟨rfl, -⟩⟩ := h <;> exact ⟨m, rfl, hturn, hcalls⟩

-- Requests that are served in one piece.
private def inOnePiece (requests : List ServerRequest) (i : Nat) : Bool :=
  match requests[i]? with
  | some request => !request.isSet
  | none => false

private theorem perform_eq (s : Database) (piece : Program.Piece Timestamp StoreCall) :
    Program.perform StoreCall.respond (requests.map (·.program parse)) s piece =
      performed parse requests s piece := by
  cases piece with
  | single m => exact StoreCall.respond_state m.input s m.call
  | whole i ts =>
    simp only [Program.perform, performed, List.getElem?_map]
    cases requests[i]? with
    | none => rfl
    | some request => exact congrArg Prod.snd (request.program_exec parse ts s)

private theorem mem_storeCalls_take {m : Program.Made Timestamp StoreCall} {t n : Nat}
    (h : m ∈ storeCalls parse requests db (schedule.take t)) (htn : t ≤ n) :
    m ∈ storeCalls parse requests db (schedule.take n) := by
  obtain ⟨k, rfl⟩ := Nat.exists_eq_add_of_le htn
  rw [storeCalls, List.take_add, Program.calls_append]
  exact List.mem_append_left _ h

-- a request that has its answer makes no call at a later turn
private theorem storeCalls_take_of_answered {i n t : Nat} {e : Timestamp × Nat}
    (hn : (answerTo (served parse requests db (schedule.take n)) i).isSome) (hnt : n ≤ t)
    (he : schedule[t]? = some e) (hi : e.2 = i) :
    storeCalls parse requests db (schedule.take (t + 1)) =
      storeCalls parse requests db (schedule.take t) := by
  have hdone : ∃ answer, (served parse requests db (schedule.take t)).locals[i]? =
      some (.done answer) := by
    obtain ⟨k, rfl⟩ := Nat.exists_eq_add_of_le hnt
    rw [served, List.take_add, run_append]
    unfold answerTo at hn
    cases hp : (served parse requests db (schedule.take n)).locals[i]? with
    | none =>
      rw [hp] at hn
      cases hn
    | some p =>
      cases p with
      | done answer => exact ⟨answer, Program.locals_run_of_done _ hp _⟩
      | call m next =>
        rw [hp] at hn
        cases hn
  obtain ⟨answer, hdone⟩ := hdone
  have hturn : Program.turn (served parse requests db (schedule.take t)) e = [] := by
    simp only [Program.turn, hi, hdone]
  rw [storeCalls, Program.calls_take_succ _ _ he]
  exact (congrArg (_ ++ ·) hturn).trans (List.append_nil _)

private theorem standsAt_serialAt {t : Nat} {piece : Program.Piece Timestamp StoreCall}
    (h : (t, piece) ∈ Program.serialAt StoreCall.respond (inOnePiece requests) 0
      (waiting parse requests db) schedule) :
    StandsAt parse requests db schedule t piece := by
  obtain ⟨k, e, ht, he, hplace⟩ := Program.place_of_mem_serialAt h
  obtain rfl : t = k := by omega
  obtain ⟨m, rfl, hturn, hpiece⟩ := Program.call_of_mem_place hplace
  refine ⟨m, he, ?_, hpiece.imp_right fun ⟨hwhole, answer, hdone⟩ ↦ ⟨hwhole, ?_⟩⟩
  · rw [storeCalls, Program.calls_take_succ _ _ he, hturn]
    rfl
  · rw [served, List.take_add_one, he, Option.toList_some, run_append, answerTo]
    change ((Clients.step (Program.act StoreCall.respond) _ _).locals[m.client]?.bind _).isSome
    rw [hdone]
    rfl

-- each of two pieces stands at a call of its own request, and a request calls before its answer
private theorem apart_of_turns {placed : List (Nat × Program.Piece Timestamp StoreCall)}
    (hturns : ∀ t piece, (t, piece) ∈ placed → StandsAt parse requests db schedule t piece)
    (n i j : Nat)
    (hanswered : (answerTo (served parse requests db (schedule.take n)) i).isSome)
    (hfirst : ∀ m ∈ storeCalls parse requests db (schedule.take n), m.client ≠ j) (t : Nat)
    (piece : Program.Piece Timestamp StoreCall) (t' : Nat)
    (piece' : Program.Piece Timestamp StoreCall) (hpiece : (t, piece) ∈ placed)
    (hi : piece.client = i) (hpiece' : (t', piece') ∈ placed) (hj : piece'.client = j) :
    t < n ∧ n ≤ t' := by
  obtain ⟨m, hm, hturn, hcalls⟩ := (hturns t piece hpiece).call
  obtain ⟨m', hm', -, hcalls'⟩ := (hturns t' piece' hpiece').call
  constructor
  · by_contra hle
    have hsame := storeCalls_take_of_answered hanswered (Nat.not_lt.mp hle) hturn (hm.trans hi)
    rw [hcalls] at hsame
    simpa using congrArg List.length hsame
  · by_contra hlt
    have hmem : m' ∈ storeCalls parse requests db (schedule.take (t' + 1)) := by
      rw [hcalls']
      exact List.mem_append_right _ List.mem_cons_self
    exact hfirst m' (mem_storeCalls_take hmem (Nat.not_le.mp hlt)) (hm'.trans hj)

/-- Under every schedule the requests come to a serial run. -/
theorem requests_serializable (parse : Parse) (requests : List ServerRequest) (db : Database)
    (schedule : List (Timestamp × Nat)) :
    ∃ placed, Serializes parse requests db schedule placed := by
  have hperform : Program.perform StoreCall.respond (requests.map (·.program parse)) =
      performed parse requests := funext fun s ↦ funext (perform_eq s)
  have hresumes : Program.Resumes StoreCall.respond (inOnePiece requests)
      (requests.map (·.program parse)) (waiting parse requests db) := by
    refine Program.resumes_start (fun i p hp ha ↦ ?_) db
    obtain ⟨request, hi, rfl⟩ : ∃ request, requests[i]? = some request ∧
        request.program parse = p := by simpa using hp
    rw [inOnePiece, hi, Bool.not_eq_true'] at ha
    exact ServerRequest.atomic_program parse ha
  let placed := Program.serialAt StoreCall.respond (inOnePiece requests) 0
    (waiting parse requests db) schedule
  have hpieces : placed.map Prod.snd = Program.serial StoreCall.respond (inOnePiece requests)
      (waiting parse requests db) schedule := Program.map_snd_serialAt 0 _ schedule
  have hturns : ∀ t piece, (t, piece) ∈ placed → StandsAt parse requests db schedule t piece :=
    fun t piece h ↦ standsAt_serialAt h
  refine ⟨placed, ?_, ?_, ?_, ?_, hturns, Program.pairwise_serialAt 0 _ schedule,
    apart_of_turns hturns⟩
  · rw [hpieces, served, Program.shared_serial hresumes, hperform]
    rfl
  · have halong := Program.along_serial hresumes schedule
    rw [hperform] at halong
    rw [hpieces]
    refine (along_iff_forall_split _ _ _ _).mpr ?_
    intro pre piece post hsplit i ts hpiece
    obtain ⟨p, hp, htold⟩ :=
      (along_iff_forall_split _ _ _ _).mp halong pre piece post hsplit i ts hpiece
    obtain ⟨request, hi, rfl⟩ : ∃ request, requests[i]? = some request ∧
        request.program parse = p := by simpa using hp
    refine ⟨request, hi, ?_⟩
    rw [answerTo, served, htold, request.program_exec]
    rfl
  · rw [hpieces]
    intro i request hi hset
    have hlocal : (waiting parse requests db).locals[i]? = some (request.program parse) := by
      simp [waiting, hi]
    have hpiece : inOnePiece requests i := by simp [inOnePiece, hi, hset]
    cases hp : request.program parse with
    | done answer =>
      have hanswer : answerTo (served parse requests db schedule) i = some answer := by
        rw [hp] at hlocal
        rw [answerTo, served, Program.locals_run_of_done _ hlocal]
        rfl
      rw [hanswer]
      refine ⟨fun a ha ↦ .inl fun ts s ↦ ?_, fun h ↦ ?_⟩
      · cases ha
        rw [← request.program_exec, hp]
        rfl
      · cases h
    | call m next =>
      have hstart : (request.program parse).isDone = false := by
        rw [hp]
        rfl
      obtain ⟨p', hp', hcases⟩ := Program.filter_serial hlocal hstart hpiece schedule
      have hanswer : answerTo (served parse requests db schedule) i = p'.result? := by
        rw [answerTo, served, hp']
        rfl
      rw [hanswer]
      cases p' with
      | done a =>
        obtain ⟨_, ts, hts⟩ | ⟨hnot, _⟩ := hcases
        · refine ⟨fun _ _ ↦ .inr ⟨ts, hts⟩, fun h ↦ ?_⟩
          cases h
        · cases hnot
      | call m' next' =>
        obtain ⟨hdone, _⟩ | ⟨_, hnone⟩ := hcases
        · cases hdone
        · refine ⟨fun _ h ↦ ?_, fun _ ↦ hnone⟩
          cases h
  · rw [hpieces]
    intro i request hi hset
    refine Program.filter_serial_of_not_atomic _ ?_ schedule
    simp [inOnePiece, hi, hset]

end Schedules
end ConfigCenter.Server
