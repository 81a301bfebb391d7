import ConfigCenter.Base.Lockstep
import ConfigCenter.Storage.BackendAgreement
import ConfigCenter.Storage.ClientView
import ConfigCenter.Server.ConcurrentRequests

/-!
# The server over either backend

Library `Server`. The handlers know the store by its interface only, so the same requests can
run over the SQLite and over the MySQL store. Requests on configurations and releases are
answered alike by both, ids and times aside, however their store calls interleave, as long as
their texts have room in the columns of the MySQL store: the programs of the handlers run in
lockstep over coupled stores.
-/

namespace ConfigCenter.Server
open ConfigCenter.Storage ConfigCenter.Base

/-- Two outcomes are the same: the same exception, or results that are. -/
def SameOutcome {α : Type} (same : α → α → Prop) : Except Thrown α → Except Thrown α → Prop
  | .ok a, .ok a' => same a a'
  | .error e, .error e' => e = e'
  | _, _ => False

namespace StoreCall

/-! ### Store calls on the MySQL store -/

/-- The method of the MySQL store; `others` are its methods on applications and namespaces. -/
def execMysql (engine : Engine) (others : (c : StoreCall) → MysqlM c.Answer) (ts : Timestamp) :
    (c : StoreCall) → MysqlM c.Answer
  | .getConfig ns key includeDraft => MysqlConfigStore.getConfig engine ns key includeDraft
  | .createConfig ns key value op => MysqlConfigStore.createConfig engine ns key value op ts
  | .updateConfig ns key value op draft =>
    MysqlConfigStore.updateConfig engine ns key value op draft ts
  | .deleteConfig ns key op draft => MysqlConfigStore.deleteConfig engine ns key op draft ts
  | .publishRelease ns note op => MysqlConfigStore.publishRelease engine ns note op ts
  | .getReleases query => MysqlConfigStore.getReleases engine query
  | c => others c

/-- The answer of the MySQL store and the connection after a method. -/
def respondMysql (engine : Engine) (others : (c : StoreCall) → MysqlM c.Answer) (ts : Timestamp)
    (conn : Connection) (c : StoreCall) : Except Thrown c.Answer × Connection :=
  c.execMysql engine others ts conn

/-- The namespace of a method on configurations or releases. -/
def namespaceId? : StoreCall → Option String
  | .getConfig ns _ _ | .createConfig ns _ _ _ | .updateConfig ns _ _ _ _ | .deleteConfig ns _ _ _
  | .publishRelease ns _ _ => some ns
  | .getReleases query => some query.namespaceId
  | _ => none

/-- The method is one on configurations or releases of a namespace of the list. -/
def OnConfigs (nss : List String) (c : StoreCall) : Prop := ∃ ns ∈ nss, c.namespaceId? = some ns

/-- Two results of a method on configurations or releases are the same, ids, times and the order of
rows aside. A creation may report either. -/
def Similar : (c : StoreCall) → c.Answer → c.Answer → Prop
  | .getConfig _ _ _, config, config' => config.map ConfigKey.aside = config'.map ConfigKey.aside
  | .createConfig _ _ _ _, _, _ => True
  | .updateConfig _ _ _ _ _, ok, ok' => ok = ok'
  | .deleteConfig _ _ _ _, ok, ok' => ok = ok'
  | .publishRelease _ _ _, (ok, release), (ok', release') =>
    ok = ok' ∧ release.map Release.aside = release'.map Release.aside
  | .getReleases _, releases, releases' =>
    (releases.map Release.aside).Perm (releases'.map Release.aside)
  | _, _, _ => False

/-- Two answers to a method are alike. -/
def Alike (c : StoreCall) : Except Thrown c.Answer → Except Thrown c.Answer → Prop :=
  SameOutcome c.Similar

/-- The texts that a write stores have room in the columns of the MySQL store, and the bounds of a
page of releases separate no releases of one second. -/
def Fair (db : Database) : StoreCall → Prop
  | .createConfig _ key value _ => TextFits (.varchar 255) key ∧ TextFits .text value
  | .updateConfig _ _ value _ _ => TextFits .text value
  | .publishRelease _ note op => TextFits .text note ∧ TextFits (.varchar 255) op
  | .getReleases query => UncutPage db query
  | _ => True

instance (db : Database) : (c : StoreCall) → Decidable (c.Fair db)
  | .createConfig _ _ _ _ | .publishRelease _ _ _ => inferInstanceAs (Decidable (_ ∧ _))
  | .updateConfig _ _ value _ _ => inferInstanceAs (Decidable (TextFits .text value))
  | .getReleases query => inferInstanceAs (Decidable (UncutPage db query))
  | .getApplication _ | .createApplication _ | .listApplications | .deleteApplication _
  | .createNamespace _ | .listNamespaces _ _ _ | .getConfig _ _ _ | .deleteConfig _ _ _ _ =>
    isTrue True.intro

end StoreCall

/-- Stores that look alike answer the methods on configurations and releases of their namespaces
alike, and look alike after them. -/
theorem matching_respond (engine : Engine) [engine.ByteWise]
    (others : (c : StoreCall) → MysqlM c.Answer) (nss : List String) :
    Program.Matching StoreCall.respond (StoreCall.respondMysql engine others) StoreCall.Alike
      (LooksAlike nss)
      (fun ts db c ↦ isClockText ts ∧ c.OnConfigs nss ∧ c.Fair db) := by
  rintro ts db conn c h ⟨hts, ⟨ns, hns, hc⟩, hfair⟩
  cases c with
  | getConfig _ key includeDraft =>
    cases hc
    obtain ⟨config, config', hsqlite, hmysql, hsame⟩ := h.getConfig engine ns key includeDraft
    simp only [StoreCall.respond, StoreCall.respondMysql, StoreCall.exec, StoreCall.execMysql]
    rw [hsqlite, hmysql]
    exact ⟨hsame, h⟩
  | createConfig _ key value op =>
    cases hc
    obtain ⟨ok, ok', db', conn', hsqlite, hmysql, hafter⟩ :=
      h.createConfig engine hts hns hfair.1 hfair.2 op
    simp only [StoreCall.respond, StoreCall.respondMysql, StoreCall.exec, StoreCall.execMysql]
    rw [hsqlite, hmysql]
    exact ⟨True.intro, hafter⟩
  | updateConfig _ key value op draft =>
    cases hc
    obtain ⟨ok, db', conn', hsqlite, hmysql, hafter⟩ :=
      h.updateConfig engine hts ns key hfair op draft
    simp only [StoreCall.respond, StoreCall.respondMysql, StoreCall.exec, StoreCall.execMysql]
    rw [hsqlite, hmysql]
    exact ⟨rfl, hafter⟩
  | deleteConfig _ key op draft =>
    cases hc
    obtain ⟨db', conn', hsqlite, hmysql, hafter⟩ := h.deleteConfig engine ns key op draft
    simp only [StoreCall.respond, StoreCall.respondMysql, StoreCall.exec, StoreCall.execMysql]
    rw [hsqlite, hmysql]
    exact ⟨rfl, hafter⟩
  | publishRelease _ note op =>
    cases hc
    obtain ⟨release, release', db', conn', hsqlite, hmysql, hsame, hafter⟩ :=
      h.publishRelease engine hts hns hfair.1 hfair.2
    simp only [StoreCall.respond, StoreCall.respondMysql, StoreCall.exec, StoreCall.execMysql]
    rw [hsqlite, hmysql]
    exact ⟨⟨rfl, congrArg some hsame⟩, hafter⟩
  | getReleases query =>
    obtain ⟨releases, releases', hsqlite, hmysql, hsame⟩ := h.getReleases engine hfair
    simp only [StoreCall.respond, StoreCall.respondMysql, StoreCall.exec, StoreCall.execMysql]
    rw [hsqlite, hmysql]
    exact ⟨hsame, h⟩
  | _ => cases hc

/-! ### Answers that are alike -/

/-- Members of a response that hold an id or a time. -/
def Json.varies (name : String) : Bool := ["id", "release_id", "created_at"].contains name

/-- The members of an object that hold neither ids nor times. -/
def Json.aside : Json → Json
  | .object members => .object (members.filter fun m ↦ !Json.varies m.1)
  | j => j

/-- Two bodies are the same, ids and times aside; the rows of a list in any order. -/
def Json.Same (j j' : Json) : Prop :=
  j.aside = j'.aside ∨ ∃ l l', j = .object [("releases", .array l)] ∧
    j' = .object [("releases", .array l')] ∧ (l.map Json.aside).Perm (l'.map Json.aside)

/-- A release message, id and time aside. -/
def GrpcService.ReleaseMessage.aside (r : GrpcService.ReleaseMessage) :
    GrpcService.ReleaseMessage :=
  { r with id := 0, createdAt := "" }

/-- Two responses are the same, ids and times aside; the rows of a list in any order. -/
def GrpcService.UnaryAnswer.Same : GrpcService.UnaryAnswer → GrpcService.UnaryAnswer → Prop
  | .config status c, .config status' c' => status = status' ∧ c = c'
  | .deletion status success, .deletion status' success' => status = status' ∧ success = success'
  | .release status r, .release status' r' =>
    status = status' ∧ r.map ReleaseMessage.aside = r'.map ReleaseMessage.aside
  | .history status rs total, .history status' rs' total' =>
    status = status' ∧ total = total' ∧
      (rs.map ReleaseMessage.aside).Perm (rs'.map ReleaseMessage.aside)
  | _, _ => False

/-- Two answers of the server are the same, ids and times aside. -/
def ServerAnswer.Same : ServerAnswer → ServerAnswer → Prop
  | .http r, .http r' => SameOutcome (fun a a' ↦ a.1 = a'.1 ∧ a.2.Same a'.2) r r'
  | .grpc r, .grpc r' => SameOutcome GrpcService.UnaryAnswer.Same r r'
  | _, _ => False

/-! ### Handlers that run alike -/

/-- Two handlers make the same calls as long as the answers are alike, and end the same way. -/
def RunAlike {α : Type} (same : α → α → Prop) (h h' : HandlerM α) : Prop :=
  Program.Similar StoreCall.Alike (SameOutcome same) h.run h'.run

section RunAlike
variable {α β : Type} {same : α → α → Prop} {same' : β → β → Prop}

private theorem runAlike_pure {a a' : α} (h : same a a') : RunAlike same (pure a) (pure a') :=
  .done h

private theorem runAlike_bind {h h' : HandlerM α} {f f' : α → HandlerM β}
    (hh : RunAlike same h h') (hf : ∀ a a', same a a' → RunAlike same' (f a) (f' a')) :
    RunAlike same' (h >>= f) (h' >>= f') := by
  refine Program.Similar.andThen hh fun r r' hr ↦ ?_
  cases r with
  | error e =>
    cases r' with
    | error e' => exact .done hr
    | ok a' => cases hr
  | ok a =>
    cases r' with
    | error e' => cases hr
    | ok a' => exact hf a a' hr

private theorem runAlike_required_bind {o : Option α} {f : α → HandlerM β}
    (hf : ∀ a, RunAlike same' (f a) (f a)) :
    RunAlike same' (required o >>= f) (required o >>= f) := by
  cases o with
  | none => exact .done rfl
  | some a => exact hf a

private theorem runAlike_store_bind {c : StoreCall} {f f' : c.Answer → HandlerM β}
    (hf : ∀ a a', c.Similar a a' → RunAlike same' (f a) (f' a')) :
    RunAlike same' (store c >>= f) (store c >>= f') := by
  have hstore : RunAlike c.Similar (store c) (store c) := .call fun _ _ hr ↦ .done hr
  exact runAlike_bind hstore hf

end RunAlike

/-! ### The handlers -/

private theorem same_refl (j : Json) : j.Same j := .inl rfl

private theorem alike_getConfig (ns key : String) :
    RunAlike Json.Same (HandlerProgram.handleGetConfig ns key)
      (HandlerProgram.handleGetConfig ns key) := by
  refine runAlike_store_bind fun config config' hsame ↦ ?_
  replace hsame : config.map ConfigKey.aside = config'.map ConfigKey.aside := hsame
  cases config with
  | none =>
    rw [Option.map_none, eq_comm, Option.map_eq_none_iff] at hsame
    rw [hsame]
    exact runAlike_pure (same_refl _)
  | some c =>
    obtain ⟨c', rfl, hc⟩ := Option.map_eq_some_iff.mp hsame.symm
    have hkey : c'.key = c.key := (congrArg ConfigKey.key hc :)
    have hvalue : c'.value = c.value := (congrArg ConfigKey.value hc :)
    have hversion : c'.version = c.version := (congrArg ConfigKey.version hc :)
    simp only [hkey, hvalue, hversion]
    exact runAlike_pure (same_refl _)

private theorem isSome_of_similar {config config' : Option ConfigKey}
    (h : config.map ConfigKey.aside = config'.map ConfigKey.aside) :
    config.isSome = config'.isSome := by
  rw [← Option.isSome_map, h, Option.isSome_map]

private theorem alike_setConfig (parse : Parse) (body ns key : String) :
    RunAlike Json.Same (HandlerProgram.handleSetConfig parse body ns key)
      (HandlerProgram.handleSetConfig parse body ns key) := by
  refine runAlike_required_bind fun j ↦ runAlike_required_bind fun value ↦ ?_
  refine runAlike_store_bind fun existing existing' hsame ↦ ?_
  rw [isSome_of_similar hsame]
  split
  · exact runAlike_store_bind fun _ _ _ ↦ runAlike_pure (same_refl _)
  · exact runAlike_store_bind fun _ _ _ ↦ runAlike_pure (same_refl _)

private theorem map_of_aside {τ : Type} {f : Release → τ} (hf : ∀ r, f r.aside = f r)
    {release release' : Option Release}
    (h : release.map Release.aside = release'.map Release.aside) :
    release.map f = release'.map f := by
  have hcomp : f = f ∘ Release.aside := funext fun r ↦ (hf r).symm
  rw [hcomp, ← Option.map_map, h, Option.map_map]

private theorem map_perm_of_aside {τ : Type} {f : Release → τ} (hf : ∀ r, f r.aside = f r)
    {releases releases' : List Release}
    (h : (releases.map Release.aside).Perm (releases'.map Release.aside)) :
    (releases.map f).Perm (releases'.map f) := by
  have hcomp : f = f ∘ Release.aside := funext fun r ↦ (hf r).symm
  rw [hcomp, ← List.map_map, ← List.map_map]
  exact h.map f

private theorem aside_published (id version : Int) (note createdAt : String) :
    (Json.object [("release_id", .integer id), ("release_version", .integer version),
      ("release_note", .string note), ("created_at", .string createdAt)]).aside =
      .object [("release_version", .integer version), ("release_note", .string note)] := rfl

private theorem alike_publish (parse : Parse) (body ns : String) :
    RunAlike Json.Same (HandlerProgram.handlePublish parse body ns)
      (HandlerProgram.handlePublish parse body ns) := by
  refine runAlike_required_bind fun j ↦ runAlike_required_bind fun note ↦ ?_
  refine runAlike_store_bind ?_
  rintro ⟨ok, release⟩ ⟨ok', release'⟩ ⟨rfl, hrelease⟩
  cases ok with
  | false => exact runAlike_pure (same_refl _)
  | true =>
    have hversion : release.map Release.releaseVersion = release'.map Release.releaseVersion :=
      map_of_aside (fun _ ↦ rfl) hrelease
    have hnote : release.map Release.releaseNote = release'.map Release.releaseNote :=
      map_of_aside (fun _ ↦ rfl) hrelease
    refine runAlike_pure (.inl ?_)
    rw [aside_published, aside_published, hversion, hnote]

private theorem alike_getReleases (ns : String) :
    RunAlike Json.Same (HandlerProgram.handleGetReleases ns)
      (HandlerProgram.handleGetReleases ns) := by
  refine runAlike_store_bind fun releases releases' hperm ↦ runAlike_pure ?_
  replace hperm : (releases.map Release.aside).Perm (releases'.map Release.aside) := hperm
  refine .inr ⟨_, _, rfl, rfl, ?_⟩
  rw [List.map_map, List.map_map]
  exact map_perm_of_aside (fun _ ↦ rfl) hperm

/-- A request on configurations or releases, or one without store calls. -/
def Route.avoidsRegistry : Route → Bool
  | .createApp | .listApps | .getApp _ | .deleteApp _ | .listNamespaces _ | .createNamespace =>
    false
  | _ => true

private theorem alike_handle (parse : Parse) (body : String) (now : Timestamp) {called : Route}
    (h : called.avoidsRegistry) :
    RunAlike Json.Same (HandlerProgram.handle parse body now called)
      (HandlerProgram.handle parse body now called) := by
  cases called with
  | createApp | listApps | getApp _ | deleteApp _ | listNamespaces _ | createNamespace => cases h
  | health | notifications | unserved | notFound => exact runAlike_pure (same_refl _)
  | login => exact runAlike_required_bind fun _ ↦ runAlike_pure (same_refl _)
  | getConfig ns key => exact alike_getConfig ns key
  | setConfig ns key => exact alike_setConfig parse body ns key
  | deleteConfig ns key => exact runAlike_store_bind fun _ _ _ ↦ runAlike_pure (same_refl _)
  | publish ns => exact alike_publish parse body ns
  | getReleases ns => exact alike_getReleases ns

private theorem ofRow_of_similar {config config' : Option ConfigKey}
    (h : config.map ConfigKey.aside = config'.map ConfigKey.aside) :
    config.map GrpcService.ConfigMessage.ofRow = config'.map GrpcService.ConfigMessage.ofRow := by
  have hrow : GrpcService.ConfigMessage.ofRow =
      GrpcService.ConfigMessage.ofRow ∘ ConfigKey.aside := rfl
  rw [hrow, ← Option.map_map, h, Option.map_map]

private theorem alike_unary (call : GrpcService.UnaryCall) :
    RunAlike GrpcService.UnaryAnswer.Same call.handler call.handler := by
  cases call with
  | getConfig ns key =>
    refine runAlike_store_bind fun config config' hsame ↦ ?_
    replace hsame : config.map ConfigKey.aside = config'.map ConfigKey.aside := hsame
    cases config with
    | none =>
      rw [Option.map_none, eq_comm, Option.map_eq_none_iff] at hsame
      rw [hsame]
      exact runAlike_pure ⟨rfl, rfl⟩
    | some c =>
      have hmessage := ofRow_of_similar hsame
      obtain ⟨c', rfl, -⟩ := Option.map_eq_some_iff.mp hsame.symm
      exact runAlike_pure ⟨rfl, hmessage⟩
  | setConfig ns key value op =>
    refine runAlike_store_bind fun existing existing' hsame ↦ ?_
    rw [isSome_of_similar hsame]
    split
    · exact runAlike_store_bind fun _ _ _ ↦ runAlike_store_bind fun _ _ hupdated ↦
        runAlike_pure ⟨rfl, ofRow_of_similar hupdated⟩
    · exact runAlike_store_bind fun _ _ _ ↦ runAlike_store_bind fun _ _ hupdated ↦
        runAlike_pure ⟨rfl, ofRow_of_similar hupdated⟩
  | deleteConfig ns key op =>
    exact runAlike_store_bind fun ok ok' hsame ↦ runAlike_pure ⟨rfl, hsame⟩
  | publishRelease ns note op =>
    refine runAlike_store_bind ?_
    rintro ⟨ok, release⟩ ⟨ok', release'⟩ ⟨rfl, hrelease⟩
    cases ok with
    | false => exact runAlike_pure ⟨rfl, rfl⟩
    | true =>
      refine runAlike_pure ⟨rfl, ?_⟩
      rw [Option.map_map, Option.map_map]
      exact map_of_aside (fun _ ↦ rfl) hrelease
  | getReleaseHistory ns page pageSize =>
    refine runAlike_store_bind fun releases releases' hperm ↦ runAlike_pure ⟨rfl, ?_, ?_⟩
    · have hlength := hperm.length_eq
      rw [List.length_map, List.length_map] at hlength
      rw [hlength]
    · rw [List.map_map, List.map_map]
      exact map_perm_of_aside (fun _ ↦ rfl) hperm

/-! ### Requests -/

/-- The namespace of a request on configurations or releases. -/
def Route.namespaceId? : Route → Option String
  | .getConfig ns _ | .setConfig ns _ | .deleteConfig ns _ | .publish ns | .getReleases ns =>
    some ns
  | _ => none

/-- The namespace of a unary call. -/
def GrpcService.UnaryCall.namespaceId : GrpcService.UnaryCall → String
  | .getConfig ns _ | .setConfig ns _ _ _ | .deleteConfig ns _ _ | .publishRelease ns _ _
  | .getReleaseHistory ns _ _ => ns

namespace ServerRequest

/-- The request is not one on applications or namespaces, and names a namespace of the list, if
any. -/
def OnConfigs (nss : List String) : ServerRequest → Prop
  | .http request _ =>
    let called := HttpSession.route request.method request.target
    called.avoidsRegistry ∧ ∀ ns ∈ called.namespaceId?, ns ∈ nss
  | .grpc call => call.namespaceId ∈ nss

instance (nss : List String) : (request : ServerRequest) → Decidable (request.OnConfigs nss)
  | .http _ _ => inferInstanceAs (Decidable (_ ∧ _))
  | .grpc call => inferInstanceAs (Decidable (call.namespaceId ∈ nss))

variable {nss : List String}

private theorem only_configs (parse : Parse) (body : String) (now : Timestamp) {called : Route}
    (h : called.avoidsRegistry) (hns : ∀ ns ∈ called.namespaceId?, ns ∈ nss) :
    Program.Only (StoreCall.OnConfigs nss) (HandlerProgram.handle parse body now called).run := by
  cases called with
  | createApp | listApps | getApp _ | deleteApp _ | listNamespaces _ | createNamespace => cases h
  | health | notifications | unserved | notFound => exact True.intro
  | login => exact only_required_bind fun _ _ ↦ True.intro
  | getConfig ns key =>
    refine only_store_bind ⟨ns, hns ns rfl, rfl⟩ fun config ↦ ?_
    cases config with
    | none => exact True.intro
    | some c => exact True.intro
  | setConfig ns key =>
    refine only_required_bind fun j _ ↦ only_required_bind fun value _ ↦ ?_
    refine only_store_bind ⟨ns, hns ns rfl, rfl⟩ fun existing ↦ only_ite ?_ ?_
    · exact only_store_bind ⟨ns, hns ns rfl, rfl⟩ fun _ ↦ True.intro
    · exact only_store_bind ⟨ns, hns ns rfl, rfl⟩ fun _ ↦ True.intro
  | deleteConfig ns key => exact only_store_bind ⟨ns, hns ns rfl, rfl⟩ fun _ ↦ True.intro
  | publish ns =>
    refine only_required_bind fun j _ ↦ only_required_bind fun note _ ↦ ?_
    exact only_store_bind ⟨ns, hns ns rfl, rfl⟩ fun _ ↦ only_ite True.intro True.intro
  | getReleases ns => exact only_store_bind ⟨ns, hns ns rfl, rfl⟩ fun _ ↦ True.intro

private theorem only_configs_unary {call : GrpcService.UnaryCall} (h : call.namespaceId ∈ nss) :
    Program.Only (StoreCall.OnConfigs nss) call.handler.run := by
  cases call with
  | getConfig ns key =>
    refine only_store_bind ⟨ns, h, rfl⟩ fun config ↦ ?_
    cases config with
    | none => exact True.intro
    | some c => exact True.intro
  | setConfig ns key value op =>
    refine only_store_bind ⟨ns, h, rfl⟩ fun existing ↦ only_ite ?_ ?_
    · exact only_store_bind ⟨ns, h, rfl⟩ fun _ ↦
        only_store_bind ⟨ns, h, rfl⟩ fun _ ↦ True.intro
    · exact only_store_bind ⟨ns, h, rfl⟩ fun _ ↦
        only_store_bind ⟨ns, h, rfl⟩ fun _ ↦ True.intro
  | deleteConfig ns key op => exact only_store_bind ⟨ns, h, rfl⟩ fun _ ↦ True.intro
  | publishRelease ns note op =>
    exact only_store_bind ⟨ns, h, rfl⟩ fun _ ↦ only_ite True.intro True.intro
  | getReleaseHistory ns page pageSize =>
    exact only_store_bind ⟨ns, h, rfl⟩ fun _ ↦ True.intro

/-- Such a request calls no other store methods than those on configurations and releases. -/
theorem only_onConfigs (parse : Parse) {request : ServerRequest} (h : request.OnConfigs nss) :
    Program.Only (StoreCall.OnConfigs nss) (request.program parse) := by
  cases request with
  | http request now =>
    exact Program.Only.andThen
      (only_bind (only_configs parse request.body now h.1 h.2) fun _ ↦ True.intro)
      fun _ ↦ True.intro
  | grpc call => exact Program.Only.andThen (only_configs_unary h) fun _ ↦ True.intro

/-- Such a request does the same over both backends as long as they answer alike. -/
theorem similar_program (parse : Parse) {request : ServerRequest} (h : request.OnConfigs nss) :
    Program.Similar StoreCall.Alike ServerAnswer.Same (request.program parse)
      (request.program parse) := by
  cases request with
  | http request now =>
    have hhandler : RunAlike (fun a a' ↦ a.1 = a'.1 ∧ a.2.Same a'.2)
        (HandlerProgram.handleRequest parse request now)
        (HandlerProgram.handleRequest parse request now) :=
      runAlike_bind (alike_handle parse request.body now h.1) fun _ _ hbody ↦
        runAlike_pure ⟨rfl, hbody⟩
    exact Program.Similar.andThen hhandler fun _ _ hanswer ↦ .done hanswer
  | grpc call => exact Program.Similar.andThen (alike_unary call) fun _ _ hanswer ↦ .done hanswer

end ServerRequest

/-! ### Both backends under one schedule -/

/-- The requests and the MySQL store after a schedule. -/
def servedMysql (engine : Engine) (others : (c : StoreCall) → MysqlM c.Answer) (parse : Parse)
    (requests : List ServerRequest) (conn : Connection) (schedule : List (Timestamp × Nat)) :
    Clients (HandlerProgram ServerAnswer) Connection :=
  run (Clients.step (Program.act (StoreCall.respondMysql engine others)))
    { locals := requests.map (·.program parse), shared := conn } schedule

/-- From stores with the same namespaces and otherwise empty, under every schedule of requests on
configurations and releases whose store calls are fair, a request has an answer over the one
backend exactly when it has one over the other, and the two answers are the same, ids and times
aside. -/
theorem requests_answered_alike (engine : Engine) [engine.ByteWise]
    (others : (c : StoreCall) → MysqlM c.Answer) (parse : Parse) {s : Backends} (hs : s.Started)
    {requests : List ServerRequest}
    (hrequests : ∀ request ∈ requests, request.OnConfigs s.namespaceIds)
    {schedule : List (Timestamp × Nat)} (hts : ∀ e ∈ schedule, isClockText e.1)
    (hfair : Along (Program.after StoreCall.respond) (fun db m ↦ m.call.Fair db) s.sqlite
      (storeCalls parse requests s.sqlite schedule)) (i : Nat) :
    Option.Rel ServerAnswer.Same (answerTo (served parse requests s.sqlite schedule) i)
      ((servedMysql engine others parse requests s.mysql schedule).locals[i]?.bind
        Program.result?) := by
  have hstart : Program.Lockstep StoreCall.Alike ServerAnswer.Same (LooksAlike s.namespaceIds)
      (waiting parse requests s.sqlite)
      { locals := requests.map (·.program parse), shared := s.mysql } := by
    refine ⟨looksAlike_of_started hs, fun j ↦ ?_⟩
    simp only [waiting, List.getElem?_map]
    cases hj : requests[j]? with
    | none => exact .none
    | some request =>
      exact .some (request.similar_program parse (hrequests request (List.mem_of_getElem? hj)))
  have hcalls : Along (Program.after StoreCall.respond)
      (fun db m ↦ isClockText m.input ∧ m.call.OnConfigs s.namespaceIds ∧ m.call.Fair db)
      s.sqlite (storeCalls parse requests s.sqlite schedule) := by
    have honly : ∀ (j : Nat) (p : HandlerProgram ServerAnswer),
        (waiting parse requests s.sqlite).locals[j]? = some p →
          Program.Only (StoreCall.OnConfigs s.namespaceIds) p := by
      intro j p hp
      obtain ⟨request, hj, rfl⟩ : ∃ request, requests[j]? = some request ∧
          request.program parse = p := by simpa [waiting] using hp
      exact request.only_onConfigs parse (hrequests request (List.mem_of_getElem? hj))
    have hmade : ∀ m ∈ storeCalls parse requests s.sqlite schedule,
        isClockText m.input ∧ m.call.OnConfigs s.namespaceIds := by
      intro m hm
      obtain ⟨hcall, hturn⟩ := Program.made_of_mem_calls StoreCall.respond honly hm
      exact ⟨hts _ hturn, hcall⟩
    simp only [← and_assoc]
    rw [along_and]
    exact ⟨along_of_forall_mem _ (fun m hm _ ↦ hmade m hm) _, hfair⟩
  exact (Program.lockstep_run (matching_respond engine others s.namespaceIds) hstart
    hcalls).results i

/-- Two set requests find no published value and both create the key; the MySQL store takes the
second creation for done. The history that is read after a publication is the same. -/
theorem requests_answered_alike_shop :
    let requests : List ServerRequest :=
      [.grpc (.setConfig "shop/prod" "timeout" "30" "alice"),
        .grpc (.setConfig "shop/prod" "timeout" "60" "bob"),
        .grpc (.publishRelease "shop/prod" "first" "alice"),
        .grpc (.getReleaseHistory "shop/prod" 1 20)]
    let schedule : List (Timestamp × Nat) :=
      [("2024-01-02T08:00:00Z", 0), ("2024-01-02T08:00:00Z", 1), ("2024-01-02T08:00:01Z", 0),
        ("2024-01-02T08:00:01Z", 1), ("2024-01-02T08:00:02Z", 0), ("2024-01-02T08:00:02Z", 1),
        ("2024-01-02T08:01:00Z", 2), ("2024-01-02T08:02:00Z", 3)]
    Option.Rel ServerAnswer.Same
      (answerTo (served (fun _ ↦ none) requests Backends.shop.sqlite schedule) 3)
      ((servedMysql .strict (fun _ conn ↦ (.error .storageFault, conn)) (fun _ ↦ none) requests
        Backends.shop.mysql schedule).locals[3]?.bind Program.result?) :=
  requests_answered_alike .strict _ _ (by constructor <;> decide) (by decide) (by decide)
    (by decide +kernel) 3

end ConfigCenter.Server
