import ConfigCenter.Base.Run
import ConfigCenter.Sdk.ConfigClient
import Mathlib.Data.List.Induction

/-!
# File caches of several applications on one machine

Library `Sdk`. Clients on one machine initialise for applications and
environments and shut down in any order; the files are those provided for some
pairs before the run, and what `Shutdown` wrote since. Nothing empties the
in-memory cache when a client is initialised for another pair, and the path joins
both names with a dash that each may contain. `Separate` excludes both; then
every client reads and writes only what was provided for its own pair.
-/

namespace ConfigCenter.Sdk
open ConfigCenter.Base ConfigClient

/-- An application and an environment. -/
abbrev Pair := String × String

/-- The path used for a pair. -/
def pathOf (home : Option String) (q : Pair) : String := cachePath home q.1 q.2

/-- Clients and files of one machine, with a record of the pairs given to `Init`. -/
structure Machine where
  clients : List ConfigClient
  files : Files
  inits : List Pair := []

/-- A call of one client. -/
inductive SdkEvent where
  | init (client : Nat) (serverAddress appId env : String)
  | shutdown (client : Nat)

/-- One call; a name without a client is skipped. -/
def Machine.step (home : Option String) (m : Machine) : SdkEvent → Machine
  | .init i serverAddress appId env =>
    match m.clients[i]? with
    | none => m
    | some c =>
      { m with
        clients := m.clients.set i (c.init home m.files serverAddress appId env).2
        inits := (appId, env) :: m.inits }
  | .shutdown i =>
    match m.clients[i]? with
    | none => m
    | some c =>
      { m with
        clients := m.clients.set i (c.shutdown m.files).2
        files := (c.shutdown m.files).1 }

/-- Cache files provided before the run, in the order in which they were written. -/
abbrev Provision := List (Pair × FileText)

/-- The files after the provision. -/
def Provision.files (home : Option String) (provision : Provision) : Files :=
  provision.foldl (fun files p ↦ Function.update files (pathOf home p.1) (some p.2))
    fun _ ↦ none

/-- The cache file provided for a pair has the entry. -/
def Provision.Has (provision : Provision) (q : Pair) (entry : String × String) : Prop :=
  ∃ text ∈ provision.reverse.lookup q, text.Has entry

/-- Every client returns only values provided for the pair of its last `Init`, and what its
`Shutdown` would write now into a file used for some pair was provided for that pair. -/
def Isolated (home : Option String) (provision : Provision) (m : Machine) : Prop :=
  ∀ c ∈ m.clients,
    (∀ key value, c.getConfig key = some value →
      provision.Has (c.appId, c.env) (key, value)) ∧
    (c.initialized → ∀ q ∈ m.inits, pathOf home q = c.cacheFilePath →
      ∀ entry ∈ c.configCache, provision.Has q entry)

/-- A client is initialised for another pair only with an empty cache, and no other pair, of a
provided file or of an earlier `Init`, has the path of the new one. -/
def Separate (home : Option String) (provision : Provision) (m : Machine) : SdkEvent → Prop
  | .init i _ appId env =>
    (∀ c ∈ m.clients[i]?, c.configCache = [] ∨ (c.appId, c.env) = (appId, env)) ∧
      ∀ q ∈ provision.map (·.1) ++ m.inits,
        pathOf home q = pathOf home (appId, env) → q = (appId, env)
  | .shutdown _ => True

instance (home : Option String) (provision : Provision) (m : Machine) (e : SdkEvent) :
    Decidable (Separate home provision m e) :=
  match e with
  | .init i _ appId env => inferInstanceAs (Decidable
      ((∀ c ∈ m.clients[i]?, c.configCache = [] ∨ (c.appId, c.env) = (appId, env)) ∧
        ∀ q ∈ provision.map (·.1) ++ m.inits,
          pathOf home q = pathOf home (appId, env) → q = (appId, env)))
  | .shutdown _ => isTrue True.intro

/-! ### The provided files -/

variable {home : Option String} {provision : Provision} {m : Machine}

/-- Where no other pair has the path of a pair, the file there is the one provided for it. -/
theorem lookup_of_files {q : Pair} {text : FileText}
    (halone : ∀ p ∈ provision, pathOf home p.1 = pathOf home q → p.1 = q)
    (h : provision.files home (pathOf home q) = some text) :
    provision.reverse.lookup q = some text := by
  induction provision using List.reverseRecOn with
  | nil => cases h
  | append_singleton rest p ih =>
    rw [Provision.files, List.foldl_append, List.foldl_cons, List.foldl_nil] at h
    rw [List.reverse_append, List.reverse_singleton, List.singleton_append]
    obtain ⟨pair, content⟩ := p
    by_cases hp : pathOf home pair = pathOf home q
    · have heq : pair = q := halone (pair, content) (List.mem_append_right _ List.mem_cons_self) hp
      rw [hp, Function.update_self] at h
      rw [heq, List.lookup_cons_self]
      exact h
    · have hne : pair ≠ q := fun heq ↦ hp (congrArg (pathOf home) heq)
      rw [Function.update_of_ne (Ne.symm hp)] at h
      rw [List.lookup_cons, beq_false_of_ne (Ne.symm hne)]
      exact ih (fun r hr ↦ halone r (List.mem_append_left _ hr)) h

/-! ### The invariant -/

/-- A client that never loaded anything, or one at a pair of the record with entries provided
for this pair. -/
def Settled (home : Option String) (provision : Provision) (inits : List Pair)
    (c : ConfigClient) : Prop :=
  (c.configCache = [] ∧ c.initialized = false) ∨
    ((c.appId, c.env) ∈ inits ∧ c.cacheFilePath = pathOf home (c.appId, c.env) ∧
      ∀ entry ∈ c.configCache, provision.Has (c.appId, c.env) entry)

/-- A file as it was provided, or one with entries provided for the pair that uses it. -/
def Clean (home : Option String) (provision : Provision) (inits : List Pair) (path : String)
    (text : FileText) : Prop :=
  provision.files home path = some text ∨
    ∃ q ∈ inits, pathOf home q = path ∧ ∀ entry, text.Has entry → provision.Has q entry

/-- Clients are settled, files are clean, and the pairs of the record have paths of their own. -/
structure Machine.Sound (home : Option String) (provision : Provision) (m : Machine) : Prop where
  clients : ∀ (i : Nat) (c : ConfigClient), m.clients[i]? = some c →
    Settled home provision m.inits c
  files : ∀ path text, m.files path = some text → Clean home provision m.inits path text
  paths : ∀ q ∈ m.inits, ∀ r ∈ m.inits, pathOf home q = pathOf home r → q = r

/-- Sound machines are isolated. -/
theorem Machine.Sound.isolated (h : m.Sound home provision) : Isolated home provision m := by
  intro c hc
  obtain ⟨i, hi⟩ := List.mem_iff_getElem?.mp hc
  constructor
  · intro key value hget
    have hin := mem_of_getConfig hget
    obtain ⟨hempty, _⟩ | ⟨_, _, hentries⟩ := h.clients i c hi
    · rw [hempty] at hin
      cases hin
    · exact hentries _ hin
  · intro hinit q hq hpath entry hin
    obtain ⟨hempty, _⟩ | ⟨hmem, hfile, hentries⟩ := h.clients i c hi
    · rw [hempty] at hin
      cases hin
    · have heq : q = (c.appId, c.env) := h.paths q hq _ hmem (hpath.trans hfile)
      exact heq ▸ hentries entry hin

/-! ### One call -/

private theorem Settled.mono {inits inits' : List Pair} {c : ConfigClient} (hsub : inits ⊆ inits')
    (h : Settled home provision inits c) : Settled home provision inits' c :=
  h.imp id (And.imp_left fun hmem ↦ hsub hmem)

private theorem Clean.mono {inits inits' : List Pair} {path : String} {text : FileText}
    (hsub : inits ⊆ inits') (h : Clean home provision inits path text) :
    Clean home provision inits' path text :=
  h.imp id fun ⟨q, hq, hrest⟩ ↦ ⟨q, hsub hq, hrest⟩

private theorem has_of_separate {i : Nat} {serverAddress appId env : String}
    (h : m.Sound home provision)
    (hsep : Separate home provision m (.init i serverAddress appId env)) {text : FileText}
    (htext : m.files (pathOf home (appId, env)) = some text) {entry : String × String}
    (hentry : text.Has entry) : provision.Has (appId, env) entry := by
  obtain hfile | ⟨q, hq, hpath, hentries⟩ := h.files _ _ htext
  · have hlookup := lookup_of_files (q := (appId, env)) (fun p hp ↦
      hsep.2 p.1 (List.mem_append_left _ (List.mem_map_of_mem hp))) hfile
    exact ⟨text, hlookup, hentry⟩
  · have heq : q = (appId, env) := hsep.2 q (List.mem_append_right _ hq) hpath
    exact heq ▸ hentries entry hentry

private theorem sound_init {i : Nat} {serverAddress appId env : String} {c : ConfigClient}
    (h : m.Sound home provision) (hc : m.clients[i]? = some c)
    (hsep : Separate home provision m (.init i serverAddress appId env)) :
    (m.step home (.init i serverAddress appId env)).Sound home provision := by
  simp only [Machine.step, hc]
  refine ⟨?_, ?_, ?_⟩
  · intro j d hd
    rw [List.getElem?_set] at hd
    split at hd
    · split at hd
      · cases hd
        obtain ⟨⟨happ, henv, hpath⟩, hentries⟩ :=
          init_spec home m.files serverAddress appId env c
        refine .inr ⟨?_, ?_, ?_⟩
        · rw [happ, henv]
          exact List.mem_cons_self
        · rw [happ, henv]
          exact hpath
        · intro entry hentry
          rw [happ, henv]
          obtain hold | ⟨text, htext, hhas⟩ := hentries entry hentry
          · obtain hempty | hsame := hsep.1 c hc
            · rw [hempty] at hold
              cases hold
            · obtain ⟨hnone, _⟩ | ⟨_, _, hall⟩ := h.clients i c hc
              · rw [hnone] at hold
                cases hold
              · exact hsame ▸ hall entry hold
          · exact has_of_separate h hsep htext hhas
      · cases hd
    · exact (h.clients j d hd).mono (List.subset_cons_self _ _)
  · exact fun path text htext ↦ (h.files path text htext).mono (List.subset_cons_self _ _)
  · intro q hq r hr hqr
    obtain rfl | hq := List.mem_cons.mp hq
    · obtain rfl | hr := List.mem_cons.mp hr
      · rfl
      · exact (hsep.2 r (List.mem_append_right _ hr) hqr.symm).symm
    · obtain rfl | hr := List.mem_cons.mp hr
      · exact hsep.2 q (List.mem_append_right _ hq) hqr
      · exact h.paths q hq r hr hqr

private theorem sound_shutdown {i : Nat} {c : ConfigClient} (h : m.Sound home provision)
    (hc : m.clients[i]? = some c) : (m.step home (.shutdown i)).Sound home provision := by
  simp only [Machine.step, hc, shutdown]
  split
  · next hinit =>
    obtain ⟨_, hfalse⟩ | ⟨hmem, hpath, hentries⟩ := h.clients i c hc
    · rw [hfalse] at hinit
      cases hinit
    · refine ⟨?_, ?_, h.paths⟩
      · intro j d hd
        rw [List.getElem?_set] at hd
        split at hd
        · split at hd
          · cases hd
            exact .inr ⟨hmem, hpath, hentries⟩
          · cases hd
        · exact h.clients j d hd
      · intro path text htext
        simp only [saveToFileCache] at htext
        split at htext
        · exact h.files path text htext
        · rw [Function.update_apply] at htext
          split at htext
          · next hat =>
            cases htext
            refine .inr ⟨_, hmem, hpath.symm.trans hat.symm, ?_⟩
            exact fun entry hhas ↦ hentries entry (mem_of_has_cacheJson hhas)
          · exact h.files path text htext
  · rw [set_of_getElem? hc]
    exact h

/-- A separate call keeps the machine sound. -/
theorem Machine.sound_step {e : SdkEvent} (h : m.Sound home provision)
    (hsep : Separate home provision m e) : (m.step home e).Sound home provision := by
  cases e with
  | init i serverAddress appId env =>
    cases hc : m.clients[i]? with
    | none => simpa only [Machine.step, hc] using h
    | some c => exact sound_init h hc hsep
  | shutdown i =>
    cases hc : m.clients[i]? with
    | none => simpa only [Machine.step, hc] using h
    | some c => exact sound_shutdown h hc

/-! ### Runs -/

/-- New clients on a machine with the provided files. -/
def Machine.start (home : Option String) (provision : Provision) (clients : Nat) : Machine :=
  { clients := List.replicate clients {}, files := provision.files home }

/-- A machine whose clients have yet to start is sound. -/
theorem Machine.sound_start (clients : Nat) :
    (Machine.start home provision clients).Sound home provision := by
  refine ⟨?_, fun path text htext ↦ .inl htext, fun q hq ↦ by cases hq⟩
  intro i c hc
  obtain ⟨_, rfl⟩ := List.mem_replicate.mp (List.mem_of_getElem? hc)
  exact .inl ⟨rfl, rfl⟩

/-- In every state of a run of separate calls the clients are isolated from each other. -/
theorem isolated_of_separate (home : Option String) (provision : Provision) (clients : Nat)
    (es : List SdkEvent)
    (hsep : Along (Machine.step home) (Separate home provision)
      (Machine.start home provision clients) es)
    (pre : List SdkEvent) (hpre : pre <+: es) :
    Isolated home provision
      (run (Machine.step home) (Machine.start home provision clients) pre) := by
  obtain ⟨rest, rfl⟩ := hpre
  exact (run_invariant_along (Machine.sound_start clients)
    (fun m e hm he ↦ Machine.sound_step hm he) ((along_append _ _ _ _ _).mp hsep).1).isolated

/-- Two clients at two pairs, one of them initialised twice for its own. -/
theorem isolated_two_clients :
    Isolated none [(("shop", "dev"), .json (.object [("db.url", .string "dev.local")]))]
      (run (Machine.step none)
        (Machine.start none
          [(("shop", "dev"), .json (.object [("db.url", .string "dev.local")]))] 2)
        [.init 0 "localhost" "shop" "dev", .shutdown 0, .init 1 "localhost" "shop" "prod",
          .init 0 "localhost" "shop" "dev"]) :=
  isolated_of_separate none _ 2 _ (by decide) _ List.prefix_rfl

/-- A client initialised for `prod` after `dev` still returns the value provided for `dev`. -/
theorem not_isolated_second_init :
    let provision : Provision :=
      [(("shop", "dev"), .json (.object [("db.url", .string "dev.local")]))]
    ¬ Isolated none provision
      (run (Machine.step none) (Machine.start none provision 1)
        [.init 0 "localhost" "shop" "dev", .init 0 "localhost" "shop" "prod"]) := by
  intro provision h
  obtain ⟨hread, _⟩ := h
    { serverAddress := "localhost", appId := "shop", env := "prod", initialized := true,
      configCache := [("db.url", "dev.local")],
      cacheFilePath := "config-cache-shop-prod.json" } (by decide)
  obtain ⟨text, htext, _⟩ := hread "db.url" "dev.local" (by decide)
  have hnone : provision.reverse.lookup ("shop", "prod") = none := rfl
  rw [hnone] at htext
  cases htext

end ConfigCenter.Sdk
