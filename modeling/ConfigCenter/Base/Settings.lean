import Mathlib.Logic.Function.Basic
import ConfigCenter.Base.Document

/-!
# Settings that a document gives

Library `Base`. A setting has a path in a document and a way to read the node there;
a configuration is a value for every setting. `load` reads settings one after another
over a configuration and stops at the first that fails. A parser that goes through the
sections of a document statement by statement is brought into this form by
`optional_eq` and `inSection_eq`.
-/

namespace ConfigCenter.Base
open Document

variable {ε : Type}

/-! ### Parsers by sections -/

/-- `if (node["key"]) config.field = node["key"].as<T>();` -/
def Document.optional {σ α : Type} (inScalar : String → ε) (node : Document) (key : String)
    (read : Document → Except ε α) (assign : α → σ → σ) (config : σ) : Except ε σ :=
  if node.isScalar then .error (inScalar key)
  else match node.child? key with
    | none => .ok config
    | some child => (read child).map fun v ↦ assign v config

/-- `if (node["key"]) parse(node["key"], config.part);` -/
def Document.inSection {σ τ : Type} (inScalar : String → ε) (node : Document) (key : String)
    (get : σ → τ) (set : τ → σ → σ) (parse : Document → τ → Except ε τ) (config : σ) :
    Except ε σ :=
  if node.isScalar then .error (inScalar key)
  else match node.child? key with
    | none => .ok config
    | some child => (parse child (get config)).map fun part ↦ set part config

/-- One assignment of a parser: where its node stands, how it is read and what it does to the
configuration. -/
structure Assignment (σ ε : Type) where
  Value : Type
  path : List String
  read : Document → Except ε Value
  assign : Value → σ → σ

namespace Assignment

variable {σ τ : Type}

/-- Assign what was found. -/
def assigned (inScalar : String → ε) (r : Assignment σ ε) (c : σ) :
    Except String (Option Document) → Except ε σ
  | .error key => .error (inScalar key)
  | .ok none => .ok c
  | .ok (some node) => (r.read node).map fun v ↦ r.assign v c

/-- Follow the path, and assign what is there. -/
def run (inScalar : String → ε) (r : Assignment σ ε) (doc : Document) (c : σ) : Except ε σ :=
  assigned inScalar r c (descend r.path doc)

/-- One assignment after the other. -/
def runAll (inScalar : String → ε) (rs : List (Assignment σ ε)) (doc : Document) (c : σ) :
    Except ε σ :=
  rs.foldlM (fun c r ↦ r.run inScalar doc c) c

/-- The assignment in a section of its own, for one part of a configuration. -/
def within (key : String) (get : σ → τ) (set : τ → σ → σ) (r : Assignment τ ε) :
    Assignment σ ε where
  Value := r.Value
  path := key :: r.path
  read := r.read
  assign v c := set (r.assign v (get c)) c

variable {inScalar : String → ε}

/-- Assignments run one after the other. -/
theorem runAll_cons (r : Assignment σ ε) (rs : List (Assignment σ ε)) (doc : Document) (c : σ) :
    runAll inScalar (r :: rs) doc c =
      (r.run inScalar doc c).bind fun c ↦ runAll inScalar rs doc c :=
  List.foldlM_cons

/-- A last assignment. -/
theorem run_last (r : Assignment σ ε) (doc : Document) (c : σ) :
    r.run inScalar doc c = runAll inScalar [r] doc c := by
  rw [runAll_cons]
  cases r.run inScalar doc c <;> rfl

/-- An assignment and what comes after it. -/
theorem run_then {r : Assignment σ ε} {rs : List (Assignment σ ε)} {doc : Document} {c : σ}
    {k : σ → Except ε σ} (hk : ∀ c, k c = runAll inScalar rs doc c) :
    r.run inScalar doc c >>= k = runAll inScalar (r :: rs) doc c := by
  rw [funext hk]
  exact (runAll_cons r rs doc c).symm

/-- Assignments and what comes after them. -/
theorem runAll_then {rs qs : List (Assignment σ ε)} {doc : Document} {c : σ}
    {k : σ → Except ε σ} (hk : ∀ c, k c = runAll inScalar qs doc c) :
    runAll inScalar rs doc c >>= k = runAll inScalar (rs ++ qs) doc c := by
  rw [funext hk]
  exact List.foldlM_append.symm

/-- The assignment of an optional field. -/
def single {α : Type} (key : String) (read : Document → Except ε α) (assign : α → σ → σ) :
    Assignment σ ε :=
  ⟨α, [key], read, assign⟩

/-- An optional field is one assignment. -/
theorem optional_eq {α : Type} (node : Document) (key : String) (read : Document → Except ε α)
    (assign : α → σ → σ) (config : σ) :
    Document.optional inScalar node key read assign config =
      (single key read assign).run inScalar node config := by
  rw [Document.optional, run, single, descend]
  split
  · rfl
  · cases node.child? key with
    | none => rfl
    | some child => rfl

private theorem run_within_of_isScalar {node : Document} (h : node.isScalar = true) (key : String)
    (get : σ → τ) (set : τ → σ → σ) (r : Assignment τ ε) (c : σ) :
    (r.within key get set).run inScalar node c = .error (inScalar key) := by
  rw [run, within, descend, if_pos h]
  rfl

private theorem run_within_of_none {node : Document} (h : node.isScalar = false) {key : String}
    (hchild : node.child? key = none) (get : σ → τ) (set : τ → σ → σ) (r : Assignment τ ε) (c : σ) :
    (r.within key get set).run inScalar node c = .ok c := by
  rw [run, within, descend, if_neg (by simp [h]), hchild]
  rfl

private theorem run_within_of_some {node child : Document} (h : node.isScalar = false)
    {key : String} (hchild : node.child? key = some child) {get : σ → τ} {set : τ → σ → σ}
    (hget : ∀ c, set (get c) c = c) (r : Assignment τ ε) (c : σ) :
    (r.within key get set).run inScalar node c =
      (r.run inScalar child (get c)).map fun t ↦ set t c := by
  rw [run, within, descend, if_neg (by simp [h]), hchild, run]
  change assigned inScalar (r.within key get set) c (descend r.path child) = _
  cases descend r.path child with
  | error e => rfl
  | ok node? =>
    cases node? with
    | none => exact congrArg Except.ok (hget c).symm
    | some node =>
      change (r.read node).map (fun v ↦ set (r.assign v (get c)) c) =
        ((r.read node).map fun v ↦ r.assign v (get c)).map fun t ↦ set t c
      cases r.read node <;> rfl

private theorem runAll_within_of_none {node : Document} (h : node.isScalar = false)
    {key : String} (hchild : node.child? key = none) (get : σ → τ) (set : τ → σ → σ)
    (rs : List (Assignment τ ε)) (c : σ) :
    runAll inScalar (rs.map (within key get set)) node c = .ok c := by
  induction rs with
  | nil => rfl
  | cons r rs ih =>
    rw [List.map_cons, runAll_cons, run_within_of_none h hchild]
    exact ih

/-- A part of a configuration that is read and written on its own. -/
structure IsComponent (get : σ → τ) (set : τ → σ → σ) : Prop where
  set_get : ∀ c, set (get c) c = c
  get_set : ∀ t c, get (set t c) = t
  set_set : ∀ t u c, set t (set u c) = set t c

private theorem runAll_within_of_some {node child : Document} (h : node.isScalar = false)
    {key : String} (hchild : node.child? key = some child) {get : σ → τ} {set : τ → σ → σ}
    (hpart : IsComponent get set) (rs : List (Assignment τ ε)) (c : σ) :
    runAll inScalar (rs.map (within key get set)) node c =
      (runAll inScalar rs child (get c)).map fun t ↦ set t c := by
  induction rs generalizing c with
  | nil => exact congrArg Except.ok (hpart.set_get c).symm
  | cons r rs ih =>
    rw [List.map_cons, runAll_cons, runAll_cons, run_within_of_some h hchild hpart.set_get]
    cases r.run inScalar child (get c) with
    | error e => rfl
    | ok t =>
      change runAll inScalar _ node (set t c) = (runAll inScalar rs child t).map _
      rw [ih, hpart.get_set]
      congr 1
      funext u
      exact hpart.set_set u t c

/-- A section is its assignments, one level down. -/
theorem inSection_eq {parse : Document → τ → Except ε τ} {rs : List (Assignment τ ε)}
    (hrs : rs ≠ []) (hparse : ∀ child t, parse child t = runAll inScalar rs child t)
    {get : σ → τ} {set : τ → σ → σ} (hpart : IsComponent get set) (node : Document) (key : String)
    (c : σ) :
    inSection inScalar node key get set parse c =
      runAll inScalar (rs.map (within key get set)) node c := by
  rw [inSection]
  cases h : node.isScalar with
  | true =>
    obtain ⟨r, rest, rfl⟩ := List.exists_cons_of_ne_nil hrs
    rw [List.map_cons, runAll_cons, run_within_of_isScalar h]
    rfl
  | false =>
    cases hchild : node.child? key with
    | none => exact (runAll_within_of_none h hchild get set rs c).symm
    | some child =>
      rw [runAll_within_of_some h hchild hpart, ← hparse]
      rfl

end Assignment

/-! ### Settings by name -/

/-- A path in a document and a reader for every setting. -/
structure Settings (ι : Type) (Value : ι → Type) (ε : Type) where
  path : ι → List String
  read : (i : ι) → Document → Except ε (Value i)
  inScalar : String → ε

namespace Settings

variable {ι : Type} [DecidableEq ι] {Value : ι → Type} (settings : Settings ι Value ε)

/-- What a document gives for a setting: nothing, a value, or an error. -/
def given (doc : Document) (i : ι) : Except ε (Option (Value i)) :=
  match descend (settings.path i) doc with
  | .error key => .error (settings.inScalar key)
  | .ok none => .ok none
  | .ok (some node) => (settings.read i node).map some

/-- A configuration with another value for a setting, if there is one. -/
def replaced (c : (i : ι) → Value i) (i : ι) (v : Option (Value i)) : (i : ι) → Value i :=
  v.elim c (Function.update c i)

/-- Take over what a document gives for a setting. -/
def loadOne (doc : Document) (c : (i : ι) → Value i) (i : ι) : Except ε ((i : ι) → Value i) :=
  (settings.given doc i).map (replaced c i)

/-- Take over what a document gives, one setting after the other. -/
def load (order : List ι) (doc : Document) (c : (i : ι) → Value i) :
    Except ε ((i : ι) → Value i) :=
  order.foldlM (settings.loadOne doc) c

/-- Write settings into a document. -/
def written (write : (i : ι) → Value i → Document) (c : (i : ι) → Value i) (order : List ι)
    (doc : Document) : Document :=
  order.foldl (fun d i ↦ put (settings.path i) (write i (c i)) d) doc

variable {settings}

private theorem load_cons (i : ι) (order : List ι) (doc : Document) (c : (i : ι) → Value i) :
    settings.load (i :: order) doc c =
      (settings.loadOne doc c i).bind fun c ↦ settings.load order doc c :=
  List.foldlM_cons

private theorem replaced_self (c : (i : ι) → Value i) (i : ι) (v : Option (Value i)) :
    replaced c i v i = v.getD (c i) := by
  cases v <;> simp [replaced]

private theorem replaced_of_ne (c : (i : ι) → Value i) {i j : ι} (h : j ≠ i)
    (v : Option (Value i)) :
    replaced c i v j = c j := by
  cases v <;> simp [replaced, h]

private theorem getD_replaced {doc : Document} {i j : ι} {v : Option (Value i)}
    {w : Option (Value j)} (hi : settings.given doc i = .ok v) (hj : settings.given doc j = .ok w)
    (c : (i : ι) → Value i) : w.getD (replaced c i v j) = w.getD (c j) := by
  by_cases h : j = i
  · subst h
    obtain rfl : w = v := Except.ok.inj (hj.symm.trans hi)
    rw [replaced_self]
    cases w <;> rfl
  · rw [replaced_of_ne c h]

/-- The settings read are as the document gives them, at their old values where it does not. -/
theorem load_eq_ok_iff {order : List ι} {doc : Document} {c c' : (i : ι) → Value i} :
    settings.load order doc c = .ok c' ↔
      (∀ i ∈ order, ∃ v, settings.given doc i = .ok v ∧ c' i = v.getD (c i)) ∧
        ∀ i, i ∉ order → c' i = c i := by
  induction order generalizing c with
  | nil =>
    constructor
    · intro h
      cases h
      exact ⟨by simp, fun _ _ ↦ rfl⟩
    · rintro ⟨-, hrest⟩
      exact congrArg Except.ok (funext fun i ↦ (hrest i (by simp)).symm)
  | cons i order ih =>
    rw [load_cons, loadOne]
    cases hi : settings.given doc i with
    | error e =>
      constructor
      · intro h
        cases h
      · rintro ⟨hread, -⟩
        obtain ⟨v, hv, -⟩ := hread i (by simp)
        rw [hi] at hv
        cases hv
    | ok v =>
      change settings.load order doc (replaced c i v) = _ ↔ _
      rw [ih]
      constructor
      · rintro ⟨hread, hrest⟩
        constructor
        · intro j hj
          by_cases hlater : j ∈ order
          · obtain ⟨w, hw, hc⟩ := hread j hlater
            exact ⟨w, hw, hc.trans (getD_replaced hi hw c)⟩
          · obtain rfl | hj := List.mem_cons.mp hj
            · exact ⟨v, hi, (hrest j hlater).trans (replaced_self c j v)⟩
            · exact absurd hj hlater
        · intro j hj
          obtain ⟨hne, hlater⟩ : j ≠ i ∧ j ∉ order := by simpa using hj
          exact (hrest j hlater).trans (replaced_of_ne c hne v)
      · rintro ⟨hread, hrest⟩
        constructor
        · intro j hj
          obtain ⟨w, hw, hc⟩ := hread j (List.mem_cons_of_mem i hj)
          exact ⟨w, hw, hc.trans (getD_replaced hi hw c).symm⟩
        · intro j hj
          by_cases hne : j = i
          · subst hne
            obtain ⟨w, hw, hc⟩ := hread j (by simp)
            obtain rfl : w = v := Except.ok.inj (hw.symm.trans hi)
            exact hc.trans (replaced_self c j w).symm
          · exact (hrest j (by simp [hne, hj])).trans (replaced_of_ne c hne v).symm

/-- Loading fails with the error of the first setting that fails. -/
theorem load_eq_error_iff {order : List ι} {doc : Document} {c : (i : ι) → Value i} {e : ε} :
    settings.load order doc c = .error e ↔
      ∃ pre i post, order = pre ++ i :: post ∧
        (∀ j ∈ pre, (settings.given doc j).isOk) ∧ settings.given doc i = .error e := by
  induction order generalizing c with
  | nil =>
    constructor
    · intro h
      cases h
    · rintro ⟨pre, i, post, h, -⟩
      cases pre <;> cases h
  | cons i order ih =>
    rw [load_cons, loadOne]
    cases hi : settings.given doc i with
    | error e' =>
      constructor
      · intro h
        cases h
        exact ⟨[], i, order, rfl, by simp, hi⟩
      · rintro ⟨pre, j, post, h, hpre, hj⟩
        cases pre with
        | nil =>
          obtain ⟨rfl, rfl⟩ := List.cons.inj h
          exact congrArg Except.error (Except.error.inj (hi.symm.trans hj))
        | cons k pre =>
          obtain ⟨rfl, -⟩ := List.cons.inj h
          have hok := hpre i (by simp)
          rw [hi] at hok
          cases hok
    | ok v =>
      change settings.load order doc (replaced c i v) = _ ↔ _
      rw [ih]
      constructor
      · rintro ⟨pre, j, post, rfl, hpre, hj⟩
        refine ⟨i :: pre, j, post, rfl, ?_, hj⟩
        intro k hk
        obtain rfl | hk := List.mem_cons.mp hk
        · rw [hi]
          rfl
        · exact hpre k hk
      · rintro ⟨pre, j, post, h, hpre, hj⟩
        cases pre with
        | nil =>
          obtain ⟨rfl, -⟩ := List.cons.inj h
          rw [hi] at hj
          cases hj
        | cons k pre =>
          obtain ⟨-, rfl⟩ := List.cons.inj h
          exact ⟨pre, j, post, rfl, fun k hk ↦ hpre k (List.mem_cons_of_mem _ hk), hj⟩

/-! ### A parser as a table of settings -/

variable {σ : Type} (settings) in
/-- The assignment of a setting, for configurations that are read and made setting by setting. -/
def reading (get : σ → (i : ι) → Value i) (of : ((i : ι) → Value i) → σ) (i : ι) :
    Assignment σ ε where
  Value := Value i
  path := settings.path i
  read := settings.read i
  assign v c := of (Function.update (get c) i v)

private theorem run_reading {σ : Type} {get : σ → (i : ι) → Value i}
    {of : ((i : ι) → Value i) → σ} (hof : ∀ c, of (get c) = c) (i : ι) (doc : Document) (c : σ) :
    (settings.reading get of i).run settings.inScalar doc c =
      (settings.loadOne doc (get c) i).map of := by
  rw [Assignment.run, loadOne, given]
  change Assignment.assigned _ _ c (descend (settings.path i) doc) = _
  cases descend (settings.path i) doc with
  | error key => rfl
  | ok node? =>
    cases node? with
    | none => exact congrArg Except.ok (hof c).symm
    | some node =>
      change (settings.read i node).map (fun v ↦ of (Function.update (get c) i v)) =
        (((settings.read i node).map some).map (replaced (get c) i)).map of
      cases settings.read i node <;> rfl

/-- Such a parser loads the settings of its table. -/
theorem runAll_reading {σ : Type} {get : σ → (i : ι) → Value i}
    {of : ((i : ι) → Value i) → σ} (hof : ∀ c, of (get c) = c) (hget : ∀ v, get (of v) = v)
    (order : List ι) (doc : Document) (c : σ) :
    Assignment.runAll settings.inScalar (order.map (settings.reading get of)) doc c =
      (settings.load order doc (get c)).map of := by
  induction order generalizing c with
  | nil => exact congrArg Except.ok (hof c).symm
  | cons i order ih =>
    rw [List.map_cons, Assignment.runAll_cons, run_reading hof, load_cons]
    cases settings.loadOne doc (get c) i with
    | error e => rfl
    | ok v =>
      change Assignment.runAll _ _ doc (of v) = (settings.load order doc v).map of
      rw [ih, hget]

/-! ### Writing -/

variable {write : (i : ι) → Value i → Document}

omit [DecidableEq ι] in
private theorem descend_written {c : (i : ι) → Value i} {order : List ι} {path : List String}
    (h : ∀ i ∈ order, Apart (settings.path i) path) {doc : Document} {r : Option Document}
    (hd : descend path doc = .ok r) :
    descend path (settings.written write c order doc) = .ok r := by
  induction order generalizing doc with
  | nil => exact hd
  | cons i order ih =>
    refine ih (fun j hj ↦ h j (List.mem_cons_of_mem i hj)) ?_
    exact descend_put_of_apart (h i (by simp)) _ hd

private theorem descend_written_of_mem {c : (i : ι) → Value i} {order : List ι} {i : ι}
    (hi : i ∈ order) (h : ∀ j ∈ order, j ≠ i → Apart (settings.path j) (settings.path i))
    (doc : Document) :
    descend (settings.path i) (settings.written write c order doc) =
      .ok (some (write i (c i))) := by
  induction order generalizing doc with
  | nil => cases hi
  | cons j order ih =>
    have hrest := fun k hk ↦ h k (List.mem_cons_of_mem j hk)
    by_cases hlater : i ∈ order
    · exact ih hlater hrest _
    · obtain rfl | hmem := List.mem_cons.mp hi
      · change descend _ (settings.written write c order (put _ (write i (c i)) doc)) = _
        refine descend_written ?_ (descend_put _ _ doc)
        intro k hk
        exact hrest k hk (ne_of_mem_of_not_mem hk hlater)
      · exact absurd hmem hlater

/-- A document gives the settings that were written into it, and the others as before. -/
theorem given_written (hapart : ∀ i j, i ≠ j → Apart (settings.path i) (settings.path j))
    {c : (i : ι) → Value i} {order : List ι}
    (hback : ∀ i ∈ order, settings.read i (write i (c i)) = .ok (c i)) {doc : Document} {i : ι}
    (hdoc : (settings.given doc i).isOk) :
    settings.given (settings.written write c order doc) i =
      if i ∈ order then .ok (some (c i)) else settings.given doc i := by
  split
  · next hi =>
    rw [given, descend_written_of_mem hi fun j _ hne ↦ hapart j i hne]
    change (settings.read i (write i (c i))).map some = _
    rw [hback i hi]
    rfl
  · next hi =>
    rw [given, given]
    cases hd : descend (settings.path i) doc with
    | error key =>
      rw [given, hd] at hdoc
      cases hdoc
    | ok r =>
      rw [descend_written (fun j hj ↦ hapart j i (ne_of_mem_of_not_mem hj hi)) hd]

end Settings

end ConfigCenter.Base
