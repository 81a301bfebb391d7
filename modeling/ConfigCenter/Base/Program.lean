import ConfigCenter.Base.Interleaving

/-!
# Clients as programs

Library `Base`. A client of a shared object is a program: it has its result, or it
makes a call and goes on with the answer. Any number of programs take turns on the
object, one call at a time. `shared_run` says that the object sees a run of calls,
each of which its client may make. A program is `Atomic` when nothing but its last
call writes and what it has read so far never changes what the rest of it does;
`shared_serial` says that the object goes through the same states when every atomic
program runs in one piece, at its last call; `serialAt` keeps the turns of the pieces.
-/

namespace ConfigCenter.Base

/-- A program over the calls `C`, where a call `c` is answered in `R c`. -/
inductive Program (C : Type) (R : C → Type) (A : Type) where
  | done (result : A)
  | call (c : C) (next : R c → Program C R A)

namespace Program

variable {C : Type} {R : C → Type} {A B E S : Type}

/-- Run one program and go on with its result. -/
def andThen : Program C R A → (A → Program C R B) → Program C R B
  | .done a, f => f a
  | .call c next, f => .call c fun r ↦ (next r).andThen f

instance : Monad (Program C R) where
  pure := .done
  bind := andThen

/-- The program has its result. -/
def isDone : Program C R A → Bool
  | .done _ => true
  | .call _ _ => false

/-- The result of a program that has one. -/
def result? : Program C R A → Option A
  | .done a => some a
  | .call _ _ => none

/-- Every call that the program can come to has `P`, whatever it is answered. -/
def Only (P : C → Prop) : Program C R A → Prop
  | .done _ => True
  | .call c next => P c ∧ ∀ r, Only P (next r)

/-- Calls with a property have every weaker one. -/
theorem Only.mono {P Q : C → Prop} (h : ∀ c, P c → Q c) {p : Program C R A} (hp : Only P p) :
    Only Q p := by
  induction p with
  | done a => exact True.intro
  | call c next ih => exact ⟨h c hp.1, fun r ↦ ih r (hp.2 r)⟩

/-- The calls of a sequence are those of its parts. -/
theorem Only.andThen {P : C → Prop} {p : Program C R A} {f : A → Program C R B}
    (hp : Only P p) (hf : ∀ a, Only P (f a)) : Only P (p.andThen f) := by
  induction p with
  | done a => exact hf a
  | call c next ih => exact ⟨hp.1, fun r ↦ ih r (hp.2 r)⟩

/-! ### One program alone -/

section Alone
variable (respond : E → S → (c : C) → R c × S)

/-- The whole program in one piece; all its calls see one input. -/
def exec (e : E) : Program C R A → S → A × S
  | .done a, s => (a, s)
  | .call c next, s => exec e (next (respond e s c).1) (respond e s c).2

/-- A program in one piece makes its first call first. -/
theorem exec_call (e : E) (c : C) (next : R c → Program C R A) (s : S) :
    exec respond e (.call c next) s = exec respond e (next (respond e s c).1) (respond e s c).2 :=
  rfl

/-- A sequence in one piece runs its parts in turn. -/
theorem exec_andThen (e : E) (p : Program C R A) (f : A → Program C R B) (s : S) :
    exec respond e (p.andThen f) s =
      exec respond e (f (exec respond e p s).1) (exec respond e p s).2 := by
  induction p generalizing s with
  | done a => rfl
  | call c next ih => exact ih _ _

/-- A call that never changes the object. -/
def ReadOnly (c : C) : Prop := ∀ e s, (respond e s c).2 = s

/-- Every call but the last is `ReadOnly`, and each remainder does what `whole` does. -/
def Repeats (whole : Program C R A) : Program C R A → Prop
  | .done _ => True
  | .call c next =>
    (∀ e s, exec respond e (.call c next) s = exec respond e whole s) ∧
      ((∀ r, (next r).isDone) ∨ ReadOnly respond c) ∧ ∀ r, Repeats whole (next r)

/-- What the program has read so far never changes what the rest of it does. -/
def Atomic (p : Program C R A) : Prop := Repeats respond p p

/-- A program without a call repeats every other. -/
theorem repeats_of_isDone (whole : Program C R A) {p : Program C R A} (h : p.isDone) :
    Repeats respond whole p := by
  cases p with
  | done a => exact True.intro
  | call c next => cases h

/-- A program that makes one call at most is atomic. -/
theorem atomic_of_single {c : C} {next : R c → Program C R A} (h : ∀ r, (next r).isDone) :
    Atomic respond (.call c next) :=
  ⟨fun _ _ ↦ rfl, .inl h, fun r ↦ repeats_of_isDone respond _ (h r)⟩

private theorem isDone_andThen {p : Program C R A} {f : A → Program C R B} (hp : p.isDone)
    (hf : ∀ a, (f a).isDone) : (p.andThen f).isDone := by
  cases p with
  | done a => exact hf a
  | call c next => cases hp

/-- A result that is put in another form leaves a program atomic. -/
theorem Repeats.andThen {whole p : Program C R A} {f : A → Program C R B}
    (hp : Repeats respond whole p) (hf : ∀ a, (f a).isDone) :
    Repeats respond (whole.andThen f) (p.andThen f) := by
  induction p with
  | done a => exact repeats_of_isDone respond _ (hf a)
  | call c next ih =>
    obtain ⟨hsame, hlast, hrest⟩ := hp
    refine ⟨fun e s ↦ ?_, hlast.imp_left fun h r ↦ isDone_andThen (h r) hf,
      fun r ↦ ih r (hrest r)⟩
    change exec respond e ((Program.call c next).andThen f) s = _
    rw [exec_andThen, exec_andThen, hsame]

end Alone

/-! ### Programs that take turns -/

/-- A call in a run: the client that made it and the input at which it ran. -/
structure Made (E C : Type) where
  client : Nat
  input : E
  call : C

/-- What a serial run is made of: whole programs and single calls. -/
inductive Piece (E C : Type) where
  | whole (client : Nat) (input : E)
  | single (made : Made E C)

/-- The client a piece belongs to. -/
def Piece.client : Piece E C → Nat
  | .whole client _ => client
  | .single made => made.client

section Turns
variable (respond : E → S → (c : C) → R c × S)

/-- The next call of a program. -/
def act (e : E) (_ : Nat) : Program C R A → S → Program C R A × S
  | .done a, s => (.done a, s)
  | .call c next, s => (next (respond e s c).1, (respond e s c).2)

/-- The object after one call. -/
def after (s : S) (made : Made E C) : S := (respond made.input s made.call).2

/-- The call that a schedule entry lets run. -/
def turn (c : Clients (Program C R A) S) (e : E × Nat) : List (Made E C) :=
  match c.locals[e.2]? with
  | some (.call m _) => [⟨e.2, e.1, m⟩]
  | _ => []

/-- The calls of a schedule in the order in which they run. -/
def calls : Clients (Program C R A) S → List (E × Nat) → List (Made E C)
  | _, [] => []
  | c, e :: es => turn c e ++ calls (Clients.step (act respond) c e) es

/-- A turn runs the call that it lets its client make. -/
theorem shared_turn (c : Clients (Program C R A) S) (e : E × Nat) :
    (Clients.step (act respond) c e).shared = run (after respond) c.shared (turn c e) := by
  unfold turn
  cases h : c.locals[e.2]? with
  | none => rw [Clients.step_of_none _ h, run_nil]
  | some p =>
    rw [Clients.shared_step _ h]
    cases p with
    | done a => rfl
    | call m next => rfl

/-- The object goes through a run of the calls that the schedule lets the clients make. -/
theorem shared_run (c : Clients (Program C R A) S) (es : List (E × Nat)) :
    (run (Clients.step (act respond)) c es).shared =
      run (after respond) c.shared (calls respond c es) := by
  induction es generalizing c with
  | nil => rfl
  | cons e es ih =>
    rw [run_cons, ih, calls, run_append, shared_turn]

/-- The calls of a schedule that goes on. -/
theorem calls_append (c : Clients (Program C R A) S) (es fs : List (E × Nat)) :
    calls respond c (es ++ fs) =
      calls respond c es ++ calls respond (run (Clients.step (act respond)) c es) fs := by
  induction es generalizing c with
  | nil => rfl
  | cons e es ih => rw [List.cons_append, calls, calls, ih, List.append_assoc, run_cons]

/-- The calls up to and with a turn. -/
theorem calls_take_succ (c : Clients (Program C R A) S) {es : List (E × Nat)} {t : Nat}
    {e : E × Nat} (he : es[t]? = some e) :
    calls respond c (es.take (t + 1)) =
      calls respond c (es.take t) ++
        turn (run (Clients.step (act respond)) c (es.take t)) e := by
  rw [List.take_add_one, he, Option.toList_some, calls_append, calls, calls, List.append_nil]

/-- There are no more calls than turns. -/
theorem length_calls_le (c : Clients (Program C R A) S) (es : List (E × Nat)) :
    (calls respond c es).length ≤ es.length := by
  induction es generalizing c with
  | nil => exact Nat.le_refl 0
  | cons e es ih =>
    have hturn : (turn c e).length ≤ 1 := by
      unfold turn
      split
      · exact Nat.le_refl 1
      · exact Nat.zero_le 1
    rw [calls, List.length_append, List.length_cons]
    have := ih (Clients.step (act respond) c e)
    omega

/-- A client makes calls that its program can come to, at inputs of its turns. -/
theorem made_of_mem_calls {P : Nat → C → Prop} {c : Clients (Program C R A) S}
    (hc : ∀ i p, c.locals[i]? = some p → Only (P i) p) {es : List (E × Nat)} {made : Made E C}
    (hm : made ∈ calls respond c es) :
    P made.client made.call ∧ (made.input, made.client) ∈ es := by
  induction es generalizing c with
  | nil => cases hm
  | cons e es ih =>
    rcases List.mem_append.mp hm with hm | hm
    · unfold turn at hm
      cases hl : c.locals[e.2]? with
      | none =>
        rw [hl] at hm
        cases hm
      | some p =>
        rw [hl] at hm
        cases p with
        | done a => cases hm
        | call m next =>
          rw [List.mem_singleton.mp hm]
          exact ⟨(hc e.2 _ hl).1, List.mem_cons_self⟩
    · have hnext : ∀ i p, (Clients.step (act respond) c e).locals[i]? = some p →
          Only (P i) p := by
        intro i p hp
        cases hl : c.locals[e.2]? with
        | none =>
          rw [Clients.step_of_none _ hl] at hp
          exact hc i p hp
        | some q =>
          rw [Clients.locals_step _ hl] at hp
          split at hp
          · next he =>
            cases hp
            subst he
            cases q with
            | done a => exact True.intro
            | call m next => exact (hc e.2 _ hl).2 _
          · exact hc i p hp
      obtain ⟨hp, hin⟩ := ih hnext hm
      exact ⟨hp, List.mem_cons_of_mem e hin⟩

/-- A program that has its result keeps it. -/
theorem locals_run_of_done {c : Clients (Program C R A) S} {i : Nat} {a : A}
    (h : c.locals[i]? = some (.done a)) (es : List (E × Nat)) :
    (run (Clients.step (act respond)) c es).locals[i]? = some (.done a) := by
  induction es generalizing c with
  | nil => exact h
  | cons e es ih =>
    refine ih ?_
    cases hl : c.locals[e.2]? with
    | none => rwa [Clients.step_of_none _ hl]
    | some p =>
      rw [Clients.locals_step _ hl]
      split
      · next he =>
        rw [he, h] at hl
        cases hl
        rfl
      · exact h

/-! ### Atomic programs in one piece -/

section Serial
variable (atomic : Nat → Bool) (start : List (Program C R A))

/-- What a schedule entry adds to the serial run: the single call of a client that is not atomic,
the whole program of an atomic one at its last call. -/
def place (c : Clients (Program C R A) S) (e : E × Nat) : List (Piece E C) :=
  match c.locals[e.2]? with
  | some (.call m next) =>
    if atomic e.2 then
      if (next (respond e.1 c.shared m).1).isDone then [.whole e.2 e.1] else []
    else [.single ⟨e.2, e.1, m⟩]
  | _ => []

/-- The serial run that a schedule comes to. -/
def serial : Clients (Program C R A) S → List (E × Nat) → List (Piece E C)
  | _, [] => []
  | c, e :: es => place respond atomic c e ++ serial (Clients.step (act respond) c e) es

/-- The serial run, each piece with the number of its turn; the turns are counted from `n`. -/
def serialAt : Nat → Clients (Program C R A) S → List (E × Nat) → List (Nat × Piece E C)
  | _, _, [] => []
  | n, c, e :: es =>
    (place respond atomic c e).map (n, ·) ++ serialAt (n + 1) (Clients.step (act respond) c e) es

/-- The object after one piece. -/
def perform (s : S) : Piece E C → S
  | .whole i e =>
    match start[i]? with
    | some whole => (exec respond e whole s).2
    | none => s
  | .single m => after respond s m

/-- The atomic clients do in what is left what their whole programs do. -/
def Resumes (c : Clients (Program C R A) S) : Prop :=
  ∀ i p, c.locals[i]? = some p → atomic i →
    ∃ whole, start[i]? = some whole ∧ Repeats respond whole p

variable {respond atomic start}

/-- Programs that have yet to start resume themselves. -/
theorem resumes_start (h : ∀ i p, start[i]? = some p → atomic i → Atomic respond p) (s : S) :
    Resumes respond atomic start { locals := start, shared := s } :=
  fun i p hp ha ↦ ⟨p, hp, h i p hp ha⟩

private theorem resumes_step {c : Clients (Program C R A) S}
    (hc : Resumes respond atomic start c) (e : E × Nat) :
    Resumes respond atomic start (Clients.step (act respond) c e) := by
  intro i p hp ha
  cases hl : c.locals[e.2]? with
  | none =>
    rw [Clients.step_of_none _ hl] at hp
    exact hc i p hp ha
  | some q =>
    rw [Clients.locals_step _ hl] at hp
    split at hp
    · next he =>
      cases hp
      subst he
      obtain ⟨whole, hw, hq⟩ := hc e.2 q hl ha
      refine ⟨whole, hw, ?_⟩
      cases q with
      | done a => exact True.intro
      | call m next => exact hq.2.2 _
    · exact hc i p hp ha

-- the last call of an atomic client, and what its whole program does in its place
private theorem exec_of_last {c : Clients (Program C R A) S}
    (hc : Resumes respond atomic start c) {e : E × Nat} {m : C} {next : R m → Program C R A}
    (hl : c.locals[e.2]? = some (.call m next)) (ha : atomic e.2)
    (hlast : (next (respond e.1 c.shared m).1).isDone) :
    ∃ whole, start[e.2]? = some whole ∧
      act respond e.1 e.2 (.call m next) c.shared =
        (.done (exec respond e.1 whole c.shared).1, (exec respond e.1 whole c.shared).2) := by
  obtain ⟨whole, hw, hsame, -, -⟩ := hc e.2 _ hl ha
  refine ⟨whole, hw, ?_⟩
  rw [← hsame e.1 c.shared, exec_call]
  change (next (respond e.1 c.shared m).1, (respond e.1 c.shared m).2) = _
  cases hn : next (respond e.1 c.shared m).1 with
  | done a => rfl
  | call m' next' =>
    rw [hn] at hlast
    cases hlast

private theorem shared_place {c : Clients (Program C R A) S}
    (hc : Resumes respond atomic start c) (e : E × Nat) :
    (Clients.step (act respond) c e).shared =
      run (perform respond start) c.shared (place respond atomic c e) := by
  unfold place
  cases hl : c.locals[e.2]? with
  | none => rw [Clients.step_of_none _ hl, run_nil]
  | some p =>
    rw [Clients.shared_step _ hl]
    cases p with
    | done a => rfl
    | call m next =>
      simp only
      by_cases ha : atomic e.2
      · rw [if_pos ha]
        by_cases hlast : (next (respond e.1 c.shared m).1).isDone
        · rw [if_pos hlast]
          obtain ⟨whole, hw, hact⟩ := exec_of_last hc hl ha hlast
          rw [hact, run_cons, run_nil, perform, hw]
        · rw [if_neg hlast]
          -- a call with more to come only reads
          obtain ⟨_, _, _, hread, _⟩ := hc e.2 _ hl ha
          exact (hread.resolve_left fun h ↦ hlast (h _)) e.1 c.shared
      · rw [if_neg ha]
        rfl

/-- The object goes through the states of the serial run. -/
theorem shared_serial {c : Clients (Program C R A) S} (hc : Resumes respond atomic start c)
    (es : List (E × Nat)) :
    (run (Clients.step (act respond)) c es).shared =
      run (perform respond start) c.shared (serial respond atomic c es) := by
  induction es generalizing c with
  | nil => rfl
  | cons e es ih =>
    rw [run_cons, ih (resumes_step hc e), serial, run_append, shared_place hc]

/-- At the place of an atomic client its whole program has the result that the client ends
with. -/
theorem along_serial {c : Clients (Program C R A) S} (hc : Resumes respond atomic start c)
    (es : List (E × Nat)) :
    Along (perform respond start)
      (fun s piece ↦ ∀ i e, piece = .whole i e → ∃ whole, start[i]? = some whole ∧
        (run (Clients.step (act respond)) c es).locals[i]? =
          some (.done (exec respond e whole s).1))
      c.shared (serial respond atomic c es) := by
  induction es generalizing c with
  | nil => exact True.intro
  | cons e es ih =>
    rw [serial, along_append, ← shared_place hc]
    refine ⟨?_, ih (resumes_step hc e)⟩
    unfold place
    cases hl : c.locals[e.2]? with
    | none => exact True.intro
    | some p =>
      cases p with
      | done a => exact True.intro
      | call m next =>
        simp only
        split
        · next ha =>
          split
          · next hlast =>
            refine ⟨?_, True.intro⟩
            rintro i e' ⟨⟩
            obtain ⟨whole, hw, hact⟩ := exec_of_last hc hl ha hlast
            refine ⟨whole, hw, ?_⟩
            refine locals_run_of_done respond ?_ es
            rw [Clients.locals_step _ hl, if_pos rfl, hact]
          · exact True.intro
        · refine ⟨?_, True.intro⟩
          rintro i e' ⟨⟩

/-! ### The turns of the pieces -/

/-- The pieces without their turns are the serial run. -/
theorem map_snd_serialAt (n : Nat) (c : Clients (Program C R A) S) (es : List (E × Nat)) :
    (serialAt respond atomic n c es).map Prod.snd = serial respond atomic c es := by
  induction es generalizing n c with
  | nil => rfl
  | cons e es ih =>
    rw [serialAt, serial, List.map_append, ih, List.map_map]
    exact congrArg (· ++ _) (List.map_id _)

/-- A piece is placed where its client makes a call: the call itself, or the whole program of a
client that has its result with this call. -/
theorem call_of_mem_place {c : Clients (Program C R A) S} {e : E × Nat} {piece : Piece E C}
    (h : piece ∈ place respond atomic c e) :
    ∃ made : Made E C, e = (made.input, made.client) ∧ turn c e = [made] ∧
      (piece = .single made ∨ piece = .whole made.client made.input ∧
        ∃ a, (Clients.step (act respond) c e).locals[made.client]? = some (.done a)) := by
  unfold place at h
  cases hl : c.locals[e.2]? with
  | none =>
    rw [hl] at h
    cases h
  | some p =>
    rw [hl] at h
    cases p with
    | done a => cases h
    | call m next =>
      have hturn : turn c e = [⟨e.2, e.1, m⟩] := by simp only [turn, hl]
      refine ⟨⟨e.2, e.1, m⟩, rfl, hturn, ?_⟩
      simp only at h
      split at h
      · split at h
        · next hlast =>
          refine .inr ⟨List.mem_singleton.mp h, ?_⟩
          rw [Clients.locals_step _ hl, if_pos rfl]
          change ∃ a, some (next (respond e.1 c.shared m).1) = some (.done a)
          cases hn : next (respond e.1 c.shared m).1 with
          | done a => exact ⟨a, rfl⟩
          | call m' next' =>
            rw [hn] at hlast
            cases hlast
        · cases h
      · exact .inl (List.mem_singleton.mp h)

/-- A piece of the serial run was placed at its turn. -/
theorem place_of_mem_serialAt {n t : Nat} {c : Clients (Program C R A) S} {es : List (E × Nat)}
    {piece : Piece E C} (h : (t, piece) ∈ serialAt respond atomic n c es) :
    ∃ k e, t = n + k ∧ es[k]? = some e ∧
      piece ∈ place respond atomic (run (Clients.step (act respond)) c (es.take k)) e := by
  induction es generalizing n c with
  | nil => cases h
  | cons e es ih =>
    rcases List.mem_append.mp h with h | h
    · obtain ⟨piece', hp, heq⟩ := List.mem_map.mp h
      cases heq
      exact ⟨0, e, rfl, rfl, hp⟩
    · obtain ⟨k, e', ht, he', hp⟩ := ih h
      exact ⟨k + 1, e', by omega, he', hp⟩

private theorem length_place_le (c : Clients (Program C R A) S) (e : E × Nat) :
    (place respond atomic c e).length ≤ 1 := by
  unfold place
  split
  · split
    · split <;> simp
    · simp
  · simp

/-- The pieces stand in the order of their turns, one piece at a turn at most. -/
theorem pairwise_serialAt (n : Nat) (c : Clients (Program C R A) S) (es : List (E × Nat)) :
    (serialAt respond atomic n c es).Pairwise (·.1 < ·.1) := by
  induction es generalizing n c with
  | nil => exact List.Pairwise.nil
  | cons e es ih =>
    rw [serialAt, List.pairwise_append]
    refine ⟨?_, ih _ _, ?_⟩
    · have hle : (place respond atomic c e).length ≤ 1 := length_place_le c e
      generalize place respond atomic c e = pieces at hle
      match pieces, hle with
      | [], _ => exact List.Pairwise.nil
      | [piece], _ => exact List.pairwise_singleton _ _
    · rintro ⟨t, piece⟩ ht ⟨t', piece'⟩ ht'
      obtain ⟨_, _, heq⟩ := List.mem_map.mp ht
      obtain ⟨k, _, hk, -⟩ := place_of_mem_serialAt ht'
      cases heq
      change n < t'
      omega

-- a client that has its result has no piece any more
private theorem filter_serial_of_done {c : Clients (Program C R A) S} {i : Nat} {a : A}
    (h : c.locals[i]? = some (.done a)) (es : List (E × Nat)) :
    (serial respond atomic c es).filter (·.client = i) = [] := by
  induction es generalizing c with
  | nil => rfl
  | cons e es ih =>
    have hnext : (Clients.step (act respond) c e).locals[i]? = some (.done a) :=
      locals_run_of_done respond h [e]
    rw [serial, List.filter_append, ih hnext, List.append_nil]
    unfold place
    cases hl : c.locals[e.2]? with
    | none => rfl
    | some p =>
      cases p with
      | done b => rfl
      | call m next =>
        have hne : e.2 ≠ i := by
          intro he
          rw [he, h] at hl
          cases hl
        simp only
        split
        · split
          · simp [Piece.client, hne]
          · rfl
        · simp [Piece.client, hne]

/-- An atomic client that has not started has one piece once it has its result, and none
before. -/
theorem filter_serial {c : Clients (Program C R A) S} {i : Nat} {p : Program C R A}
    (hp : c.locals[i]? = some p) (hstart : p.isDone = false) (ha : atomic i)
    (es : List (E × Nat)) :
    let pieces := (serial respond atomic c es).filter (·.client = i)
    ∃ p', (run (Clients.step (act respond)) c es).locals[i]? = some p' ∧
      (p'.isDone = true ∧ (∃ e, pieces = [.whole i e]) ∨ p'.isDone = false ∧ pieces = []) := by
  induction es generalizing c p with
  | nil => exact ⟨p, hp, .inr ⟨hstart, rfl⟩⟩
  | cons e es ih =>
    simp only [run_cons, serial, List.filter_append]
    by_cases he : e.2 = i
    · subst he
      cases p with
      | done a => cases hstart
      | call m next =>
        have hnext : (Clients.step (act respond) c e).locals[e.2]? =
            some (next (respond e.1 c.shared m).1) := by
          rw [Clients.locals_step _ hp, if_pos rfl]
          rfl
        simp only [place, hp, ha, if_true]
        cases hn : (next (respond e.1 c.shared m).1).isDone with
        | false =>
          have hrest := ih hnext hn
          simpa using hrest
        | true =>
          cases hq : next (respond e.1 c.shared m).1 with
          | call m' next' =>
            rw [hq] at hn
            cases hn
          | done a =>
            rw [hq] at hnext
            rw [filter_serial_of_done hnext es]
            exact ⟨_, locals_run_of_done respond hnext es, .inl ⟨rfl, e.1, by simp [Piece.client]⟩⟩
    · have hkeep : (Clients.step (act respond) c e).locals[i]? = some p := by
        cases hl : c.locals[e.2]? with
        | none => rwa [Clients.step_of_none _ hl]
        | some q => rwa [Clients.locals_step _ hl, if_neg he]
      have hplace : (place respond atomic c e).filter (·.client = i) = [] := by
        unfold place
        split
        · split
          · split
            · simp [Piece.client, he]
            · rfl
          · simp [Piece.client, he]
        · rfl
      have hrest := ih hkeep hstart
      rwa [hplace]

/-- A client that is not atomic has its calls, one by one. -/
theorem filter_serial_of_not_atomic (c : Clients (Program C R A) S) {i : Nat}
    (ha : atomic i = false) (es : List (E × Nat)) :
    (serial respond atomic c es).filter (·.client = i) =
      ((calls respond c es).filter (·.client = i)).map .single := by
  induction es generalizing c with
  | nil => rfl
  | cons e es ih =>
    rw [serial, calls, List.filter_append, List.filter_append, List.map_append, ih]
    congr 1
    unfold place turn
    cases hl : c.locals[e.2]? with
    | none => rfl
    | some p =>
      cases p with
      | done a => rfl
      | call m next =>
        by_cases he : e.2 = i
        · simp [he, ha, Piece.client]
        · simp only
          split
          · split
            · simp [he, Piece.client]
            · simp [he]
          · simp [he, Piece.client]

end Serial
end Turns
end Program
end ConfigCenter.Base
