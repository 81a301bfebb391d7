import Mathlib.Data.List.Chain

/-!
# Digits without padding

Library `Base`. Numbers below the square of a base have one digit or two, and a text
puts the digits of several numbers one after the other without padding. The same text
can then be cut into as many numbers in another way, unless all have one digit, or no
number can pass a digit on to its neighbour. `Settled` states the latter of each pair
of neighbours.
-/

namespace ConfigCenter.Base

/-- The digits of a number below the square of the base. -/
def digitsOf (base n : Nat) : List Nat := if n < base then [n] else [n / base, n % base]

/-- The digits of some numbers, one after the other. -/
def digitText (base : Nat) (l : List Nat) : List Nat := l.flatMap (digitsOf base)

/-- Neither of two neighbours can take a digit of the other: a one-digit number in front is
zero, and in front of a one-digit number the last digit is zero. -/
def Settled (base : Nat) (l : List Nat) : Prop :=
  l.IsChain fun a b ↦ (a < base → a = 0) ∧ (b < base → a % base = 0)

instance (base : Nat) (l : List Nat) : Decidable (Settled base l) :=
  inferInstanceAs (Decidable (List.IsChain _ l))

variable {base : Nat}

/-- No number, no digit. -/
theorem digitText_nil : digitText base [] = [] := rfl

/-- A number below the base has one digit. -/
theorem digitText_cons_lt {n : Nat} (h : n < base) (l : List Nat) :
    digitText base (n :: l) = n :: digitText base l := by
  rw [digitText, List.flatMap_cons, digitsOf, if_pos h]
  rfl

/-- A number from the base on has two. -/
theorem digitText_cons_le {n : Nat} (h : base ≤ n) (l : List Nat) :
    digitText base (n :: l) = n / base :: n % base :: digitText base l := by
  rw [digitText, List.flatMap_cons, digitsOf, if_neg (Nat.not_lt.mpr h)]
  rfl

/-- The digits of two lists of numbers. -/
theorem digitText_append (l l' : List Nat) :
    digitText base (l ++ l') = digitText base l ++ digitText base l' :=
  List.flatMap_append

private theorem digitText_join {a b : Nat} (ha : a ≠ 0) (hb : b < base) (l : List Nat) :
    digitText base ((a * base + b) :: l) = a :: b :: digitText base l := by
  have hpos : 0 < base := Nat.zero_lt_of_lt hb
  have hle : base ≤ a * base + b :=
    Nat.le_trans (Nat.le_mul_of_pos_left base (Nat.pos_of_ne_zero ha)) (Nat.le_add_right _ _)
  rw [digitText_cons_le hle, Nat.add_comm, Nat.add_mul_div_right b a hpos,
    Nat.add_mul_mod_self_right, Nat.div_eq_of_lt hb, Nat.mod_eq_of_lt hb, Nat.zero_add]

/-- Every number leaves a digit. -/
theorem digitText_eq_nil_iff {l : List Nat} : digitText base l = [] ↔ l = [] := by
  cases l with
  | nil => exact iff_of_true rfl rfl
  | cons n l =>
    refine iff_of_false ?_ (List.cons_ne_nil n l)
    rcases Nat.lt_or_ge n base with h | h
    · rw [digitText_cons_lt h]
      exact List.cons_ne_nil _ _
    · rw [digitText_cons_le h]
      exact List.cons_ne_nil _ _

/-- The digits of numbers below the square of the base are below the base. -/
theorem lt_of_mem_digitText {l : List Nat} (h : ∀ n ∈ l, n < base * base) {d : Nat}
    (hd : d ∈ digitText base l) : d < base := by
  obtain ⟨n, hn, hdigit⟩ := List.mem_flatMap.mp hd
  have hlt := h n hn
  have hpos : 0 < base := Nat.pos_of_mul_pos_left (Nat.zero_lt_of_lt hlt)
  unfold digitsOf at hdigit
  split at hdigit
  · next hsmall => rwa [List.mem_singleton.mp hdigit]
  · rcases List.mem_cons.mp hdigit with rfl | hdigit
    · exact Nat.div_lt_of_lt_mul hlt
    · rw [List.mem_singleton.mp hdigit]
      exact Nat.mod_lt _ hpos

/-! ### Settled lists -/

-- Every other list with the text of this one is longer.
private def Shortest (base : Nat) (l : List Nat) : Prop :=
  ∀ l', digitText base l = digitText base l' →
    l.length ≤ l'.length ∧ (l.length = l'.length → l = l')

-- Where the number `p` in front leaves its last digit to another list, that list is longer.
private def Behind (base p : Nat) (l : List Nat) : Prop :=
  ∀ l', p % base :: digitText base l = digitText base l' → l.length < l'.length

private theorem Settled.tail {p : Nat} {l : List Nat} (h : Settled base (p :: l)) :
    Settled base l :=
  List.IsChain.tail h

private theorem shortest_cons {n : Nat} {l : List Nat} (h : Settled base (n :: l))
    (hshort : Shortest base l) (hbehind : base ≤ n → Behind base n l) :
    Shortest base (n :: l) := by
  intro l' htext
  cases l' with
  | nil => exact absurd (digitText_eq_nil_iff.mp htext) (List.cons_ne_nil n l)
  | cons n' l' =>
    rcases Nat.lt_or_ge n base with hn | hn
    · rw [digitText_cons_lt hn] at htext
      rcases Nat.lt_or_ge n' base with hn' | hn'
      · rw [digitText_cons_lt hn', List.cons.injEq] at htext
        obtain ⟨hle, heq⟩ := hshort l' htext.2
        refine ⟨Nat.succ_le_succ hle, fun hlength ↦ ?_⟩
        rw [htext.1, heq (Nat.succ.inj hlength)]
      · -- `n` is the first digit of `n'`, so it is not zero and has a neighbour
        rw [digitText_cons_le hn', List.cons.injEq] at htext
        have hne : n ≠ 0 := by
          have hdiv : 0 < n' / base := Nat.div_pos hn' (Nat.zero_lt_of_lt hn)
          omega
        cases l with
        | nil => cases htext.2
        | cons m l => exact absurd ((List.isChain_cons_cons.mp h).1.1 hn) hne
    · rw [digitText_cons_le hn] at htext
      rcases Nat.lt_or_ge n' base with hn' | hn'
      · rw [digitText_cons_lt hn', List.cons.injEq] at htext
        have hlt := hbehind hn l' htext.2
        rw [List.length_cons, List.length_cons]
        exact ⟨by omega, by omega⟩
      · rw [digitText_cons_le hn', List.cons.injEq, List.cons.injEq] at htext
        obtain ⟨hdiv, hmod, htail⟩ := htext
        obtain ⟨hle, heq⟩ := hshort l' htail
        refine ⟨Nat.succ_le_succ hle, fun hlength ↦ ?_⟩
        rw [heq (Nat.succ.inj hlength), ← Nat.div_add_mod n base, hdiv, hmod, Nat.div_add_mod]

private theorem behind_cons {p n : Nat} {l : List Nat} (h : Settled base (p :: n :: l))
    (hshort : Shortest base (n :: l)) (hbehind : base ≤ n → Behind base n l) :
    Behind base p (n :: l) := by
  intro l' htext
  cases l' with
  | nil => cases htext
  | cons m l' =>
    rcases Nat.lt_or_ge m base with hm | hm
    · rw [digitText_cons_lt hm, List.cons.injEq] at htext
      have hle := (hshort l' htext.2).1
      rw [List.length_cons] at hle ⊢
      rw [List.length_cons]
      omega
    · rw [digitText_cons_le hm, List.cons.injEq] at htext
      rcases Nat.lt_or_ge n base with hn | hn
      · -- in front of a one-digit number nothing is left to `m`
        have hzero := (List.isChain_cons_cons.mp h).1.2 hn
        have hdiv : 0 < m / base := Nat.div_pos hm (Nat.zero_lt_of_lt hn)
        omega
      · rw [digitText_cons_le hn, List.cons.injEq] at htext
        have hlt := hbehind hn l' htext.2.2
        rw [List.length_cons, List.length_cons]
        omega

private theorem shortest_and_behind {l : List Nat} (h : Settled base l) :
    Shortest base l ∧ ∀ p, base ≤ p → Settled base (p :: l) → Behind base p l := by
  induction l with
  | nil =>
    constructor
    · intro l' htext
      rw [digitText_nil, eq_comm, digitText_eq_nil_iff] at htext
      rw [htext]
      exact ⟨Nat.le_refl _, fun _ ↦ rfl⟩
    · intro p _ _ l' htext
      cases l' with
      | nil => cases htext
      | cons m l' => exact Nat.succ_pos _
  | cons n l ih =>
    obtain ⟨hshort, hbehind⟩ := ih h.tail
    have hcons := shortest_cons h hshort fun hn ↦ hbehind n hn h
    exact ⟨hcons, fun p hp hp' ↦ behind_cons hp' hcons fun hn ↦ hbehind n hn h⟩

/-! ### Lists of one-digit numbers -/

private theorem length_le_digitText (l : List Nat) : l.length ≤ (digitText base l).length := by
  induction l with
  | nil => exact Nat.le_refl _
  | cons n l ih =>
    rcases Nat.lt_or_ge n base with hn | hn
    · rw [digitText_cons_lt hn, List.length_cons, List.length_cons]
      omega
    · rw [digitText_cons_le hn, List.length_cons, List.length_cons, List.length_cons]
      omega

private theorem digitText_of_length {l : List Nat} (h : (digitText base l).length = l.length) :
    digitText base l = l := by
  induction l with
  | nil => rfl
  | cons n l ih =>
    rcases Nat.lt_or_ge n base with hn | hn
    · rw [digitText_cons_lt hn] at h ⊢
      rw [ih (Nat.succ.inj h)]
    · rw [digitText_cons_le hn, List.length_cons, List.length_cons, List.length_cons] at h
      have hle : l.length ≤ (digitText base l).length := length_le_digitText l
      omega

private theorem digitText_of_lt {l : List Nat} (h : ∀ n ∈ l, n < base) : digitText base l = l := by
  induction l with
  | nil => rfl
  | cons n l ih =>
    rw [digitText_cons_lt (h n List.mem_cons_self), ih fun m hm ↦ h m (List.mem_cons_of_mem n hm)]

/-! ### Lists that a text does not tell apart -/

/-- Another list of as many numbers has the text of this one. -/
def Confused (base : Nat) (l : List Nat) : Prop :=
  ∃ l', l' ≠ l ∧ (∀ n ∈ l', n < base * base) ∧ l'.length = l.length ∧
    digitText base l' = digitText base l

private theorem join_lt {a b : Nat} (ha : a < base) (hb : b < base) :
    a * base + b < base * base := by
  have hle : (a + 1) * base ≤ base * base := Nat.mul_le_mul_right base ha
  rw [Nat.add_mul, Nat.one_mul] at hle
  omega

private theorem lt_mul_self {a : Nat} (ha : a < base) : a < base * base :=
  Nat.lt_of_lt_of_le ha (Nat.le_mul_self base)

private theorem digitText_split {n : Nat} (hn : base ≤ n) (hlt : n < base * base)
    (l : List Nat) : digitText base (n / base :: n % base :: l) = digitText base (n :: l) := by
  have hpos : 0 < base := Nat.pos_of_mul_pos_left (Nat.zero_lt_of_lt hlt)
  rw [digitText_cons_lt (Nat.div_lt_of_lt_mul hlt), digitText_cons_lt (Nat.mod_lt n hpos),
    digitText_cons_le hn]

private theorem confused_of_rewrite {before : List Nat} {a a' : Nat}
    (u u' v v' middle after : List Nat)
    (hl : ∀ n ∈ before ++ (a :: u ++ (middle ++ (v ++ after))), n < base * base)
    (hne : a' ≠ a) (hu : digitText base (a' :: u') = digitText base (a :: u))
    (hv : digitText base v' = digitText base v)
    (hlength : u'.length + v'.length = u.length + v.length)
    (hsmall : ∀ n ∈ a' :: (u' ++ v'), n < base * base) :
    Confused base (before ++ (a :: u ++ (middle ++ (v ++ after)))) := by
  refine ⟨before ++ (a' :: u' ++ (middle ++ (v' ++ after))), fun heq ↦ ?_, fun n hn ↦ ?_, ?_, ?_⟩
  · exact hne (List.cons.inj (List.append_cancel_left heq)).1
  · simp only [List.mem_append, List.mem_cons] at hn hl hsmall
    rcases hn with hn | (hn | hn) | hn | hn | hn
    · exact hl n (.inl hn)
    · exact hsmall n (.inl hn)
    · exact hsmall n (.inr (.inl hn))
    · exact hl n (.inr (.inr (.inl hn)))
    · exact hsmall n (.inr (.inr hn))
    · exact hl n (.inr (.inr (.inr (.inr hn))))
  · simp only [List.length_append, List.length_cons]
    omega
  · simp only [digitText_append, hu, hv]

-- Two neighbours of which one can pass a digit on to the other.
private theorem confused_of_shift {before after : List Nat} {a b : Nat} (a' b' : Nat)
    (hl : ∀ n ∈ before ++ a :: b :: after, n < base * base) (hne : a' ≠ a)
    (ha' : a' < base * base) (hb' : b' < base * base)
    (htext : digitText base [a', b'] = digitText base [a, b]) :
    Confused base (before ++ a :: b :: after) := by
  refine confused_of_rewrite [b] [b'] [] [] [] after hl hne htext rfl rfl ?_
  simp [ha', hb']

-- Two one-digit neighbours become one number, and a two-digit number elsewhere becomes two.
private theorem confused_of_join {before after : List Nat} {a b e : Nat}
    (hl : ∀ n ∈ before ++ a :: b :: after, n < base * base) (ha : a < base) (hne : a ≠ 0)
    (hb : b < base) (he : base ≤ e) (hmem : e ∈ before ++ a :: b :: after) :
    Confused base (before ++ a :: b :: after) := by
  have helt := hl e hmem
  have hdiv : e / base < base := Nat.div_lt_of_lt_mul helt
  have hmod : e % base < base := Nat.mod_lt e (Nat.zero_lt_of_lt ha)
  have hsmall : a * base + b < base * base ∧ e / base < base * base ∧ e % base < base * base :=
    ⟨join_lt ha hb, lt_mul_self hdiv, lt_mul_self hmod⟩
  have hjoined : digitText base [a * base + b] = digitText base [a, b] := by
    rw [digitText_join hne hb, digitText_cons_lt ha, digitText_cons_lt hb]
  have hsplit : digitText base [e / base, e % base] = digitText base [e] :=
    digitText_split he helt []
  have hplace : e ∈ before ∨ e ∈ after := by
    simp only [List.mem_append, List.mem_cons] at hmem
    rcases hmem with hmem | rfl | rfl | hmem
    · exact .inl hmem
    · omega
    · omega
    · exact .inr hmem
  rcases hplace with hplace | hplace
  · obtain ⟨first, second, rfl⟩ := List.append_of_mem hplace
    rw [List.append_assoc] at hl ⊢
    refine confused_of_rewrite [] [e % base] [a, b] [a * base + b] second after hl (by omega)
      hsplit hjoined rfl ?_
    simp [hsmall]
  · obtain ⟨first, second, rfl⟩ := List.append_of_mem hplace
    have hle : base ≤ a * base := Nat.le_mul_of_pos_left base (Nat.pos_of_ne_zero hne)
    refine confused_of_rewrite [b] [] [e] [e / base, e % base] first second hl (by omega)
      hjoined hsplit rfl ?_
    simp [hsmall]

private theorem confused_of_not_settled {l : List Nat} (hl : ∀ n ∈ l, n < base * base)
    (hbig : ∃ e ∈ l, base ≤ e) (h : ¬ Settled base l) : Confused base l := by
  rw [Settled, List.isChain_iff_forall_rel_of_append_cons_cons] at h
  simp only [not_forall] at h
  obtain ⟨a, b, before, after, rfl, hpair⟩ := h
  have ha : a < base * base := hl a (by simp)
  have hb : b < base * base := hl b (by simp)
  have hpos : 0 < base := Nat.pos_of_mul_pos_left (Nat.zero_lt_of_lt ha)
  rcases Nat.lt_or_ge a base with hasmall | halarge
  · have hne : a ≠ 0 := by
      rintro rfl
      exact hpair ⟨fun _ ↦ rfl, fun _ ↦ Nat.zero_mod base⟩
    rcases Nat.lt_or_ge b base with hbsmall | hblarge
    · obtain ⟨e, he, hle⟩ := hbig
      exact confused_of_join hl hasmall hne hbsmall hle he
    · -- the first digit of `b` goes to `a`
      have hdiv : b / base < base := Nat.div_lt_of_lt_mul hb
      have hmod : b % base < base := Nat.mod_lt b hpos
      have hle : base ≤ a * base + b / base :=
        Nat.le_add_right_of_le (Nat.le_mul_of_pos_left base (Nat.pos_of_ne_zero hne))
      refine confused_of_shift (a * base + b / base) (b % base) hl (by omega)
        (join_lt hasmall hdiv) (lt_mul_self hmod) ?_
      rw [digitText_join hne hdiv, digitText_cons_lt hmod, digitText_cons_lt hasmall,
        digitText_cons_le hblarge]
  · -- the last digit of `a` goes to `b`
    have hlast : b < base ∧ a % base ≠ 0 := by
      by_contra hnot
      refine hpair ⟨fun hlt ↦ absurd hlt (Nat.not_lt.mpr halarge), fun hlt ↦ ?_⟩
      by_contra hmod
      exact hnot ⟨hlt, hmod⟩
    have hdiv : a / base < base := Nat.div_lt_of_lt_mul ha
    have hmod : a % base < base := Nat.mod_lt a hpos
    refine confused_of_shift (a / base) (a % base * base + b) hl (by omega)
      (lt_mul_self hdiv) (join_lt hmod hlast.1) ?_
    rw [digitText_cons_lt hdiv, digitText_join hlast.2 hlast.1, digitText_cons_le halarge,
      digitText_cons_lt hlast.1]

/-- The text of a list is that of no other list of its length exactly when all its numbers have
one digit, or it is settled. -/
theorem not_confused_iff {l : List Nat} (hl : ∀ n ∈ l, n < base * base) :
    ¬ Confused base l ↔ (∀ n ∈ l, n < base) ∨ Settled base l := by
  constructor
  · intro h
    by_contra hnot
    rw [not_or] at hnot
    obtain ⟨hbig, hsettled⟩ := hnot
    simp only [not_forall, Nat.not_lt] at hbig
    obtain ⟨e, he, hle⟩ := hbig
    exact h (confused_of_not_settled hl ⟨e, he, hle⟩ hsettled)
  · rintro (hsmall | hsettled) ⟨l', hne, -, hlength, htext⟩
    · rw [digitText_of_lt hsmall] at htext
      refine hne ?_
      rw [← htext, digitText_of_length (by rw [htext, hlength])]
    · exact hne (((shortest_and_behind hsettled).1 l' htext.symm).2 hlength.symm).symm

example : Settled 16 [0x10, 0x00, 0xab] ∧ ¬ Settled 16 [0x1f, 0x00, 0xab] := by decide

end ConfigCenter.Base
