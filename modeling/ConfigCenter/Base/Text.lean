import Mathlib.Data.List.Basic
import Mathlib.Data.List.TakeWhile
import Mathlib.Tactic.Tauto

/-!
# Quoted literals, decimal texts and text order

Library `Base`. How a SQL server reads the characters between the quotes of a
string literal, and how `std::stoi` and `std::stoll` read a decimal text. The
round trips are stated against the usual encoders. Texts of one format compare
part by part.
-/

namespace ConfigCenter.Base

/-- The single quote. -/
def quote : Char := Char.ofNat 39

/-- The backslash. -/
def backslash : Char := Char.ofNat 92

/-- The characters that a backslash and the given character stand for. -/
def unescape (c : Char) : List Char :=
  if c = '0' then [Char.ofNat 0]
  else if c = 'b' then [Char.ofNat 8]
  else if c = 't' then [Char.ofNat 9]
  else if c = 'n' then [Char.ofNat 10]
  else if c = 'r' then [Char.ofNat 13]
  else if c = 'Z' then [Char.ofNat 26]
  else if c = '%' ∨ c = '_' then [backslash, c]
  else [c]

/-- The characters that a literal denotes, from those between its quotes; nothing when a
single quote ends it early or a backslash has nothing to escape. -/
def readLiteral : List Char → Option (List Char)
  | [] => some []
  | [c] => if c = quote ∨ c = backslash then none else some [c]
  | c :: d :: rest =>
    if c = quote then
      -- a doubled quote stands for one
      if d = quote then (readLiteral rest).map (quote :: ·) else none
    else if c = backslash then (readLiteral rest).map (unescape d ++ ·)
    else (readLiteral (d :: rest)).map (c :: ·)

/-- Escape quotes and backslashes. -/
def escapeChar (c : Char) : List Char :=
  if c = quote then [backslash, quote]
  else if c = backslash then [backslash, backslash]
  else [c]

private theorem readLiteral_cons {c : Char} (hq : c ≠ quote) (hb : c ≠ backslash)
    (rest : List Char) : readLiteral (c :: rest) = (readLiteral rest).map (c :: ·) := by
  cases rest with
  | nil => simp [readLiteral, hq, hb]
  | cons d rest => simp [readLiteral, hq, hb]

/-- An escaped text is read back as it was. -/
theorem readLiteral_flatMap_escapeChar (cs : List Char) :
    readLiteral (cs.flatMap escapeChar) = some cs := by
  have hq : unescape quote = [quote] := by decide
  have hb : unescape backslash = [backslash] := by decide
  have hne : backslash ≠ quote := by decide
  induction cs with
  | nil => rfl
  | cons c cs ih =>
    rw [List.flatMap_cons, escapeChar]
    by_cases h : c = quote
    · simp [h, readLiteral, hne, hq, ih]
    · by_cases h' : c = backslash
      · simp [h', readLiteral, hne, hb, ih]
      · simp [h, h', readLiteral_cons, ih]

/-- A text without quotes and backslashes is read as it is. -/
theorem readLiteral_plain {cs : List Char} (h : ∀ c ∈ cs, c ≠ quote ∧ c ≠ backslash) :
    readLiteral cs = some cs := by
  induction cs with
  | nil => rfl
  | cons c cs ih =>
    obtain ⟨hq, hb⟩ := h c (by simp)
    rw [readLiteral_cons hq hb, ih fun d hd ↦ h d (List.mem_cons_of_mem c hd)]
    rfl

/-- An optional sign, as whether it is a minus, and the rest. -/
def splitSign : List Char → Bool × List Char
  | '-' :: rest => (true, rest)
  | '+' :: rest => (false, rest)
  | rest => (false, rest)

/-- The integer a text starts with, after white space; nothing where `std::stoi` throws
`std::invalid_argument`. -/
def parseInteger (text : String) : Option Int :=
  let signed := splitSign (text.toList.dropWhile Char.isWhitespace)
  let digits := signed.2.takeWhile Char.isDigit
  if digits.isEmpty then none
  else some (if signed.1 then -Nat.ofDigitChars 10 digits 0 else Nat.ofDigitChars 10 digits 0)

private theorem isDigit_ne {c : Char} (h : c.isDigit) :
    c.isWhitespace = false ∧ c ≠ '-' ∧ c ≠ '+' := by
  have hb : 48 ≤ c.val.toNat ∧ c.val.toNat ≤ 57 := by
    simpa [Char.isDigit, UInt32.le_iff_toNat_le] using h
  refine ⟨?_, ?_, ?_⟩
  · have hw (d : Char) (hd : d.val.toNat < 48) : c ≠ d := by
      rintro rfl
      omega
    simp [Char.isWhitespace, hw ' ' (by decide), hw '\t' (by decide), hw '\r' (by decide),
      hw '\n' (by decide)]
  · rintro rfl
    revert hb
    decide
  · rintro rfl
    revert hb
    decide

private theorem splitSign_digit {c : Char} (h : c.isDigit) (rest : List Char) :
    splitSign (c :: rest) = (false, c :: rest) := by
  obtain ⟨_, hm, hp⟩ := isDigit_ne h
  unfold splitSign
  split
  · next heq => exact absurd (List.cons.inj heq).1 hm
  · next heq => exact absurd (List.cons.inj heq).1 hp
  · rfl

private theorem takeWhile_toDigits (n : Nat) :
    (Nat.toDigits 10 n).takeWhile Char.isDigit = Nat.toDigits 10 n := by
  rw [List.takeWhile_eq_self_iff]
  intro c hc
  exact Nat.isDigit_of_mem_toDigits (by decide) (by decide) hc

private theorem parseInteger_digits {text : String} {n : Nat} {negative : Bool}
    (h : splitSign (text.toList.dropWhile Char.isWhitespace) = (negative, Nat.toDigits 10 n)) :
    parseInteger text = some (if negative then -(n : Int) else n) := by
  have hne : Nat.toDigits 10 n ≠ [] := Nat.toDigits_ne_nil
  simp [parseInteger, h, takeWhile_toDigits, hne, Nat.ofDigitChars_ten_toDigits]

/-- The decimal text of an integer is read back as that integer. -/
theorem parseInteger_repr (n : Int) : parseInteger n.repr = some n := by
  by_cases hn : 0 ≤ n
  · rw [Int.repr_eq_if, if_pos hn]
    have hs : splitSign (n.toNat.repr.toList.dropWhile Char.isWhitespace) =
        (false, Nat.toDigits 10 n.toNat) := by
      rw [Nat.toList_repr]
      cases hd : Nat.toDigits 10 n.toNat with
      | nil => exact absurd hd Nat.toDigits_ne_nil
      | cons c rest =>
        have hc : c.isDigit := Nat.isDigit_of_mem_toDigits (b := 10) (n := n.toNat) (by decide)
          (by decide) (by simp [hd])
        rw [List.dropWhile_cons_of_neg (by simp [(isDigit_ne hc).1]), splitSign_digit hc]
    rw [parseInteger_digits hs, if_neg (by decide), Int.toNat_of_nonneg hn]
  · rw [Int.repr_eq_if, if_neg hn]
    have hs : splitSign (("-" ++ (-n).toNat.repr).toList.dropWhile Char.isWhitespace) =
        (true, Nat.toDigits 10 (-n).toNat) := by
      rw [String.toList_append, Nat.toList_repr]
      rfl
    rw [parseInteger_digits hs, if_pos rfl, Int.toNat_of_nonneg (by omega), Int.neg_neg]

/-- Texts that start with parts of one length compare first by these. -/
theorem append_lt_append_iff {a a' b b' : List Char} (h : a.length = a'.length) :
    a ++ b < a' ++ b' ↔ a < a' ∨ a = a' ∧ b < b' := by
  induction a generalizing a' with
  | nil =>
    cases a' with
    | nil => simp
    | cons c a' => cases h
  | cons c a ih =>
    cases a' with
    | nil => cases h
    | cons c' a' =>
      simp only [List.cons_append, List.cons_lt_cons_iff, ih (Nat.succ.inj h), List.cons.injEq]
      tauto

end ConfigCenter.Base
