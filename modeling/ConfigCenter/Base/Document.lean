import Mathlib.Data.List.Basic

/-!
# Documents

Library `Base`. A document is a tree of maps, sequences and scalars. `descend` walks a
path of keys and fails where it has to look into a scalar; `put` places a node at the end
of a path. A node that was put is found, and nodes on paths apart from it stay.
-/

namespace ConfigCenter.Base

/-- A document. Keys of maps are documents, in any order and possibly repeated. -/
inductive Document where
  | null
  | scalar (text : String)
  | sequence (items : List Document)
  | map (entries : List (Document × Document))

namespace Document

/-- The document is the given text as a key. -/
def isKey (key : String) : Document → Bool
  | scalar text => text == key
  | _ => false

/-- The value of a key: the first one in a map. -/
def child? (key : String) : Document → Option Document
  | map entries => (entries.find? fun e ↦ e.1.isKey key).map Prod.snd
  | _ => none

/-- The document with another value for the key; what is no map becomes one. -/
def assign (d : Document) (key : String) (value : Document) : Document :=
  match d with
  | map entries => map (entries.filter (fun e ↦ !e.1.isKey key) ++ [(scalar key, value)])
  | _ => map [(scalar key, value)]

/-- A scalar has no entries to look at. -/
def isScalar : Document → Bool
  | scalar _ => true
  | _ => false

/-- The node at the end of a path; nothing where a key is missing, and the key that was
looked for in a scalar. -/
def descend : List String → Document → Except String (Option Document)
  | [], d => .ok (some d)
  | key :: path, d =>
    if d.isScalar then .error key
    else match d.child? key with
      | none => .ok none
      | some child => descend path child

/-- The document with another node at the end of a path. -/
def put : List String → Document → Document → Document
  | [], value, _ => value
  | key :: path, value, d => d.assign key (put path value ((d.child? key).getD null))

private theorem isKey_scalar (key other : String) :
    (scalar key).isKey other = decide (key = other) := by
  rw [isKey, beq_eq_decide]

/-- A document with an assigned key is no scalar. -/
@[simp] theorem isScalar_assign (d : Document) (key : String) (value : Document) :
    (d.assign key value).isScalar = false := by
  cases d <;> rfl

/-- An assigned key has its new value, every other key its old one. -/
theorem child?_assign (d : Document) (key : String) (value : Document) (other : String) :
    (d.assign key value).child? other =
      if key = other then some value else d.child? other := by
  by_cases h : key = other
  · subst h
    cases d with
    | map entries =>
      have hnone : (entries.filter fun e ↦ !e.1.isKey key).find? (fun e ↦ e.1.isKey key) =
          none := by
        rw [List.find?_eq_none]
        intro e he
        simpa using (List.mem_filter.mp he).2
      simp [assign, child?, hnone, isKey_scalar]
    | _ => simp [assign, child?, isKey_scalar]
  · cases d with
    | map entries =>
      have hsame : (entries.filter fun e ↦ !e.1.isKey key).find? (fun e ↦ e.1.isKey other) =
          entries.find? (fun e ↦ e.1.isKey other) := by
        rw [List.find?_filter]
        congr 1
        funext e
        cases he : e.1 with
        | scalar text =>
          by_cases ht : text = other
          · simp [isKey, ht, Ne.symm h]
          · simp [isKey, ht]
        | _ => simp [isKey]
      simp [assign, child?, h, hsame, isKey_scalar, List.find?_append]
    | _ => simp [assign, child?, h, isKey_scalar]

/-- Neither path leads through the end of the other. -/
def Apart (p q : List String) : Prop := ¬ p <+: q ∧ ¬ q <+: p

instance (p q : List String) : Decidable (Apart p q) := inferInstanceAs (Decidable (_ ∧ _))

/-- A node that was put is found. -/
theorem descend_put (path : List String) (value d : Document) :
    descend path (put path value d) = .ok (some value) := by
  induction path generalizing d with
  | nil => rfl
  | cons key path ih =>
    rw [put, descend, isScalar_assign, child?_assign, if_pos rfl]
    exact ih _

/-- A node elsewhere stays, unless a scalar was in its way. -/
theorem descend_put_of_apart {p q : List String} (h : Apart p q) (value : Document)
    {d : Document} {r : Option Document} (hd : descend q d = .ok r) :
    descend q (put p value d) = .ok r := by
  induction p generalizing q d with
  | nil => exact absurd List.nil_prefix h.1
  | cons key p ih =>
    cases q with
    | nil => exact absurd List.nil_prefix h.2
    | cons other q =>
      rw [descend] at hd
      rw [put, descend, isScalar_assign, child?_assign]
      split at hd
      · cases hd
      · by_cases hkey : key = other
        · subst hkey
          have happart : Apart p q := by
            simpa [Apart, List.cons_prefix_cons] using h
          rw [if_pos rfl]
          cases hchild : d.child? key with
          | none =>
            -- The put node makes the section, the other path ends in it.
            rw [hchild] at hd
            obtain rfl := Except.ok.inj hd
            refine ih happart ?_
            cases q with
            | nil => exact absurd List.nil_prefix happart.2
            | cons _ _ => rfl
          | some child =>
            rw [hchild] at hd
            exact ih happart hd
        · rw [if_neg hkey]
          exact hd

end Document

end ConfigCenter.Base
