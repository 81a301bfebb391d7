import ConfigCenter.Base.Text

/-!
# SQL statements as a server reads them

Library `Base`. A statement text is a sequence of code fragments with string
literals between them. `readFragment` is the server's rule for single quotes: a
literal ends at a quote that is neither doubled nor escaped. A statement is put
together from items; `outline` finds the fragments and literals its author means,
and `reads_of_outline` says that the server reads just these, whatever values
callers put into the statement.
-/

namespace ConfigCenter.Base

/-- What a server reads: the first fragment, then every literal with the fragment after it. -/
abbrev Reading := List Char × List (List Char × List Char)

mutual

/-- Read from outside a literal. -/
def readFragment : List Char → Option Reading
  | [] => some ([], [])
  | c :: rest =>
    if c = quote then (readQuoted rest).map fun r ↦ ([], r.1 :: r.2)
    else (readFragment rest).map fun r ↦ (c :: r.1, r.2)

/-- Read from inside a literal, which must be closed: the rest of it with the fragment after
it, and what follows. -/
def readQuoted : List Char → Option ((List Char × List Char) × List (List Char × List Char))
  | [] => none
  | [c] => if c = quote then some (([], []), []) else none
  | c :: d :: rest =>
    if c = quote then
      -- a doubled quote stands for one, any other ends the literal
      if d = quote then (readQuoted rest).map fun r ↦ ((quote :: r.1.1, r.1.2), r.2)
      else (readFragment (d :: rest)).map fun r ↦ (([], r.1), r.2)
    else if c = backslash then (readQuoted rest).map fun r ↦ ((unescape d ++ r.1.1, r.1.2), r.2)
    else (readQuoted (d :: rest)).map fun r ↦ ((c :: r.1.1, r.1.2), r.2)

end

/-! ### Rules of the reader -/

/-- Text without a quote belongs to the fragment. -/
theorem readFragment_append {cs : List Char} (h : quote ∉ cs) (rest : List Char) :
    readFragment (cs ++ rest) = (readFragment rest).map fun r ↦ (cs ++ r.1, r.2) := by
  induction cs with
  | nil => simp
  | cons c cs ih =>
    rw [List.mem_cons, not_or] at h
    rw [List.cons_append, readFragment, if_neg (Ne.symm h.1), ih h.2, Option.map_map]
    rfl

private theorem readQuoted_cons {c : Char} (hq : c ≠ quote) (hb : c ≠ backslash)
    (rest : List Char) :
    readQuoted (c :: rest) = (readQuoted rest).map fun r ↦ ((c :: r.1.1, r.1.2), r.2) := by
  cases rest with
  | nil => simp [readQuoted, hq]
  | cons d rest => simp [readQuoted, hq, hb]

/-- Text without quotes and backslashes belongs to the literal. -/
theorem readQuoted_append {cs : List Char} (h : ∀ c ∈ cs, c ≠ quote ∧ c ≠ backslash)
    (rest : List Char) :
    readQuoted (cs ++ rest) = (readQuoted rest).map fun r ↦ ((cs ++ r.1.1, r.1.2), r.2) := by
  induction cs with
  | nil => simp
  | cons c cs ih =>
    obtain ⟨hq, hb⟩ := h c List.mem_cons_self
    rw [List.cons_append, readQuoted_cons hq hb, ih fun d hd ↦ h d (List.mem_cons_of_mem c hd),
      Option.map_map]
    rfl

/-- Escaped text belongs to the literal and stands for itself. -/
theorem readQuoted_escape (cs rest : List Char) :
    readQuoted (cs.flatMap escapeChar ++ rest) =
      (readQuoted rest).map fun r ↦ ((cs ++ r.1.1, r.1.2), r.2) := by
  have hq : unescape quote = [quote] := by decide
  have hb : unescape backslash = [backslash] := by decide
  have hne : backslash ≠ quote := by decide
  induction cs with
  | nil => simp
  | cons c cs ih =>
    rw [List.flatMap_cons, List.append_assoc, escapeChar]
    by_cases h : c = quote
    · simp [h, readQuoted, hne, hq, ih, Function.comp_def]
    · by_cases h' : c = backslash
      · simp [h', readQuoted, hne, hb, ih, Function.comp_def]
      · simp [h, h', readQuoted_cons, ih, Function.comp_def]

/-- A quote that is not followed by another one closes the literal. -/
theorem readQuoted_close {rest : List Char} (h : rest.head? ≠ some quote) :
    readQuoted (quote :: rest) = (readFragment rest).map fun r ↦ (([], r.1), r.2) := by
  cases rest with
  | nil => simp [readQuoted, readFragment]
  | cons d rest =>
    have hd : d ≠ quote := by simpa using h
    simp [readQuoted, hd]

/-! ### Outlines -/

/-- What a statement is put together from: characters of fixed text, texts that never hold a
quote or a backslash, and callers' values, which are written escaped. -/
inductive TextItem where
  | char (c : Char)
  | plain (text : List Char)
  | caller (value : List Char)

namespace TextItem

/-- The characters of an item. -/
def chars : TextItem → List Char
  | .char c => [c]
  | .plain text => text
  | .caller value => value.flatMap escapeChar

/-- A plain item is free of quotes and backslashes. -/
def Plain : TextItem → Prop
  | .plain text => ∀ c ∈ text, c ≠ quote ∧ c ≠ backslash
  | _ => True

/-- The item with nothing in the place of a caller's value. -/
def blank : TextItem → TextItem
  | .caller _ => .caller []
  | item => item

/-- The value that a caller put there. -/
def caller? : TextItem → Option (List Char)
  | .caller value => some value
  | _ => none

end TextItem

/-- A literal of an outline: fixed text, or the place of a caller's value. -/
inductive Literal where
  | constant (text : List Char)
  | caller (value : List Char)

/-- The value a literal stands for. -/
def Literal.value : Literal → List Char
  | .constant text => text
  | .caller value => value

/-- Where an outline stands: in code, right after an opening quote, in a fixed literal, after a
caller's value, or right after a closing quote. -/
inductive Mode where
  | code
  | opened
  | constant
  | filled (value : List Char)
  | closed (literal : Literal)

/-- An outline so far: finished fragments with the literal after each, the fragment before the
current literal, and the text of the current fragment or literal. -/
structure Outline where
  done : List (List Char × Literal) := []
  before : List Char := []
  current : List Char := []
  mode : Mode := .code

namespace Outline

/-- Take a character of a fixed literal. -/
def nextConstant (o : Outline) (c : Char) : Option Outline :=
  if c = quote then some { o with mode := .closed (.constant o.current) }
  else if c = backslash then none
  else some { o with current := o.current ++ [c], mode := .constant }

/-- Take one item. Nothing is returned where a caller's value does not fill a literal alone, or
a quote or backslash would be read as part of an escape. -/
def next (o : Outline) (item : TextItem) : Option Outline :=
  match o.mode, item with
  | .code, .char c =>
    if c = quote then some { o with before := o.current, current := [], mode := .opened }
    else some { o with current := o.current ++ [c] }
  | .code, .plain text => some { o with current := o.current ++ text }
  | .opened, .caller value => some { o with mode := .filled value }
  | .opened, .char c => nextConstant { o with current := [] } c
  | .opened, .plain text => some { o with current := text, mode := .constant }
  | .constant, .char c => o.nextConstant c
  | .constant, .plain text => some { o with current := o.current ++ text }
  | .filled value, .char c =>
    if c = quote then some { o with mode := .closed (.caller value) } else none
  | .closed literal, .char c =>
    if c = quote then none
    else some { o with done := o.done ++ [(o.before, literal)], current := [c], mode := .code }
  | _, _ => none

/-- Take all items of a statement. -/
def takeAll : Outline → List TextItem → Option Outline
  | o, [] => some o
  | o, item :: rest =>
    match o.next item with
    | some o' => takeAll o' rest
    | none => none

/-- The fragments with the literals after them, and the last fragment, of a finished outline. -/
def finish (o : Outline) : Option (List (List Char × Literal) × List Char) :=
  match o.mode with
  | .code => some (o.done, o.current)
  | .closed literal => some (o.done ++ [(o.before, literal)], [])
  | _ => none

/-- Put finished parts in front of what is read after them. -/
def attach : List (List Char × Literal) → Reading → Reading
  | [], r => r
  | (fragment, literal) :: rest, r =>
    (fragment, (literal.value, (attach rest r).1) :: (attach rest r).2)

/-- Literals attach one after the other. -/
theorem attach_append (a b : List (List Char × Literal)) (r : Reading) :
    attach (a ++ b) r = attach a (attach b r) := by
  induction a with
  | nil => rfl
  | cons p a ih =>
    rw [List.cons_append, attach, attach, ih]

/-- What the whole statement is read as when `rest` follows the items taken so far. -/
def resume (o : Outline) (rest : List Char) : Option Reading :=
  match o.mode with
  | .code => (readFragment rest).map fun r ↦ attach o.done (o.current ++ r.1, r.2)
  | .opened => (readQuoted rest).map fun r ↦ attach o.done (o.before, r.1 :: r.2)
  | .constant =>
    (readQuoted rest).map fun r ↦ attach o.done (o.before, (o.current ++ r.1.1, r.1.2) :: r.2)
  | .filled value =>
    (readQuoted rest).map fun r ↦ attach o.done (o.before, (value ++ r.1.1, r.1.2) :: r.2)
  | .closed literal =>
    (readQuoted (quote :: rest)).map fun r ↦
      attach o.done (o.before, (literal.value ++ r.1.1, r.1.2) :: r.2)

private theorem quote_notMem_of_plain {text : List Char}
    (h : ∀ c ∈ text, c ≠ quote ∧ c ≠ backslash) : quote ∉ text :=
  fun hq ↦ (h quote hq).1 rfl

private theorem resume_next_char {o o' : Outline} {c : Char} (h : o.next (.char c) = some o')
    (rest : List Char) : o.resume (c :: rest) = o'.resume rest := by
  obtain ⟨done, before, current, mode⟩ := o
  cases mode with
  | code =>
    simp only [next] at h
    split at h
    · next hc =>
      cases h
      simp [resume, readFragment, hc, Function.comp_def]
    · next hc =>
      cases h
      simp [resume, readFragment, hc, Function.comp_def]
  | opened | constant =>
    simp only [next, nextConstant] at h
    split at h
    · next hc =>
      cases h
      simp [resume, hc, Literal.value]
    · next hc =>
      split at h
      · cases h
      · next hb =>
        cases h
        simp [resume, readQuoted_cons hc hb, Function.comp_def]
  | filled value =>
    simp only [next] at h
    split at h
    · next hc =>
      cases h
      simp [resume, hc, Literal.value]
    · cases h
  | closed literal =>
    simp only [next] at h
    split at h
    · cases h
    · next hc =>
      cases h
      have hclose : readQuoted (quote :: c :: rest) = _ :=
        readQuoted_close (by simpa using hc)
      simp [resume, hclose, readFragment, hc, attach_append, attach, Function.comp_def]

private theorem resume_next_plain {o o' : Outline} {text : List Char}
    (h : o.next (.plain text) = some o') (hplain : ∀ c ∈ text, c ≠ quote ∧ c ≠ backslash)
    (rest : List Char) : o.resume (text ++ rest) = o'.resume rest := by
  obtain ⟨done, before, current, mode⟩ := o
  cases mode with
  | code =>
    cases h
    simp [resume, readFragment_append (quote_notMem_of_plain hplain), Function.comp_def]
  | opened | constant =>
    cases h
    simp [resume, readQuoted_append hplain, Function.comp_def]
  | filled value => cases h
  | closed literal => cases h

/-- Taking an item does not change what the whole statement is read as. -/
theorem resume_next {o o' : Outline} {item : TextItem} (h : o.next item = some o')
    (hplain : item.Plain) (rest : List Char) :
    o.resume (item.chars ++ rest) = o'.resume rest := by
  cases item with
  | char c => exact resume_next_char h rest
  | plain text => exact resume_next_plain h hplain rest
  | caller value =>
    -- a caller's value is taken in an open literal alone
    obtain ⟨done, before, current, mode⟩ := o
    cases mode with
    | opened =>
      cases h
      simp [resume, TextItem.chars, readQuoted_escape, Function.comp_def]
    | code | constant | filled value | closed literal => cases h

/-- Taking all items does not change what the whole statement is read as. -/
theorem resume_takeAll {o o' : Outline} {items : List TextItem} (h : o.takeAll items = some o')
    (hplain : ∀ item ∈ items, item.Plain) :
    o.resume (items.flatMap TextItem.chars) = o'.resume [] := by
  induction items generalizing o with
  | nil =>
    cases h
    rfl
  | cons item rest ih =>
    simp only [takeAll] at h
    split at h
    · next o₁ hnext =>
      rw [List.flatMap_cons, resume_next hnext (hplain item List.mem_cons_self)]
      exact ih h fun i hi ↦ hplain i (List.mem_cons_of_mem item hi)
    · cases h

/-- A finished outline is what the statement is read as. -/
theorem resume_of_finish {o : Outline} {parts : List (List Char × Literal)} {last : List Char}
    (h : o.finish = some (parts, last)) : o.resume [] = some (attach parts (last, [])) := by
  obtain ⟨done, before, current, mode⟩ := o
  cases mode with
  | code =>
    cases h
    simp [resume, readFragment]
  | closed literal =>
    cases h
    have hclose : readQuoted [quote] = _ := readQuoted_close (by simp)
    simp [resume, hclose, readFragment, attach_append, attach]
  | opened | constant | filled => cases h

end Outline

/-- The outline of a statement: fragments with the literals after them, and the last one. -/
def outline (items : List TextItem) : Option (List (List Char × Literal) × List Char) :=
  (Outline.takeAll {} items).bind Outline.finish

/-- A statement that has an outline is read as its outline. -/
theorem readFragment_of_outline {items : List TextItem} {parts : List (List Char × Literal)}
    {last : List Char} (h : outline items = some (parts, last))
    (hplain : ∀ item ∈ items, item.Plain) :
    readFragment (items.flatMap TextItem.chars) = some (Outline.attach parts (last, [])) := by
  obtain ⟨o, htake, hfinish⟩ := Option.bind_eq_some_iff.mp h
  rw [← Outline.resume_of_finish hfinish, ← Outline.resume_takeAll htake hplain]
  simp [Outline.resume, Outline.attach]

/-! ### What does not depend on the callers' values -/

/-- The literal with nothing in the place of a caller's value. -/
def Literal.blank : Literal → Literal
  | .constant text => .constant text
  | .caller _ => .caller []

/-- Finished parts with nothing in the place of callers' values. -/
def blankParts (parts : List (List Char × Literal)) : List (List Char × Literal) :=
  parts.map fun p ↦ (p.1, p.2.blank)

namespace Outline

/-- The outline with nothing in the place of callers' values. -/
def blank (o : Outline) : Outline :=
  { o with
    done := blankParts o.done
    mode := match o.mode with
      | .filled _ => .filled []
      | .closed literal => .closed literal.blank
      | mode => mode }

private theorem next_blank (o : Outline) (item : TextItem) :
    o.blank.next item.blank = (o.next item).map blank := by
  obtain ⟨done, before, current, mode⟩ := o
  cases item with
  | char c =>
    cases mode <;> simp only [blank, next, nextConstant, TextItem.blank] <;> split <;>
      (try split) <;> simp_all [blank, blankParts, Literal.blank]
  | plain text => cases mode <;> rfl
  | caller value => cases mode <;> rfl

private theorem takeAll_blank (o : Outline) (items : List TextItem) :
    o.blank.takeAll (items.map TextItem.blank) = (o.takeAll items).map blank := by
  induction items generalizing o with
  | nil => rfl
  | cons item rest ih =>
    rw [List.map_cons, takeAll, takeAll, next_blank]
    cases o.next item with
    | none => rfl
    | some o' => exact ih o'

private theorem finish_blank (o : Outline) :
    o.blank.finish = o.finish.map fun r ↦ (blankParts r.1, r.2) := by
  obtain ⟨done, before, current, mode⟩ := o
  cases mode <;> simp [blank, finish, blankParts]

end Outline

/-- The outline of a blank statement is the blank outline. -/
theorem outline_blank (items : List TextItem) :
    outline (items.map TextItem.blank) =
      (outline items).map fun r ↦ (blankParts r.1, r.2) := by
  have htake := Outline.takeAll_blank {} items
  unfold outline
  rw [show Outline.blank {} = {} from rfl] at htake
  rw [htake]
  cases Outline.takeAll {} items with
  | none => rfl
  | some o => exact Outline.finish_blank o

/-! ### Where the callers' values go -/

/-- The value that a caller put there. -/
def Literal.caller? : Literal → Option (List Char)
  | .constant _ => none
  | .caller value => some value

/-- The text of a fixed literal; nothing marks the place of a caller's value. -/
def Literal.slot : Literal → Option (List Char)
  | .constant text => some text
  | .caller _ => none

/-- Callers' values in finished parts, in order. -/
def callersOf (parts : List (List Char × Literal)) : List (List Char) :=
  parts.filterMap fun p ↦ p.2.caller?

namespace Outline

/-- Callers' values taken so far, in order. -/
def callers (o : Outline) : List (List Char) :=
  callersOf o.done ++ match o.mode with
    | .filled value => [value]
    | .closed literal => literal.caller?.toList
    | _ => []

private theorem callers_next {o o' : Outline} {item : TextItem} (h : o.next item = some o') :
    o'.callers = o.callers ++ item.caller?.toList := by
  obtain ⟨done, before, current, mode⟩ := o
  cases item with
  | char c =>
    cases mode with
    | code | opened | constant | filled =>
      simp only [next, nextConstant] at h
      split at h
      · cases h
        simp [callers, TextItem.caller?, Literal.caller?]
      · (try split at h) <;> cases h <;> simp [callers, TextItem.caller?]
    | closed literal =>
      simp only [next] at h
      split at h
      · cases h
      · cases h
        cases literal <;> simp [callers, callersOf, TextItem.caller?, Literal.caller?]
  | plain text =>
    cases mode <;> cases h <;> simp [callers, TextItem.caller?]
  | caller value =>
    cases mode <;> cases h
    simp [callers, TextItem.caller?]

private theorem callers_takeAll {o o' : Outline} {items : List TextItem}
    (h : o.takeAll items = some o') :
    o'.callers = o.callers ++ items.filterMap TextItem.caller? := by
  induction items generalizing o with
  | nil =>
    cases h
    simp
  | cons item rest ih =>
    simp only [takeAll] at h
    split at h
    · next o₁ hnext =>
      rw [ih h, callers_next hnext, List.append_assoc]
      cases hc : item.caller? <;> simp [hc]
    · cases h

private theorem callersOf_finish {o : Outline} {parts : List (List Char × Literal)}
    {last : List Char} (h : o.finish = some (parts, last)) : callersOf parts = o.callers := by
  obtain ⟨done, before, current, mode⟩ := o
  cases mode with
  | code =>
    cases h
    simp [callers]
  | closed literal =>
    cases h
    cases literal <;> simp [callers, callersOf, Literal.caller?]
  | opened | constant | filled => cases h

end Outline

/-- The callers' values of an outline are those of the items, in their order. -/
theorem callersOf_outline {items : List TextItem} {parts : List (List Char × Literal)}
    {last : List Char} (h : outline items = some (parts, last)) :
    callersOf parts = items.filterMap TextItem.caller? := by
  obtain ⟨o, htake, hfinish⟩ := Option.bind_eq_some_iff.mp h
  rw [Outline.callersOf_finish hfinish, Outline.callers_takeAll htake]
  rfl

/-- Put values into the open places of a list, one for each. -/
def fillSlots {α : Type} : List (Option α) → List α → Option (List α)
  | [], [] => some []
  | some a :: slots, values => (fillSlots slots values).map (a :: ·)
  | none :: slots, a :: values => (fillSlots slots values).map (a :: ·)
  | _, _ => none

private theorem fillSlots_callersOf (parts : List (List Char × Literal)) :
    fillSlots (parts.map fun p ↦ p.2.slot) (callersOf parts) =
      some (parts.map fun p ↦ p.2.value) := by
  induction parts with
  | nil => rfl
  | cons p rest ih =>
    obtain ⟨fragment, literal⟩ := p
    cases literal with
    | constant text =>
      change (fillSlots _ (callersOf rest)).map (text :: ·) = some (text :: _)
      rw [ih]
      rfl
    | caller value =>
      change (fillSlots _ (callersOf rest)).map (value :: ·) = some (value :: _)
      rw [ih]
      rfl

/-! ### Reading a statement -/

/-- The code fragments of a reading. -/
def Reading.fragments (r : Reading) : List (List Char) := r.1 :: r.2.map Prod.snd

/-- The values of the literals of a reading. -/
def Reading.literals (r : Reading) : List (List Char) := r.2.map Prod.fst

/-- The fragments of finished parts with a last fragment. -/
theorem fragments_attach (parts : List (List Char × Literal)) (last : List Char) :
    Reading.fragments (Outline.attach parts (last, [])) = parts.map Prod.fst ++ [last] := by
  induction parts with
  | nil => rfl
  | cons p rest ih =>
    simp only [Outline.attach, Reading.fragments, List.map_cons, List.cons_append] at ih ⊢
    rw [ih]

/-- The literals of finished parts. -/
theorem literals_attach (parts : List (List Char × Literal)) (last : List Char) :
    Reading.literals (Outline.attach parts (last, [])) = parts.map fun p ↦ p.2.value := by
  induction parts with
  | nil => rfl
  | cons p rest ih =>
    simp only [Outline.attach, Reading.literals, List.map_cons] at ih ⊢
    rw [ih]

/-- A statement with an outline is read with the same fragments and fixed literals whatever its
callers' values are, and with exactly these values in the other literals. -/
theorem reads_of_outline {items : List TextItem} (h : (outline items).isSome) :
    ∃ fragments slots, ∀ items' : List TextItem,
      items'.map TextItem.blank = items.map TextItem.blank → (∀ i ∈ items', i.Plain) →
      ∃ r, readFragment (items'.flatMap TextItem.chars) = some r ∧
        Reading.fragments r = fragments ∧
        fillSlots slots (items'.filterMap TextItem.caller?) = some (Reading.literals r) := by
  obtain ⟨⟨parts, last⟩, hout⟩ := Option.isSome_iff_exists.mp h
  refine ⟨parts.map Prod.fst ++ [last], parts.map fun p ↦ p.2.slot, ?_⟩
  intro items' hblank hplain
  have hsame := outline_blank items'
  rw [hblank, outline_blank, hout] at hsame
  obtain ⟨⟨parts', last'⟩, hout', heq⟩ := Option.map_eq_some_iff.mp hsame.symm
  obtain ⟨hparts, rfl⟩ := Prod.mk.inj heq
  have hfst : parts'.map Prod.fst = parts.map Prod.fst := by
    have := congrArg (List.map Prod.fst) hparts
    simpa [blankParts, Function.comp_def] using this
  have hslot : (parts'.map fun p ↦ p.2.slot) = parts.map fun p ↦ p.2.slot := by
    have hs (l : Literal) : l.blank.slot = l.slot := by cases l <;> rfl
    have := congrArg (List.map fun p ↦ p.2.slot) hparts
    simpa [blankParts, Function.comp_def, hs] using this
  refine ⟨_, readFragment_of_outline hout' hplain, ?_, ?_⟩
  · rw [fragments_attach, hfst]
  · rw [literals_attach, ← hslot, ← callersOf_outline hout']
    exact fillSlots_callersOf parts'

end ConfigCenter.Base
