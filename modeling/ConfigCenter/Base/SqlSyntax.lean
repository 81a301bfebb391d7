import Mathlib.Data.List.Forall2
import Mathlib.Data.Option.Basic
import ConfigCenter.Base.SqlText

/-!
# Insertions and selections as a server reads them

Library `Base`. What `INSERT INTO … VALUES …` and `SELECT … FROM … WHERE … = …` mean is
read off the text of a statement: `sqlTokens` cuts it into code and string literals by the
quoting rule of `readFragment`, and `readInsertion` and `readSelection` find the names and
values in these tokens. A text that was printed from names and value expressions is read as
just these, whatever characters stand in its literals.
-/

namespace ConfigCenter.Base

/-- A value in a column of a table. -/
inductive SqlValue where
  | null
  | text (chars : List Char)
  | number (n : Int)
  deriving DecidableEq, Repr

/-- A character of code, or a whole literal with the characters it denotes. -/
inductive SqlToken where
  | code (c : Char)
  | literal (value : List Char)
  deriving DecidableEq, Repr

/-- Code without a literal. -/
def codeTokens (cs : List Char) : List SqlToken := cs.map .code

/-- Tokens of a text in two parts. -/
theorem codeTokens_append (cs ds : List Char) :
    codeTokens (cs ++ ds) = codeTokens cs ++ codeTokens ds :=
  List.map_append

/-- The fragments and literals of a reading, in order. -/
def Reading.tokens (r : Reading) : List SqlToken :=
  codeTokens r.1 ++ r.2.flatMap fun p ↦ .literal p.1 :: codeTokens p.2

/-- The tokens of a statement; nothing where a literal is not closed. -/
def sqlTokens (text : List Char) : Option (List SqlToken) := (readFragment text).map Reading.tokens

/-- Text without a quote is code. -/
theorem sqlTokens_code {cs : List Char} (h : quote ∉ cs) (rest : List Char) :
    sqlTokens (cs ++ rest) = (sqlTokens rest).map (codeTokens cs ++ ·) := by
  rw [sqlTokens, sqlTokens, readFragment_append h, Option.map_map, Option.map_map]
  congr 1
  funext r
  simp [Reading.tokens, codeTokens_append]

private theorem readQuoted_of_readLiteral {raw value rest : List Char}
    (h : readLiteral raw = some value) (hrest : rest.head? ≠ some quote) :
    readQuoted (raw ++ quote :: rest) = (readFragment rest).map fun r ↦ ((value, r.1), r.2) := by
  fun_induction readLiteral raw generalizing value with
  | case1 =>
    cases h
    exact readQuoted_close hrest
  | case2 c hc => cases h
  | case3 c hc =>
    obtain rfl := Option.some.inj h
    rw [not_or] at hc
    rw [readQuoted_append (by simpa using hc), readQuoted_close hrest, Option.map_map]
    rfl
  | case4 rest' ih =>
    obtain ⟨value', hvalue, rfl⟩ := Option.map_eq_some_iff.mp h
    rw [List.cons_append, List.cons_append, readQuoted, if_pos rfl, if_pos rfl, ih hvalue,
      Option.map_map]
    rfl
  | case5 => cases h
  | case6 d rest' hne ih =>
    obtain ⟨value', hvalue, rfl⟩ := Option.map_eq_some_iff.mp h
    rw [List.cons_append, List.cons_append, readQuoted, if_neg hne, if_pos rfl, ih hvalue,
      Option.map_map]
    rfl
  | case7 c d rest' hq hb ih =>
    obtain ⟨value', hvalue, rfl⟩ := Option.map_eq_some_iff.mp h
    rw [List.cons_append, List.cons_append, readQuoted, if_neg hq, if_neg hb, ← List.cons_append,
      ih hvalue, Option.map_map]
    rfl

/-- What stands between two quotes is one literal. -/
theorem sqlTokens_quoted {raw value rest : List Char} (h : readLiteral raw = some value)
    (hrest : rest.head? ≠ some quote) :
    sqlTokens (quote :: (raw ++ quote :: rest)) = (sqlTokens rest).map (.literal value :: ·) := by
  rw [sqlTokens, sqlTokens, readFragment, if_pos rfl, readQuoted_of_readLiteral h hrest,
    Option.map_map, Option.map_map, Option.map_map]
  rfl

/-! ### Reading statements -/

/-- Characters of names, keywords and decimal numbers. -/
def isWordChar (c : Char) : Bool := c.isAlphanum || c = '_' || c = '-'

/-- The word at the front, and what follows it. -/
def takeWord : List SqlToken → List Char × List SqlToken
  | .code c :: rest =>
    if isWordChar c then (c :: (takeWord rest).1, (takeWord rest).2) else ([], .code c :: rest)
  | ts => ([], ts)

/-- What a word stands for as a value; `TRUE` and `FALSE` are numbers. -/
def wordValue (word : List Char) : Option SqlValue :=
  if word = "NULL".toList then some .null
  else if word = "TRUE".toList then some (.number 1)
  else if word = "FALSE".toList then some (.number 0)
  else if word.all fun c ↦ c.isDigit || c = '-' then
    (parseInteger (String.ofList word)).map .number
  else none

/-- A name at the front. -/
def readName (ts : List SqlToken) : Option (List Char × List SqlToken) :=
  if (takeWord ts).1 = [] then none else some (takeWord ts)

/-- A value at the front. -/
def readValue : List SqlToken → Option (SqlValue × List SqlToken)
  | .literal value :: rest => some (.text value, rest)
  | ts => (wordValue (takeWord ts).1).map fun v ↦ (v, (takeWord ts).2)

/-- Items with commas between them. Every item and comma takes a token, so that the number of
tokens is fuel enough. -/
def readList {α : Type} (item : List SqlToken → Option (α × List SqlToken)) :
    Nat → List SqlToken → Option (List α × List SqlToken)
  | 0, _ => none
  | fuel + 1, ts => do
    let first ← item ts
    match first.2 with
    | .code ',' :: .code ' ' :: rest =>
      let others ← readList item fuel rest
      return (first.1 :: others.1, others.2)
    | rest => return ([first.1], rest)

/-- What follows a piece of code at the front. -/
def afterCode (cs : List Char) (ts : List SqlToken) : Option (List SqlToken) :=
  if codeTokens cs <+: ts then some (ts.drop cs.length) else none

/-- `INSERT INTO table (columns) VALUES (values)`. -/
structure SqlInsertion where
  table : List Char
  cells : List (List Char × SqlValue)
  deriving DecidableEq, Repr

/-- `SELECT columns FROM table WHERE key = value`. -/
structure SqlSelection where
  columns : List (List Char)
  table : List Char
  key : List Char
  value : SqlValue
  deriving DecidableEq, Repr

/-- The insertion that a text asks for. -/
def readInsertion (text : List Char) : Option SqlInsertion := do
  let ts ← sqlTokens text
  let table ← (afterCode "INSERT INTO ".toList ts).bind readName
  let ts ← afterCode " (".toList table.2
  let columns ← readList readName (ts.length + 1) ts
  let ts ← afterCode ") VALUES (".toList columns.2
  let values ← readList readValue (ts.length + 1) ts
  guard (values.2 = codeTokens [')'] ∧ columns.1.length = values.1.length)
  return { table := table.1, cells := columns.1.zip values.1 }

/-- The selection that a text asks for. -/
def readSelection (text : List Char) : Option SqlSelection := do
  let ts ← sqlTokens text
  let ts ← afterCode "SELECT ".toList ts
  let columns ← readList readName (ts.length + 1) ts
  let table ← (afterCode " FROM ".toList columns.2).bind readName
  let key ← (afterCode " WHERE ".toList table.2).bind readName
  let value ← (afterCode " = ".toList key.2).bind readValue
  guard (value.2 = [])
  return { columns := columns.1, table := table.1, key := key.1, value := value.1 }

/-! ### Printing them -/

/-- Value expressions. -/
inductive SqlExpr where
  /-- A literal, by the characters between its quotes. -/
  | quoted (raw : List Char)
  | word (w : List Char)

/-- The characters of an expression. -/
def SqlExpr.text : SqlExpr → List Char
  | .quoted raw => quote :: (raw ++ [quote])
  | .word w => w

/-- A well-formed expression and its value. -/
inductive SqlExpr.Denotes : SqlExpr → SqlValue → Prop
  | quoted {raw value : List Char} (h : readLiteral raw = some value) :
    Denotes (.quoted raw) (.text value)
  | word {w : List Char} {v : SqlValue} (hw : ∀ c ∈ w, isWordChar c = true)
    (hv : wordValue w = some v) : Denotes (.word w) v

/-- A word of digits after a sign is the number that it is read as. -/
theorem SqlExpr.denotes_decimal {w : List Char} {n : Int}
    (hw : ∀ c ∈ w, c.isDigit ∨ c = '-') (hn : parseInteger (String.ofList w) = some n) :
    (SqlExpr.word w).Denotes (.number n) := by
  have hletter {cs : List Char} {c : Char} (hc : c ∈ cs)
      (hplain : ¬ (c.isDigit ∨ c = '-')) : w ≠ cs := by
    rintro rfl
    exact hplain (hw c hc)
  have hall : w.all (fun c ↦ c.isDigit || c = '-') = true := by
    rw [List.all_eq_true]
    intro c hc
    simpa using hw c hc
  refine .word (fun c hc ↦ ?_) ?_
  · rcases hw c hc with hdigit | rfl
    · simp [isWordChar, Char.isAlphanum, hdigit]
    · rfl
  · have hnull : w ≠ "NULL".toList := hletter (c := 'N') (by decide) (by decide)
    have htrue : w ≠ "TRUE".toList := hletter (c := 'T') (by decide) (by decide)
    have hfalse : w ≠ "FALSE".toList := hletter (c := 'F') (by decide) (by decide)
    rw [wordValue, if_neg hnull, if_neg htrue, if_neg hfalse, if_pos hall, hn, Option.map_some]

/-- A name is a word. -/
def IsName (name : List Char) : Prop := name ≠ [] ∧ ∀ c ∈ name, isWordChar c = true

instance (name : List Char) : Decidable (IsName name) :=
  @instDecidableAnd _ _ _ (List.decidableBAll (fun c ↦ isWordChar c = true) name)

/-- A word denotes its value. -/
theorem SqlExpr.denotes_word {w : List Char} {v : SqlValue} (hw : IsName w)
    (hv : wordValue w = some v) : (SqlExpr.word w).Denotes v := .word hw.2 hv

/-- Texts with commas between them. -/
def commaJoin (texts : List (List Char)) : List Char := List.intercalate ", ".toList texts

/-- The text of an insertion. -/
def insertionText (table : List Char) (columns : List (List Char)) (exprs : List SqlExpr) :
    List Char :=
  "INSERT INTO ".toList ++ (table ++ (" (".toList ++ (commaJoin columns ++
    (") VALUES (".toList ++ (commaJoin (exprs.map SqlExpr.text) ++ [')'])))))

/-- The text of a selection. -/
def selectionText (columns : List (List Char)) (table key : List Char) (expr : SqlExpr) :
    List Char :=
  "SELECT ".toList ++ (commaJoin columns ++ (" FROM ".toList ++ (table ++ (" WHERE ".toList ++
    (key ++ (" = ".toList ++ expr.text))))))

/-! ### Tokens of printed texts -/

private theorem sqlTokens_fixed (text : String) (h : quote ∉ text.toList) (rest : List Char) :
    sqlTokens (text.toList ++ rest) = (sqlTokens rest).map (codeTokens text.toList ++ ·) :=
  sqlTokens_code h rest

-- Before anything but a quote, the text is cut into these tokens.
private def Prints (text : List Char) (ts : List SqlToken) : Prop :=
  ∀ rest : List Char, rest.head? ≠ some quote →
    sqlTokens (text ++ rest) = (sqlTokens rest).map (ts ++ ·)

private def SqlExpr.tokens : SqlExpr → List SqlToken
  | .quoted raw => [.literal ((readLiteral raw).getD [])]
  | .word w => codeTokens w

private def commaTokens (tss : List (List SqlToken)) : List SqlToken :=
  List.intercalate (codeTokens ", ".toList) tss

private theorem quote_notMem_of_word {w : List Char} (h : ∀ c ∈ w, isWordChar c = true) :
    quote ∉ w :=
  fun hmem ↦ absurd (h quote hmem) (by decide)

private theorem prints_word {w : List Char} (h : ∀ c ∈ w, isWordChar c = true) :
    Prints w (codeTokens w) :=
  fun rest _ ↦ sqlTokens_code (quote_notMem_of_word h) rest

private theorem prints_expr {expr : SqlExpr} {v : SqlValue} (h : expr.Denotes v) :
    Prints expr.text expr.tokens := by
  cases h with
  | quoted hraw =>
    intro rest hrest
    rw [SqlExpr.text, SqlExpr.tokens, hraw, List.cons_append, List.append_assoc]
    exact sqlTokens_quoted hraw hrest
  | word hw _ => exact prints_word hw

private theorem prints_commaJoin {texts : List (List Char)} {tss : List (List SqlToken)}
    (h : List.Forall₂ Prints texts tss) : Prints (commaJoin texts) (commaTokens tss) := by
  induction h with
  | nil =>
    intro rest _
    simp [commaJoin, commaTokens]
  | @cons text ts texts tss hfirst hothers ih =>
    intro rest hrest
    cases hothers with
    | nil =>
      rw [commaJoin, commaTokens, List.intercalate_singleton, List.intercalate_singleton]
      exact hfirst rest hrest
    | cons hsecond hothers =>
      rw [commaJoin, commaTokens, List.intercalate_cons_cons, List.intercalate_cons_cons,
        List.append_assoc, List.append_assoc, hfirst _ (by simp [quote]),
        sqlTokens_fixed ", " (by decide), ← commaJoin, ih rest hrest, Option.map_map,
        Option.map_map]
      simp only [Function.comp_def, ← List.append_assoc]
      rfl

/-! ### Reading printed texts -/

-- No word goes on into these tokens.
private def EndsWord (rest : List SqlToken) : Prop := takeWord rest = ([], rest)

-- In front of the end of a word, the item is read from these tokens.
private def Reads {α : Type} (item : List SqlToken → Option (α × List SqlToken))
    (ts : List SqlToken) (a : α) : Prop :=
  ∀ rest, EndsWord rest → item (ts ++ rest) = some (a, rest)

private theorem takeWord_codeTokens {w : List Char} (h : ∀ c ∈ w, isWordChar c = true)
    {rest : List SqlToken} (hrest : EndsWord rest) :
    takeWord (codeTokens w ++ rest) = (w, rest) := by
  induction w with
  | nil => exact hrest
  | cons c w ih =>
    change takeWord (.code c :: (codeTokens w ++ rest)) = _
    rw [takeWord, if_pos (h c List.mem_cons_self), ih fun d hd ↦ h d (List.mem_cons_of_mem c hd)]

private theorem reads_name {name : List Char} (h : IsName name) :
    Reads readName (codeTokens name) name := by
  intro rest hrest
  rw [readName, takeWord_codeTokens h.2 hrest, if_neg h.1]

private theorem reads_expr {expr : SqlExpr} {v : SqlValue} (h : expr.Denotes v) :
    Reads readValue expr.tokens v := by
  intro rest hrest
  cases h with
  | quoted hraw =>
    rw [SqlExpr.tokens, hraw]
    rfl
  | @word w _ hw hv =>
    cases w with
    | nil =>
      have hnone : wordValue [] = none := by decide
      rw [hnone] at hv
      cases hv
    | cons c w =>
      change readValue (.code c :: (codeTokens w ++ rest)) = _
      have htake : takeWord (.code c :: (codeTokens w ++ rest)) = (c :: w, rest) :=
        takeWord_codeTokens hw hrest
      rw [readValue, htake, hv]
      · rfl
      · rintro value rest' ⟨⟩

private theorem readList_commaTokens {α : Type} {item : List SqlToken → Option (α × List SqlToken)}
    {tss : List (List SqlToken)} {as : List α} (h : List.Forall₂ (Reads item) tss as)
    (hne : tss ≠ []) {rest : List SqlToken} (hrest : EndsWord rest)
    (hcomma : rest.head? ≠ some (.code ',')) {fuel : Nat} (hfuel : tss.length ≤ fuel) :
    readList item fuel (commaTokens tss ++ rest) = some (as, rest) := by
  induction h generalizing fuel with
  | nil => exact absurd rfl hne
  | @cons ts a tss as hfirst hothers ih =>
    obtain _ | fuel := fuel
    · simp at hfuel
    cases hothers with
    | nil =>
      rw [commaTokens, List.intercalate_singleton, readList, hfirst rest hrest]
      cases rest with
      | nil => rfl
      | cons t rest =>
        simp only [Option.bind_eq_bind, Option.bind_some]
        split
        · next heq => simp_all
        · rfl
    | cons hsecond hothers =>
      have hends (ts : List SqlToken) : EndsWord (codeTokens ", ".toList ++ ts) := rfl
      rw [commaTokens, List.intercalate_cons_cons, List.append_assoc, List.append_assoc, readList,
        hfirst _ (hends _)]
      have hread := ih (by simp) (Nat.le_of_succ_le_succ hfuel)
      change ((readList item fuel (commaTokens _ ++ rest)).bind _) = _
      rw [hread]
      rfl

private theorem length_le_commaTokens (tss : List (List SqlToken)) :
    tss.length ≤ (commaTokens tss).length + 1 := by
  induction tss with
  | nil => exact Nat.zero_le _
  | cons ts tss ih =>
    cases tss with
    | nil => simp
    | cons ts' tss =>
      rw [commaTokens, List.intercalate_cons_cons, List.length_append, List.length_append,
        List.length_cons, ← commaTokens]
      have hcomma : (codeTokens ", ".toList).length = 2 := rfl
      omega

private theorem readList_all {α : Type} {item : List SqlToken → Option (α × List SqlToken)}
    {tss : List (List SqlToken)} {as : List α} (h : List.Forall₂ (Reads item) tss as)
    (hne : tss ≠ []) {rest : List SqlToken} (hrest : EndsWord rest)
    (hcomma : rest.head? ≠ some (.code ',')) :
    readList item ((commaTokens tss ++ rest).length + 1) (commaTokens tss ++ rest) =
      some (as, rest) := by
  refine readList_commaTokens h hne hrest hcomma ?_
  have hle := length_le_commaTokens tss
  rw [List.length_append]
  omega

private theorem afterCode_append (cs : List Char) (ts : List SqlToken) :
    afterCode cs (codeTokens cs ++ ts) = some ts := by
  rw [afterCode, if_pos (List.prefix_append _ _), codeTokens, List.drop_left' (List.length_map _)]

private theorem forall₂_names {columns : List (List Char)} (h : ∀ c ∈ columns, IsName c) :
    List.Forall₂ Prints columns (columns.map codeTokens) ∧
      List.Forall₂ (Reads readName) (columns.map codeTokens) columns := by
  rw [List.forall₂_map_right_iff, List.forall₂_map_left_iff, List.forall₂_same, List.forall₂_same]
  exact ⟨fun c hc ↦ prints_word (h c hc).2, fun c hc ↦ reads_name (h c hc)⟩

private theorem forall₂_exprs {exprs : List SqlExpr} {values : List SqlValue}
    (h : List.Forall₂ SqlExpr.Denotes exprs values) :
    List.Forall₂ Prints (exprs.map SqlExpr.text) (exprs.map SqlExpr.tokens) ∧
      List.Forall₂ (Reads readValue) (exprs.map SqlExpr.tokens) values := by
  constructor
  · rw [List.forall₂_map_left_iff, List.forall₂_map_right_iff, List.forall₂_same]
    induction h with
    | nil => simp
    | cons hfirst _ ih => exact List.forall_mem_cons.mpr ⟨prints_expr hfirst, ih⟩
  · rw [List.forall₂_map_left_iff]
    exact h.imp fun _ _ ↦ reads_expr

/-- An insertion is read with the names and values that it was printed from. -/
theorem readInsertion_insertionText {table : List Char} {columns : List (List Char)}
    {exprs : List SqlExpr} {values : List SqlValue} (htable : IsName table)
    (hcolumns : ∀ c ∈ columns, IsName c) (hne : columns ≠ [])
    (hexprs : List.Forall₂ SqlExpr.Denotes exprs values)
    (hlength : columns.length = values.length) :
    readInsertion (insertionText table columns exprs) = some ⟨table, columns.zip values⟩ := by
  obtain ⟨hprintColumns, hreadColumns⟩ := forall₂_names hcolumns
  obtain ⟨hprintExprs, hreadExprs⟩ := forall₂_exprs hexprs
  have hvalues (rest : List Char) : (") VALUES (".toList ++ rest).head? ≠ some quote := by
    simp [quote]
  have htokens : sqlTokens (insertionText table columns exprs) =
      some (codeTokens "INSERT INTO ".toList ++ (codeTokens table ++ (codeTokens " (".toList ++
        (commaTokens (columns.map codeTokens) ++ (codeTokens ") VALUES (".toList ++
          (commaTokens (exprs.map SqlExpr.tokens) ++ codeTokens [')'])))))) := by
    unfold insertionText
    rw [sqlTokens_fixed "INSERT INTO " (by decide),
      sqlTokens_code (quote_notMem_of_word htable.2), sqlTokens_fixed " (" (by decide),
      prints_commaJoin hprintColumns _ (hvalues _), sqlTokens_fixed ") VALUES (" (by decide),
      prints_commaJoin hprintExprs [')'] (by decide)]
    have hlast : sqlTokens [')'] = some (codeTokens [')']) := rfl
    simp only [hlast, Option.map_some]
  have hexprsNe : exprs.map SqlExpr.tokens ≠ [] := by
    have hpos := List.length_pos_of_ne_nil hne
    rw [hlength, ← hexprs.length_eq] at hpos
    exact List.ne_nil_of_length_pos (by simpa using hpos)
  have hopen (ts : List SqlToken) : EndsWord (codeTokens " (".toList ++ ts) := rfl
  have hclose (ts : List SqlToken) : EndsWord (codeTokens ") VALUES (".toList ++ ts) ∧
      (codeTokens ") VALUES (".toList ++ ts).head? ≠ some (.code ',') := ⟨rfl, by simp [codeTokens]⟩
  rw [readInsertion, htokens]
  simp only [Option.bind_eq_bind, Option.bind_some, afterCode_append]
  rw [reads_name htable _ (hopen _)]
  simp only [Option.bind_some, afterCode_append]
  rw [readList_all hreadColumns (by simpa using hne) (hclose _).1 (hclose _).2]
  simp only [Option.bind_some, afterCode_append]
  have hlast : EndsWord (codeTokens [')']) := rfl
  rw [readList_all hreadExprs hexprsNe hlast (by decide)]
  simp [hlength]

/-- A selection is read with the names and the value that it was printed from. -/
theorem readSelection_selectionText {columns : List (List Char)} {table key : List Char}
    {expr : SqlExpr} {value : SqlValue} (hcolumns : ∀ c ∈ columns, IsName c) (hne : columns ≠ [])
    (htable : IsName table) (hkey : IsName key) (hexpr : expr.Denotes value) :
    readSelection (selectionText columns table key expr) =
      some ⟨columns, table, key, value⟩ := by
  obtain ⟨hprint, hread⟩ := forall₂_names hcolumns
  have hend : sqlTokens expr.text = some (expr.tokens ++ []) := by
    have hprintExpr := prints_expr hexpr [] (by decide)
    rwa [List.append_nil] at hprintExpr
  have hfrom (rest : List Char) : (" FROM ".toList ++ rest).head? ≠ some quote := by
    simp [quote]
  have htokens : sqlTokens (selectionText columns table key expr) =
      some (codeTokens "SELECT ".toList ++ (commaTokens (columns.map codeTokens) ++
        (codeTokens " FROM ".toList ++ (codeTokens table ++ (codeTokens " WHERE ".toList ++
          (codeTokens key ++ (codeTokens " = ".toList ++ (expr.tokens ++ [])))))))) := by
    unfold selectionText
    rw [sqlTokens_fixed "SELECT " (by decide), prints_commaJoin hprint _ (hfrom _),
      sqlTokens_fixed " FROM " (by decide), sqlTokens_code (quote_notMem_of_word htable.2),
      sqlTokens_fixed " WHERE " (by decide), sqlTokens_code (quote_notMem_of_word hkey.2),
      sqlTokens_fixed " = " (by decide), hend]
    simp only [Option.map_some]
  have hspace (ts : List SqlToken) : EndsWord (codeTokens " FROM ".toList ++ ts) ∧
      (codeTokens " FROM ".toList ++ ts).head? ≠ some (.code ',') := ⟨rfl, by simp [codeTokens]⟩
  have hwhere (ts : List SqlToken) : EndsWord (codeTokens " WHERE ".toList ++ ts) := rfl
  have hequal (ts : List SqlToken) : EndsWord (codeTokens " = ".toList ++ ts) := rfl
  rw [readSelection, htokens]
  simp only [Option.bind_eq_bind, Option.bind_some, afterCode_append]
  rw [readList_all hread (by simpa using hne) (hspace _).1 (hspace _).2]
  simp only [Option.bind_some, afterCode_append]
  rw [reads_name htable _ (hwhere _)]
  simp only [Option.bind_some, afterCode_append]
  rw [reads_name hkey _ (hequal _)]
  simp only [Option.bind_some, afterCode_append]
  rw [reads_expr hexpr [] rfl]
  rfl

/-! ### Cells -/

/-- A column of an insertion with the expression that stands for it and what this denotes. -/
structure SqlCell where
  name : List Char
  expr : SqlExpr
  value : SqlValue
  isName : IsName name
  denotes : expr.Denotes value

/-- The insertion of some cells. -/
def insertionOf (table : List Char) (cells : List SqlCell) : SqlInsertion :=
  ⟨table, cells.map fun cell ↦ (cell.name, cell.value)⟩

/-- The printed text of some cells is read as their insertion. -/
theorem readInsertion_cells {table : List Char} (htable : IsName table) {cells : List SqlCell}
    (hne : cells ≠ []) :
    readInsertion (insertionText table (cells.map SqlCell.name) (cells.map SqlCell.expr)) =
      some (insertionOf table cells) := by
  have hnames : ∀ name ∈ cells.map SqlCell.name, IsName name :=
    List.forall_mem_map.mpr fun cell _ ↦ cell.isName
  have hdenotes : List.Forall₂ SqlExpr.Denotes (cells.map SqlCell.expr)
      (cells.map SqlCell.value) := by
    rw [List.forall₂_map_left_iff, List.forall₂_map_right_iff, List.forall₂_same]
    exact fun cell _ ↦ cell.denotes
  rw [readInsertion_insertionText htable hnames (by simpa using hne) hdenotes (by simp),
    insertionOf, List.zip_map']

end ConfigCenter.Base
