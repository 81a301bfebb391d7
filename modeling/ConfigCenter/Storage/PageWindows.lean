import ConfigCenter.Base.Paging
import ConfigCenter.Storage.Backends

/-!
# Page windows

Library `Storage`. `getReleases` and `getChangeHistory` compute the offset of a page
as an `int` product. Below `2^31` this is the position of the page. A product that
does not fit wraps, and a negative result counts as 0, so the query then returns
rows of another page unless that lies behind all rows too.
-/

namespace ConfigCenter.Storage
open ConfigCenter.Base SqliteConfigStore

/-- The position of the first row of a page, in exact integers. -/
def exactStart (page pageSize : Int32) : Nat := (page.toInt - 1).toNat * pageSize.toInt.toNat

/-- The rows of a page in exact integers. -/
def exactPage {ρ : Type} (page pageSize : Int32) (rows : List ρ) : List ρ :=
  (rows.drop (exactStart page pageSize)).take pageSize.toInt.toNat

/-- What a page of rows is to be: the rows from its exact position on, nothing behind the last
row, and no row of another page. -/
structure IsPage {ρ : Type} (page pageSize : Int32) (rows got : List ρ) : Prop where
  taken : got = exactPage page pageSize rows
  past : rows.length ≤ exactStart page pageSize → got = []
  others : ∀ page', 1 ≤ page'.toInt → page ≠ page' →
    ∀ r ∈ got, r ∉ exactPage page' pageSize rows

/-- The releases that a query is about, newest first. -/
def releasesFor (db : Database) (query : ReleaseQuery) : List Release :=
  orderByDesc Release.createdAt
    (db.tables.releases.rows.filter (fun r ↦ r.namespaceId = query.namespaceId))

/-- The log rows that a query is about, newest first. -/
def changesFor (db : Database) (query : ChangeLogQuery) : List ChangeLog :=
  orderByDesc ChangeLog.createdAt (db.tables.changeLogs.rows.filter (changeLogMatches query))

/-! ### Offsets -/

section Offsets

variable {page pageSize : Int32}

private theorem toInt_sub_one (hp : 1 ≤ page.toInt) : (page - 1).toInt = page.toInt - 1 := by
  have h1 : (1 : Int32).toInt = 1 := by decide
  have hlt := page.toInt_lt
  rw [Int32.toInt_sub, h1, Int.bmod_eq_of_le] <;> omega

private theorem exactStart_eq (hp : 1 ≤ page.toInt) (hs : 1 ≤ pageSize.toInt) :
    (exactStart page pageSize : Int) = (page - 1).toInt * pageSize.toInt := by
  rw [exactStart, toInt_sub_one hp, Int.natCast_mul, Int.toNat_of_nonneg (by omega),
    Int.toNat_of_nonneg (by omega)]

/-- The offset is exact as long as it fits. -/
theorem pageStart_of_lt (hp : 1 ≤ page.toInt) (hs : 1 ≤ pageSize.toInt)
    (h : exactStart page pageSize < 2 ^ 31) :
    pageStart page pageSize = exactStart page pageSize := by
  have he := exactStart_eq hp hs
  have hwrap : ((page - 1) * pageSize).toInt = exactStart page pageSize := by
    rw [Int32.toInt_mul, ← he, Int.bmod_eq_of_le] <;> omega
  rw [pageStart, hwrap, Int.toNat_natCast]

/-- Every offset is below `2^31`. -/
theorem pageStart_lt (page pageSize : Int32) : pageStart page pageSize < 2 ^ 31 := by
  have hlt := ((page - 1) * pageSize).toInt_lt
  rw [pageStart]
  omega

/-- A query returns the exact page where the offset fits, or where the offset it computes is
behind all rows. -/
theorem window_eq_exactPage_iff {ρ : Type} {rows : List ρ} (hd : rows.Nodup)
    (hp : 1 ≤ page.toInt) (hs : 1 ≤ pageSize.toInt) :
    window pageSize ((page - 1) * pageSize) rows = exactPage page pageSize rows ↔
      exactStart page pageSize < 2 ^ 31 ∨ rows.length ≤ pageStart page pageSize := by
  have hwindow : window pageSize ((page - 1) * pageSize) rows =
      (rows.drop (pageStart page pageSize)).take pageSize.toInt.toNat := by
    simp only [window]
    rw [if_neg (by omega), pageStart]
  rw [hwindow, exactPage, window_eq_window_iff hd (by omega)]
  have hstart := pageStart_lt page pageSize
  by_cases hfits : exactStart page pageSize < 2 ^ 31
  · exact iff_of_true (.inl (pageStart_of_lt hp hs hfits)) (.inl hfits)
  · omega

/-- A page behind all rows is empty. -/
theorem exactPage_eq_nil {ρ : Type} {rows : List ρ}
    (h : rows.length ≤ exactStart page pageSize) : exactPage page pageSize rows = [] := by
  rw [exactPage, List.drop_eq_nil_of_le h, List.take_nil]

/-- Two pages share no row. -/
theorem exactPage_disjoint {ρ : Type} {rows : List ρ} (hd : rows.Nodup) {page' : Int32}
    (hp : 1 ≤ page.toInt) (hp' : 1 ≤ page'.toInt) (hne : page ≠ page') {r : ρ}
    (hr : r ∈ exactPage page pageSize rows) : r ∉ exactPage page' pageSize rows := by
  have hstart {p q : Int32} (hp : 1 ≤ p.toInt) (hlt : p.toInt < q.toInt) :
      exactStart p pageSize + pageSize.toInt.toNat ≤ exactStart q pageSize := by
    rw [exactStart, exactStart, ← Nat.succ_mul]
    exact Nat.mul_le_mul_right _ (by omega)
  intro hr'
  rcases lt_trichotomy page.toInt page'.toInt with hlt | heq | hgt
  · exact window_disjoint hd (hstart hp hlt) _ hr hr'
  · exact hne (Int32.toInt_inj.mp heq)
  · exact window_disjoint hd (hstart hp' hgt) _ hr' hr

/-- What a query returns is the page it asks for exactly where the offset fits, or where the
offset it computes is behind all rows. -/
theorem isPage_window_iff {ρ : Type} {rows : List ρ} (hd : rows.Nodup) (hp : 1 ≤ page.toInt)
    (hs : 1 ≤ pageSize.toInt) :
    IsPage page pageSize rows (window pageSize ((page - 1) * pageSize) rows) ↔
      exactStart page pageSize < 2 ^ 31 ∨ rows.length ≤ pageStart page pageSize := by
  rw [← window_eq_exactPage_iff hd hp hs]
  constructor
  · exact IsPage.taken
  · intro h
    rw [h]
    exact ⟨rfl, exactPage_eq_nil, fun page' hp' hne r hr ↦ exactPage_disjoint hd hp hp' hne hr⟩

end Offsets

/-! ### The two queries -/

private theorem nodup_orderByDesc {ρ α : Type} [LE α] [DecidableLE α] {id : ρ → Int}
    (t : SerialTable id) (p : ρ → Bool) (column : ρ → α) :
    (orderByDesc column (t.rows.filter p)).Nodup := by
  have hrows : t.rows.Nodup := t.increasing.imp fun hlt heq ↦ by
    rw [heq] at hlt
    exact lt_irrefl _ hlt
  exact (List.perm_insertionSort _ _).nodup_iff.mpr (hrows.filter p)

/-- Both queries return the page they are asked for exactly where the position of its first row
fits into an `int`, or where all rows stand in front of the wrapped position. -/
theorem getReleases_getChangeHistory_isPage_iff (db : Database) :
    (∀ query : ReleaseQuery, 1 ≤ query.page.toInt → 1 ≤ query.pageSize.toInt →
      ((∃ got, getReleases query noFaults db = (.ok got, db) ∧
          IsPage query.page query.pageSize (releasesFor db query) got) ↔
        exactStart query.page query.pageSize < 2 ^ 31 ∨
          (releasesFor db query).length ≤ pageStart query.page query.pageSize)) ∧
    (∀ query : ChangeLogQuery, 1 ≤ query.page.toInt → 1 ≤ query.pageSize.toInt →
      ((∃ got, getChangeHistory query noFaults db = (.ok got, db) ∧
          IsPage query.page query.pageSize (changesFor db query) got) ↔
        exactStart query.page query.pageSize < 2 ^ 31 ∨
          (changesFor db query).length ≤ pageStart query.page query.pageSize)) := by
  constructor
  · intro query hp hs
    have hnodup : (releasesFor db query).Nodup := nodup_orderByDesc db.tables.releases _ _
    rw [← isPage_window_iff hnodup hp hs, getReleases_run]
    simp [releasesFor]
  · intro query hp hs
    have hnodup : (changesFor db query).Nodup := nodup_orderByDesc db.tables.changeLogs _ _
    rw [← isPage_window_iff hnodup hp hs, getChangeHistory_run]
    simp [changesFor]

/-- Five releases of one namespace in pages of two: the second page has the second and the third. -/
theorem getReleases_isPage_second :
    let db := run step .empty
      [("2024-05-01T10:00:00Z", .publishRelease "n" "first" "u"),
        ("2024-05-01T10:00:01Z", .publishRelease "n" "second" "u"),
        ("2024-05-01T10:00:01Z", .publishRelease "m" "other" "u"),
        ("2024-05-01T10:00:02Z", .publishRelease "n" "third" "u"),
        ("2024-05-01T10:00:03Z", .publishRelease "n" "fourth" "u"),
        ("2024-05-01T10:00:04Z", .publishRelease "n" "fifth" "u")]
    let query : ReleaseQuery := { namespaceId := "n", page := 2, pageSize := 2 }
    ∃ got, getReleases query noFaults db = (.ok got, db) ∧
      IsPage query.page query.pageSize (releasesFor db query) got ∧
      got.map Release.releaseNote = ["third", "second"] := by
  intro db query
  obtain ⟨got, hrun, hpage⟩ :=
    ((getReleases_getChangeHistory_isPage_iff db).1 query (by decide) (by decide)).mpr
      (.inl (by decide))
  refine ⟨got, hrun, hpage, ?_⟩
  rw [hpage.taken]
  decide +kernel

/-- Page 65537 of 65536 rows each: the offset `2^32` wraps to 0 and the only release there is
is returned once more. -/
theorem not_isPage_wrapped :
    let db := run step .empty [("2024-05-01T10:00:00Z", .publishRelease "n" "" "u")]
    let query : ReleaseQuery := { namespaceId := "n", page := 65537, pageSize := 65536 }
    ¬ ∃ got, getReleases query noFaults db = (.ok got, db) ∧
      IsPage query.page query.pageSize (releasesFor db query) got := by
  rintro db query ⟨got, hrun, hpage⟩
  have hempty : got = [] := hpage.past (by decide +kernel)
  have hone : (getReleases query noFaults db).1.toOption.map List.length = some 1 := by
    decide +kernel
  rw [hrun, hempty] at hone
  cases hone

end ConfigCenter.Storage
