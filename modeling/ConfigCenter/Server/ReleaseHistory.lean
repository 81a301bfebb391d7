import ConfigCenter.Base.Paging
import ConfigCenter.Publish.ReleaseSequence
import ConfigCenter.Server.GrpcService
import Mathlib.Data.String.Basic

/-!
# Reading the release history page by page

Library `Server`. A client asks `GetReleaseHistory` for pages 1, 2, 3, … until it
has as many releases as the response announces. The announced total is the size
of the page, so the client stops after the first one; the page is ordered by
creation time, which two releases may share and a rollout leaves empty.
-/

namespace ConfigCenter.Server
open ConfigCenter.Storage ConfigCenter.Base StorageM GrpcService

/-- The releases of a namespace in the order of their ids. -/
def releasesOf (db : Database) (namespaceId : String) : List Release :=
  db.tables.releases.rows.filter (fun r ↦ r.namespaceId = namespaceId)

/-- The client's loop from `page` on, with what it has received; nothing while it has not
stopped after `fuel` requests. -/
def readPages (db : Database) (namespaceId : String) (pageSize : Int32) :
    Nat → Int32 → List ReleaseMessage → Option (List ReleaseMessage)
  | 0, _, _ => none
  | fuel + 1, page, received =>
    match (GrpcService.getReleaseHistory namespaceId page pageSize noFaults db).1 with
    | .error _ => none
    | .ok (_, releases, total) =>
      if total.toInt ≤ (received ++ releases).length then some (received ++ releases)
      else readPages db namespaceId pageSize fuel (page + 1) (received ++ releases)

/-- The client ends with every release of the namespace once, the newest first. -/
def HistoryComplete (db : Database) (namespaceId : String) (pageSize : Int32) : Prop :=
  ∃ fuel, readPages db namespaceId pageSize fuel 1 [] =
    some ((releasesOf db namespaceId).reverse.map ReleaseMessage.ofRow)

/-- The response to page 1: the page of the newest creation times and its own length. -/
theorem getReleaseHistory_first (db : Database) (namespaceId : String) {pageSize : Int32}
    (hsize : 1 ≤ pageSize.toInt) :
    ∃ page : List Release,
      page = (orderByDesc Release.createdAt (releasesOf db namespaceId)).take
        pageSize.toInt.toNat ∧
      (GrpcService.getReleaseHistory namespaceId 1 pageSize noFaults db).1 =
        .ok (.ok, page.map ReleaseMessage.ofRow, Int32.ofNat page.length) := by
  have hpos : 0 < pageSize := Int32.lt_iff_toInt_lt.mpr hsize
  have hneg : ¬ pageSize.toInt < 0 := by omega
  have hone : (0 : Int32) < 1 := by decide
  refine ⟨_, rfl, ?_⟩
  simp only [GrpcService.getReleaseHistory, bind_run, getReleases_run, pure_run, if_pos hpos,
    if_pos hone, window, if_neg hneg, releasesOf]
  simp

/-- The client stops after its first request, with that page. -/
theorem readPages_first (db : Database) (namespaceId : String) {pageSize : Int32}
    (hsize : 1 ≤ pageSize.toInt) (fuel : Nat) :
    readPages db namespaceId pageSize (fuel + 1) 1 [] =
      some (((orderByDesc Release.createdAt (releasesOf db namespaceId)).take
        pageSize.toInt.toNat).map ReleaseMessage.ofRow) := by
  obtain ⟨page, hpage, hresponse⟩ := getReleaseHistory_first db namespaceId hsize
  have hlength : page.length ≤ pageSize.toInt.toNat := by
    rw [hpage]
    exact List.length_take_le _ _
  have hlt : page.length < 2 ^ 31 := by
    have := pageSize.toInt_lt
    omega
  rw [← hpage]
  simp only [readPages, hresponse, List.nil_append, List.length_map,
    Int32.toInt_ofNat_of_lt hlt, Int.le_refl, if_true]

-- Rows of one table with the same messages are the same rows: a message has the row's id.
private theorem eq_of_map_ofRow {t : SerialTable Release.id} {a b : List Release}
    (ha : ∀ r ∈ a, r ∈ t.rows) (hb : ∀ r ∈ b, r ∈ t.rows)
    (h : a.map ReleaseMessage.ofRow = b.map ReleaseMessage.ofRow) : a = b := by
  have hinj := List.inj_on_of_nodup_map (List.pairwise_map.mpr (t.increasing.imp Int.ne_of_lt))
  have hlength : a.length = b.length := by simpa using congrArg List.length h
  refine List.ext_getElem hlength fun i hi hj ↦ ?_
  have hmessage : ReleaseMessage.ofRow a[i] = ReleaseMessage.ofRow b[i] := by
    have hget := List.getElem_of_eq h (i := i) (by simpa using hi)
    simpa using hget
  exact hinj (ha _ (List.getElem_mem hi)) (hb _ (List.getElem_mem hj))
    (congrArg ReleaseMessage.id hmessage)

/-- The client reads the whole history, newest first, exactly when the namespace has at most one
page of releases and their creation times rise strictly with their ids. -/
theorem historyComplete_iff (db : Database) (namespaceId : String) (pageSize : Int32)
    (hsize : 1 ≤ pageSize.toInt) :
    HistoryComplete db namespaceId pageSize ↔
      (releasesOf db namespaceId).length ≤ pageSize.toInt ∧
        (releasesOf db namespaceId).Pairwise fun a b ↦ a.createdAt < b.createdAt := by
  have hplace : (releasesOf db namespaceId).Pairwise fun a b ↦ a.id < b.id :=
    db.tables.releases.increasing.sublist List.filter_sublist
  have hperm : (orderByDesc Release.createdAt (releasesOf db namespaceId)).Perm
      (releasesOf db namespaceId) := List.perm_insertionSort _ _
  have hmem : ∀ r ∈ releasesOf db namespaceId, r ∈ db.tables.releases.rows :=
    fun r hr ↦ (List.mem_filter.mp hr).1
  rw [← insertionSort_eq_reverse_iff Release.createdAt hplace]
  constructor
  · rintro ⟨fuel, hread⟩
    cases fuel with
    | zero => cases hread
    | succ fuel =>
      rw [readPages_first db namespaceId hsize, Option.some.injEq] at hread
      have hpage := eq_of_map_ofRow (t := db.tables.releases)
        (fun r hr ↦ hmem r (hperm.mem_iff.mp (List.mem_of_mem_take hr)))
        (fun r hr ↦ hmem r (List.mem_reverse.mp hr)) hread
      have hlength : (releasesOf db namespaceId).length ≤ pageSize.toInt.toNat := by
        have := congrArg List.length hpage
        rw [List.length_take, List.length_reverse, hperm.length_eq] at this
        omega
      rw [List.take_of_length_le (hperm.length_eq.trans_le hlength)] at hpage
      exact ⟨by omega, hpage⟩
  · rintro ⟨hlength, hsort⟩
    refine ⟨1, ?_⟩
    have htake : (releasesOf db namespaceId).length ≤ pageSize.toInt.toNat := by omega
    rw [readPages_first db namespaceId hsize,
      List.take_of_length_le (hperm.length_eq.trans_le htake)]
    exact congrArg (fun rows ↦ some (List.map ReleaseMessage.ofRow rows)) hsort

/-- Two releases of different seconds fit on one page. -/
theorem historyComplete_two_releases :
    HistoryComplete
      (run (Publish.releaseStep fun _ ↦ "[]") Database.empty
        [("2026-01-01T00:00:00Z", .publish "shop" "first" "alice"),
          ("2026-01-01T00:00:01Z", .publish "shop" "second" "alice")]) "shop" 20 :=
  (historyComplete_iff _ "shop" 20 (by decide)).mpr ⟨by decide, by decide⟩

/-- With one release a page the client stops at the newest of two. -/
theorem not_historyComplete_second_page :
    ¬ HistoryComplete
      (run (Publish.releaseStep fun _ ↦ "[]") Database.empty
        [("2026-01-01T00:00:00Z", .publish "shop" "first" "alice"),
          ("2026-01-01T00:00:01Z", .publish "shop" "second" "alice")]) "shop" 1 := by
  rintro ⟨fuel, hread⟩
  cases fuel with
  | zero => cases hread
  | succ fuel =>
    rw [readPages_first _ "shop" (by decide), Option.some.injEq] at hread
    exact absurd (congrArg List.length hread) (by decide)

end ConfigCenter.Server
