import ConfigCenter.Publish.Publication

/-!
# Grayscale publications and full rollouts

Library `Publish`. `publishGrayscale` begins a transaction and then calls
`publishRelease`, which begins its own: SQLite refuses the second one, so no
grayscale release is ever recorded. `fullRollout` retires a release and adds
another in two writes without a transaction, and looks at the status of the
release but not at its namespace.
-/

namespace ConfigCenter.Publish
open ConfigCenter.Storage ConfigCenter.Base StorageM

/-! ### Grayscale publications -/

/-- The publication returned `true`, published the namespace as the release it handed out, and
stored this release with its percentage and, unless empty, its whitelist; `parse` reads the
text of a JSON array of strings. -/
def RecordsRule (parse : String → Option (List String)) (ns : String) (percentage : Int32)
    (whitelist : List String) (db : Database)
    (result : Except Thrown (Bool × Release) × Database) : Prop :=
  ∃ out, result.1 = .ok (true, out) ∧ Published ns out db result.2 ∧
    (SqliteConfigStore.getRelease out.id noFaults result.2).1 = .ok (some out) ∧
    out.releaseType = "grayscale" ∧ out.grayscalePercentage = some percentage ∧
    (whitelist ≠ [] → out.whitelist.bind parse = some whitelist)

/-- Outside a transaction no grayscale publication records its rule. -/
theorem publishGrayscale_not_recordsRule (dump : List String → String)
    (parse : String → Option (List String)) (ns note op : String) (percentage : Int32)
    (whitelist : List String) (outRelease : Release) (ts : Timestamp) (db : Database)
    (hs : db.snapshot = none) :
    ¬ RecordsRule parse ns percentage whitelist db
      (PublishEngine.publishGrayscale dump ns note op percentage whitelist outRelease ts
        noFaults db) := by
  rw [PublishEngine.publishGrayscale_run dump ns note op percentage whitelist outRelease ts db hs]
  rintro ⟨out, hreturned, _⟩
  cases hreturned

/-- The record a caller hands to `publishGrayscale` to be filled. -/
def blankRelease : Release :=
  { namespaceId := "", releaseType := "", status := "", operatorId := "" }

/-- A third of the instances are to get the first release of a namespace. -/
theorem publishGrayscale_not_recordsRule_percentage :
    let db := run step Database.empty [("t1", .createConfig "shop" "timeout" "30" "alice")]
    db.snapshot = none ∧ ¬ RecordsRule (fun _ ↦ none) "shop" 30 [] db
      (PublishEngine.publishGrayscale (fun _ ↦ "[]") "shop" "first" "alice" 30 [] blankRelease "t2"
        noFaults db) :=
  ⟨rfl, publishGrayscale_not_recordsRule _ _ _ _ _ _ _ _ _ _ rfl⟩

/-- On a new store a grayscale publication is answered with `false`. -/
theorem not_recordsRule_first_release :
    ¬ ∀ (dump : List String → String) (parse : String → Option (List String))
      (ns note op : String) (percentage : Int32) (whitelist : List String) (outRelease : Release)
      (ts : Timestamp) (db : Database), Reachable step Database.empty db → db.snapshot = none →
      parse (dump whitelist) = some whitelist →
      RecordsRule parse ns percentage whitelist db
        (PublishEngine.publishGrayscale dump ns note op percentage whitelist outRelease ts
          noFaults db) := by
  intro h
  have hrule := h (fun _ ↦ "[]") (fun _ ↦ some []) "shop" "first" "alice" 30 [] blankRelease "t1"
    Database.empty ⟨[], rfl⟩ rfl rfl
  rw [PublishEngine.publishGrayscale_run _ _ _ _ _ _ _ _ _ rfl] at hrule
  obtain ⟨out, hreturned, _⟩ := hrule
  cases hreturned

/-! ### Full rollouts -/

/-- The release is stored, active and of this namespace. -/
def ActiveOf (ns : String) (releaseId : Int) (t : Tables) : Prop :=
  ∃ r ∈ t.releases.rows, r.id = releaseId ∧ r.status = "active" ∧ r.namespaceId = ns

instance (ns : String) (releaseId : Int) (t : Tables) : Decidable (ActiveOf ns releaseId t) :=
  inferInstanceAs (Decidable (∃ r ∈ t.releases.rows,
    r.id = releaseId ∧ r.status = "active" ∧ r.namespaceId = ns))

/-- One release is retired, one new active full release of the namespace is added, and no
other release changes. -/
def RolledOut (ns : String) (releaseId : Int) (before after : List Release) : Prop :=
  ∃ new, new.namespaceId = ns ∧ new.status = "active" ∧ new.releaseType = "full" ∧
    (∀ r ∈ before, r.id ≠ new.id) ∧
    after = before.map (fun r ↦ if r.id = releaseId then { r with status := "retired" } else r) ++
      [new]

/-- A rollout returns `true` for an active release of its namespace, which it replaces, or it
returns `false` and leaves the releases as they are. -/
def SafeRollout (ns : String) (releaseId : Int) (db : Database)
    (result : Except Thrown Bool × Database) : Prop :=
  result.1 = .ok true ∧ ActiveOf ns releaseId db.tables ∧
      RolledOut ns releaseId db.tables.releases.rows result.2.tables.releases.rows ∨
    result.1 = .ok false ∧ result.2.tables.releases = db.tables.releases

private theorem rolledOut_addRelease (ns op : String) (releaseId : Int) (t : Tables) :
    RolledOut ns releaseId t.releases.rows
      ((t.retire releaseId).addRelease
        (PublishEngine.rolloutRelease ns op releaseId)).releases.rows := by
  refine ⟨{ PublishEngine.rolloutRelease ns op releaseId with id := t.releases.nextId },
    rfl, rfl, rfl, ?_, ?_⟩
  · intro r hr
    exact Int.ne_of_lt (SerialTable.id_lt_nextId hr)
  · simp [Tables.addRelease, Tables.retire, SerialTable.mapWhere, SerialTable.nextId,
      Release.retired]

private theorem retire_ne {t : Tables} {releaseId : Int} (h : t.Active releaseId) :
    (t.retire releaseId).releases ≠ t.releases := by
  intro heq
  obtain ⟨r, hr, hid, hactive⟩ := h
  have hretired : r.retired ∈ (t.retire releaseId).releases.rows :=
    List.mem_map.mpr ⟨r, hr, by simp [hid]⟩
  rw [heq] at hretired
  -- both rows have the id, so the active one would be the retired one
  have hfind := (SerialTable.find?_eq_some_iff t.releases releaseId r).mpr ⟨hr, hid⟩
  rw [(SerialTable.find?_eq_some_iff _ _ _).mpr ⟨hretired, hid⟩] at hfind
  have hstatus := congrArg Release.status (Option.some.inj hfind)
  rw [hactive] at hstatus
  exact absurd hstatus (show "retired" ≠ "active" by decide)

/-- A rollout is safe exactly when an active release it names belongs to its namespace and the
new release is inserted without failure. -/
theorem safeRollout_iff (ns op : String) (releaseId : Int) (fails : Bool) (db : Database) :
    SafeRollout ns releaseId db
        (PublishEngine.fullRollout ns op releaseId (PublishEngine.insertFault fails) db) ↔
      (db.tables.Active releaseId → ActiveOf ns releaseId db.tables ∧ fails = false) := by
  rw [PublishEngine.fullRollout_run]
  by_cases ha : db.tables.Active releaseId
  · rw [if_pos ha]
    cases fails with
    | false =>
      constructor
      · rintro (⟨_, hof, _⟩ | ⟨hreturned, _⟩) _
        · exact ⟨hof, rfl⟩
        · cases hreturned
      · intro h
        exact .inl ⟨rfl, (h ha).1, rolledOut_addRelease ns op releaseId db.tables⟩
    | true =>
      constructor
      · rintro (⟨hreturned, _⟩ | ⟨_, hsame⟩)
        · cases hreturned
        · exact absurd hsame (retire_ne ha)
      · intro h
        cases (h ha).2
  · rw [if_neg ha]
    constructor
    · intro _ hactive
      exact absurd hactive ha
    · intro _
      exact .inr ⟨rfl, rfl⟩

/-- A rollout in one namespace retires the release of another and reports success. -/
theorem not_safeRollout_foreign_release :
    ¬ ∀ (ns op : String) (releaseId : Int) (fails : Bool) (db : Database),
      Reachable step Database.empty db → SafeRollout ns releaseId db
        (PublishEngine.fullRollout ns op releaseId (PublishEngine.insertFault fails) db) := by
  intro h
  have hsafe := h "other" "bob" 1 false
    (run step Database.empty [("t1", .publishRelease "shop" "first" "alice")]) ⟨_, rfl⟩
  obtain ⟨_, hof, _⟩ | ⟨hreturned, _⟩ := hsafe
  · exact absurd hof (by decide)
  · exact absurd hreturned (by decide)

end ConfigCenter.Publish
