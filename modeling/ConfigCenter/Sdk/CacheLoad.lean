import ConfigCenter.Sdk.ConfigClient

/-!
# A cache load that fails

Library `Sdk`. `loadFromFileCache` assigns the members of the parsed object one by
one, in the order of their keys, and fails at the first that is not a string. What it
assigned before stays, so a failed load leaves the client as it was exactly when those
members said what the cache held already.
-/

namespace ConfigCenter.Sdk
open ConfigCenter.Server (Json)

/-- The string members in front of the first value of another type. -/
def stringsBefore : List (String × Json) → List (String × String)
  | (key, .string value) :: rest => (key, value) :: stringsBefore rest
  | _ => []

/-- The value is a string. -/
def isString : Json → Bool
  | .string _ => true
  | _ => false

/-- All members are strings. -/
def allStrings (members : List (String × Json)) : Bool := members.all fun m ↦ isString m.2

/-- Two clients answer every read alike. -/
structure SameReads (a b : ConfigClient) : Prop where
  getConfig : ∀ key, a.getConfig key = b.getConfig key
  getAllKeys : ∀ key, key ∈ a.getAllKeys ↔ key ∈ b.getAllKeys

/-- Where the file at a path is an object with a member that is not a string, the cache holds every
string member whose key comes before the keys of all such members. -/
def CacheHolds (files : Files) (path : String) (cache : List (String × String)) : Prop :=
  ∀ members, files path = some (.json (.object members)) →
    allStrings (parsedMembers members) = false →
      ∀ key value, (key, Json.string value) ∈ parsedMembers members →
        (∀ m ∈ parsedMembers members, isString m.2 = false → key < m.1) →
        cache.lookup key = some value

/-! ### What the loop leaves -/

-- The loop of a sorted object assigns the string members whose keys come before the keys of all
-- others.
private theorem mem_stringsBefore_iff {members : List (String × Json)} (h : SortedMembers members)
    (key value : String) :
    (key, value) ∈ stringsBefore members ↔ (key, Json.string value) ∈ members ∧
      ∀ m ∈ members, isString m.2 = false → key < m.1 := by
  induction members with
  | nil => simp [stringsBefore]
  | cons first rest ih =>
    obtain ⟨hfirst, hrest⟩ := List.pairwise_cons.mp h
    obtain ⟨k, v⟩ := first
    cases v with
    | string v =>
      have hmem : (key, Json.string value) ∈ (k, Json.string v) :: rest ↔
          (key, value) = (k, v) ∨ (key, Json.string value) ∈ rest := by
        simp
      rw [stringsBefore, List.mem_cons, ih hrest, hmem]
      constructor
      · rintro (heq | ⟨hin, hbefore⟩)
        · refine ⟨.inl heq, fun m hm hbad ↦ ?_⟩
          obtain rfl | hm := List.mem_cons.mp hm
          · cases hbad
          · exact (Prod.mk.inj heq).1 ▸ hfirst m hm
        · refine ⟨.inr hin, fun m hm hbad ↦ ?_⟩
          obtain rfl | hm := List.mem_cons.mp hm
          · cases hbad
          · exact hbefore m hm hbad
      · rintro ⟨heq | hin, hbefore⟩
        · exact .inl heq
        · exact .inr ⟨hin, fun m hm ↦ hbefore m (List.mem_cons_of_mem _ hm)⟩
    | null | bool _ | integer _ | float _ | array _ | object _ =>
      -- the loop fails at once, and the first key comes before no smaller one
      refine iff_of_false List.not_mem_nil ?_
      rintro ⟨hin, hbefore⟩
      have hlt := hbefore _ List.mem_cons_self rfl
      obtain heq | hin := List.mem_cons.mp hin
      · cases heq
      · exact lt_asymm hlt (hfirst _ hin)

private theorem lookup_filter_ne (cache : List (String × String)) {k key : String}
    (h : key ≠ k) : (cache.filter (fun entry ↦ entry.1 ≠ k)).lookup key = cache.lookup key := by
  induction cache with
  | nil => rfl
  | cons entry rest ih =>
    by_cases hk : entry.1 = k
    · have hne : (key == entry.1) = false := beq_eq_false_iff_ne.mpr (hk ▸ h)
      rw [List.filter_cons_of_neg (by simpa using hk), ih, List.lookup_cons, hne]
    · rw [List.filter_cons_of_pos (by simpa using hk), List.lookup_cons, List.lookup_cons, ih]

/-- An assignment is read under its key, every other key as before. -/
theorem lookup_assign (cache : List (String × String)) (k v key : String) :
    (assign cache k v).lookup key = if key = k then some v else cache.lookup key := by
  rw [assign, List.lookup_cons]
  by_cases h : key = k
  · rw [if_pos h, beq_iff_eq.mpr h]
  · rw [if_neg h, beq_eq_false_iff_ne.mpr h, lookup_filter_ne cache h]

/-- After some assignments a key has the last value assigned to it, or else its old one. -/
theorem lookup_foldl_assign (entries cache : List (String × String)) (key : String) :
    (entries.foldl (fun cache entry ↦ assign cache entry.1 entry.2) cache).lookup key =
      (entries.reverse.lookup key).or (cache.lookup key) := by
  induction entries generalizing cache with
  | nil => rfl
  | cons entry rest ih =>
    rw [List.foldl_cons, ih, lookup_assign, List.reverse_cons, List.lookup_append, Option.or_assoc]
    congr 1
    by_cases h : key = entry.1
    · rw [if_pos h, List.lookup_cons, beq_iff_eq.mpr h, Option.some_or]
    · rw [if_neg h, List.lookup_cons, beq_eq_false_iff_ne.mpr h, List.lookup_nil, Option.none_or]

/-- The loop assigns the strings in front of the first other value and fails there. -/
theorem loadMembers_eq (members : List (String × Json)) (cache : List (String × String)) :
    ConfigClient.loadMembers members cache =
      (allStrings members,
        (stringsBefore members).foldl (fun cache entry ↦ assign cache entry.1 entry.2) cache) := by
  induction members generalizing cache with
  | nil => rfl
  | cons member rest ih =>
    obtain ⟨key, value⟩ := member
    cases value with
    | string value => exact ih (assign cache key value)
    | null | bool _ | integer _ | float _ | array _ | object _ => rfl

private theorem mem_keys_iff (cache : List (String × String)) (key : String) :
    key ∈ cache.map Prod.fst ↔ (cache.lookup key).isSome := by
  induction cache with
  | nil => simp
  | cons entry rest ih =>
    rw [List.map_cons, List.mem_cons, List.lookup_cons, ih]
    by_cases h : key = entry.1
    · simp [h]
    · simp [h, beq_eq_false_iff_ne.mpr h]

private theorem sameReads_iff (a b : ConfigClient) :
    SameReads a b ↔ ∀ key, a.configCache.lookup key = b.configCache.lookup key := by
  constructor
  · exact SameReads.getConfig
  · intro h
    refine ⟨h, fun key ↦ ?_⟩
    rw [ConfigClient.getAllKeys, ConfigClient.getAllKeys, mem_keys_iff, mem_keys_iff, h key]

/-! ### A failed load -/

private theorem nodup_stringsBefore {members : List (String × Json)}
    (h : (members.map Prod.fst).Nodup) : ((stringsBefore members).map Prod.fst).Nodup := by
  refine h.sublist ?_
  clear h
  fun_induction stringsBefore members with
  | case1 key value rest ih => exact ih.cons_cons key
  | case2 => exact List.nil_sublist _

private theorem lookup_foldl_eq_iff {entries : List (String × String)}
    (hkeys : (entries.map Prod.fst).Nodup) (cache : List (String × String)) :
    (∀ key, (entries.foldl (fun cache entry ↦ assign cache entry.1 entry.2) cache).lookup key =
        cache.lookup key) ↔
      ∀ key value, (key, value) ∈ entries → cache.lookup key = some value := by
  have hlast : ∀ key value, entries.reverse.lookup key = some value ↔ (key, value) ∈ entries := by
    intro key value
    have hreverse : (entries.reverse.map Prod.fst).Nodup := by
      rw [List.map_reverse]
      exact List.nodup_reverse.mpr hkeys
    rw [lookup_eq_some_iff_mem hreverse, List.mem_reverse]
  simp only [lookup_foldl_assign]
  constructor
  · intro h key value hvalue
    rw [← h key, (hlast key value).mpr hvalue, Option.some_or]
  · intro h key
    cases hvalue : entries.reverse.lookup key with
    | none => exact Option.none_or
    | some value => rw [h key value ((hlast key value).mp hvalue), Option.some_or]

/-- A failed load leaves every answer as it was exactly when the cache holds what the load had
assigned before it failed. -/
theorem loadFromFileCache_keeps_iff (files : Files) (c : ConfigClient) :
    ((c.loadFromFileCache files).1 = false → SameReads (c.loadFromFileCache files).2 c) ↔
      CacheHolds files c.cacheFilePath c.configCache := by
  rw [sameReads_iff]
  unfold ConfigClient.loadFromFileCache CacheHolds
  split
  case h_3 members hfile =>
    have hsorted := sorted_parsedMembers members
    simp only [loadMembers_eq, lookup_foldl_eq_iff (nodup_stringsBefore hsorted.nodup),
      mem_stringsBefore_iff hsorted, and_imp, hfile]
    constructor
    · rintro h members' ⟨⟩ hfails
      exact h hfails
    · intro h hfails
      exact h members rfl hfails
  case h_6 value hobject _ _ hfile =>
    refine iff_of_true (fun _ _ ↦ rfl) fun members hmembers ↦ ?_
    rw [hfile] at hmembers
    cases hmembers
    exact absurd rfl (hobject members)
  all_goals
    next hfile =>
    refine iff_of_true (fun _ _ ↦ rfl) fun members hmembers ↦ ?_
    rw [hfile] at hmembers
    cases hmembers

private theorem init_failed_iff (home : Option String) (files : Files)
    (serverAddress appId env : String) (c : ConfigClient) :
    let placed := { c with
      serverAddress, appId, env, cacheFilePath := ConfigClient.cachePath home appId env }
    let result := c.init home files serverAddress appId env
    (result.1 = .failed → SameReads result.2 c) ↔
      ((placed.loadFromFileCache files).1 = false →
        SameReads (placed.loadFromFileCache files).2 placed) := by
  simp only [ConfigClient.init]
  split
  · next loaded hload =>
    rw [hload]
    exact iff_of_true (fun h ↦ by cases h) (fun h ↦ by cases h)
  · next loaded hload =>
    rw [hload]
    simp only [sameReads_iff, true_imp_iff]

/-- A failed load, and a failed `Init`, leaves the answers of `GetConfig` and `GetAllKeys` as
they were exactly when the cache holds already every string member of the file whose key comes
before the keys of all its members of another type. -/
theorem failed_load_keeps_iff (c : ConfigClient) (files : Files) (home : Option String)
    (serverAddress appId env : String) :
    (((c.loadFromFileCache files).1 = false → SameReads (c.loadFromFileCache files).2 c) ↔
      CacheHolds files c.cacheFilePath c.configCache) ∧
    let result := c.init home files serverAddress appId env
    ((result.1 = .failed → SameReads result.2 c) ↔
      CacheHolds files (ConfigClient.cachePath home appId env) c.configCache) := by
  refine ⟨loadFromFileCache_keeps_iff files c, ?_⟩
  exact (init_failed_iff home files serverAddress appId env c).trans
    (loadFromFileCache_keeps_iff files _)

/-- A file with a number under `timeout`: the load fails and the client reads `log_level`, whose key
comes first, wherever it stands in the text. -/
theorem not_kept_number_member :
    let files : Files := fun _ ↦ some (.json (.object
      [("timeout", .integer 30), ("log_level", .string "INFO")]))
    let c : ConfigClient := {}
    ¬ ((c.loadFromFileCache files).1 = false → SameReads (c.loadFromFileCache files).2 c) := by
  intro files c h
  have hread := (h rfl).getConfig "log_level"
  exact absurd hread (by decide)

end ConfigCenter.Sdk
