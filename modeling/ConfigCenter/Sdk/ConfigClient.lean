import Mathlib.Data.String.Basic
import ConfigCenter.Server.Json

/-!
# The client SDK and its file cache

Library `Sdk`. `ConfigClient` of `sdk/src/config_client.cpp`: initialisation from
the file cache, shutdown, reads. The file system is a map from paths to texts,
and a text is kept as the JSON value it spells; of the members of an object the
library keeps one for each key, sorted by key. `dump` writes a text that parses
back to the dumped value. The hash map of the in-memory cache is the list of its
entries in the order in which it iterates.
-/

namespace ConfigCenter.Sdk
open ConfigCenter.Server (Json)

/-- `InitResult`, `config_client.h:17–22`. -/
inductive InitResult where
  | success
  | serverUnreachable
  | serverUnreachableUsingCache
  | failed
  deriving DecidableEq, Repr

/-- The text of a file: the value it spells, with the members of an object in the order of the
text, or one that `json::parse` refuses. -/
inductive FileText where
  | json (value : Json)
  | malformed

/-- A file has an entry: its text is an object with this string member, of a repeated key the
last. -/
def FileText.Has (text : FileText) (entry : String × String) : Prop :=
  ∃ members, text = .json (.object members) ∧
    members.reverse.lookup entry.1 = some (.string entry.2)

/-- Files by path. -/
abbrev Files := String → Option FileText

/-- Data members of `ConfigClient`, `config_client.h:56–76`. -/
structure ConfigClient where
  serverAddress : String := ""
  appId : String := ""
  env : String := ""
  initialized : Bool := false
  configCache : List (String × String) := []
  cacheFilePath : String := ""
  deriving DecidableEq

/-- `configCache_[key] = value`. -/
def assign (cache : List (String × String)) (key value : String) : List (String × String) :=
  (key, value) :: cache.filter (fun entry ↦ entry.1 ≠ key)

/-! ### Objects sorted by key -/

/-- `cache[key] = value` on a JSON object; the library keeps its members sorted by key. -/
def assignMember (key : String) (value : Json) : List (String × Json) → List (String × Json)
  | [] => [(key, value)]
  | member :: rest =>
    if key < member.1 then (key, value) :: member :: rest
    else if key = member.1 then (key, value) :: rest
    else member :: assignMember key value rest

/-- The object that `json::parse` makes of the members of a text. -/
def parsedMembers (members : List (String × Json)) : List (String × Json) :=
  members.foldl (fun object member ↦ assignMember member.1 member.2 object) []

/-- The keys ascend. -/
def SortedMembers (members : List (String × Json)) : Prop :=
  members.Pairwise fun a b ↦ a.1 < b.1

/-- Ascending keys occur once. -/
theorem SortedMembers.nodup {members : List (String × Json)} (h : SortedMembers members) :
    (members.map Prod.fst).Nodup :=
  List.pairwise_map.mpr (h.imp ne_of_lt)

private theorem mem_of_mem_assignMember {key : String} {value : Json}
    {members : List (String × Json)} {member : String × Json}
    (h : member ∈ assignMember key value members) : member = (key, value) ∨ member ∈ members := by
  fun_induction assignMember key value members with
  | case1 => exact .inl (List.mem_singleton.mp h)
  | case2 => exact List.mem_cons.mp h
  | case3 => exact (List.mem_cons.mp h).imp id (List.mem_cons_of_mem _)
  | case4 first rest _ _ ih =>
    obtain rfl | hin := List.mem_cons.mp h
    · exact .inr List.mem_cons_self
    · exact (ih hin).imp id (List.mem_cons_of_mem _)

private theorem sorted_assignMember (key : String) (value : Json)
    {members : List (String × Json)} (h : SortedMembers members) :
    SortedMembers (assignMember key value members) := by
  fun_induction assignMember key value members with
  | case1 => exact List.pairwise_singleton _ _
  | case2 first rest hlt =>
    refine List.pairwise_cons.mpr ⟨fun m hm ↦ ?_, h⟩
    obtain rfl | hm := List.mem_cons.mp hm
    · exact hlt
    · exact hlt.trans ((List.pairwise_cons.mp h).1 m hm)
  | case3 first rest _ heq =>
    obtain ⟨hfirst, hrest⟩ := List.pairwise_cons.mp h
    exact List.pairwise_cons.mpr ⟨fun m hm ↦ heq ▸ hfirst m hm, hrest⟩
  | case4 first rest hle hne ih =>
    obtain ⟨hfirst, hrest⟩ := List.pairwise_cons.mp h
    refine List.pairwise_cons.mpr ⟨fun m hm ↦ ?_, ih hrest⟩
    obtain rfl | hm := mem_of_mem_assignMember hm
    · exact lt_of_le_of_ne (not_lt.mp hle) (Ne.symm hne)
    · exact hfirst m hm

private theorem lookup_assignMember (k : String) (value : Json) (members : List (String × Json))
    (key : String) :
    (assignMember k value members).lookup key =
      if key = k then some value else members.lookup key := by
  fun_induction assignMember k value members with
  | case1 =>
    rw [List.lookup_cons]
    by_cases h : key = k
    · rw [if_pos h, beq_iff_eq.mpr h]
    · rw [if_neg h, beq_eq_false_iff_ne.mpr h]
  | case2 first rest =>
    rw [List.lookup_cons]
    by_cases h : key = k
    · rw [if_pos h, beq_iff_eq.mpr h]
    · rw [if_neg h, beq_eq_false_iff_ne.mpr h]
  | case3 first rest _ heq =>
    rw [List.lookup_cons, List.lookup_cons, ← heq]
    by_cases h : key = k
    · rw [if_pos h, beq_iff_eq.mpr h]
    · rw [if_neg h, beq_eq_false_iff_ne.mpr h]
  | case4 first rest _ hne ih =>
    rw [List.lookup_cons, List.lookup_cons, ih]
    by_cases h : key = first.1
    · have hk : key ≠ k := fun hk ↦ hne (hk.symm.trans h)
      rw [beq_iff_eq.mpr h]
      exact (if_neg hk).symm
    · rw [beq_eq_false_iff_ne.mpr h]

private theorem foldl_assignMember_spec {members object : List (String × Json)}
    (h : SortedMembers object) :
    let all := members.foldl (fun object member ↦ assignMember member.1 member.2 object) object
    SortedMembers all ∧
      ∀ key, all.lookup key = (members.reverse.lookup key).or (object.lookup key) := by
  induction members generalizing object with
  | nil => exact ⟨h, fun _ ↦ rfl⟩
  | cons member rest ih =>
    obtain ⟨hsorted, hlookup⟩ := ih (sorted_assignMember member.1 member.2 h)
    refine ⟨hsorted, fun key ↦ ?_⟩
    rw [List.foldl_cons, hlookup, lookup_assignMember, List.reverse_cons, List.lookup_append,
      Option.or_assoc, List.lookup_cons, List.lookup_nil]
    by_cases hk : key = member.1
    · rw [if_pos hk, beq_iff_eq.mpr hk, Option.some_or]
    · rw [if_neg hk, beq_eq_false_iff_ne.mpr hk, Option.none_or]

/-- The keys of a parsed object ascend. -/
theorem sorted_parsedMembers (members : List (String × Json)) :
    SortedMembers (parsedMembers members) :=
  (foldl_assignMember_spec List.Pairwise.nil).1

/-- Where keys occur once, a lookup finds the entry. -/
theorem lookup_eq_some_iff_mem {α : Type} {entries : List (String × α)}
    (h : (entries.map Prod.fst).Nodup) (key : String) (value : α) :
    entries.lookup key = some value ↔ (key, value) ∈ entries := by
  induction entries with
  | nil => simp
  | cons first rest ih =>
    obtain ⟨hfirst, hrest⟩ := List.nodup_cons.mp h
    rw [List.lookup_cons, List.mem_cons]
    by_cases hk : key = first.1
    · have hnot : (key, value) ∉ rest := fun hm ↦ hfirst (hk ▸ List.mem_map_of_mem hm)
      rw [beq_iff_eq.mpr hk, or_iff_left hnot, Prod.ext_iff]
      simp [hk, eq_comm]
    · have hne : (key, value) ≠ first := fun heq ↦ hk (congrArg Prod.fst heq)
      rw [beq_eq_false_iff_ne.mpr hk, or_iff_right hne]
      exact ih hrest

/-- A parsed object has of each key the last value in the text. -/
theorem mem_parsedMembers_iff (members : List (String × Json)) (key : String) (value : Json) :
    (key, value) ∈ parsedMembers members ↔ members.reverse.lookup key = some value := by
  have hlookup : (parsedMembers members).lookup key = members.reverse.lookup key := by
    rw [parsedMembers, (foldl_assignMember_spec List.Pairwise.nil).2, List.lookup_nil,
      Option.or_none]
  rw [← hlookup, lookup_eq_some_iff_mem (sorted_parsedMembers members).nodup]

private theorem assignMember_last {object : List (String × Json)} {key : String} (value : Json)
    (h : ∀ member ∈ object, member.1 < key) :
    assignMember key value object = object ++ [(key, value)] := by
  induction object with
  | nil => rfl
  | cons first rest ih =>
    have hlt := h first List.mem_cons_self
    rw [assignMember, if_neg hlt.not_gt, if_neg hlt.ne',
      ih fun member hm ↦ h member (List.mem_cons_of_mem _ hm), List.cons_append]

/-- An object that is sorted already is parsed as it is. -/
theorem parsedMembers_of_sorted {members : List (String × Json)} (h : SortedMembers members) :
    parsedMembers members = members := by
  suffices ∀ object, SortedMembers (object ++ members) →
      members.foldl (fun object member ↦ assignMember member.1 member.2 object) object =
        object ++ members from this [] h
  intro object hall
  clear h
  induction members generalizing object with
  | nil => rw [List.foldl_nil, List.append_nil]
  | cons first rest ih =>
    have hbefore : ∀ member ∈ object, member.1 < first.1 := fun member hm ↦
      (List.pairwise_append.mp hall).2.2 member hm first List.mem_cons_self
    have hmoved : object ++ first :: rest = object ++ [first] ++ rest := by
      rw [List.append_assoc, List.singleton_append]
    rw [List.foldl_cons, assignMember_last first.2 hbefore, hmoved]
    exact ih (object ++ [first]) (hmoved ▸ hall)

namespace ConfigClient

/-- The path that `Init` computes, `config_client.cpp:64–69`, from `getenv("HOME")`. -/
def cachePath (home : Option String) (appId env : String) : String :=
  match home with
  | some home => home ++ "/.config-center/cache/" ++ appId ++ "-" ++ env ++ ".json"
  | none => "config-cache-" ++ appId ++ "-" ++ env ++ ".json"

/-- The loop of `loadFromFileCache`, `config_client.cpp:214–216`, over the members of the parsed
object: a value that is not a string throws after the earlier members have been assigned. -/
def loadMembers : List (String × Json) → List (String × String) → Bool × List (String × String)
  | [], cache => (true, cache)
  | (key, .string value) :: rest, cache => loadMembers rest (assign cache key value)
  | (_, _) :: _, cache => (false, cache)

/-- `loadFromFileCache`, `config_client.cpp:205–221`. `null` and an empty array have nothing to
iterate over; the other values that are not objects throw at `it.key()`. -/
def loadFromFileCache (files : Files) (c : ConfigClient) : Bool × ConfigClient :=
  match files c.cacheFilePath with
  | none => (false, c)
  | some .malformed => (false, c)
  | some (.json (.object members)) =>
    let loaded := loadMembers (parsedMembers members) c.configCache
    (loaded.1, { c with configCache := loaded.2 })
  | some (.json .null) => (true, c)
  | some (.json (.array [])) => (true, c)
  | some (.json _) => (false, c)

/-- `Init`, `config_client.cpp:56–88`; `serverReachable` is the constant `false`. -/
def init (home : Option String) (files : Files) (serverAddress appId env : String)
    (c : ConfigClient) : InitResult × ConfigClient :=
  let c := { c with
    serverAddress, appId, env, cacheFilePath := cachePath home appId env }
  match c.loadFromFileCache files with
  | (true, c) => (.serverUnreachableUsingCache, { c with initialized := true })
  | (false, c) => (.failed, c)

/-- The value that `saveToFileCache` dumps, `config_client.cpp:194–197`: `null` until a member
is assigned. -/
def cacheJson (cache : List (String × String)) : Json :=
  match cache with
  | [] => .null
  | entries =>
    .object (entries.foldl (fun members entry ↦ assignMember entry.1 (.string entry.2) members) [])

/-- `saveToFileCache`, `config_client.cpp:190–203`. -/
def saveToFileCache (files : Files) (c : ConfigClient) : Files :=
  if c.cacheFilePath = "" then files
  else Function.update files c.cacheFilePath (some (.json (cacheJson c.configCache)))

/-- `Shutdown`, `config_client.cpp:90–97`, and the destructor, `config_client.cpp:52–54`. -/
def shutdown (files : Files) (c : ConfigClient) : Files × ConfigClient :=
  if c.initialized then (c.saveToFileCache files, { c with initialized := false })
  else (files, c)

/-- `GetConfig`, `config_client.cpp:100–107`. -/
def getConfig (c : ConfigClient) (key : String) : Option String := c.configCache.lookup key

/-- `GetAllKeys`, `config_client.cpp:160–167`. -/
def getAllKeys (c : ConfigClient) : List String := c.configCache.map Prod.fst

/-! ### Where entries come from -/

/-- A read returns an entry of the cache. -/
theorem mem_of_getConfig {c : ConfigClient} {key value : String}
    (h : c.getConfig key = some value) : (key, value) ∈ c.configCache := by
  obtain ⟨before, after, hc, _⟩ := List.lookup_eq_some_iff.mp h
  rw [hc]
  exact List.mem_append_right _ List.mem_cons_self

/-- Loading leaves old entries and string members of the file. -/
theorem mem_of_mem_loadMembers {members : List (String × Json)} {cache : List (String × String)}
    {entry : String × String} (h : entry ∈ (loadMembers members cache).2) :
    entry ∈ cache ∨ (entry.1, Json.string entry.2) ∈ members := by
  fun_induction loadMembers members cache with
  | case1 cache => exact .inl h
  | case2 cache key value rest ih =>
    obtain hin | hin := ih h
    · obtain rfl | hin := List.mem_cons.mp hin
      · exact .inr (List.mem_cons_self ..)
      · exact .inl (List.mem_filter.mp hin).1
    · exact .inr (List.mem_cons_of_mem _ hin)
  | case3 => exact .inl h

private theorem mem_of_mem_foldl {cache : List (String × String)}
    {members : List (String × Json)} {entry : String × String}
    (h : (entry.1, Json.string entry.2) ∈ cache.foldl
      (fun members entry ↦ assignMember entry.1 (.string entry.2) members) members) :
    entry ∈ cache ∨ (entry.1, Json.string entry.2) ∈ members := by
  induction cache generalizing members with
  | nil => exact .inr h
  | cons first rest ih =>
    obtain hin | hin := ih h
    · exact .inl (List.mem_cons_of_mem _ hin)
    · obtain heq | hin := mem_of_mem_assignMember hin
      · obtain ⟨hkey, hvalue⟩ := Prod.mk.inj heq
        have hentry : entry = first := Prod.ext hkey (Json.string.inj hvalue)
        exact .inl (hentry ▸ List.mem_cons_self)
      · exact .inr hin

/-- A saved file has only entries of the cache. -/
theorem mem_of_has_cacheJson {cache : List (String × String)} {entry : String × String}
    (h : (FileText.json (cacheJson cache)).Has entry) : entry ∈ cache := by
  obtain ⟨members, hm, hlookup⟩ := h
  have hin : (entry.1, Json.string entry.2) ∈ members := by
    obtain ⟨before, after, hsplit, -⟩ := List.lookup_eq_some_iff.mp hlookup
    rw [← List.mem_reverse, hsplit]
    exact List.mem_append_right _ List.mem_cons_self
  cases cache with
  | nil => cases hm
  | cons first rest =>
    cases hm
    obtain hin | hin := mem_of_mem_foldl hin
    · exact hin
    · cases hin

/-- After loading, the cache has only old entries and entries of the file. -/
theorem mem_of_mem_loadFromFileCache {files : Files} {c : ConfigClient} {entry : String × String}
    (h : entry ∈ (c.loadFromFileCache files).2.configCache) :
    entry ∈ c.configCache ∨ ∃ text, files c.cacheFilePath = some text ∧ text.Has entry := by
  unfold loadFromFileCache at h
  split at h
  case h_3 members hfile =>
    refine (mem_of_mem_loadMembers h).imp id fun hin ↦ ⟨_, hfile, members, rfl, ?_⟩
    exact (mem_parsedMembers_iff members entry.1 (.string entry.2)).mp hin
  all_goals exact .inl h

/-- After `Init`, the client is at its pair, with old entries and entries of the pair's file. -/
theorem init_spec (home : Option String) (files : Files) (serverAddress appId env : String)
    (c : ConfigClient) :
    let c' := (c.init home files serverAddress appId env).2
    (c'.appId = appId ∧ c'.env = env ∧ c'.cacheFilePath = cachePath home appId env) ∧
      ∀ entry ∈ c'.configCache, entry ∈ c.configCache ∨
        ∃ text, files (cachePath home appId env) = some text ∧ text.Has entry := by
  have hfields : ∀ d : ConfigClient, (d.loadFromFileCache files).2.appId = d.appId ∧
      (d.loadFromFileCache files).2.env = d.env ∧
      (d.loadFromFileCache files).2.cacheFilePath = d.cacheFilePath := by
    intro d
    unfold loadFromFileCache
    split <;> exact ⟨rfl, rfl, rfl⟩
  simp only [init]
  split
  all_goals
    next loaded hload =>
    have hsnd := congrArg Prod.snd hload
    simp only at hsnd
    subst hsnd
    exact ⟨hfields _, fun entry hentry ↦ mem_of_mem_loadFromFileCache hentry⟩

end ConfigClient
end ConfigCenter.Sdk
