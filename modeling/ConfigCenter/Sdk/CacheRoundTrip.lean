import Mathlib.Data.Set.List
import Mathlib.Data.String.Basic
import ConfigCenter.Sdk.CacheLoad

/-!
# The file cache there and back

Library `Sdk`. `saveToFileCache` writes the text of a JSON object and
`loadFromFileCache` parses the text of the file. The object sorts its members by key,
so the text does not depend on the order in which the hash map iterates; an empty cache
is written as `null`, which loads as nothing. `dump` and `parse` of the JSON library are
parameters, and the one thing asked of them is that the dumped value parses back.
-/

namespace ConfigCenter.Sdk
open ConfigCenter.Server (Json Parse)

/-- Files by path, as texts. -/
abbrev TextFiles := String → Option String

/-- The files with what `json::parse` makes of each text. -/
def readFiles (parse : Parse) (files : TextFiles) : Files := fun path ↦
  (files path).map fun text ↦
    match parse text with
    | some value => .json value
    | none => .malformed

namespace ConfigClient

/-- `saveToFileCache`, `config_client.cpp:190–203`, with the text that `cache.dump(2)` gives. -/
def saveText (dump : Json → String) (files : TextFiles) (c : ConfigClient) : TextFiles :=
  if c.cacheFilePath = "" then files
  else Function.update files c.cacheFilePath (some (dump (cacheJson c.configCache)))

/-- `loadFromFileCache`, `config_client.cpp:205–221`, from the text of the file. -/
def loadText (parse : Parse) (files : TextFiles) (c : ConfigClient) : Bool × ConfigClient :=
  c.loadFromFileCache (readFiles parse files)

/-- Texts are written and read as the values that they are dumped from. -/
theorem readFiles_saveText {parse : Parse} {dump : Json → String} {c : ConfigClient}
    (h : parse (dump (cacheJson c.configCache)) = some (cacheJson c.configCache))
    (files : TextFiles) :
    readFiles parse (c.saveText dump files) = c.saveToFileCache (readFiles parse files) := by
  funext path
  unfold readFiles saveText saveToFileCache
  split
  · rfl
  · by_cases hpath : path = c.cacheFilePath
    · rw [hpath, Function.update_self, Function.update_self, Option.map_some, h]
    · rw [Function.update_of_ne hpath, Function.update_of_ne hpath]

/-! ### The saved value -/

/-- A member with the value of an entry. -/
def member (entry : String × String) : String × Json := (entry.1, .string entry.2)

/-- Entries in the order of their keys. -/
def Ascending (entries : List (String × String)) : Prop := entries.Pairwise fun a b ↦ a.1 < b.1

private theorem member_injective : Function.Injective member := by
  rintro ⟨k, v⟩ ⟨k', v'⟩ h
  simpa [member] using h

private theorem cacheJson_eq {cache : List (String × String)} (hne : cache ≠ [])
    (hkeys : (cache.map Prod.fst).Nodup) :
    ∃ entries, cacheJson cache = .object (entries.map member) ∧ Ascending entries ∧
      entries.Perm cache := by
  have hjson : cacheJson cache = .object (parsedMembers (cache.map member)) := by
    rw [parsedMembers, List.foldl_map]
    cases cache with
    | nil => exact absurd rfl hne
    | cons first rest => rfl
  have hsorted := sorted_parsedMembers (cache.map member)
  -- keys occur once, so the object has the entries of the cache and no others
  have hkeys' : ((cache.map member).reverse.map Prod.fst).Nodup := by
    rw [List.map_reverse, List.nodup_reverse, List.map_map]
    exact hkeys
  have hmem : ∀ m, m ∈ parsedMembers (cache.map member) ↔ m ∈ cache.map member := by
    rintro ⟨key, value⟩
    rw [mem_parsedMembers_iff, lookup_eq_some_iff_mem hkeys', List.mem_reverse]
  obtain ⟨entries, hentries⟩ : parsedMembers (cache.map member) ∈ Set.range (List.map member) := by
    rw [Set.range_list_map]
    exact fun m hm ↦ (List.mem_map.mp ((hmem m).mp hm)).imp fun _ h ↦ h.2
  rw [← hentries] at hjson hsorted hmem
  have hascending : Ascending entries :=
    (List.pairwise_map (R := fun a b : String × Json ↦ a.1 < b.1)).mp hsorted
  refine ⟨entries, hjson, hascending, ?_⟩
  refine (List.perm_ext_iff_of_nodup ?_ hkeys.of_map).mpr fun entry ↦ ?_
  · exact hascending.imp fun hlt heq ↦ hlt.ne (congrArg Prod.fst heq)
  · rw [← List.mem_map_of_injective member_injective, hmem,
      List.mem_map_of_injective member_injective]

/-- The saved value does not depend on the order in which the hash map iterates. -/
theorem cacheJson_of_perm {cache cache' : List (String × String)} (h : cache.Perm cache')
    (hkeys : (cache.map Prod.fst).Nodup) : cacheJson cache = cacheJson cache' := by
  by_cases hne : cache = []
  · subst hne
    rw [h.symm.eq_nil]
  · have hne' : cache' ≠ [] := fun he ↦ hne (by rw [he] at h; exact h.eq_nil)
    obtain ⟨entries, hjson, hsorted, hperm⟩ := cacheJson_eq hne hkeys
    obtain ⟨entries', hjson', hsorted', hperm'⟩ :=
      cacheJson_eq hne' ((h.map Prod.fst).nodup_iff.mp hkeys)
    have hsame : entries = entries' := by
      refine List.Perm.eq_of_pairwise (fun a b _ _ hab hba ↦ ?_) hsorted hsorted'
        (hperm.trans (h.trans hperm'.symm))
      exact absurd (hab.trans hba) (lt_irrefl _)
    rw [hjson, hjson', hsame]

/-! ### Loading it -/

private theorem allStrings_map (entries : List (String × String)) :
    allStrings (entries.map member) = true ∧ stringsBefore (entries.map member) = entries := by
  induction entries with
  | nil => exact ⟨rfl, rfl⟩
  | cons entry rest ih => exact ⟨ih.1, congrArg (entry :: ·) ih.2⟩

private theorem parsedMembers_map {entries : List (String × String)} (h : Ascending entries) :
    parsedMembers (entries.map member) = entries.map member :=
  parsedMembers_of_sorted (List.pairwise_map.mpr h)

private theorem foldl_assign_perm {entries cache : List (String × String)}
    (h : ((entries ++ cache).map Prod.fst).Nodup) :
    (entries.foldl (fun cache entry ↦ assign cache entry.1 entry.2) cache).Perm
      (entries ++ cache) := by
  induction entries generalizing cache with
  | nil => exact .refl _
  | cons entry rest ih =>
    rw [List.cons_append, List.map_cons, List.nodup_cons] at h
    have hfresh : assign cache entry.1 entry.2 = entry :: cache := by
      rw [assign, List.filter_eq_self.mpr]
      intro e he
      have hne : e.1 ≠ entry.1 := fun heq ↦
        h.1 (heq ▸ List.mem_map_of_mem (List.mem_append_right rest he))
      simpa using hne
    rw [List.foldl_cons, hfresh]
    have hmoved : (rest ++ entry :: cache).Perm (entry :: (rest ++ cache)) := List.perm_middle
    refine (ih ?_).trans hmoved
    rw [(hmoved.map Prod.fst).nodup_iff, List.map_cons, List.nodup_cons]
    exact h

private theorem load_cacheJson {cache : List (String × String)}
    (hkeys : (cache.map Prod.fst).Nodup) {files : Files} {d : ConfigClient}
    (hfile : files d.cacheFilePath = some (.json (cacheJson cache))) (hd : d.configCache = []) :
    (d.loadFromFileCache files).1 = true ∧
      (d.loadFromFileCache files).2.configCache.Perm cache := by
  unfold loadFromFileCache
  rw [hfile]
  by_cases hne : cache = []
  · subst hne
    exact ⟨rfl, by rw [cacheJson, hd]⟩
  · obtain ⟨entries, hjson, hsorted, hperm⟩ := cacheJson_eq hne hkeys
    obtain ⟨hall, hbefore⟩ := allStrings_map entries
    rw [hjson, hd]
    simp only [parsedMembers_map hsorted, loadMembers_eq, hall, hbefore, true_and]
    have hnodup : ((entries ++ []).map Prod.fst).Nodup := by
      rw [List.append_nil, (hperm.map Prod.fst).nodup_iff]
      exact hkeys
    have hloaded := foldl_assign_perm hnodup
    rw [List.append_nil] at hloaded
    exact hloaded.trans hperm

private theorem load_saveText {parse : Parse} {dump : Json → String} {c d : ConfigClient}
    (hkeys : (c.configCache.map Prod.fst).Nodup) (hpath : c.cacheFilePath ≠ "")
    (hparse : parse (dump (cacheJson c.configCache)) = some (cacheJson c.configCache))
    (files : TextFiles) (hd : d.cacheFilePath = c.cacheFilePath) (hempty : d.configCache = []) :
    (d.loadText parse (c.saveText dump files)).1 = true ∧
      (d.loadText parse (c.saveText dump files)).2.configCache.Perm c.configCache := by
  rw [loadText, readFiles_saveText hparse]
  refine load_cacheJson hkeys ?_ hempty
  rw [saveToFileCache, if_neg hpath, hd, Function.update_self]

/-- A saved cache is loaded by an empty client as the same map, whatever the order of its
entries; saved once more by any client that holds it, it is loaded as the same map again. -/
theorem cache_round_trip {parse : Parse} {dump : Json → String} {c : ConfigClient}
    (hkeys : (c.configCache.map Prod.fst).Nodup) (hpath : c.cacheFilePath ≠ "")
    (hparse : parse (dump (cacheJson c.configCache)) = some (cacheJson c.configCache))
    (files : TextFiles) {d : ConfigClient} (hd : d.cacheFilePath = c.cacheFilePath)
    (hempty : d.configCache = []) :
    let saved := c.saveText dump files
    let loaded := d.loadText parse saved
    loaded.1 = true ∧ loaded.2.configCache.Perm c.configCache ∧
      ∀ again reader : ConfigClient, again.cacheFilePath = c.cacheFilePath →
        again.configCache.Perm loaded.2.configCache →
        reader.cacheFilePath = c.cacheFilePath → reader.configCache = [] →
        let reloaded := reader.loadText parse (again.saveText dump saved)
        reloaded.1 = true ∧ reloaded.2.configCache.Perm c.configCache := by
  intro saved loaded
  obtain ⟨hok, hperm⟩ := load_saveText hkeys hpath hparse files hd hempty
  refine ⟨hok, hperm, fun again reader hagain hheld hreader hnone ↦ ?_⟩
  -- the second file has the text of the first
  have hsame : again.configCache.Perm c.configCache := hheld.trans hperm
  have hkeys' : (again.configCache.map Prod.fst).Nodup :=
    (hsame.map Prod.fst).nodup_iff.mpr hkeys
  have hjson := cacheJson_of_perm hsame hkeys'
  obtain ⟨hok', hperm'⟩ := load_saveText hkeys' (hagain ▸ hpath) (by rw [hjson]; exact hparse)
    saved (hreader.trans hagain.symm) hnone
  exact ⟨hok', hperm'.trans hsame⟩

/-- A client with two configurations. -/
def shop : ConfigClient where
  cacheFilePath := "/root/.config-center/cache/shop-DEV.json"
  configCache := [("timeout", "30"), ("log_level", "INFO")]

/-- The text of its file. -/
def shopText : String := "\x7b\n  \"log_level\": \"INFO\",\n  \"timeout\": \"30\"\n\x7d"

/-- `dump(2)` on the values of this client and of an empty one. -/
def shopDump : Json → String
  | .null => "null"
  | _ => shopText

/-- `parse` on the texts of these. -/
def shopParse (text : String) : Option Json :=
  if text = "null" then some .null
  else if text = shopText then
    some (.object [("log_level", .string "INFO"), ("timeout", .string "30")])
  else none

/-- Its file is loaded by a new client as the same two entries. -/
theorem cache_round_trip_two_entries :
    let d : ConfigClient := { cacheFilePath := shop.cacheFilePath }
    let loaded := d.loadText shopParse (shop.saveText shopDump fun _ ↦ none)
    loaded.1 = true ∧ loaded.2.configCache.Perm shop.configCache := by
  intro d loaded
  have hjson : cacheJson shop.configCache =
      .object [("log_level", .string "INFO"), ("timeout", .string "30")] := by
    rfl
  have hparse : shopParse (shopDump (cacheJson shop.configCache)) =
      some (cacheJson shop.configCache) := by
    rw [hjson]
    rfl
  have hround := cache_round_trip (by decide) (by decide) hparse (fun _ ↦ none)
    (d := d) rfl rfl
  exact ⟨hround.1, hround.2.1⟩

end ConfigClient
end ConfigCenter.Sdk
