import ConfigCenter.Base.Search
import ConfigCenter.Storage.NamespaceManager

/-!
# Routes of the HTTP interface

Library `Server`. Which handler `HttpSession::handleRequest` calls, and with which
path parameters. Routes are told apart by searches in the whole target, so the
parts of a namespace id that stands in it take part in them.
-/

namespace ConfigCenter.Server
open ConfigCenter.Base ConfigCenter.Storage

/-- Methods that the routes tell apart. -/
inductive Method where
  | get
  | post
  | put
  | delete
  | other
  deriving DecidableEq, Repr

/-- The handler that is called. -/
inductive Route where
  | health
  | login
  | createApp
  | listApps
  | getApp (appId : String)
  | deleteApp (appId : String)
  | listNamespaces (appId : String)
  | createNamespace
  | getConfig (ns key : String)
  | setConfig (ns key : String)
  | deleteConfig (ns key : String)
  | publish (ns : String)
  | getReleases (ns : String)
  | notifications
  /-- A known path with a method that no handler serves: the body stays null. -/
  | unserved
  | notFound
  deriving DecidableEq, Repr

namespace HttpSession

/-- `target.find(pattern) == 0`. -/
def startsWith (target pattern : String) : Bool := find pattern.toList target.toList = some 0

/-- `target.find(pattern) != std::string::npos`. -/
def hasText (target pattern : String) : Bool := (find pattern.toList target.toList).isSome

/-- `extractPathParam`, `http_server.cpp:129–140`. -/
def extractPathParam (url start stop : String) : String :=
  match find start.toList url.toList with
  | none => ""
  | some k =>
    let rest := url.toList.drop (k + start.toList.length)
    if stop = "" then String.ofList rest
    else
      match find stop.toList rest with
      | none => ""
      | some k => String.ofList (rest.take k)

/-- The route of a request, `http_server.cpp:39–110`. -/
def route (method : Method) (target : String) : Route :=
  if target = "/health" then .health
  else if target = "/api/v1/auth/login" ∧ method = .post then .login
  else if target = "/api/v1/apps" then
    match method with
    | .post => .createApp
    | .get => .listApps
    | _ => .unserved
  else if startsWith target "/api/v1/apps/" ∧ ¬ hasText target "/namespaces" then
    let appId := extractPathParam target "/api/v1/apps/" ""
    match method with
    | .get => .getApp appId
    | .delete => .deleteApp appId
    | _ => .unserved
  else if startsWith target "/api/v1/apps/" ∧ hasText target "/namespaces" then
    let appId := extractPathParam target "/api/v1/apps/" "/namespaces"
    match method with
    | .get => .listNamespaces appId
    | _ => .unserved
  else if target = "/api/v1/namespaces" ∧ method = .post then .createNamespace
  else if startsWith target "/api/v1/namespaces/" ∧ hasText target "/keys/" then
    let ns := extractPathParam target "/api/v1/namespaces/" "/keys/"
    let key := extractPathParam target "/keys/" ""
    match method with
    | .get => .getConfig ns key
    | .put => .setConfig ns key
    | .delete => .deleteConfig ns key
    | _ => .unserved
  else if startsWith target "/api/v1/namespaces/" ∧ hasText target "/publish" then
    .publish (extractPathParam target "/api/v1/namespaces/" "/publish")
  else if startsWith target "/api/v1/namespaces/" ∧ hasText target "/releases" then
    .getReleases (extractPathParam target "/api/v1/namespaces/" "/releases")
  else if target = "/api/v1/notifications" then .notifications
  else .notFound

/-! ### Targets below a namespace -/

-- The routes of targets below `/api/v1/namespaces/`.
private def namespaceRoute (method : Method) (target : String) : Route :=
  if hasText target "/keys/" then
    let ns := extractPathParam target "/api/v1/namespaces/" "/keys/"
    let key := extractPathParam target "/keys/" ""
    match method with
    | .get => .getConfig ns key
    | .put => .setConfig ns key
    | .delete => .deleteConfig ns key
    | _ => .unserved
  else if hasText target "/publish" then
    .publish (extractPathParam target "/api/v1/namespaces/" "/publish")
  else if hasText target "/releases" then
    .getReleases (extractPathParam target "/api/v1/namespaces/" "/releases")
  else .notFound

private theorem startsWith_iff {target pattern : String} :
    startsWith target pattern ↔ pattern.toList <+: target.toList := by
  rw [startsWith, decide_eq_true_eq, find_eq_zero_iff]

-- a target below a namespace is none of the targets that are compared as a whole
private theorem ne_of_startsWith {target other : String}
    (h : startsWith target "/api/v1/namespaces/")
    (hother : ¬ "/api/v1/namespaces/".toList <+: other.toList) : target ≠ other := by
  rintro rfl
  exact hother (startsWith_iff.mp h)

private theorem not_startsWith_apps {target : String}
    (h : startsWith target "/api/v1/namespaces/") : ¬ startsWith target "/api/v1/apps/" := by
  intro happs
  rcases List.prefix_or_prefix_of_prefix (startsWith_iff.mp h) (startsWith_iff.mp happs)
    with hp | hp
  · exact absurd hp (by decide)
  · exact absurd hp (by decide)

private theorem route_of_startsWith (method : Method) {target : String}
    (h : startsWith target "/api/v1/namespaces/") :
    route method target = namespaceRoute method target := by
  unfold route namespaceRoute
  rw [if_neg (ne_of_startsWith h (by decide)),
    if_neg (fun hc ↦ ne_of_startsWith h (by decide) hc.1),
    if_neg (ne_of_startsWith h (by decide)), if_neg (fun hc ↦ not_startsWith_apps h hc.1),
    if_neg (fun hc ↦ not_startsWith_apps h hc.1),
    if_neg (fun hc ↦ ne_of_startsWith h (by decide) hc.1)]
  simp only [h, true_and, ne_of_startsWith h (by decide : ¬ "/api/v1/namespaces/".toList <+:
    "/api/v1/notifications".toList), if_false]

-- A text that is cut out between the first path segments and a pattern is all that stands before a
-- part exactly when no part in it is taken for the pattern.
private theorem extract_iff {url stop : String} {first tail : List Char}
    {before after : List (List Char)} {part : List Char} {hit : List Char → Bool}
    (hurl : url.toList = "/api/v1/namespaces/".toList ++
      (first ++ (path '/' (before ++ part :: after) ++ tail)))
    (hstop : stop ≠ "")
    (hfind : find stop.toList (first ++ (path '/' (before ++ part :: after) ++ tail)) =
      (locate hit (before ++ part :: after)).map (· + first.length))
    (hpart : hit part) :
    extractPathParam url "/api/v1/namespaces/" stop = String.ofList (first ++ path '/' before) ↔
      ∀ q ∈ before, ¬ hit q := by
  have hstart : find "/api/v1/namespaces/".toList url.toList = some 0 :=
    find_eq_zero_iff.mpr ⟨_, hurl.symm⟩
  obtain ⟨k, hk, hlocate⟩ := le_of_locate '/' before after hpart
  have hrest : url.toList.drop (0 + "/api/v1/namespaces/".toList.length) =
      first ++ (path '/' (before ++ part :: after) ++ tail) := by
    rw [hurl, Nat.zero_add, List.drop_left]
  have hsplit : first ++ (path '/' (before ++ part :: after) ++ tail) =
      (first ++ path '/' before) ++ (path '/' (part :: after) ++ tail) := by
    rw [path_append, List.append_assoc, List.append_assoc]
  simp only [extractPathParam, hstart, hrest, hstop, if_false, hfind, hlocate, Option.map_some]
  rw [String.ofList_inj, ← locate_append_iff '/' hpart, hlocate, Option.some.injEq, hsplit]
  constructor
  · intro htake
    have hlength := congrArg List.length htake
    simp only [List.length_take, List.length_append] at hlength
    omega
  · intro hlast
    have hplace : k + first.length = (first ++ path '/' before).length := by
      rw [List.length_append]
      omega
    rw [hplace, List.take_left]

/-- A part that a search for `/keys/` takes for the route. -/
def isKeys (part : List Char) : Bool := part = "keys".toList

/-- A part that a search for `/publish` or `/releases` takes for the route. -/
def begins (word : String) (part : List Char) : Bool := word.toList <+: part

private theorem find_keys {parts : List (List Char)} {last : List Char}
    (hparts : ∀ part ∈ parts, '/' ∉ part) (hlast : '/' ∉ last) :
    find "/keys/".toList (path '/' parts ++ '/' :: last) = locate isKeys parts := by
  have hpattern : "/keys/".toList = '/' :: ("keys".toList ++ ['/']) := by decide
  rw [hpattern]
  exact find_whole (by decide) hparts hlast

private theorem extractKey_iff {url key : String} {before : List (List Char)}
    (hurl : url.toList = path '/' (before ++ ["keys".toList]) ++ '/' :: key.toList)
    (hparts : ∀ part ∈ before ++ ["keys".toList], '/' ∉ part) (hkey : '/' ∉ key.toList) :
    extractPathParam url "/keys/" "" = key ↔ ∀ q ∈ before, ¬ isKeys q := by
  have hhit : isKeys "keys".toList := by decide
  have hfind : find "/keys/".toList url.toList = locate isKeys (before ++ ["keys".toList]) := by
    rw [hurl]
    exact find_keys hparts hkey
  obtain ⟨k, hk, hlocate⟩ := le_of_locate '/' before [] hhit
  have hsplit : url.toList = path '/' before ++ ("/keys/".toList ++ key.toList) := by
    rw [hurl, path_append, List.append_assoc]
    rfl
  simp only [extractPathParam, hfind, hlocate, if_true]
  rw [← locate_append_iff '/' hhit, hlocate, Option.some.injEq]
  constructor
  · intro hdrop
    have hlength := congrArg List.length (congrArg String.toList hdrop)
    rw [String.toList_ofList, hsplit] at hlength
    simp only [List.length_drop, List.length_append] at hlength
    omega
  · rintro rfl
    rw [hsplit, ← List.drop_drop, List.drop_left, List.drop_left, String.ofList_toList]

/-! ### Targets of a namespace -/

/-- A part of a namespace id. -/
def IsPart (part : String) : Prop := part ≠ "" ∧ '/' ∉ part.toList

/-- `/api/v1/namespaces/{ns}/keys/{key}`. -/
def keysTarget (ns key : String) : String := "/api/v1/namespaces/" ++ ns ++ "/keys/" ++ key

/-- `/api/v1/namespaces/{ns}/publish`. -/
def publishTarget (ns : String) : String := "/api/v1/namespaces/" ++ ns ++ "/publish"

/-- `/api/v1/namespaces/{ns}/releases`. -/
def releasesTarget (ns : String) : String := "/api/v1/namespaces/" ++ ns ++ "/releases"

section Namespace
variable {app env cluster name key : String}

private theorem toList_namespaceId :
    (NamespaceManager.makeNamespaceId app env cluster name).toList =
      app.toList ++ path '/' [env.toList, cluster.toList, name.toList] := by
  simp only [NamespaceManager.makeNamespaceId, String.toList_append, path, List.flatMap_cons,
    List.flatMap_nil, List.append_nil, List.append_assoc]
  rfl

-- The parts of a target up to its namespace.
private def partsOf (app env cluster name : String) : List (List Char) :=
  ["api".toList, "v1".toList, "namespaces".toList, app.toList, env.toList, cluster.toList,
    name.toList]

private theorem toList_below (rest : List Char) :
    "/api/v1/namespaces/".toList ++
        (NamespaceManager.makeNamespaceId app env cluster name).toList ++ rest =
      path '/' (partsOf app env cluster name) ++ rest := by
  rw [toList_namespaceId]
  simp only [partsOf, path, List.flatMap_cons, List.flatMap_nil, List.append_nil, List.append_assoc]
  rfl

private theorem forall_partsOf {P : List Char → Prop} (hapi : P "api".toList)
    (hv1 : P "v1".toList) (hnamespaces : P "namespaces".toList) :
    (∀ q ∈ partsOf app env cluster name, P q) ↔ ∀ p ∈ [app, env, cluster, name], P p.toList := by
  simp only [partsOf, List.mem_cons, List.not_mem_nil, or_false, forall_eq_or_imp, forall_eq,
    hapi, hv1, hnamespaces, true_and]

private theorem isKeys_toList (p : String) : isKeys p.toList = true ↔ "keys" = p := by
  rw [isKeys, decide_eq_true_eq, String.toList_inj, eq_comm]

private theorem forall_not_isKeys (parts : List String) :
    (∀ p ∈ parts, ¬ isKeys p.toList) ↔ "keys" ∉ parts := by
  constructor
  · intro h hmem
    exact h "keys" hmem (by decide)
  · intro h p hp hkeys
    exact h ((isKeys_toList p).mp hkeys ▸ hp)

private theorem forall_partsOf_not_isKeys :
    (∀ q ∈ partsOf app env cluster name, ¬ isKeys q) ↔ "keys" ∉ [app, env, cluster, name] := by
  rw [← forall_not_isKeys]
  exact forall_partsOf (P := fun q ↦ ¬ isKeys q) (by decide) (by decide) (by decide)

private theorem slash_notMem_partsOf (hparts : ∀ p ∈ [app, env, cluster, name], IsPart p) :
    ∀ q ∈ partsOf app env cluster name, '/' ∉ q := by
  refine (forall_partsOf (P := fun q ↦ '/' ∉ q) (by decide) (by decide) (by decide)).mpr ?_
  exact fun p hp ↦ (hparts p hp).2

private theorem toList_keysTarget (ns key : String) :
    (keysTarget ns key).toList = "/api/v1/namespaces/".toList ++ ns.toList ++
      ('/' :: ("keys".toList ++ '/' :: key.toList)) := by
  have hkeys : "/keys/".toList = '/' :: ("keys".toList ++ ['/']) := by decide
  change ("/api/v1/namespaces/" ++ ns ++ "/keys/" ++ key).toList = _
  rw [String.toList_append, String.toList_append, String.toList_append, hkeys,
    List.append_assoc, List.cons_append, List.append_assoc "keys".toList, List.singleton_append]

private theorem toList_target {pattern word : String} (ns : String)
    (hpattern : pattern.toList = '/' :: word.toList) :
    ("/api/v1/namespaces/" ++ ns ++ pattern).toList =
      "/api/v1/namespaces/".toList ++ ns.toList ++ ('/' :: (word.toList ++ [])) := by
  rw [String.toList_append, String.toList_append, hpattern, List.append_nil]

private theorem publish_pattern : "/publish".toList = '/' :: "publish".toList := by decide

private theorem releases_pattern : "/releases".toList = '/' :: "releases".toList := by decide

private theorem startsWith_of_toList {target : String} {ns rest : List Char}
    (h : target.toList = "/api/v1/namespaces/".toList ++ ns ++ rest) :
    startsWith target "/api/v1/namespaces/" := by
  rw [startsWith_iff, h, List.append_assoc]
  exact List.prefix_append _ _

-- The parts of a namespace id after the application.
private def idParts (env cluster name : String) : List (List Char) :=
  [env.toList, cluster.toList, name.toList]

-- a target as one path, and as the text that `extractPathParam` sees
private theorem toList_parts {target : String} {word tail : List Char}
    (h : target.toList = "/api/v1/namespaces/".toList ++
      (NamespaceManager.makeNamespaceId app env cluster name).toList ++ ('/' :: (word ++ tail))) :
    target.toList = path '/' (partsOf app env cluster name ++ [word]) ++ tail := by
  rw [h, toList_below, path_append, path_singleton, List.append_assoc, List.cons_append]

private theorem toList_after {target : String} {word tail : List Char}
    (h : target.toList = "/api/v1/namespaces/".toList ++
      (NamespaceManager.makeNamespaceId app env cluster name).toList ++ ('/' :: (word ++ tail))) :
    target.toList = "/api/v1/namespaces/".toList ++
      (app.toList ++ (path '/' (idParts env cluster name ++ [word]) ++ tail)) := by
  rw [h, toList_namespaceId, path_append, path_singleton, List.append_assoc, List.append_assoc,
    List.append_assoc, List.cons_append]
  rfl

private theorem idParts_subset : ∀ q ∈ idParts env cluster name,
    q ∈ partsOf app env cluster name := by
  simp [idParts, partsOf]

private theorem slash_notMem_append {parts : List (List Char)} {word : List Char}
    (hparts : ∀ q ∈ parts, '/' ∉ q) (hword : '/' ∉ word) : ∀ q ∈ parts ++ [word], '/' ∉ q := by
  intro q hq
  rcases List.mem_append.mp hq with hq | hq
  · exact hparts q hq
  · rw [List.mem_singleton.mp hq]
    exact hword

private theorem ofList_id :
    String.ofList (app.toList ++ path '/' (idParts env cluster name)) =
      NamespaceManager.makeNamespaceId app env cluster name := by
  rw [← String.toList_inj, String.toList_ofList, toList_namespaceId]
  rfl

private theorem find_begins {pattern word : String} {parts : List (List Char)}
    (hpattern : pattern.toList = '/' :: word.toList) (hword : '/' ∉ word.toList)
    (hparts : ∀ q ∈ parts, '/' ∉ q) :
    find pattern.toList (path '/' parts) = locate (begins word) parts := by
  rw [hpattern]
  exact find_word hword hparts

private theorem extractBefore_iff {target pattern word : String}
    (hparts : ∀ p ∈ [app, env, cluster, name], IsPart p)
    (hpattern : pattern.toList = '/' :: word.toList) (hword : '/' ∉ word.toList)
    (htarget : target.toList = "/api/v1/namespaces/".toList ++
      (NamespaceManager.makeNamespaceId app env cluster name).toList ++
        ('/' :: (word.toList ++ []))) :
    extractPathParam target "/api/v1/namespaces/" pattern =
        NamespaceManager.makeNamespaceId app env cluster name ↔
      ∀ p ∈ [env, cluster, name], ¬ begins word p.toList := by
  have hslash := slash_notMem_append
    (fun q hq ↦ slash_notMem_partsOf hparts q (idParts_subset q hq)) hword
  have hstop : pattern ≠ "" := by
    rintro rfl
    cases hpattern
  have happ : '/' ∉ app.toList := (hparts app (by simp)).2
  have hfind : find pattern.toList
      (app.toList ++ (path '/' (idParts env cluster name ++ [word.toList]) ++ [])) =
        (locate (begins word) (idParts env cluster name ++ [word.toList])).map
          (· + app.toList.length) := by
    rw [hpattern, find_append_of_notMem happ, ← hpattern, List.append_nil,
      find_begins hpattern hword hslash]
  have hlast : begins word word.toList := by simp [begins]
  rw [← ofList_id, extract_iff (toList_after htarget) hstop hfind hlast]
  simp [idParts]

private theorem hasText_of_last {target pattern word : String}
    (hparts : ∀ p ∈ [app, env, cluster, name], IsPart p)
    (hpattern : pattern.toList = '/' :: word.toList) (hword : '/' ∉ word.toList)
    (htarget : target.toList = "/api/v1/namespaces/".toList ++
      (NamespaceManager.makeNamespaceId app env cluster name).toList ++
        ('/' :: (word.toList ++ []))) : hasText target pattern := by
  have hslash := slash_notMem_append (slash_notMem_partsOf hparts) hword
  rw [hasText, toList_parts htarget, List.append_nil, find_begins hpattern hword hslash]
  exact isSome_locate_concat _ (by simp [begins])

private theorem hasText_keys_iff {target word : String}
    (hparts : ∀ p ∈ [app, env, cluster, name], IsPart p) (hword : '/' ∉ word.toList)
    (htarget : target.toList = "/api/v1/namespaces/".toList ++
      (NamespaceManager.makeNamespaceId app env cluster name).toList ++
        ('/' :: (word.toList ++ []))) :
    ¬ hasText target "/keys/" ↔ "keys" ∉ [app, env, cluster, name] := by
  have htext : target.toList = path '/' (partsOf app env cluster name) ++ '/' :: word.toList := by
    rw [htarget, toList_below, List.append_nil]
  rw [hasText, htext, find_keys (slash_notMem_partsOf hparts) hword, Option.not_isSome_iff_eq_none,
    locate_eq_none_iff, forall_partsOf_not_isKeys]

private theorem route_keys_iff (hparts : ∀ p ∈ [app, env, cluster, name], IsPart p)
    (hkey : '/' ∉ key.toList) :
    let ns := NamespaceManager.makeNamespaceId app env cluster name
    (route .get (keysTarget ns key) = .getConfig ns key ∧
      route .put (keysTarget ns key) = .setConfig ns key ∧
      route .delete (keysTarget ns key) = .deleteConfig ns key) ↔
        "keys" ∉ [app, env, cluster, name] := by
  intro ns
  have hslash := slash_notMem_append (slash_notMem_partsOf hparts)
    (by decide : '/' ∉ "keys".toList)
  have htext := toList_keysTarget ns key
  have htarget := toList_parts htext
  have hhit : isKeys "keys".toList := by decide
  have hkeys : hasText (keysTarget ns key) "/keys/" := by
    rw [hasText, htarget, find_keys hslash hkey]
    exact isSome_locate_concat _ hhit
  have hns : extractPathParam (keysTarget ns key) "/api/v1/namespaces/" "/keys/" = ns ↔
      ∀ q ∈ idParts env cluster name, ¬ isKeys q := by
    have hpattern : "/keys/".toList = '/' :: ("keys".toList ++ ['/']) := by decide
    have happ : '/' ∉ app.toList := (hparts app (by simp)).2
    have hfind : find "/keys/".toList (app.toList ++
        (path '/' (idParts env cluster name ++ ["keys".toList]) ++ '/' :: key.toList)) =
          (locate isKeys (idParts env cluster name ++ ["keys".toList])).map
            (· + app.toList.length) := by
      rw [hpattern, find_append_of_notMem happ, ← hpattern, find_keys _ hkey]
      exact fun q hq ↦ hslash q (by
        rcases List.mem_append.mp hq with hq | hq
        · exact List.mem_append_left _ (idParts_subset q hq)
        · exact List.mem_append_right _ hq)
    have hafter := toList_after htext
    have hcut := extract_iff hafter (by decide : "/keys/" ≠ "") hfind hhit
    rw [ofList_id] at hcut
    exact hcut
  have hkeyIff := extractKey_iff htarget hslash hkey
  simp only [route_of_startsWith _ (startsWith_of_toList htext), namespaceRoute, hkeys, if_true,
    Route.getConfig.injEq, Route.setConfig.injEq, Route.deleteConfig.injEq, and_self]
  rw [hkeyIff, hns, forall_partsOf_not_isKeys]
  constructor
  · exact And.right
  · exact fun h ↦ ⟨fun q hq ↦ forall_partsOf_not_isKeys.mpr h q (idParts_subset q hq), h⟩

private theorem route_publish_iff (hparts : ∀ p ∈ [app, env, cluster, name], IsPart p) :
    let ns := NamespaceManager.makeNamespaceId app env cluster name
    route .post (publishTarget ns) = .publish ns ↔
      "keys" ∉ [app, env, cluster, name] ∧
        ∀ p ∈ [env, cluster, name], ¬ begins "publish" p.toList := by
  intro ns
  have htext : (publishTarget ns).toList = _ := toList_target ns publish_pattern
  have hword : '/' ∉ "publish".toList := by decide
  rw [route_of_startsWith _ (startsWith_of_toList htext), ← hasText_keys_iff hparts hword htext,
    ← extractBefore_iff hparts publish_pattern hword htext]
  have hpublish := hasText_of_last hparts publish_pattern hword htext
  unfold namespaceRoute
  by_cases hkeys : hasText (publishTarget ns) "/keys/"
  · simp [hkeys]
  · simp only [hkeys, hpublish, Bool.false_eq_true, if_true, if_false, Route.publish.injEq,
      not_false_eq_true, true_and]
    rfl

private theorem route_releases_iff (hparts : ∀ p ∈ [app, env, cluster, name], IsPart p) :
    let ns := NamespaceManager.makeNamespaceId app env cluster name
    route .get (releasesTarget ns) = .getReleases ns ↔
      "keys" ∉ [app, env, cluster, name] ∧
        (∀ p ∈ [app, env, cluster, name], ¬ begins "publish" p.toList) ∧
        ∀ p ∈ [env, cluster, name], ¬ begins "releases" p.toList := by
  intro ns
  have htext : (releasesTarget ns).toList = _ := toList_target ns releases_pattern
  have hword : '/' ∉ "releases".toList := by decide
  have hslash := slash_notMem_append (slash_notMem_partsOf hparts) hword
  have hpublishIff : ¬ hasText (releasesTarget ns) "/publish" ↔
      ∀ p ∈ [app, env, cluster, name], ¬ begins "publish" p.toList := by
    rw [hasText, toList_parts htext, List.append_nil,
      find_begins publish_pattern (by decide) hslash,
      Option.not_isSome_iff_eq_none, locate_eq_none_iff,
      ← forall_partsOf (P := fun q ↦ ¬ begins "publish" q) (by decide) (by decide) (by decide)]
    have hlast : ¬ begins "publish" "releases".toList := by decide
    simp only [List.mem_append, List.mem_singleton, or_imp, forall_and, forall_eq, hlast,
      Bool.false_eq_true, not_false_eq_true, and_true]
  have hreleases := hasText_of_last hparts releases_pattern hword htext
  rw [route_of_startsWith _ (startsWith_of_toList htext), ← hasText_keys_iff hparts hword htext,
    ← hpublishIff, ← extractBefore_iff hparts releases_pattern hword htext]
  unfold namespaceRoute
  by_cases hkeys : hasText (releasesTarget ns) "/keys/"
  · simp [hkeys]
  · by_cases hpublish : hasText (releasesTarget ns) "/publish"
    · simp [hkeys, hpublish]
    · simp only [hkeys, hpublish, hreleases, Bool.false_eq_true, if_true, if_false,
        Route.getReleases.injEq, not_false_eq_true, true_and]
      rfl

end Namespace

-- no route of a target that is not below a namespace publishes
private theorem route_ne_publish (method : Method) {target : String}
    (h : ¬ startsWith target "/api/v1/namespaces/") (ns : String) :
    route method target ≠ .publish ns := by
  have hbelow (text : String) :
      ¬ (startsWith target "/api/v1/namespaces/" ∧ hasText target text) := fun hc ↦ h hc.1
  unfold route
  rw [if_neg (hbelow "/keys/"), if_neg (hbelow "/publish"), if_neg (hbelow "/releases")]
  repeat' split
  all_goals simp

private theorem get_publish_iff (target : String) :
    (∀ ns, route .get target ≠ .publish ns) ↔
      ¬ (startsWith target "/api/v1/namespaces/" ∧ ¬ hasText target "/keys/" ∧
        hasText target "/publish") := by
  by_cases h : startsWith target "/api/v1/namespaces/"
  · rw [route_of_startsWith _ h]
    unfold namespaceRoute
    by_cases hkeys : hasText target "/keys/"
    · simp [hkeys]
    · by_cases hpublish : hasText target "/publish"
      · simp [h, hkeys, hpublish]
      · by_cases hreleases : hasText target "/releases"
        · simp [hkeys, hpublish, hreleases]
        · simp [hkeys, hpublish, hreleases]
  · exact ⟨fun _ hc ↦ h hc.1, fun _ ns ↦ route_ne_publish .get h ns⟩

/-- The requests on a namespace and its keys reach their handlers with the ids in the target exactly
when no part of the id reads as a route, and a GET request publishes exactly when its target reads
as a publish target. -/
theorem route_exact_iff {app env cluster name key : String}
    (hparts : ∀ p ∈ [app, env, cluster, name], IsPart p)
    (hkey : NamespaceManager.validateKeyName key = none) (target : String) :
    let ns := NamespaceManager.makeNamespaceId app env cluster name
    ((route .get (keysTarget ns key) = .getConfig ns key ∧
        route .put (keysTarget ns key) = .setConfig ns key ∧
        route .delete (keysTarget ns key) = .deleteConfig ns key) ↔
      "keys" ∉ [app, env, cluster, name]) ∧
    (route .post (publishTarget ns) = .publish ns ↔
      "keys" ∉ [app, env, cluster, name] ∧
        ∀ p ∈ [env, cluster, name], ¬ begins "publish" p.toList) ∧
    (route .get (releasesTarget ns) = .getReleases ns ↔
      "keys" ∉ [app, env, cluster, name] ∧
        (∀ p ∈ [app, env, cluster, name], ¬ begins "publish" p.toList) ∧
        ∀ p ∈ [env, cluster, name], ¬ begins "releases" p.toList) ∧
    ((∀ ns', route .get target ≠ .publish ns') ↔
      ¬ (startsWith target "/api/v1/namespaces/" ∧ ¬ hasText target "/keys/" ∧
        hasText target "/publish")) := by
  refine ⟨route_keys_iff hparts ?_, route_publish_iff hparts, route_releases_iff hparts,
    get_publish_iff target⟩
  exact NamespaceManager.slash_notMem_of_validateKeyName hkey

/-- The key `db.url` of a namespace of the shop. -/
theorem route_exact_shop :
    (∀ p ∈ ["shop", "prod", "default", "app"], IsPart p) ∧
    NamespaceManager.validateKeyName "db.url" = none ∧
    let ns := NamespaceManager.makeNamespaceId "shop" "prod" "default" "app"
    route .put (keysTarget ns "db.url") = .setConfig ns "db.url" ∧
      route .post (publishTarget ns) = .publish ns ∧
      route .get (releasesTarget ns) = .getReleases ns ∧
      ∀ ns', route .get "/health" ≠ .publish ns' := by
  have hparts : ∀ p ∈ ["shop", "prod", "default", "app"], IsPart p := by
    simp [IsPart]
  have hkey : NamespaceManager.validateKeyName "db.url" = none := by decide
  obtain ⟨hkeys, hpublish, hreleases, hget⟩ := route_exact_iff hparts hkey "/health"
  exact ⟨hparts, hkey, (hkeys.mpr (by decide)).2.1, hpublish.mpr (by decide),
    hreleases.mpr (by decide), hget.mpr (by decide)⟩

/-- A GET request publishes, and a namespace with a part `keys` is cut at that part. -/
theorem get_publishes_and_keys_misrouted :
    (∃ ns, route .get (publishTarget "shop/prod/default/app") = .publish ns) ∧
    (∀ p ∈ ["shop", "prod", "keys", "app"], IsPart p) ∧
    NamespaceManager.makeNamespaceId "shop" "prod" "keys" "app" = "shop/prod/keys/app" ∧
    NamespaceManager.validateKeyName "db.url" = none ∧
    route .get (keysTarget "shop/prod/keys/app" "db.url") ≠
      .getConfig "shop/prod/keys/app" "db.url" ∧
    route .get (keysTarget "shop/prod/keys/app" "db.url") =
      .getConfig "shop/prod" "app/keys/db.url" ∧
    route .post (publishTarget "shop/prod/publisher/app") ≠ .publish "shop/prod/publisher/app" ∧
    route .get (releasesTarget "shop/prod/releases-v2/app") ≠
      .getReleases "shop/prod/releases-v2/app" := by
  refine ⟨⟨"shop/prod/default/app", by decide⟩, by simp [IsPart], by decide, by decide, by decide,
    by decide, by decide, by decide⟩

end HttpSession
end ConfigCenter.Server
