import ConfigCenter.Storage.PoolConservation

/-!
# Connection strings of the MySQL store

Library `Storage`. `MysqlConfigStore::initialize` cuts the string
`host:port/user:password@database` at the first slash, the first colon after it and
the first `@` of all. Host and user are free of what they are cut at, a password need
not be: it is cut at its first `@`, and the rest of it goes into the database name.
-/

namespace ConfigCenter.Storage.MysqlConnectionPool
open ConfigCenter.Base PoolM MysqlConfigStore

/-- `host:port/user:password@database`, `mysql_config_store.cpp:64`, with or without the port. -/
def connectionString (host : String) (port : Option UInt16) (user password database : String) :
    String :=
  host ++ (port.elim "" fun n ↦ ":" ++ n.toNat.repr) ++ "/" ++ user ++ ":" ++ password ++ "@" ++
    database

/-- `initialize` sets the members of the store to the parts of the string, and the port to 3306
where the string has none. -/
def ParsesBack {δ : Type} (driver : Driver δ) (s : MysqlStore δ) (host : String) (port : UInt16)
    (user password database : String) : Prop :=
  ∀ written ∈ [some port, none],
    (initializeStore driver (connectionString host written user password database)
        s).2.rest.settings =
      { host, port := written.getD 3306, user, password, database }

/-! ### Cuts -/

private theorem findFrom_append (before : List Char) {c : Char} {part : List Char} (h : c ∉ part)
    (rest : List Char) :
    findFrom c (before ++ (part ++ c :: rest)) before.length =
      some (before.length + part.length) := by
  have hidx : (part ++ c :: rest).findIdx? (· = c) = some part.length := by
    have hnone : part.findIdx? (· = c) = none := by
      rw [List.findIdx?_eq_none_iff]
      intro x hx
      simpa using fun he : x = c ↦ h (he ▸ hx)
    rw [List.findIdx?_append, hnone, List.findIdx?_cons]
    simp
  rw [findFrom, List.drop_left, hidx, Option.map_some, Nat.add_comm]

private theorem findFrom_zero {c : Char} {part : List Char} (h : c ∉ part) (rest : List Char) :
    findFrom c (part ++ c :: rest) 0 = some part.length := by
  have hfind := findFrom_append [] h rest
  rwa [List.nil_append, List.length_nil, Nat.zero_add] at hfind

private theorem findFrom_eq_none {c : Char} {part : List Char} (h : c ∉ part) :
    findFrom c part 0 = none := by
  rw [findFrom, List.drop_zero, Option.map_eq_none_iff, List.findIdx?_eq_none_iff]
  intro x hx
  simpa using fun he : x = c ↦ h (he ▸ hx)

private theorem stoi_port (port : UInt16) :
    stoi (String.ofList port.toNat.repr.toList) = .ok (Int32.ofInt port.toNat) ∧
      (Int32.ofInt port.toNat).toUInt32.toUInt16 = port := by
  have hlt := port.toNat_lt
  constructor
  · have hrepr : port.toNat.repr = (port.toNat : Int).repr := by simp [Int.repr_eq_if]
    have hrange : -2147483648 ≤ (port.toNat : Int) ∧ (port.toNat : Int) ≤ 2147483647 := by omega
    rw [String.ofList_toList, hrepr, stoi, parseInteger_repr]
    simp only [hrange, and_self, if_true]
  · have hnat : (Int32.ofInt port.toNat).toUInt32.toNat = port.toNat := by
      rw [Int32.ofInt_eq_ofNat, Int32.toUInt32_ofNat', UInt32.toNat_ofNat']
      omega
    apply UInt16.toNat_inj.mp
    rw [UInt32.toNat_toUInt16, hnat]
    omega

private theorem digit_notMem {c : Char} (h : c.isDigit = false) (n : Nat) : c ∉ n.repr.toList := by
  intro hc
  rw [Nat.toList_repr] at hc
  have hdigit := Nat.isDigit_of_mem_toDigits (b := 10) (n := n) (by decide) (by decide) hc
  rw [h] at hdigit
  cases hdigit

/-! ### Host, port and credentials -/

-- What stands in front of the slash.
private def authority (host : String) (port : Option UInt16) : List Char :=
  host.toList ++ port.elim [] fun n ↦ ':' :: n.toNat.repr.toList

private theorem toList_connectionString (host : String) (port : Option UInt16)
    (user password database : String) :
    (connectionString host port user password database).toList =
      authority host port ++ '/' ::
        (user.toList ++ ':' :: (password.toList ++ '@' :: database.toList)) := by
  have hslash : "/".toList = ['/'] := by decide
  have hcolon : ":".toList = [':'] := by decide
  have hat : "@".toList = ['@'] := by decide
  cases port with
  | none => simp [connectionString, authority, hslash, hcolon, hat]
  | some n => simp [connectionString, authority, hslash, hcolon, hat]

variable {host : String}

private theorem notMem_authority {c : Char} (hc : c.isDigit = false) (hne : c ≠ ':')
    (h : c ∉ host.toList) (port : Option UInt16) : c ∉ authority host port := by
  cases port with
  | none => simpa [authority] using h
  | some n =>
    have hdigits := digit_notMem hc n.toNat
    simp only [authority, Option.elim_some, List.mem_append, List.mem_cons, not_or]
    exact ⟨h, hne, hdigits⟩

private theorem hostAndPort_authority (hhost : ':' ∉ host.toList) (port : Option UInt16)
    (rest : List Char) :
    hostAndPort (authority host port ++ rest) (some (authority host port).length) =
      .ok (host, port.getD 3306) := by
  have hsub : substr (authority host port ++ rest) 0 (some (authority host port).length) =
      authority host port := by
    simp [substr]
  rw [hostAndPort, hsub]
  cases port with
  | none =>
    simp only [authority, Option.elim_none, List.append_nil, findFrom_eq_none hhost,
      String.ofList_toList]
    rfl
  | some n =>
    obtain ⟨hstoi, hport⟩ := stoi_port n
    simp only [authority, Option.elim_some, findFrom_zero hhost, substr, List.take_left,
      ← List.drop_drop, List.drop_left, List.drop_one, List.tail_cons, hstoi, Option.getD_some]
    rw [String.ofList_toList]
    exact congrArg (fun p ↦ Except.ok (host, p)) hport

private theorem credentials_cut (before : List Char) {user password database : List Char}
    (hbefore : '@' ∉ before) (hcolon : ':' ∉ user) (hat : '@' ∉ user) (hpassword : '@' ∉ password)
    (old : ConnectionSettings) :
    let text := before ++ '/' :: (user ++ ':' :: (password ++ '@' :: database))
    credentials text (some before.length) (findFrom '@' text 0) old =
      { old with
        user := String.ofList user, password := String.ofList password
        database := String.ofList database } := by
  intro text
  have hstart : text = (before ++ ['/']) ++ (user ++ ':' :: (password ++ '@' :: database)) := by
    simp [text]
  have hlength : (before ++ ['/']).length = before.length + 1 := by simp
  have hfind : findFrom ':' text (before.length + 1) =
      some (before.length + 1 + user.length) := by
    rw [hstart, ← hlength]
    exact findFrom_append _ hcolon _
  have hfirst : findFrom '@' text 0 =
      some (before.length + 1 + user.length + 1 + password.length) := by
    have hfree : '@' ∉ before ++ '/' :: (user ++ ':' :: password) := by
      simp [hbefore, hat, hpassword]
    have htext : text = (before ++ '/' :: (user ++ ':' :: password)) ++ '@' :: database := by
      simp [text]
    rw [htext, findFrom_zero hfree]
    simp
    omega
  have huser : text.drop (before.length + 1) = user ++ ':' :: (password ++ '@' :: database) := by
    rw [hstart, ← hlength, List.drop_left]
  have hrest : text.drop (before.length + 1 + user.length + 1) =
      password ++ '@' :: database := by
    rw [Nat.add_assoc _ user.length, ← List.drop_drop, huser, ← List.drop_drop, List.drop_left]
    rfl
  have hdatabase :
      text.drop (before.length + 1 + user.length + 1 + password.length + 1) = database := by
    rw [Nat.add_assoc _ password.length, ← List.drop_drop, hrest, ← List.drop_drop, List.drop_left]
    rfl
  have hbehind : before.length + 1 + user.length <
      before.length + 1 + user.length + 1 + password.length := by omega
  have hwidth : before.length + 1 + user.length + 1 + password.length -
      (before.length + 1 + user.length) - 1 = password.length := by omega
  simp only [credentials, Option.elim_some, hfind, hfirst, substr, huser, hrest, hdatabase,
    Option.bind_some, if_pos hbehind, hwidth, Nat.add_sub_cancel_left, List.take_left]

/-! ### Strings that parse back -/

private theorem settings_autoMigrate {δ : Type} (driver : Driver δ) (s : MysqlStore δ) :
    (autoMigrate driver s).2.rest.settings = s.rest.settings := by
  unfold autoMigrate
  cases hpool : s.pool with
  | nil => rw [bind_run_blocked (acquire_run_nil hpool)]
  | cons conn pool =>
    rw [bind_run_returned (acquire_run hpool)]
    rfl

private theorem settings_initializeStore {δ : Type} (driver : Driver δ) (s : MysqlStore δ)
    {text : String} {host : String} {port : UInt16}
    (h : hostAndPort text.toList (findFrom '/' text.toList 0) = .ok (host, port)) :
    (initializeStore driver text s).2.rest.settings =
      credentials text.toList (findFrom '/' text.toList 0) (findFrom '@' text.toList 0)
        { s.rest.settings with host, port } := by
  have hrun : ∃ s', initializeStore driver text s = autoMigrate driver s' ∧
      s'.rest.settings = credentials text.toList (findFrom '/' text.toList 0)
        (findFrom '@' text.toList 0) { s.rest.settings with host, port } := by
    unfold initializeStore
    simp only [h]
    exact ⟨_, rfl, rfl⟩
  obtain ⟨s', hrun, hsettings⟩ := hrun
  rw [hrun, settings_autoMigrate, hsettings]

private theorem settings_connectionString {δ : Type} (driver : Driver δ) (s : MysqlStore δ)
    {host user password database : String} (hhost : ∀ c ∈ ['/', ':', '@'], c ∉ host.toList)
    (huser : ∀ c ∈ [':', '@'], c ∉ user.toList) (port : Option UInt16) {cut rest : List Char}
    (hcut : password.toList ++ '@' :: database.toList = cut ++ '@' :: rest) (hat : '@' ∉ cut) :
    (initializeStore driver (connectionString host port user password database)
        s).2.rest.settings =
      { host, port := port.getD 3306, user, password := String.ofList cut
        database := String.ofList rest } := by
  have htext := toList_connectionString host port user password database
  rw [hcut] at htext
  have hslash : findFrom '/' (connectionString host port user password database).toList 0 =
      some (authority host port).length := by
    rw [htext]
    exact findFrom_zero (notMem_authority (by decide) (by decide) (hhost '/' (by simp)) port) _
  have hport : hostAndPort (connectionString host port user password database).toList
      (findFrom '/' (connectionString host port user password database).toList 0) =
        .ok (host, port.getD 3306) := by
    rw [hslash, htext]
    exact hostAndPort_authority (hhost ':' (by simp)) port _
  rw [settings_initializeStore driver s hport, hslash, htext,
    credentials_cut (authority host port)
      (notMem_authority (by decide) (by decide) (hhost '@' (by simp)) port)
      (huser ':' (by simp)) (huser '@' (by simp)) hat, String.ofList_toList]

/-- With a host free of `/`, `:` and `@` and a user free of `:` and `@`, a connection string
parses back exactly when its password is free of `@`. -/
theorem parsesBack_iff {δ : Type} (driver : Driver δ) (s : MysqlStore δ) {host user : String}
    (hhost : ∀ c ∈ ['/', ':', '@'], c ∉ host.toList) (huser : ∀ c ∈ [':', '@'], c ∉ user.toList)
    (port : UInt16) (password database : String) :
    ParsesBack driver s host port user password database ↔ '@' ∉ password.toList := by
  constructor
  · intro h hat
    obtain ⟨cut, rest, hsplit, hfree⟩ := List.eq_append_cons_of_mem hat
    have hcut : password.toList ++ '@' :: database.toList =
        cut ++ '@' :: (rest ++ '@' :: database.toList) := by
      rw [hsplit, List.append_assoc, List.cons_append]
    have hset := h none (by simp)
    rw [settings_connectionString driver s hhost huser none hcut hfree] at hset
    -- the password that is set is shorter than the one in the string
    have hpassword : String.ofList cut = password := congrArg ConnectionSettings.password hset
    have hlength := congrArg (fun text ↦ text.toList.length) hpassword
    simp only [String.toList_ofList, hsplit, List.length_append, List.length_cons] at hlength
    omega
  · intro hat written _
    rw [settings_connectionString driver s hhost huser written rfl hat, String.ofList_toList,
      String.ofList_toList]

/-- A password with a colon and a slash. -/
theorem parsesBack_colon_slash :
    ParsesBack Session.echoDriver { pool := [], rest := { server := () } } "db.local" 3307 "root"
      "p:w/d" "center" :=
  (parsesBack_iff Session.echoDriver _ (by simp) (by simp) 3307 "p:w/d" "center").mpr (by decide)

/-- The password `p@ss` is set to `p`, and the database to `ss@center`. -/
theorem not_parsesBack_at :
    ¬ ParsesBack Session.echoDriver { pool := [], rest := { server := () } } "db.local" 3307 "root"
      "p@ss" "center" := by
  intro h
  have hpassword := congrArg ConnectionSettings.password (h (some 3307) (by simp))
  exact absurd hpassword (by decide +kernel)

end ConfigCenter.Storage.MysqlConnectionPool
