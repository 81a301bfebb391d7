import ConfigCenter.Base.UnpaddedDigits
import ConfigCenter.Storage.Effects

/-!
# Password digests

Library `Auth`. `UserManager` of `auth_types.cpp` keeps the text of a salted digest and
compares texts at a login. The text has the hexadecimal digits of every byte without a
leading zero, so another digest can have the same text. A login is faithful to the digest
exactly when no other cut of its text into 32 bytes exists.
-/

namespace ConfigCenter.Auth
open ConfigCenter.Base ConfigCenter.Storage

/-- What `EVP_sha256()` leaves in `hash`, with `hashLen` 32. -/
abbrev Digest := Vector UInt8 32

/-- The bytes of a digest as numbers. -/
def Digest.bytes (digest : Digest) : List Nat := digest.toList.map UInt8.toNat

namespace UserManager

/-- `salt`, `auth_types.cpp:61`. -/
def salt : String := "config-center-salt"

/-- The loop over `hash`, `auth_types.cpp:73–77`: `std::hex` without width or fill. -/
def digestText (digest : Digest) : String :=
  String.ofList (digest.toList.flatMap fun byte ↦ Nat.toDigits 16 byte.toNat)

section Methods

variable (sha256 : String → Digest)

/-- `hashPassword`, `auth_types.cpp:60–78`. -/
def hashPassword (password : String) : String := digestText (sha256 (salt ++ password))

/-- `verifyPassword`, `auth_types.cpp:80–82`. -/
def verifyPassword (password hash : String) : Bool := hashPassword sha256 password = hash

/-- `createUser`, `auth_types.cpp:84–96`. -/
def createUser (username password role : String) (ts : Timestamp) : StorageM Bool :=
  SqliteConfigStore.createUser
    { username, passwordHash := hashPassword sha256 password, role, createdAt := ts }

/-- `authenticate`, `auth_types.cpp:98–102`. -/
def authenticate (username password : String) : StorageM Bool := do
  match ← SqliteConfigStore.getUserByUsername username with
  | none => return false
  | some user => return verifyPassword sha256 password user.passwordHash

end Methods

/-! ### Texts of digests -/

/-- No other digest has the text of this one. -/
def TextFaithful (digest : Digest) : Prop :=
  ∀ digest', digestText digest = digestText digest' → digest = digest'

/-- All bytes have one digit, or no byte can pass a digit on to its neighbour. -/
def Unambiguous (digest : Digest) : Prop :=
  (∀ byte ∈ digest.bytes, byte < 16) ∨ Settled 16 digest.bytes

instance (digest : Digest) : Decidable (Unambiguous digest) :=
  inferInstanceAs (Decidable (_ ∨ _))

private theorem byte_lt {digest : Digest} {n : Nat} (h : n ∈ digest.bytes) : n < 16 * 16 := by
  obtain ⟨byte, -, rfl⟩ := List.mem_map.mp h
  exact byte.toNat_lt

private theorem toDigits_byte {n : Nat} (h : n < 16 * 16) :
    Nat.toDigits 16 n = (digitsOf 16 n).map Nat.digitChar := by
  unfold digitsOf
  split
  · next hsmall => rw [Nat.toDigits_of_lt_base hsmall, List.map_singleton]
  · next hlarge =>
    rw [Nat.toDigits_of_base_le (by decide) (Nat.not_lt.mp hlarge),
      Nat.toDigits_of_lt_base (Nat.div_lt_of_lt_mul h)]
    rfl

private theorem toList_digestText (digest : Digest) :
    (digestText digest).toList = (digitText 16 digest.bytes).map Nat.digitChar := by
  rw [digestText, String.toList_ofList, digitText, Digest.bytes, List.flatMap_map,
    List.map_flatMap]
  refine List.flatMap_congr fun byte _ ↦ ?_
  exact toDigits_byte byte.toNat_lt

private theorem digitChar_inj : ∀ m < 16, ∀ n < 16, m.digitChar = n.digitChar → m = n := by
  decide

private theorem map_digitChar_inj {l l' : List Nat} (hl : ∀ n ∈ l, n < 16)
    (hl' : ∀ n ∈ l', n < 16) (h : l.map Nat.digitChar = l'.map Nat.digitChar) : l = l' := by
  induction l generalizing l' with
  | nil => exact (List.map_eq_nil_iff.mp h.symm).symm
  | cons n l ih =>
    cases l' with
    | nil => cases h
    | cons n' l' =>
      rw [List.map_cons, List.map_cons, List.cons.injEq] at h
      rw [digitChar_inj n (hl n List.mem_cons_self) n' (hl' n' List.mem_cons_self) h.1,
        ih (fun m hm ↦ hl m (List.mem_cons_of_mem n hm))
          (fun m hm ↦ hl' m (List.mem_cons_of_mem n' hm)) h.2]

/-- Two digests have one text exactly when their bytes have the same digits. -/
theorem digestText_eq_iff (digest digest' : Digest) :
    digestText digest = digestText digest' ↔
      digitText 16 digest.bytes = digitText 16 digest'.bytes := by
  rw [← String.toList_inj, toList_digestText, toList_digestText]
  constructor
  · intro h
    exact map_digitChar_inj (fun _ hn ↦ lt_of_mem_digitText (fun _ ↦ byte_lt) hn)
      (fun _ hn ↦ lt_of_mem_digitText (fun _ ↦ byte_lt) hn) h
  · intro h
    rw [h]

private theorem bytes_inj {digest digest' : Digest} (h : digest.bytes = digest'.bytes) :
    digest = digest' := by
  rw [Digest.bytes, Digest.bytes, List.map_inj_right fun _ _ ↦ UInt8.toNat_inj.mp] at h
  exact Vector.toList_inj.mp h

private theorem exists_bytes {l : List Nat} (hl : ∀ n ∈ l, n < 16 * 16) (hlength : l.length = 32) :
    ∃ digest : Digest, digest.bytes = l := by
  refine ⟨⟨(l.map UInt8.ofNat).toArray, by simp [hlength]⟩, ?_⟩
  have hbyte : ∀ n ∈ l, (UInt8.ofNat n).toNat = n := fun n hn ↦
    UInt8.toNat_ofNat_of_lt (hl n hn)
  calc ((l.map UInt8.ofNat).toArray.toList).map UInt8.toNat
    _ = l.map fun n ↦ (UInt8.ofNat n).toNat := by rw [List.map_map]; rfl
    _ = l.map id := List.map_congr_left hbyte
    _ = l := List.map_id l

private theorem textFaithful_iff_not_confused (digest : Digest) :
    TextFaithful digest ↔ ¬ Confused 16 digest.bytes := by
  constructor
  · rintro h ⟨l, hne, hl, hlength, htext⟩
    obtain ⟨digest', rfl⟩ := exists_bytes hl (by rw [hlength, Digest.bytes]; simp)
    have heq := h digest' ((digestText_eq_iff digest digest').mpr htext.symm)
    exact hne (by rw [heq])
  · intro h digest' htext
    by_contra hne
    refine h ⟨digest'.bytes, fun heq ↦ hne (bytes_inj heq).symm, fun _ ↦ byte_lt, ?_, ?_⟩
    · rw [Digest.bytes, Digest.bytes]
      simp
    · exact ((digestText_eq_iff digest digest').mp htext).symm

/-- The text of a digest tells it from every other one exactly when it is unambiguous. -/
theorem textFaithful_iff_unambiguous (digest : Digest) :
    TextFaithful digest ↔ Unambiguous digest := by
  rw [textFaithful_iff_not_confused, not_confused_iff fun _ ↦ byte_lt, Unambiguous]

/-! ### Logins -/

/-- The one row of a user name keeps this password text. -/
def Registered (username hash : String) (db : Database) : Prop :=
  ∃ user, db.tables.users.rows.filter (fun u ↦ u.username = username) = [user] ∧
    user.passwordHash = hash

private theorem users_step (db : Database) (ts : Timestamp) {c : Call}
    (hc : c.isTransactional = false) :
    (step db (ts, c)).tables.users = db.tables.users ∨
      ∃ user : User, db.tables.users.rows.any (fun x ↦ x.username = user.username) = false ∧
        (step db (ts, c)).tables.users.rows =
          db.tables.users.rows ++ [{ user with id := db.tables.users.nextId }] := by
  rw [tables_step db ts c hc]
  cases c with
  | createUser user =>
    simp only [Call.effect]
    split
    · exact .inl rfl
    · next hfree =>
      exact .inr ⟨user, Bool.eq_false_of_not_eq_true hfree, SerialTable.rows_append _ _ _⟩
  | createApplication _ | deleteApplication _ | createNamespace _ | publishRelease _ _ _ =>
    left
    simp only [Call.effect]
    split
    · rfl
    · rfl
  | _ => exact .inl rfl

private theorem registered_step {username hash : String} {db : Database}
    (h : Registered username hash db) (e : Event) (he : e.2.isTransactional = false) :
    Registered username hash (step db e) := by
  obtain ⟨user, hrows, hhash⟩ := h
  refine ⟨user, ?_, hhash⟩
  rcases users_step db e.1 he with hsame | ⟨added, hfree, hadded⟩
  · rw [hsame, hrows]
  · have hne : added.username ≠ username := by
      rintro rfl
      have hmem : user ∈ db.tables.users.rows.filter (fun u ↦ u.username = added.username) := by
        rw [hrows]
        exact List.mem_singleton_self user
      rw [List.any_eq_false] at hfree
      exact hfree user (List.mem_filter.mp hmem).1 (List.mem_filter.mp hmem).2
    rw [hadded, List.filter_append, hrows]
    simp [hne]

private theorem registered_run {username hash : String} {db : Database}
    (h : Registered username hash db) {es : List Event}
    (hc : ∀ e ∈ es, e.2.isTransactional = false) : Registered username hash (run step db es) :=
  run_invariant_along h (fun _ e hreg he ↦ registered_step hreg e he)
    (along_of_forall_mem step (fun e he _ ↦ hc e he) db)

private theorem registered_createUser {sha256 : String → Digest} {faults : Faults}
    {db db' : Database} {username password role : String} {ts : Timestamp}
    (h : createUser sha256 username password role ts faults db = (.ok true, db')) :
    Registered username (hashPassword sha256 password) db' := by
  simp only [createUser, SqliteConfigStore.createUser, insertUser, StorageM.succeeds_run,
    insertChecked_run] at h
  cases hfault : faults (.insert .users) with
  | true => simp [hfault] at h
  | false =>
    cases hany : db.tables.users.rows.any (fun x ↦ x.username = username) with
    | true => simp [hfault, hany] at h
    | false =>
      simp only [hfault, hany, Bool.false_eq_true, if_false, Prod.mk.injEq, true_and] at h
      have hfree : db.tables.users.rows.filter (fun u ↦ u.username = username) = [] :=
        List.filter_eq_nil_iff.mpr (List.any_eq_false.mp hany)
      rw [← h]
      refine ⟨{ id := db.tables.users.nextId, username, role, createdAt := ts,
                passwordHash := hashPassword sha256 password }, ?_, rfl⟩
      rw [SerialTable.rows_append, List.filter_append, hfree]
      simp

private theorem authenticate_registered (sha256 : String → Digest) {username hash : String}
    {db : Database} (h : Registered username hash db) (password : String) :
    authenticate sha256 username password noFaults db =
      (.ok (verifyPassword sha256 password hash), db) := by
  obtain ⟨user, hrows, rfl⟩ := h
  simp [authenticate, SqliteConfigStore.getUserByUsername, noFaults, hrows]

/-- Whenever a user was created with a password of this digest, every later login of that name
answers whether the digests of the two passwords are equal. -/
def LoginFaithful (digest : Digest) : Prop :=
  ∀ (sha256 : String → Digest) (username password₀ role : String) (ts : Timestamp)
    (faults : Faults) (db db' : Database) (later : List Event) (password : String),
    sha256 (salt ++ password₀) = digest →
    createUser sha256 username password₀ role ts faults db = (.ok true, db') →
    (∀ e ∈ later, e.2.isTransactional = false) →
    authenticate sha256 username password noFaults (run step db' later) =
      (.ok (decide (sha256 (salt ++ password) = sha256 (salt ++ password₀))), run step db' later)

private theorem loginFaithful_of_textFaithful {digest : Digest} (h : TextFaithful digest) :
    LoginFaithful digest := by
  rintro sha256 username password₀ role ts faults db db' later password rfl hcreate hlater
  have hreg := registered_run (registered_createUser hcreate) hlater
  rw [authenticate_registered sha256 hreg]
  have hverify : hashPassword sha256 password = hashPassword sha256 password₀ ↔
      sha256 (salt ++ password) = sha256 (salt ++ password₀) := by
    constructor
    · exact fun htext ↦ (h _ htext.symm).symm
    · exact fun hdigest ↦ congrArg digestText hdigest
  simp only [verifyPassword, hverify]

-- A digest function that separates two passwords.
private def twoDigests (password₀ : String) (digest digest' : Digest) (salted : String) : Digest :=
  if salted = salt ++ password₀ then digest else digest'

private theorem textFaithful_of_loginFaithful {digest : Digest} (h : LoginFaithful digest) :
    TextFaithful digest := by
  intro digest' htext
  have hne : salt ++ "a" ≠ salt ++ "" := by decide
  have hstored : twoDigests "" digest digest' (salt ++ "") = digest := if_pos rfl
  have hother : twoDigests "" digest digest' (salt ++ "a") = digest' := if_neg hne
  obtain ⟨db', hcreate⟩ : ∃ db', createUser (twoDigests "" digest digest') "admin" "" "admin" ""
      noFaults Database.empty = (.ok true, db') := ⟨_, rfl⟩
  have hlogin := h _ "admin" "" "admin" "" noFaults _ db' [] "a" hstored hcreate (by simp)
  rw [run_nil, authenticate_registered _ (registered_createUser hcreate), hstored, hother] at hlogin
  have hverify : verifyPassword (twoDigests "" digest digest') "a"
      (hashPassword (twoDigests "" digest digest') "") = true := by
    rw [verifyPassword, hashPassword, hashPassword, hstored, hother, htext]
    exact decide_eq_true rfl
  rw [hverify] at hlogin
  simpa [eq_comm] using hlogin

/-- Texts and logins are faithful to a digest exactly when it is unambiguous: all its bytes are
below 16, or every byte below 16 but the last is zero and every byte in front of a byte below 16
is a multiple of 16. -/
theorem faithful_iff_unambiguous (digest : Digest) :
    (TextFaithful digest ↔ Unambiguous digest) ∧ (LoginFaithful digest ↔ Unambiguous digest) := by
  rw [← textFaithful_iff_unambiguous]
  exact ⟨Iff.rfl, textFaithful_of_loginFaithful, loginFaithful_of_textFaithful⟩

/-- A digest with two bytes in front of thirty zeros. -/
def digestOf (first second : UInt8) : Digest :=
  ⟨(first :: second :: List.replicate 30 0).toArray, rfl⟩

/-- The bytes 01 11 and 11 01 have the text `111`, so a password of the one digest opens the
account of the other. -/
theorem digestOf_swap_confused :
    digestText (digestOf 0x01 0x11) = digestText (digestOf 0x11 0x01) ∧
      digestOf 0x01 0x11 ≠ digestOf 0x11 0x01 ∧ ¬ LoginFaithful (digestOf 0x01 0x11) := by
  have htext : digestText (digestOf 0x01 0x11) = digestText (digestOf 0x11 0x01) := by decide
  have hne : digestOf 0x01 0x11 ≠ digestOf 0x11 0x01 := by decide
  exact ⟨htext, hne, fun h ↦ hne (textFaithful_of_loginFaithful h _ htext)⟩

end UserManager

end ConfigCenter.Auth
