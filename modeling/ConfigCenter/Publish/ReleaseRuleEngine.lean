import Mathlib.Data.Finset.Card
import Mathlib.Data.Finset.Range

/-!
# Grayscale rules

Library `Publish`. `ReleaseRuleEngine::evaluateClientMatch` of
`src/publish/release_rule_engine.cpp`, which decides whether a client gets a
grayscale release. `std::hash` is a parameter. A percentage selects whole hash
classes, so a rule that only widens takes the release away from no client.
-/

namespace ConfigCenter.Publish.ReleaseRuleEngine

/-- `static_cast<int>(hash % 100)`, `release_rule_engine.cpp:20`. -/
def bucket (hash : UInt64) : Int32 := (hash % 100).toUInt32.toInt32

/-- `evaluateClientMatch`, `release_rule_engine.cpp:8–22`. -/
def evaluateClientMatch (hash : String → UInt64) (instanceId ipAddress : String)
    (grayscalePercentage : Int32) (whitelist : List String) : Bool :=
  if whitelist.any fun w ↦ w = instanceId || w = ipAddress then true
  else if 100 ≤ grayscalePercentage then true
  else if grayscalePercentage ≤ 0 then false
  else bucket (hash (instanceId ++ ipAddress)) < grayscalePercentage

/-- The number of hash classes a percentage selects. -/
def share (percentage : Int32) : Int := min (max percentage.toInt 0) 100

/-! ### Matches -/

private theorem toInt_bucket (hash : UInt64) : (bucket hash).toInt = (hash.toNat % 100 : Nat) := by
  have hlt : hash.toNat % 100 < 100 := Nat.mod_lt _ (by decide)
  have hmod : (hash % 100).toUInt32.toNat = hash.toNat % 100 := by
    have hhundred : (100 : UInt64).toNat = 100 := by decide
    rw [UInt64.toNat_toUInt32, UInt64.toNat_mod, hhundred]
    exact Nat.mod_eq_of_lt (by omega)
  change (hash % 100).toUInt32.toBitVec.toInt = _
  rw [BitVec.toInt_eq_toNat_of_lt, UInt32.toNat_toBitVec, hmod]
  rw [UInt32.toNat_toBitVec, hmod]
  omega

private theorem any_whitelist_iff {instanceId ipAddress : String} {whitelist : List String} :
    (whitelist.any fun w ↦ w = instanceId || w = ipAddress) = true ↔
      instanceId ∈ whitelist ∨ ipAddress ∈ whitelist := by
  simp only [List.any_eq_true, Bool.or_eq_true, decide_eq_true_eq]
  constructor
  · rintro ⟨w, hw, rfl | rfl⟩
    · exact .inl hw
    · exact .inr hw
  · rintro (hw | hw)
    · exact ⟨_, hw, .inl rfl⟩
    · exact ⟨_, hw, .inr rfl⟩

/-- A client matches by the whitelist, or because its hash class is below the percentage. -/
theorem evaluateClientMatch_iff (hash : String → UInt64) (instanceId ipAddress : String)
    (percentage : Int32) (whitelist : List String) :
    evaluateClientMatch hash instanceId ipAddress percentage whitelist = true ↔
      instanceId ∈ whitelist ∨ ipAddress ∈ whitelist ∨
        ((hash (instanceId ++ ipAddress)).toNat % 100 : Nat) < share percentage := by
  have hclass : (hash (instanceId ++ ipAddress)).toNat % 100 < 100 := Nat.mod_lt _ (by decide)
  have hfull : (100 : Int32) ≤ percentage ↔ 100 ≤ percentage.toInt := Int32.le_iff_toInt_le
  have hnone : percentage ≤ 0 ↔ percentage.toInt ≤ 0 := Int32.le_iff_toInt_le
  rw [evaluateClientMatch, share, ← or_assoc, ← any_whitelist_iff]
  split
  · next hw => exact iff_of_true rfl (.inl hw)
  · next hw =>
    rw [or_iff_right hw]
    split
    · next hp =>
      have := hfull.mp hp
      exact iff_of_true rfl (by omega)
    · next hp =>
      rw [hfull] at hp
      split
      · next hz =>
        have := hnone.mp hz
        exact iff_of_false (by simp) (by omega)
      · next hz =>
        rw [hnone] at hz
        rw [decide_eq_true_eq, Int32.lt_iff_toInt_lt, toInt_bucket]
        omega

/-- A wider rule matches every client that a narrower one matches. -/
theorem evaluateClientMatch_mono {hash : String → UInt64} {instanceId ipAddress : String}
    {percentage percentage' : Int32} {whitelist whitelist' : List String}
    (hp : percentage ≤ percentage') (hw : whitelist ⊆ whitelist')
    (h : evaluateClientMatch hash instanceId ipAddress percentage whitelist = true) :
    evaluateClientMatch hash instanceId ipAddress percentage' whitelist' = true := by
  rw [evaluateClientMatch_iff] at h ⊢
  have hshare : share percentage ≤ share percentage' := by
    rw [Int32.le_iff_toInt_le] at hp
    unfold share
    omega
  rcases h with h | h | h
  · exact .inl (hw h)
  · exact .inr (.inl (hw h))
  · exact .inr (.inr (by omega))

/-- A client is selected by the whitelist or by its hash class; a rule that widens keeps its
clients, and without a whitelist it selects as many hash classes as its percentage says. -/
theorem grayscale_selection (percentage : Int32) :
    (∀ (hash : String → UInt64) (instanceId ipAddress : String) (whitelist : List String),
      evaluateClientMatch hash instanceId ipAddress percentage whitelist = true ↔
        instanceId ∈ whitelist ∨ ipAddress ∈ whitelist ∨
          ((hash (instanceId ++ ipAddress)).toNat % 100 : Nat) <
            min (max percentage.toInt 0) 100) ∧
    (∀ percentage' : Int32, percentage ≤ percentage' → ∀ whitelist whitelist' : List String,
      whitelist ⊆ whitelist' → ∀ (hash : String → UInt64) (instanceId ipAddress : String),
        evaluateClientMatch hash instanceId ipAddress percentage whitelist = true →
          evaluateClientMatch hash instanceId ipAddress percentage' whitelist' = true) ∧
    ∃ classes ⊆ Finset.range 100, (classes.card : Int) = min (max percentage.toInt 0) 100 ∧
      ∀ (hash : String → UInt64) (instanceId ipAddress : String),
        evaluateClientMatch hash instanceId ipAddress percentage [] = true ↔
          (hash (instanceId ++ ipAddress)).toNat % 100 ∈ classes := by
  refine ⟨fun hash instanceId ipAddress whitelist ↦ ?_, ?_, ?_⟩
  · exact evaluateClientMatch_iff hash instanceId ipAddress percentage whitelist
  · intro percentage' hp whitelist whitelist' hw hash instanceId ipAddress h
    exact evaluateClientMatch_mono hp hw h
  · have hnonneg : 0 ≤ share percentage ∧ share percentage ≤ 100 := by
      unfold share
      omega
    refine ⟨Finset.range (share percentage).toNat, ?_, ?_, ?_⟩
    · rw [Finset.range_subset_range]
      omega
    · rw [Finset.card_range]
      exact Int.toNat_of_nonneg hnonneg.1
    · intro hash instanceId ipAddress
      rw [evaluateClientMatch_iff, Finset.mem_range]
      simp only [List.not_mem_nil, false_or]
      omega

end ConfigCenter.Publish.ReleaseRuleEngine
