import Mathlib.Algebra.GroupWithZero.Nat
import Mathlib.Tactic.ByContra
import Mathlib.Tactic.Use
import Storekeeper.Retry

/-!
# Delays between attempts

Delays are words of 64 bits.  They double from one attempt to the next as long as they can be
counted, and what they come to all in all is one less than a power of two, in units of the first.
Beyond that they stay at the largest word.  The doubling itself ends after 63 times, which shows
only where the first delay is a single millisecond: there the delays stay at half of what can be
counted.

The jitter is a part of at most a tenth that is added to a delay.  The sum is not a saturating one,
so there is none if too much is added to a delay near the largest word.
-/

namespace Storekeeper

namespace RetryPolicy

variable {policy : RetryPolicy} {draw : UInt64} {attempt : Nat}

/-! ### Doubling -/

/-- The product of two words saturates at the largest. -/
theorem toNat_saturatingMul (a b : UInt64) :
  (saturatingMul a b).toNat = min (a.toNat * b.toNat) (UInt64.size - 1)
  := by
  rw [saturatingMul]
  split
  · next h =>
    rw [UInt64.toNat_mul, Nat.min_eq_left (Nat.le_sub_one_of_lt h)]
    exact Nat.mod_eq_of_lt h
  · next h =>
    rw [UInt64.toNat_ofNat_of_lt' (by decide), Nat.min_eq_right]
    exact Nat.le_trans (Nat.sub_le _ 1) (Nat.le_of_not_lt h)

/-- A shift by less than a word is a power of two. -/
theorem toNat_one_shiftLeft (n : Nat) :
  ((1 : UInt64) <<< UInt64.ofNat (min n 63)).toNat = 2 ^ min n 63
  := by
  have hn : min n 63 < 64 := Nat.lt_succ_of_le (Nat.min_le_right n 63)
  rw [UInt64.toNat_shiftLeft, UInt64.toNat_ofNat_of_lt' (Nat.lt_trans hn (by decide)),
    Nat.mod_eq_of_lt hn, UInt64.toNat_one, Nat.one_shiftLeft]
  exact Nat.mod_eq_of_lt (Nat.pow_lt_pow_right Nat.one_lt_two hn)

/-- A delay, with the two bounds that are put on the doubling. -/
theorem toNat_backoff_eq_min (policy : RetryPolicy) (attempt : Nat) :
  (policy.backoff attempt).toNat
    = min (policy.baseDelay.toNat * 2 ^ min (attempt - 1) 63) (UInt64.size - 1)
  := by
  rw [backoff, toNat_saturatingMul, toNat_one_shiftLeft]

/-- A delay of two milliseconds or more is the largest word by the time the doubling ends. -/
theorem size_le_baseDelay_mul {n : Nat} (hbase : 2 ≤ policy.baseDelay.toNat) (hn : 63 ≤ n) :
  UInt64.size ≤ policy.baseDelay.toNat * 2 ^ n
  := by
  calc
    UInt64.size = 2 * 2 ^ 63 := by decide
    _ ≤ policy.baseDelay.toNat * 2 ^ n :=
      Nat.mul_le_mul hbase (Nat.pow_le_pow_right Nat.two_pos hn)

/-- Unless the first delay is one millisecond, the end of the doubling does not show. -/
theorem toNat_backoff_of_ne_one (hbase : policy.baseDelay.toNat ≠ 1) :
  (policy.backoff attempt).toNat
    = min (policy.baseDelay.toNat * 2 ^ (attempt - 1)) (UInt64.size - 1)
  := by
  rw [toNat_backoff_eq_min]
  rcases Nat.le_total (attempt - 1) 63 with hle | hge
  · rw [Nat.min_eq_left hle]
  · rw [Nat.min_eq_right hge]
    rcases Nat.lt_or_ge policy.baseDelay.toNat 2 with hsmall | hlarge
    · have hzero : policy.baseDelay.toNat = 0 := by omega
      rw [hzero, Nat.zero_mul, Nat.zero_mul]
    · have hcapped := size_le_baseDelay_mul hlarge (Nat.le_refl 63)
      have hfree := size_le_baseDelay_mul hlarge hge
      rw [Nat.min_eq_right (Nat.le_trans (Nat.sub_le _ 1) hcapped),
        Nat.min_eq_right (Nat.le_trans (Nat.sub_le _ 1) hfree)]

/-- From one millisecond on, the delays stay at half of what can be counted. -/
theorem toNat_backoff_of_capped (hbase : policy.baseDelay.toNat = 1) (h : 64 ≤ attempt) :
  (policy.backoff attempt).toNat = 2 ^ 63
  := by
  have hcap : min (attempt - 1) 63 = 63 := Nat.min_eq_right (by omega)
  rw [toNat_backoff_eq_min, hbase, hcap]
  decide

/-- A delay is the doubled first delay, or the largest word if that cannot be counted, unless the
first delay is one millisecond and there have been more attempts than a word has bits. -/
theorem toNat_backoff_eq_iff (policy : RetryPolicy) (attempt : Nat) :
  (policy.backoff attempt).toNat
      = min (policy.baseDelay.toNat * 2 ^ (attempt - 1)) (2 ^ 64 - 1)
    ↔ ¬ (policy.baseDelay = 1 ∧ 64 < attempt)
  := by
  have hone : policy.baseDelay = 1 ↔ policy.baseDelay.toNat = 1 := UInt64.toNat_inj.symm
  rw [hone]
  constructor
  · rintro h ⟨hbase, hlate⟩
    rw [toNat_backoff_of_capped hbase (Nat.le_of_lt hlate), hbase, Nat.one_mul] at h
    have hpow : 2 ^ 64 ≤ 2 ^ (attempt - 1) := Nat.pow_le_pow_right Nat.two_pos (by omega)
    rw [Nat.min_eq_right (Nat.le_trans (Nat.sub_le _ 1) hpow)] at h
    exact absurd h (by decide)
  · intro h
    by_cases hbase : policy.baseDelay.toNat = 1
    · have hearly : attempt - 1 ≤ 63 := by
        have hle := Nat.le_of_not_lt fun hlate => h ⟨hbase, hlate⟩
        omega
      rw [toNat_backoff_eq_min, Nat.min_eq_left hearly]
      rfl
    · exact toNat_backoff_of_ne_one hbase

/-- After 65 attempts, a policy that begins with one millisecond waits for `2 ^ 63` of them. -/
theorem not_forall_toNat_backoff_eq :
  ¬ ∀ (policy : RetryPolicy) (attempt : Nat), 1 ≤ attempt → attempt < 2 ^ 32 →
    (policy.backoff attempt).toNat
      = min (policy.baseDelay.toNat * 2 ^ (attempt - 1)) (2 ^ 64 - 1)
  := by
  intro h
  have hdelay := h { maxAttempts := 100, baseDelay := 1 } 65 (by decide) (by decide)
  exact absurd hdelay (by decide)

/-! ### The delays of a sequence -/

/-- The delays after the first `n` attempts, without jitter, in milliseconds. -/
def delays (policy : RetryPolicy) (n : Nat) : List Nat :=
  (List.range n).map fun k => (policy.backoff (k + 1)).toNat

theorem length_delays (policy : RetryPolicy) (n : Nat) :
  (policy.delays n).length = n
  := by
  rw [delays, List.length_map, List.length_range]

theorem delays_succ (policy : RetryPolicy) (n : Nat) :
  policy.delays (n + 1) = policy.delays n ++ [(policy.backoff (n + 1)).toNat]
  := by
  rw [delays, List.range_succ, List.map_append]
  rfl

/-- The delays double as long as they can be counted. -/
theorem toNat_backoff {n : Nat} (h : policy.baseDelay.toNat * 2 ^ n < UInt64.size) :
  (policy.backoff (n + 1)).toNat = policy.baseDelay.toNat * 2 ^ n
  := by
  by_cases hbase : policy.baseDelay.toNat = 1
  · have hn : n ≤ 63 := by
      apply Nat.le_of_lt_succ
      rw [← Nat.pow_lt_pow_iff_right (a := 2) Nat.one_lt_two]
      rwa [hbase, Nat.one_mul] at h
    rw [toNat_backoff_eq_min, Nat.add_sub_cancel, Nat.min_eq_left hn,
      Nat.min_eq_left (Nat.le_sub_one_of_lt h)]
  · rw [toNat_backoff_of_ne_one hbase, Nat.add_sub_cancel, Nat.min_eq_left (Nat.le_sub_one_of_lt h)]

/-- The delays after the first `n` attempts, all in all. -/
theorem sum_delays {n : Nat} (h : policy.baseDelay.toNat * (2 ^ n - 1) < UInt64.size) :
  (policy.delays n).sum = policy.baseDelay.toNat * (2 ^ n - 1)
  := by
  induction n with
  | zero => rfl
  | succ n ih =>
    have hpow : 2 ^ (n + 1) - 1 = 2 ^ n - 1 + 2 ^ n := by
      have := Nat.one_le_two_pow (n := n)
      omega
    rw [hpow, Nat.mul_add] at h ⊢
    rw [delays_succ, List.sum_append, List.sum_singleton, ih (by omega), toNat_backoff (by omega)]

/-! ### Jitter -/

/-- What the random word `draw` adds to a delay with jitter, in milliseconds. -/
def jitter (policy : RetryPolicy) (draw : UInt64) (attempt : Nat) : Nat :=
  draw.toNat % ((policy.backoff attempt).toNat / 10 + 1)

/-- There is a delay with its jitter, which is no shorter than without it and at most a tenth
longer. -/
def IsUpward (policy : RetryPolicy) (draw : UInt64) (attempt : Nat) : Prop :=
  ∃ d ∈ policy.delay? draw attempt, (policy.backoff attempt).toNat ≤ d.toNat
    ∧ d.toNat ≤ (policy.backoff attempt).toNat + (policy.backoff attempt).toNat / 10

instance (policy : RetryPolicy) (draw : UInt64) (attempt : Nat) :
    Decidable (policy.IsUpward draw attempt) := Option.decidableExistsMem _

theorem jitter_le (policy : RetryPolicy) (draw : UInt64) (attempt : Nat) :
  policy.jitter draw attempt ≤ (policy.backoff attempt).toNat / 10
  := Nat.le_of_lt_succ (Nat.mod_lt _ (Nat.succ_pos _))

/-- Some random word adds a full tenth. -/
theorem exists_jitter_eq (policy : RetryPolicy) (attempt : Nat) :
  ∃ draw, policy.jitter draw attempt = (policy.backoff attempt).toNat / 10
  := by
  have hbound : (policy.backoff attempt).toNat < UInt64.size := (policy.backoff attempt).toNat_lt
  use UInt64.ofNat ((policy.backoff attempt).toNat / 10)
  rw [jitter, UInt64.toNat_ofNat_of_lt' (by omega)]
  exact Nat.mod_eq_of_lt (Nat.lt_succ_self _)

theorem checkedAdd_eq_some {a b : UInt64} (h : a.toNat + b.toNat < UInt64.size) :
  checkedAdd a b = some (a + b) ∧ (a + b).toNat = a.toNat + b.toNat
  := by
  refine ⟨if_pos h, ?_⟩
  rw [UInt64.toNat_add]
  exact Nat.mod_eq_of_lt h

theorem checkedAdd_eq_none {a b : UInt64} (h : UInt64.size ≤ a.toNat + b.toNat) :
  checkedAdd a b = none
  := if_neg (Nat.not_lt_of_le h)

/-- The word by which a delay is lengthened is its jitter. -/
theorem toNat_mod_tenth (policy : RetryPolicy) (draw : UInt64) (attempt : Nat)
    (hpos : 0 < (policy.backoff attempt).toNat) :
  (draw % (policy.backoff attempt / 10 + 1)).toNat = policy.jitter draw attempt
  := by
  have hbound := (policy.backoff attempt).toNat_lt
  have htenth : (policy.backoff attempt / 10 + 1).toNat
      = (policy.backoff attempt).toNat / 10 + 1 := by
    rw [UInt64.toNat_add, UInt64.toNat_div]
    exact Nat.mod_eq_of_lt (Nat.lt_of_le_of_lt (Nat.div_lt_self hpos (by decide)) hbound)
  rw [UInt64.toNat_mod, htenth, jitter]

/-- A delay with jitter is the sum of the two, if that is a word. -/
theorem delay?_eq_some (h : policy.useJitter = true)
    (hfits : (policy.backoff attempt).toNat + policy.jitter draw attempt < UInt64.size) :
  ∃ d, policy.delay? draw attempt = some d
    ∧ d.toNat = (policy.backoff attempt).toNat + policy.jitter draw attempt
  := by
  rw [delay?, h]
  rcases Nat.eq_zero_or_pos (policy.backoff attempt).toNat with hzero | hpos
  · have hnone : policy.backoff attempt = 0 := UInt64.toNat_inj.mp hzero
    use 0
    rw [jitter, hnone, UInt64.toNat_zero, Nat.zero_div, Nat.zero_add, Nat.zero_add, Nat.mod_one]
    exact ⟨rfl, rfl⟩
  · have hlt : 0 < policy.backoff attempt := UInt64.lt_iff_toNat_lt.mpr hpos
    have hword := policy.toNat_mod_tenth draw attempt hpos
    rw [← hword] at hfits
    obtain ⟨hsum, hnat⟩ := checkedAdd_eq_some hfits
    use policy.backoff attempt + draw % (policy.backoff attempt / 10 + 1)
    rw [if_pos (by simpa using hlt), hsum, hnat, hword]
    exact ⟨rfl, rfl⟩

/-- There is no delay if the sum is no word. -/
theorem delay?_eq_none (h : policy.useJitter = true)
    (hexceeds : UInt64.size ≤ (policy.backoff attempt).toNat + policy.jitter draw attempt) :
  policy.delay? draw attempt = none
  := by
  have hjitter := policy.jitter_le draw attempt
  have hsize : 0 < UInt64.size := by decide
  have hpos : 0 < (policy.backoff attempt).toNat := by omega
  have hlt : 0 < policy.backoff attempt := UInt64.lt_iff_toNat_lt.mpr hpos
  rw [delay?, h, if_pos (by simpa using hlt)]
  apply checkedAdd_eq_none
  rw [policy.toNat_mod_tenth draw attempt hpos]
  exact hexceeds

/-- Jitter keeps a delay within a tenth upward exactly if the sum can be counted. -/
theorem isUpward_iff_lt (h : policy.useJitter = true) :
  policy.IsUpward draw attempt
    ↔ (policy.backoff attempt).toNat + policy.jitter draw attempt < UInt64.size
  := by
  constructor
  · rintro ⟨d, hd, -⟩
    by_contra hexceeds
    cases (delay?_eq_none h (Nat.le_of_not_lt hexceeds)).symm.trans hd
  · intro hfits
    have hjitter := policy.jitter_le draw attempt
    obtain ⟨d, hd, hsum⟩ := delay?_eq_some h hfits
    use d, hd
    omega

/-- With jitter, a delay is within a tenth upward exactly if the sum of the two can be counted in
64 bits, and otherwise there is none.  So all random words are fine exactly where a full tenth
is. -/
theorem jitter_upward_iff (policy : RetryPolicy) (attempt : Nat) (h : policy.useJitter = true) :
  (∀ draw, policy.IsUpward draw attempt
      ↔ (policy.backoff attempt).toNat + policy.jitter draw attempt < 2 ^ 64)
    ∧ (∀ draw, ¬ policy.IsUpward draw attempt → policy.delay? draw attempt = none)
    ∧ ((∀ draw, policy.IsUpward draw attempt)
      ↔ (policy.backoff attempt).toNat + (policy.backoff attempt).toNat / 10 < 2 ^ 64)
  := by
  refine ⟨fun _ => isUpward_iff_lt h, ?_, ?_, ?_⟩
  · intro draw hnot
    rw [isUpward_iff_lt h] at hnot
    exact delay?_eq_none h (Nat.le_of_not_lt hnot)
  · intro hall
    obtain ⟨draw, hdraw⟩ := policy.exists_jitter_eq attempt
    rw [← hdraw]
    exact (isUpward_iff_lt h).mp (hall draw)
  · intro hfits draw
    rw [isUpward_iff_lt h]
    exact Nat.lt_of_le_of_lt (Nat.add_le_add_left (policy.jitter_le draw attempt) _) hfits

/-- Jitter never shortens a second that was doubled 53 times. -/
theorem jitter_upward_seconds :
  ({ useJitter := true } : RetryPolicy).useJitter = true
    ∧ ∀ draw, ({ useJitter := true } : RetryPolicy).IsUpward draw 54
  := ⟨rfl, (jitter_upward_iff { useJitter := true } 54 rfl).2.2.mpr (by decide)⟩

/-- Even the smallest jitter is too much for a delay that has reached the largest word. -/
theorem not_forall_isUpward :
  ¬ ∀ (policy : RetryPolicy) (draw : UInt64) (attempt : Nat), policy.useJitter = true →
    1 ≤ attempt → policy.IsUpward draw attempt
  := by
  intro h
  have hupward := h { baseDelay := UInt64.ofNat (UInt64.size - 1), useJitter := true } 1 1 rfl
    (Nat.le_refl 1)
  exact absurd hupward (by decide)

end RetryPolicy

end Storekeeper
