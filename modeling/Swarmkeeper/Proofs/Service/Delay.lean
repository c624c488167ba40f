import Mathlib.Data.UInt
import Swarmkeeper.Service.Backoff

/-!
# Delays as numbers

A delay is computed with words of 32, 64 and 128 bits, and what comes out is what the formula says over the
natural numbers. The only operation that can leave its word is the product, and it saturates: a product that
saturates is above every cap, so that the minimum after it hides the difference.
-/

namespace Swarmkeeper

/-! ## Milliseconds -/

namespace Duration

variable {d e : Duration} {x y : UInt64}

/-- The length in nanoseconds. -/
def nanoseconds (d : Duration) : Nat := d.seconds.toNat * 1000000000 + d.nanos.toNat

theorem le_iff_nanoseconds_le : d ≤ e ↔ d.nanoseconds ≤ e.nanoseconds := by
  have hd := d.nanos_lt
  have he := e.nanos_lt
  have hle : d ≤ e ↔ d.seconds.toNat < e.seconds.toNat ∨
      (d.seconds.toNat = e.seconds.toNat ∧ d.nanos.toNat ≤ e.nanos.toNat) := by
    rw [UInt64.toNat_inj]
    rfl
  rw [hle, nanoseconds, nanoseconds]
  omega

theorem toNat_wideMillis (d : Duration) :
    d.wideMillis.toNat = d.seconds.toNat * 1000 + d.nanos.toNat / 1000000 := by
  have hs := d.seconds.toNat_lt
  have hn := d.nanos_lt
  have hq : (d.nanos / 1000000).toBitVec.toNat = d.nanos.toNat / 1000000 := UInt32.toNat_div ..
  have hthousand : (1000 : BitVec 128).toNat = 1000 := rfl
  rw [wideMillis, BitVec.toNat_add, BitVec.toNat_mul, BitVec.toNat_setWidth, BitVec.toNat_setWidth, hq,
    hthousand, UInt64.toNat_toBitVec]
  omega

theorem toNat_seconds_ofMillis (x : UInt64) : (ofMillis x).seconds.toNat = x.toNat / 1000 :=
  UInt64.toNat_div ..

theorem toNat_nanos_ofMillis (x : UInt64) : (ofMillis x).nanos.toNat = x.toNat % 1000 * 1000000 :=
  toNat_nanos_of_millis x

/-- No millisecond is lost on the way to seconds and nanoseconds. -/
theorem nanoseconds_ofMillis (x : UInt64) : (ofMillis x).nanoseconds = x.toNat * 1000000 := by
  rw [nanoseconds, toNat_seconds_ofMillis, toNat_nanos_ofMillis]
  omega

@[simp] theorem toNat_wideMillis_ofMillis (x : UInt64) : (ofMillis x).wideMillis.toNat = x.toNat := by
  rw [toNat_wideMillis, toNat_seconds_ofMillis, toNat_nanos_ofMillis]
  omega

/-- Nothing is lost between a number of milliseconds and its length of time. -/
@[simp] theorem millis_ofMillis (x : UInt64) : (ofMillis x).millis = x := by
  rw [← UInt64.toNat_inj, millis, UInt64.toNat_ofBitVec, BitVec.toNat_setWidth, toNat_wideMillis_ofMillis]
  exact Nat.mod_eq_of_lt x.toNat_lt

/-- Durations are compared as their milliseconds are. -/
theorem ofMillis_le_ofMillis : ofMillis x ≤ ofMillis y ↔ x.toNat ≤ y.toNat := by
  rw [le_iff_nanoseconds_le, nanoseconds_ofMillis, nanoseconds_ofMillis]
  omega

end Duration

/-! ## The delay after an attempt -/

namespace Service.RetryPolicy

variable {p q : RetryPolicy} {a b : UInt32} {x y : UInt64}

/-- The exponent stays below the width of a word. -/
theorem toNat_doublings (a : UInt32) : (doublings a).toNat = min (a.toNat - 1) 31 := by
  have hbefore : (if a = 0 then 0 else a - 1 : UInt32).toNat = a.toNat - 1 := by
    split
    · rename_i h
      rw [h]
      rfl
    · rename_i h
      have hpos : 1 ≤ a.toNat := Nat.one_le_iff_ne_zero.mpr fun h0 => h (UInt32.toNat_inj.mp h0)
      exact UInt32.toNat_sub_of_le _ _ hpos
  rw [doublings, UInt32.toNat_min, hbefore]
  rfl

/-- A word has room for 31 doublings. -/
theorem toNat_growth (a : UInt32) : (growth a).toNat = 2 ^ min (a.toNat - 1) 31 := by
  have hle : min (a.toNat - 1) 31 ≤ 31 := Nat.min_le_right _ _
  have hfits : 2 ^ min (a.toNat - 1) 31 < 2 ^ 64 := Nat.pow_lt_pow_right (by decide) (by omega)
  rw [growth, UInt64.toNat_shiftLeft, UInt32.toNat_toUInt64, toNat_doublings,
    Nat.mod_eq_of_lt (by omega : min (a.toNat - 1) 31 < 64), Nat.shiftLeft_eq]
  exact (congrArg (· % 2 ^ 64) (Nat.one_mul _)).trans (Nat.mod_eq_of_lt hfits)

/-- The product of two words is their product, or the greatest word. -/
theorem toNat_saturatingMul (x y : UInt64) :
    (saturatingMul x y).toNat = min (x.toNat * y.toNat) (2 ^ 64 - 1) := by
  have hsize : UInt64.size = 2 ^ 64 := rfl
  unfold saturatingMul
  split
  · rename_i h
    rw [UInt64.toNat_mul, Nat.mod_eq_of_lt h]
    omega
  · rename_i h
    have hgreatest : (0xFFFFFFFFFFFFFFFF : UInt64).toNat = 2 ^ 64 - 1 := rfl
    rw [hgreatest]
    omega

/-- The delay in milliseconds, computed without a bound. -/
def delayMillis (p : RetryPolicy) (attempt : Nat) : Nat :=
  min (p.baseDelay.toNat * 2 ^ min (attempt - 1) 31) p.maxDelay.toNat

/-- The delay in words is the formula in numbers: where the product saturates the cap is below it. -/
theorem exists_delayAfter_eq (p : RetryPolicy) (a : UInt32) :
    ∃ x : UInt64, p.delayAfter a = .ofMillis x ∧ x.toNat = p.delayMillis a.toNat := by
  refine ⟨_, rfl, ?_⟩
  -- The cap is a word itself, so that it hides where the product was cut off.
  have hcap := p.maxDelay.toNat_lt
  rw [UInt64.toNat_min, toNat_saturatingMul, toNat_growth, base, cap, Duration.millis_ofMillis,
    Duration.millis_ofMillis, delayMillis]
  omega

/-- A greater base, a greater cap or a later attempt never makes a delay shorter. -/
theorem delayMillis_mono (hb : p.baseDelay.toNat ≤ q.baseDelay.toNat)
    (hc : p.maxDelay.toNat ≤ q.maxDelay.toNat) {m n : Nat} (hmn : m ≤ n) :
    p.delayMillis m ≤ q.delayMillis n := by
  have hexp : min (m - 1) 31 ≤ min (n - 1) 31 := by omega
  have hpow : 2 ^ min (m - 1) 31 ≤ 2 ^ min (n - 1) 31 := Nat.pow_le_pow_right (by decide) hexp
  have hmul := Nat.mul_le_mul hb hpow
  rw [delayMillis, delayMillis]
  omega

theorem delayFor_toNat (p : RetryPolicy) (a : UInt32) : p.delayFor a.toNat = p.delayMillis a.toNat := by
  obtain ⟨x, hx, hn⟩ := exists_delayAfter_eq p a
  rw [delayFor, UInt32.ofNat_toNat, hx, Duration.toNat_wideMillis_ofMillis, hn]

/-- What the delays of a policy come to. -/
structure ExactDelays (p : RetryPolicy) : Prop where
  exact : ∀ a : UInt32, (p.delayAfter a).nanoseconds =
    min (p.baseDelay.toNat * 2 ^ min (a.toNat - 1) 31) p.maxDelay.toNat * 1000000
  /-- So it is told to callers, in milliseconds. -/
  told : ∀ a : UInt32,
    p.delayFor a.toNat = min (p.baseDelay.toNat * 2 ^ min (a.toNat - 1) 31) p.maxDelay.toNat
  zero : p.delayAfter 0 = p.delayAfter 1
  /-- No bit is shifted out. -/
  shift : ∀ a, (growth a).toNat = 2 ^ min (a.toNat - 1) 31
  /-- The product is cut off at the greatest word and never wraps. -/
  product : ∀ a, (saturatingMul p.base.millis (growth a)).toNat =
    min (p.baseDelay.toNat * 2 ^ min (a.toNat - 1) 31) (2 ^ 64 - 1)
  /-- What is read off the two lengths of time is what they were made of. -/
  conversions : p.base.wideMillis.toNat = p.baseDelay.toNat ∧ p.base.millis = p.baseDelay ∧
    p.cap.wideMillis.toNat = p.maxDelay.toNat ∧ p.cap.millis = p.maxDelay
  le_cap : ∀ a, p.delayAfter a ≤ p.cap
  monotone : ∀ (q : RetryPolicy) (a b : UInt32), a ≤ b → p.base ≤ q.base → p.cap ≤ q.cap →
    p.delayAfter a ≤ q.delayAfter b

/-- Machine arithmetic gives the delays of the formula over all numbers: the base doubled for each attempt,
up to the cap. -/
theorem delays_exact (p : RetryPolicy) : ExactDelays p where
  exact a := by
    obtain ⟨x, hx, hn⟩ := exists_delayAfter_eq p a
    rw [hx, Duration.nanoseconds_ofMillis, hn, delayMillis]
  told := delayFor_toNat p
  zero := rfl
  shift := toNat_growth
  product a := by rw [toNat_saturatingMul, toNat_growth, base, Duration.millis_ofMillis]
  conversions := by simp [base, cap]
  le_cap a := by
    obtain ⟨x, hx, hn⟩ := exists_delayAfter_eq p a
    rw [hx, cap, Duration.ofMillis_le_ofMillis, hn]
    exact Nat.min_le_right _ _
  monotone q a b hab hbase hcap := by
    obtain ⟨x, hx, hxn⟩ := exists_delayAfter_eq p a
    obtain ⟨y, hy, hyn⟩ := exists_delayAfter_eq q b
    rw [hx, hy, Duration.ofMillis_le_ofMillis, hxn, hyn]
    exact delayMillis_mono (Duration.ofMillis_le_ofMillis.mp hbase)
      (Duration.ofMillis_le_ofMillis.mp hcap) (UInt32.le_iff_toNat_le.mp hab)

/-- A base that no doubling leaves inside the word, and no cap below it. -/
example : (⟨0x8000000000000000, 0xFFFFFFFFFFFFFFFF, 5⟩ : RetryPolicy).delayAfter 2 =
    .ofMillis 0xFFFFFFFFFFFFFFFF := by decide

end Service.RetryPolicy

end Swarmkeeper
