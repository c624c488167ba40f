/-!
Lengths of time: whole seconds in 64 bits and the nanoseconds beyond them. Milliseconds are counted in 128
bits; who keeps them as a word takes the lower 64.
-/

namespace Swarmkeeper

/-- A length of time. -/
structure Duration where
  seconds : UInt64
  nanos : UInt32
  nanos_lt : nanos.toNat < 1000000000
deriving DecidableEq

namespace Duration

theorem toNat_nanos_of_millis (ms : UInt64) :
    ((ms % 1000).toUInt32 * 1000000).toNat = ms.toNat % 1000 * 1000000 := by
  have hms : (ms % 1000).toNat = ms.toNat % 1000 := UInt64.toNat_mod ..
  have hlt : ms.toNat % 1000 < 1000 := Nat.mod_lt _ (by decide)
  have hword : (ms % 1000).toUInt32.toNat = ms.toNat % 1000 := by
    rw [UInt64.toNat_toUInt32, hms, Nat.mod_eq_of_lt (by omega)]
  rw [UInt32.toNat_mul, hword]
  exact Nat.mod_eq_of_lt (Nat.lt_of_lt_of_le (Nat.mul_lt_mul_of_pos_right hlt (by decide)) (by decide))

/-- A number of milliseconds. -/
def ofMillis (ms : UInt64) : Duration where
  seconds := ms / 1000
  nanos := (ms % 1000).toUInt32 * 1000000
  nanos_lt := by
    rw [toNat_nanos_of_millis]
    omega

/-- A number of seconds. -/
def ofSeconds (seconds : UInt64) : Duration := ⟨seconds, 0, by decide⟩

/-- The whole milliseconds. -/
def wideMillis (d : Duration) : BitVec 128 :=
  d.seconds.toBitVec.setWidth 128 * 1000 + (d.nanos / 1000000).toBitVec.setWidth 128

/-- The lower 64 bits of the whole milliseconds. -/
def millis (d : Duration) : UInt64 := .ofBitVec (d.wideMillis.setWidth 64)

/-- How many milliseconds a timer of one millisecond's accuracy takes: what is begun counts as a whole one. -/
def timerMillis (d : Duration) : Nat := d.seconds.toNat * 1000 + (d.nanos.toNat + 999999) / 1000000

/-- The seconds decide, and then the nanoseconds. -/
instance : LE Duration :=
  ⟨fun d e => d.seconds < e.seconds ∨ (d.seconds = e.seconds ∧ d.nanos ≤ e.nanos)⟩

instance (d e : Duration) : Decidable (d ≤ e) := inferInstanceAs (Decidable (_ ∨ _))

end Duration

end Swarmkeeper
