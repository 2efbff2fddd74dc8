import Mathlib.Algebra.Group.Nat.Defs
import Mathlib.Tactic.Common

/-!
# A clock that wraps

A counter of `w` bits shows the time modulo `2 ^ w`. Two of its readings, subtracted, give the time
between them as long as that is less than `2 ^ w`, wherever the counter wrapped in between; and
whatever the time between them is, the difference of the readings is no more than it.

So a program that waits for a period to elapse on the counter never acts early. It acts late only
if it looks at the counter so rarely that the whole counter passes by unseen, and `lt_of_close` says
how often is often enough.

## Main definitions

* `Clock.reading` — what the counter shows
* `Clock.Elapsed` — the period has elapsed, as far as two readings tell

## Main results

* `Clock.le_of_elapsed` — never early
* `Clock.elapsed_iff` — right as long as less than `2 ^ w` has passed
* `Clock.lt_of_close` — looks that follow each other closely see every period out in time
-/

namespace Clock

variable {w : ℕ}

/-- What a counter of `w` bits shows at a time. -/
def reading (w t : ℕ) : BitVec w := BitVec.ofNat w t

/-- The period has elapsed between two readings. -/
def Elapsed (period : ℕ) (since now : BitVec w) : Prop := period ≤ (now - since).toNat

instance (period : ℕ) (since now : BitVec w) : Decidable (Elapsed period since now) :=
  inferInstanceAs (Decidable (_ ≤ _))

/-! ### Two readings -/

/-- The difference of two readings is the time between them, modulo the counter. -/
theorem toNat_reading_sub {since now : ℕ} (h : since ≤ now) :
    (reading w now - reading w since).toNat = (now - since) % 2 ^ w := by
  obtain ⟨d, rfl⟩ := Nat.exists_eq_add_of_le h
  have hsub : reading w (since + d) - reading w since = reading w d := by
    rw [reading, BitVec.ofNat_add, ← reading, ← reading, BitVec.add_comm, BitVec.add_sub_cancel]
  rw [hsub, reading, BitVec.toNat_ofNat, Nat.add_sub_cancel_left]

/-- **Never early.** What has elapsed on the counter has elapsed. -/
theorem le_of_elapsed {period since now : ℕ} (h : since ≤ now)
    (helapsed : Elapsed period (reading w since) (reading w now)) : since + period ≤ now := by
  have hmod : (now - since) % 2 ^ w ≤ now - since := Nat.mod_le _ _
  rw [Elapsed, toNat_reading_sub h] at helapsed
  omega

/-- As long as less than the whole counter has passed, it tells whether the period has. -/
theorem elapsed_iff {period since now : ℕ} (h : since ≤ now) (hlt : now < since + 2 ^ w) :
    Elapsed period (reading w since) (reading w now) ↔ since + period ≤ now := by
  rw [Elapsed, toNat_reading_sub h, Nat.mod_eq_of_lt (by omega)]
  omega

/-! ### A series of looks -/

/-- Two successive looks at the counter are less than the whole counter apart, with the period to
spare. -/
def Close (w period : ℕ) (look next : ℕ) : Prop := next < look + (2 ^ w - period)

/-- **Close looks see every period out in time.** A look before the period is over is followed by
one before the whole counter has passed. -/
theorem lt_of_close {period since look next : ℕ} (hperiod : period ≤ 2 ^ w)
    (hclose : Close w period look next) (hlook : look < since + period) :
    next < since + 2 ^ w := by
  rw [Close] at hclose
  omega

end Clock
