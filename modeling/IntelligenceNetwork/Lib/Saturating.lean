import Mathlib.Algebra.Order.Ring.Int
import Mathlib.Order.MinMax

/-
  Saturating machine arithmetic.

  Unsigned 64-bit words keep their machine type.  Signed ones
  are integers, clamped where the machine saturates and wrapped
  where it does not check.

  Main declarations:
    * `add`
    * `clampI64`
    * `wrapI64`
-/

----
-- Unsigned Words
----

namespace Saturating

/- The largest unsigned 64-bit word. -/
def maxU64 : UInt64 := 0xffffffffffffffff

section

variable (a b : UInt64)

/- Addition that stops at the largest word. -/
def add : UInt64 :=
  if a + b < a then maxU64 else a + b

/- Subtraction that stops at zero. -/
def sub : UInt64 :=
  if a < b then 0 else a - b

/- Multiplication that stops at the largest word. -/
def mul : UInt64 :=
  if a.toNat * b.toNat < 18446744073709551616 then a * b else maxU64

def add16 (a b : UInt16) : UInt16 :=
  if a.toNat + b.toNat < 65536 then a + b else 0xffff

/- The next byte and the next 32-bit word, if there is one. -/
def succ8 (a : UInt8) : UInt8 :=
  if a = 0xff then a else a + 1

def succ32 (a : UInt32) : UInt32 :=
  if a = 0xffffffff then a else a + 1

theorem le_add_left : a ≤ add a b := by
  unfold add maxU64
  grind

theorem toNat_add (a b : UInt64) : (add a b).toNat =
    min 18446744073709551615 (a.toNat + b.toNat) := by
  have hB := b.toNat_lt
  unfold add
  split_ifs with hWraps
  · rw [UInt64.lt_iff_toNat_lt, UInt64.toNat_add] at hWraps
    change 18446744073709551615 = _
    omega
  · rw [UInt64.lt_iff_toNat_lt, UInt64.toNat_add] at hWraps
    rw [UInt64.toNat_add]
    omega

theorem succ_le_of_lt (hLess : a < b) : add a 1 ≤ b := by
  have hNat := UInt64.lt_iff_toNat_lt.mp hLess
  rw [UInt64.le_iff_toNat_le, toNat_add, UInt64.toNat_one]
  omega

theorem le_max_left : a ≤ max a b := by
  grind [UInt64.max_def]

theorem le_max_right : b ≤ max a b := by
  grind [UInt64.max_def]

end

----
-- Signed Words
----

/- The least and the greatest signed 64-bit word. -/
def minI64 : Int := -9223372036854775808

def maxI64 : Int := 9223372036854775807

/- The nearest signed word. -/
def clampI64 (value : Int) : Int :=
  max minI64 (min value maxI64)

/- The signed word with the same low-order 64 bits. -/
def wrapI64 (value : Int) : Int :=
  Int.bmod value 18446744073709551616

end Saturating
