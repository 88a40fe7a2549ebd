import Mathlib.Data.Int.ModEq
import Mathlib.Tactic.Ring

/-!
# C integers

Signed 32-bit integers are carried as `Int` and unsigned ones as `Nat`.  A
conversion or a sum that can leave the range of its C type is written with
`int32` or `uint32`; everything that is known to stay in range is ordinary
integer arithmetic.
-/

namespace CrystallineLattice.Foundation

/-- The C conversion to `int` (and the wrapped result of an `int` operation). -/
def int32 (n : Int) : Int := (n + 2147483648) % 4294967296 - 2147483648

/-- The C conversion to `uint32_t`. -/
def uint32 (n : Int) : Nat := (n % 4294967296).toNat

def IsInt32 (n : Int) : Prop := -2147483648 ≤ n ∧ n < 2147483648

instance (n : Int) : Decidable (IsInt32 n) := by
  unfold IsInt32
  infer_instance

theorem int32_isInt32 (n : Int) : IsInt32 (int32 n) := by
  unfold IsInt32 int32
  omega

theorem int32_of_isInt32 {n : Int} (h : IsInt32 n) : int32 n = n := by
  unfold IsInt32 at h
  unfold int32
  omega

theorem uint32_of_lt {n : Nat} (h : n < 4294967296) : uint32 n = n := by
  unfold uint32
  omega

end CrystallineLattice.Foundation
