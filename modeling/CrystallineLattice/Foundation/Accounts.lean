import CrystallineLattice.Foundation.Runs
import Mathlib.Algebra.Group.Defs
import Mathlib.Tactic.Abel

/-!
# Balanced books

Where each step of a system takes in as much as it gives out and adds to what it
holds, so does a whole run.
-/

namespace CrystallineLattice.Foundation.System

variable {σ ε M : Type*} [AddCommMonoid M]

def total (S : System σ ε) (f : σ → ε → M) : σ → List ε → M
  | _, [] => 0
  | s, e :: es => f s e + total S f (S.next s e) es

variable {S : System σ ε}

/-- What each step keeps in balance, the run keeps in balance. -/
theorem balanced {held : σ → M} {taken given : σ → ε → M} {C : σ → ε → Prop}
    (hstep : ∀ s e, C s e → held s + taken s e = held (S.next s e) + given s e)
    {s : σ} {es : List ε} (hrun : S.Each C s es) :
    held s + S.total taken s es = held (S.exec s es) + S.total given s es := by
  induction es generalizing s with
  | nil => rfl
  | cons e es ih =>
      calc held s + (taken s e + S.total taken (S.next s e) es)
          = held (S.next s e) + S.total taken (S.next s e) es + given s e := by
            rw [← add_assoc, hstep s e hrun.1]
            abel
        _ = held (S.exec s (e :: es)) + S.total given (S.next s e) es + given s e := by
            rw [ih hrun.2, exec_cons]
        _ = held (S.exec s (e :: es)) + S.total given s (e :: es) := by
            rw [total]
            abel

end CrystallineLattice.Foundation.System
