import Mathlib.Data.Int.Order.Basic

/-!
# Counting loops that can fail

`forRange lo hi body s` is `for (i = lo; i < hi; i++) s = body(i, s)`, where the
body may fail and failure stops the loop.  The first rule gives total
correctness from a loop invariant; the second decides whether a loop fails when
the success of an iteration does not depend on the earlier ones.
-/

namespace CrystallineLattice.Foundation

variable {σ : Type*}

def forRange.go (body : Int → σ → Option σ) : Nat → Int → σ → Option σ
  | 0, _, s => some s
  | n + 1, i, s => (body i s).bind (go body n (i + 1))

def forRange (lo hi : Int) (body : Int → σ → Option σ) (s : σ) : Option σ :=
  forRange.go body (hi - lo).toNat lo s

variable {lo hi : Int} {body : Int → σ → Option σ} {s : σ}

/-- An invariant that holds at `lo` and is kept by each iteration holds at the end. -/
theorem forRange_rule {P : Int → σ → Prop} (hinit : P lo s)
    (hstep : ∀ i s, lo ≤ i → i < hi → P i s → ∃ s', body i s = some s' ∧ P (i + 1) s') :
    ∃ s', forRange lo hi body s = some s' ∧ P (max lo hi) s' := by
  have hgo : ∀ (n : Nat) (i : Int) (s : σ), lo ≤ i → n = (hi - i).toNat → i ≤ max lo hi →
      P i s → ∃ s', forRange.go body n i s = some s' ∧ P (max lo hi) s' := by
    intro n
    induction n with
    | zero =>
        intro i s hlo hn hmax hP
        have hi' : i = max lo hi := by omega
        exact ⟨s, rfl, hi' ▸ hP⟩
    | succ n ih =>
        intro i s hlo hn hmax hP
        obtain ⟨t, ht, hPt⟩ := hstep i s hlo (by omega) hP
        obtain ⟨s', hs', hPs'⟩ := ih (i + 1) t (by omega) (by omega) (by omega) hPt
        exact ⟨s', by simp [forRange.go, ht, hs'], hPs'⟩
  exact hgo _ lo s (Int.le_refl _) rfl (by omega) hinit

theorem forRange_keeps {I : σ → Prop} (hinit : I s)
    (hstep : ∀ i s, lo ≤ i → i < hi → I s → ∃ s', body i s = some s' ∧ I s') :
    ∃ s', forRange lo hi body s = some s' ∧ I s' :=
  forRange_rule (P := fun _ => I) hinit hstep

/--
If iteration `i` succeeds exactly when `ok i` holds, from every state that
satisfies `I`, then one iteration that is not `ok` makes the loop fail.
-/
theorem forRange_fails {I : σ → Prop} (ok : Int → Prop) (hinit : I s)
    (hok : ∀ i s, lo ≤ i → i < hi → I s → ok i → ∃ s', body i s = some s' ∧ I s')
    (hfail : ∀ i s, lo ≤ i → i < hi → I s → ¬ ok i → body i s = none)
    (hbad : ∃ i, lo ≤ i ∧ i < hi ∧ ¬ ok i) : forRange lo hi body s = none := by
  obtain ⟨j, hlo, hhi, hj⟩ := hbad
  have hgo : ∀ (n : Nat) (i : Int) (s : σ), lo ≤ i → i ≤ j → n = (hi - i).toNat → I s →
      forRange.go body n i s = none := by
    intro n
    induction n with
    | zero =>
        intro i s _ _ hn _
        omega
    | succ n ih =>
        intro i s hi_lo hij hn hI
        by_cases hi_ok : ok i
        · obtain ⟨t, ht, hIt⟩ := hok i s hi_lo (by omega) hI hi_ok
          have hne : i ≠ j := fun e => hj (e ▸ hi_ok)
          simpa [forRange.go, ht] using ih (i + 1) t (by omega) (by omega) (by omega) hIt
        · simp [forRange.go, hfail i s hi_lo (by omega) hI hi_ok]
  exact hgo _ lo s (Int.le_refl _) hlo rfl hinit

end CrystallineLattice.Foundation
