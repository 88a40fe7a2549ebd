import Mathlib.Logic.Function.Basic

/-!
# Partial maps

A heap or a table of records is a function into `Option`, written with
`Function.update`.  What is found after a write is what was written, or what was
there under another key.
-/

namespace CrystallineLattice.Foundation.PartialMap

variable {κ α : Type*} [DecidableEq κ] {m : κ → Option α} {k k' : κ} {a b : α}

theorem found_of_store (h : Function.update m k (some a) k' = some b) :
    k' = k ∧ b = a ∨ k' ≠ k ∧ m k' = some b := by
  by_cases heq : k' = k
  · rw [heq, Function.update_self] at h
    exact .inl ⟨heq, (Option.some.inj h).symm⟩
  · rw [Function.update_of_ne heq] at h
    exact .inr ⟨heq, h⟩

theorem found_of_erase (h : Function.update m k none k' = some b) : k' ≠ k ∧ m k' = some b := by
  by_cases heq : k' = k
  · rw [heq, Function.update_self] at h
    cases h
  · rw [Function.update_of_ne heq] at h
    exact ⟨heq, h⟩

theorem found_of_ne (hne : k' ≠ k) (o : Option α) (h : m k' = some b) :
    Function.update m k o k' = some b := by
  rw [Function.update_of_ne hne, h]

end CrystallineLattice.Foundation.PartialMap
