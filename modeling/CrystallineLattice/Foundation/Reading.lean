import Mathlib.Data.List.Basic
import Mathlib.Logic.Function.DependsOn

/-!
# Computations that read a store

A `Reading` asks for cells of a store one after the other; what it asks for next
may depend on the answers.  It is run on a store, and the cells it asked for in
that run can be listed.  It does not tell two stores apart that agree on them.
-/

namespace CrystallineLattice.Foundation

universe u

/-- A computation over a store with cells `ι` that hold values `β`. -/
inductive Reading (ι β : Type*) (α : Type u) where
  | done (a : α)
  | ask (i : ι) (next : β → Reading ι β α)

namespace Reading

variable {ι β : Type*} {α γ : Type u}

def run (store : ι → β) : Reading ι β α → α
  | .done a => a
  | .ask i next => (next (store i)).run store

/-- The cells that are asked for, in this order. -/
def cells (store : ι → β) : Reading ι β α → List ι
  | .done _ => []
  | .ask i next => i :: (next (store i)).cells store

def andThen : Reading ι β α → (α → Reading ι β γ) → Reading ι β γ
  | .done a, f => f a
  | .ask i next, f => .ask i fun b => (next b).andThen f

instance : Monad (Reading ι β) where
  pure := .done
  bind := andThen

def cell {β : Type u} (i : ι) : Reading ι β β := .ask i .done

def cellsAt {β : Type u} : List ι → Reading ι β (List β)
  | [] => pure []
  | i :: is => do
      let b ← cell i
      let bs ← cellsAt is
      return b :: bs

/-! ## Running -/

section

variable {store : ι → β}

@[simp] theorem run_pure (a : α) : (pure a : Reading ι β α).run store = a := rfl

@[simp] theorem run_bind (r : Reading ι β α) (f : α → Reading ι β γ) :
    (r >>= f).run store = (f (r.run store)).run store := by
  induction r with
  | done a => rfl
  | ask i next ih => exact ih (store i)

@[simp] theorem run_ite (c : Prop) [Decidable c] (r r' : Reading ι β α) :
    (if c then r else r').run store = if c then r.run store else r'.run store :=
  apply_ite (run store) c r r'

@[simp] theorem cells_pure (a : α) : (pure a : Reading ι β α).cells store = [] := rfl

@[simp] theorem cells_bind (r : Reading ι β α) (f : α → Reading ι β γ) :
    (r >>= f).cells store = r.cells store ++ (f (r.run store)).cells store := by
  induction r with
  | done a => rfl
  | ask i next ih => exact congrArg (i :: ·) (ih (store i))

end

section

variable {β : Type u} {store : ι → β}

@[simp] theorem run_cell (i : ι) : (cell i : Reading ι β β).run store = store i := rfl

@[simp] theorem cells_cell (i : ι) : (cell i : Reading ι β β).cells store = [i] := rfl

@[simp] theorem run_cellsAt (is : List ι) :
    (cellsAt is : Reading ι β (List β)).run store = is.map store := by
  induction is with
  | nil => rfl
  | cons i is ih => simp [cellsAt, ih]

@[simp] theorem cells_cellsAt (is : List ι) :
    (cellsAt is : Reading ι β (List β)).cells store = is := by
  induction is with
  | nil => rfl
  | cons i is ih => simp [cellsAt, ih]

end

/-! ## What is read -/

/-- Every cell that is asked for satisfies `P`. -/
def Reads (store : ι → β) (P : ι → Prop) (r : Reading ι β α) : Prop :=
  ∀ i ∈ r.cells store, P i

section

variable {store store' : ι → β} {P Q : ι → Prop}

@[simp] theorem reads_pure (a : α) : (pure a : Reading ι β α).Reads store P := by
  simp [Reads]

@[simp] theorem reads_bind (r : Reading ι β α) (f : α → Reading ι β γ) :
    (r >>= f).Reads store P ↔ r.Reads store P ∧ (f (r.run store)).Reads store P := by
  simp [Reads, or_imp, forall_and]

theorem Reads.mono {r : Reading ι β α} (h : r.Reads store P) (hPQ : ∀ i, P i → Q i) :
    r.Reads store Q := fun i hi => hPQ i (h i hi)

theorem run_congr {r : Reading ι β α} (h : r.Reads store fun i => store i = store' i) :
    r.run store = r.run store' := by
  induction r with
  | done a => rfl
  | ask i next ih =>
      have hhead : store i = store' i := h i List.mem_cons_self
      have htail := ih (store i) fun i' hi' => h i' (List.mem_cons_of_mem _ hi')
      simp only [run, ← hhead]
      exact htail

/-- What reads cells of `s` only depends on those only. -/
theorem dependsOn_run {r : Reading ι β α} {s : Set ι}
    (h : ∀ store : ι → β, r.Reads store (· ∈ s)) : DependsOn (fun store => r.run store) s :=
  fun store _ hagree => run_congr ((h store).mono hagree)

end

section

variable {β : Type u} {store : ι → β} {P : ι → Prop}

@[simp] theorem reads_cell (i : ι) : (cell i : Reading ι β β).Reads store P ↔ P i := by
  simp [Reads]

@[simp] theorem reads_cellsAt (is : List ι) :
    (cellsAt is : Reading ι β (List β)).Reads store P ↔ ∀ i ∈ is, P i := by
  simp [Reads]

end

end Reading

end CrystallineLattice.Foundation
