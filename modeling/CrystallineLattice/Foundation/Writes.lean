import Mathlib.Data.List.Nodup
import Mathlib.Logic.Function.Basic

/-!
# Lists of writes

A store is a total function, and a request is a list of writes to it.  Where no
key is written twice, a request does the same as any part of it that leaves out
only what the store already has.
-/

namespace CrystallineLattice.Foundation

variable {κ ν : Type*} [DecidableEq κ]

def applyWrites (K : κ → ν) (ws : List (κ × ν)) : κ → ν :=
  ws.foldl (fun K w => Function.update K w.1 w.2) K

namespace Writes

variable {K : κ → ν} {ws ws' : List (κ × ν)} {k : κ} {v : ν}

theorem applyWrites_of_notMem (h : k ∉ ws.map Prod.fst) : applyWrites K ws k = K k := by
  induction ws generalizing K with
  | nil => rfl
  | cons w ws ih =>
      simp only [List.map_cons, List.mem_cons, not_or] at h
      exact (ih h.2).trans (Function.update_of_ne h.1 _ _)

theorem applyWrites_of_mem (hnodup : (ws.map Prod.fst).Nodup) (h : (k, v) ∈ ws) :
    applyWrites K ws k = v := by
  induction ws generalizing K with
  | nil => cases h
  | cons w ws ih =>
      rw [List.map_cons, List.nodup_cons] at hnodup
      rcases List.mem_cons.mp h with rfl | h
      · exact (applyWrites_of_notMem hnodup.1).trans (Function.update_self ..)
      · exact ih hnodup.2 h

/-- What the store already has need not be written. -/
theorem applyWrites_skip (hnodup : (ws.map Prod.fst).Nodup) (hnodup' : (ws'.map Prod.fst).Nodup)
    (hsubset : ws' ⊆ ws) (hrest : ∀ w ∈ ws, w ∉ ws' → K w.1 = w.2) :
    applyWrites K ws' = applyWrites K ws := by
  funext k
  by_cases hk : k ∈ ws.map Prod.fst
  · obtain ⟨w, hw, rfl⟩ := List.mem_map.mp hk
    rw [applyWrites_of_mem hnodup hw]
    by_cases hw' : w ∈ ws'
    · exact applyWrites_of_mem hnodup' hw'
    · have hunwritten : w.1 ∉ ws'.map Prod.fst := by
        intro hmem
        obtain ⟨w', hmem', heq⟩ := List.mem_map.mp hmem
        exact hw' (List.inj_on_of_nodup_map hnodup (hsubset hmem') hw heq ▸ hmem')
      exact (applyWrites_of_notMem hunwritten).trans (hrest w hw hw')
  · have hk' : k ∉ ws'.map Prod.fst := fun h => hk (List.map_subset _ hsubset h)
    rw [applyWrites_of_notMem hk, applyWrites_of_notMem hk']

end Writes

end CrystallineLattice.Foundation
