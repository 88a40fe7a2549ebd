import CrystallineLattice.Stack.Invariant

/-!
# What the windows show

The part of a stack that the owner of a window's pixels relies on: the records
without position, size and snap state.  Users of the stack that only move and
stack windows leave it alone.
-/

namespace CrystallineLattice.Stack

open CrystallineLattice.Foundation

def WindowStack.view (s : WindowStack) (id : Nat) : Option Window :=
  (windowById s id).map Window.content

variable {s s' : WindowStack} {id : Nat}

theorem mem_ids_iff_view : id ∈ s.ids ↔ ∃ w, s.view id = some w := by
  rw [mem_ids_iff]
  simp [WindowStack.view]

theorem view_eq_none (h : id ∉ s.ids) : s.view id = none := by
  rw [WindowStack.view, windowById_eq_none.mpr h, Option.map_none]

theorem view_zero (hs : s.WellFormed) : s.view 0 = none :=
  view_eq_none fun hmem => hs.nonzero 0 hmem rfl

theorem view_eq_some {w : Window} (h : windowById s id = some w) :
    s.view id = some w.content := by
  rw [WindowStack.view, h, Option.map_some]

theorem Rearranges.view_eq (h : Rearranges s s') (id : Nat) : s'.view id = s.view id :=
  h.content id

theorem view_writeById (s : WindowStack) {id : Nat} {f : Window → Window}
    (hf : ∀ w, (f w).id = w.id) :
    (s.writeById id f).view id = (windowById s id).map fun w => (f w).content := by
  rw [WindowStack.view, windowById_writeById s hf, if_pos rfl, Option.map_map]
  rfl

theorem view_writeById_ne (s : WindowStack) {id id' : Nat} {f : Window → Window}
    (hf : ∀ w, (f w).id = w.id) (hne : id' ≠ id) :
    (s.writeById id f).view id' = s.view id' := by
  rw [WindowStack.view, windowById_writeById s hf, if_neg hne, WindowStack.view]

theorem view_append_self {win : Window} (hfresh : win.id ∉ s.ids) (focusId nextId : Nat) :
    WindowStack.view ⟨s.windows ++ [win], focusId, nextId⟩ win.id = some win.content := by
  have hnone : KeyedList.lookup Window.id win.id s.windows = none :=
    KeyedList.lookup_eq_none_iff.mpr hfresh
  rw [WindowStack.view, windowById_eq_lookup, KeyedList.lookup_append, hnone]
  simp [KeyedList.lookup]

theorem view_append_ne (s : WindowStack) {win : Window} (hne : id ≠ win.id)
    (focusId nextId : Nat) :
    WindowStack.view ⟨s.windows ++ [win], focusId, nextId⟩ id = s.view id := by
  have hnone : KeyedList.lookup Window.id id [win] = none :=
    KeyedList.lookup_eq_none_iff.mpr (by simpa using hne)
  rw [WindowStack.view, WindowStack.view, windowById_eq_lookup, windowById_eq_lookup,
    KeyedList.lookup_append, hnone, Option.or_none]

theorem view_windowDestroy_self (hs : s.ids.Nodup) (id : Nat) :
    (windowDestroy s id).view id = none :=
  view_eq_none fun hmem => ((mem_windowDestroy_ids hs).mp hmem).1 rfl

theorem view_windowDestroy_ne (s : WindowStack) {id id' : Nat} (hne : id' ≠ id) :
    (windowDestroy s id).view id' = s.view id' := by
  rw [WindowStack.view, windowDestroy_lookup_ne s hne, WindowStack.view]

end CrystallineLattice.Stack
