import CrystallineLattice.Stack.Invariant

/-!
# The mappings that windows show

A pane is a window's view of a client mapping: where the mapping is, and the size
and the stride with which the compositor walks through it.  Moving and stacking
windows changes no pane.
-/

namespace CrystallineLattice.Stack

open CrystallineLattice.Foundation

structure Pane where
  id : Nat
  base : Nat
  bufW : Int
  bufH : Int
  bufStride : Int
  deriving DecidableEq, Repr

def Window.pane (w : Window) : Option Pane :=
  match w.buf with
  | .mapping base => some ⟨w.id, base, w.bufW, w.bufH, w.bufStride⟩
  | _ => none

def WindowStack.panes (s : WindowStack) : List Pane := s.windows.filterMap Window.pane

variable {s s' : WindowStack} {id : Nat} {p : Pane}

theorem mem_panes : p ∈ s.panes ↔ ∃ w ∈ s.windows, w.pane = some p := List.mem_filterMap

theorem Window.pane_of_mapping {w : Window} {base : Nat} (h : w.buf = .mapping base) :
    w.pane = some ⟨w.id, base, w.bufW, w.bufH, w.bufStride⟩ := by
  simp [pane, h]

theorem Window.pane_eq_some {w : Window} (h : w.pane = some p) :
    w.buf = .mapping p.base ∧ p = ⟨w.id, p.base, w.bufW, w.bufH, w.bufStride⟩ := by
  cases hbuf : w.buf <;> simp [pane, hbuf] at h
  subst h
  simp

theorem Window.pane_content (w : Window) : w.content.pane = w.pane := rfl

theorem Window.pane_of_null {w : Window} (h : w.buf = .null) : w.pane = none := by
  simp [pane, h]

/-! ## One lemma for each way to change a stack -/

theorem mem_panes_write {f : Window → Window} (h : p ∈ (s.writeById id f).panes) :
    p ∈ s.panes ∨ ∃ w, windowById s id = some w ∧ (f w).pane = some p := by
  obtain ⟨w', hw', hp⟩ := mem_panes.mp h
  rcases KeyedList.mem_update hw' with hold | ⟨w, hw, rfl⟩
  · exact .inl (mem_panes.mpr ⟨w', hold, hp⟩)
  · rw [← windowById_eq_lookup] at hw
    exact .inr ⟨w, hw, hp⟩

theorem panes_redraw (s : WindowStack) (id : Nat) {f : Window → Window}
    (hf : ∀ w p, (f w).pane = some p → w.pane = some p) :
    (s.writeById id f).panes ⊆ s.panes := by
  intro p hp
  rcases mem_panes_write hp with hold | ⟨w, hw, hnew⟩
  · exact hold
  · exact mem_panes.mpr ⟨w, mem_of_windowById hw, hf w p hnew⟩

theorem panes_clear (s : WindowStack) (id : Nat) :
    (s.writeById id fun w => { w with buf := .null }).panes ⊆ s.panes :=
  panes_redraw s id fun _ _ h => by simp [Window.pane] at h

theorem panes_destroy (s : WindowStack) (id : Nat) : (windowDestroy s id).panes ⊆ s.panes := by
  rw [WindowStack.panes, windowDestroy_windows]
  exact ((KeyedList.remove_sublist id s.windows).filterMap Window.pane).subset

theorem panes_raise (s : WindowStack) (id : Nat) : (windowRaise s id).panes ⊆ s.panes := by
  rw [windowRaise_eq]
  exact ((KeyedList.toEnd_perm id s.windows).filterMap Window.pane).subset

theorem panes_focus (s : WindowStack) (id : Nat) : (windowFocus s id).panes ⊆ s.panes := by
  unfold windowFocus
  split
  · exact List.Subset.refl _
  · split
    · exact List.Subset.refl _
    · exact panes_raise _ id

theorem panes_append (s : WindowStack) {w : Window} (hw : w.buf = .null) (focusId nextId : Nat) :
    WindowStack.panes ⟨s.windows ++ [w], focusId, nextId⟩ = s.panes := by
  simp [WindowStack.panes, Window.pane_of_null hw]

theorem windowById_of_pane (hs : s.ids.Nodup) (hp : p ∈ s.panes) :
    ∃ w, windowById s p.id = some w ∧ w.pane = some p := by
  obtain ⟨w, hw, hpane⟩ := mem_panes.mp hp
  refine ⟨w, ?_, hpane⟩
  rw [(w.pane_eq_some hpane).2, windowById_eq_lookup]
  exact (KeyedList.lookup_eq_some_iff hs).mpr ⟨hw, rfl⟩

theorem id_mem_of_pane (hp : p ∈ s.panes) : p.id ∈ s.ids := by
  obtain ⟨w, hw, hpane⟩ := mem_panes.mp hp
  rw [(w.pane_eq_some hpane).2]
  exact List.mem_map_of_mem hw

theorem mem_panes_of_content (hs : s.ids.Nodup) (hp : p ∈ s.panes)
    (hcontent : (windowById s' p.id).map Window.content =
      (windowById s p.id).map Window.content) : p ∈ s'.panes := by
  obtain ⟨w, hw, hpane⟩ := windowById_of_pane hs hp
  rw [hw, Option.map_some] at hcontent
  obtain ⟨w', hw', hsame⟩ := Option.map_eq_some_iff.mp hcontent
  refine mem_panes.mpr ⟨w', mem_of_windowById hw', ?_⟩
  rw [← w'.pane_content, hsame, w.pane_content, hpane]

theorem Rearranges.panes (h : Rearranges s s') (hs : s.ids.Nodup) : s'.panes ⊆ s.panes :=
  fun p hp => mem_panes_of_content (h.ids.nodup_iff.mpr hs) hp (h.content p.id).symm

end CrystallineLattice.Stack
