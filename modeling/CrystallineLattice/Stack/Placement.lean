import CrystallineLattice.Stack.Invariant

/-!
# Where the windows are

The rectangles of the stack's windows, apart from what the windows show.
-/

namespace CrystallineLattice.Stack

open CrystallineLattice.Foundation

structure Place where
  id : Nat
  role : WinRole
  x : Int
  y : Int
  w : Int
  h : Int
  deriving DecidableEq, Repr

def Window.place (w : Window) : Place := ⟨w.id, w.role, w.x, w.y, w.w, w.h⟩

def WindowStack.places (s : WindowStack) : List Place := s.windows.map Window.place

/-- The window has a size, and the sums formed with its rectangle fit in an `int`. -/
structure Place.Sound (p : Place) : Prop where
  width : 1 ≤ p.w
  height : 1 ≤ p.h
  right : IsInt32 (p.x + p.w)
  bottom : IsInt32 (p.y + p.h)
  bar : IsInt32 (p.y + decorTitlebarH)

instance (p : Place) : Decidable p.Sound :=
  decidable_of_iff (1 ≤ p.w ∧ 1 ≤ p.h ∧ IsInt32 (p.x + p.w) ∧ IsInt32 (p.y + p.h) ∧
      IsInt32 (p.y + decorTitlebarH))
    ⟨fun ⟨hw, hh, hr, hb, ht⟩ => ⟨hw, hh, hr, hb, ht⟩,
      fun ⟨hw, hh, hr, hb, ht⟩ => ⟨hw, hh, hr, hb, ht⟩⟩

section Places

variable {s : WindowStack} {id : Nat} {p : Place}

theorem mem_places_of_windowById {w : Window} (h : windowById s id = some w) :
    w.place ∈ s.places :=
  List.mem_map_of_mem (mem_of_windowById h)

theorem windowById_of_place (hs : s.ids.Nodup) (hp : p ∈ s.places) :
    ∃ w, windowById s p.id = some w ∧ w.place = p := by
  obtain ⟨w, hmem, rfl⟩ := List.mem_map.mp hp
  refine ⟨w, ?_, rfl⟩
  rw [windowById_eq_lookup]
  exact (KeyedList.lookup_eq_some_iff hs).mpr ⟨hmem, rfl⟩

theorem places_destroy (s : WindowStack) (id : Nat) : (windowDestroy s id).places ⊆ s.places := by
  rw [WindowStack.places, windowDestroy_windows]
  exact ((KeyedList.remove_sublist id s.windows).map Window.place).subset

theorem places_redraw (s : WindowStack) (id : Nat) {f : Window → Window}
    (hf : ∀ w, (f w).place = w.place) : (s.writeById id f).places = s.places :=
  KeyedList.map_update hf s.windows

theorem mem_places_write (s : WindowStack) {f : Window → Window} (hf : ∀ w, (f w).id = w.id)
    (hp : p ∈ (s.writeById id f).places) : p ∈ s.places ∨ p.id = id := by
  obtain ⟨w', hw', rfl⟩ := List.mem_map.mp hp
  rcases KeyedList.mem_update hw' with hold | ⟨v, hv, rfl⟩
  · exact .inl (List.mem_map_of_mem hold)
  · rw [← windowById_eq_lookup] at hv
    exact .inr ((hf v).trans (id_of_windowById hv))

theorem places_write (s : WindowStack) {f : Window → Window} (hf : ∀ w, (f w).id = w.id)
    {w : Window} (hw : windowById s id = some w) :
    (f w).place ∈ (s.writeById id f).places ∧
      (s.writeById id f).places ⊆ (f w).place :: s.places := by
  have hnew : windowById (s.writeById id f) id = some (f w) := by
    rw [windowById_writeById s hf, if_pos rfl, hw]
    rfl
  refine ⟨mem_places_of_windowById hnew, fun p hp => ?_⟩
  obtain ⟨w', hw', rfl⟩ := List.mem_map.mp hp
  rcases KeyedList.mem_update hw' with hold | ⟨v, hv, rfl⟩
  · exact List.mem_cons_of_mem _ (List.mem_map_of_mem hold)
  · rw [← windowById_eq_lookup, hw] at hv
    cases hv
    exact List.mem_cons_self

theorem places_raise (s : WindowStack) (id : Nat) : (windowRaise s id).places.Perm s.places := by
  rw [windowRaise_eq]
  exact (KeyedList.toEnd_perm id s.windows).map Window.place

theorem places_focus (s : WindowStack) (id : Nat) : (windowFocus s id).places.Perm s.places := by
  unfold windowFocus
  split
  · exact List.Perm.refl _
  · split
    · exact List.Perm.refl _
    · exact places_raise _ id

theorem places_focusCycle (s : WindowStack) (dir : Int) :
    (windowFocusCycle s dir).places.Perm s.places := by
  unfold windowFocusCycle
  split
  · exact List.Perm.refl _
  · dsimp only
    split
    · exact places_focus s _
    · exact List.Perm.refl _

theorem places_lower (s : WindowStack) (id : Nat) : (windowLower s id).places.Perm s.places := by
  rw [windowLower_eq]
  exact (KeyedList.toFront_perm id s.windows).map Window.place

end Places

end CrystallineLattice.Stack
