import CrystallineLattice.Manager.Model

/-!
# Which windows the window manager resizes

The window manager changes a window's size in two places: when a drag ends at an
edge of the screen, and when a snapped window is dragged away by its title bar.
-/

namespace CrystallineLattice.Manager

open CrystallineLattice.Foundation
open CrystallineLattice.Stack

def windowSize (s : WindowStack) (id : Nat) : Option (Int × Int) :=
  (windowById s id).map fun w => (w.w, w.h)

def sizeGiven (w : Window) (nw nh : Int) : Int × Int :=
  (if 0 < nw then nw else w.w, if 0 < nh then nh else w.h)

def floatingSize (w : Window) : Int × Int := sizeGiven w w.savedW w.savedH

/-- The window that a press resizes: the snapped window whose title bar is under the cursor. -/
def pressResizes (wm : Wm) : Option Nat :=
  match windowAt wm.stack wm.cursorX wm.cursorY with
  | none => none
  | some w =>
      if windowHasSsd w ∧ wm.cursorY - w.y < decorTitlebarH ∧ w.snapped ∧
          floatingSize w ≠ (w.w, w.h) then
        some w.id
      else none

/-- The window that a release resizes: the dragged window, if the cursor is at an edge. -/
def releaseResizes (wm : Wm) : Option Nat :=
  if wm.moving then
    match windowById wm.stack wm.moveId, snapTarget wm with
    | some w, some n =>
        if windowHasSsd w ∧ sizeGiven w n.w n.h ≠ (w.w, w.h) then some wm.moveId else none
    | _, _ => none
  else none

def buttonResizes (wm : Wm) (button : Nat) (pressed : Bool) : Option Nat :=
  if button ≠ wmBtnLeft then none
  else if pressed then pressResizes wm
  else releaseResizes wm

variable {s : WindowStack} {wm : Wm}

theorem windowById_windowFocus (hs : s.ids.Nodup) (id id' : Nat) :
    windowById (windowFocus s id) id' = windowById s id' := by
  unfold windowFocus
  cases windowById s id with
  | none => rfl
  | some w =>
      dsimp only
      split
      · rfl
      · rw [windowRaise_eq]
        simp only [windowById_eq_lookup]
        exact KeyedList.lookup_perm hs (KeyedList.toEnd_perm id s.windows)

theorem windowById_windowAt (hs : s.ids.Nodup) {gx gy : Int} {w : Window}
    (h : windowAt s gx gy = some w) : windowById s w.id = some w := by
  rw [windowById_eq_lookup]
  have hmem := List.mem_reverse.mp (List.mem_of_find?_eq_some h)
  exact (KeyedList.lookup_eq_some_iff hs).mpr ⟨hmem, rfl⟩

theorem windowSize_congr {s' : WindowStack} {id : Nat}
    (h : windowById s' id = windowById s id) : windowSize s' id = windowSize s id := by
  rw [windowSize, windowSize, h]

theorem windowSize_writeById {f : Window → Window}
    (hf : ∀ w, (f w).id = w.id ∧ (f w).w = w.w ∧ (f w).h = w.h) (id id' : Nat) :
    windowSize (s.writeById id f) id' = windowSize s id' := by
  unfold windowSize
  rw [windowById_writeById s fun w => (hf w).1]
  by_cases hid : id' = id
  · rw [if_pos hid, Option.map_map, hid]
    congr 1
    funext w
    exact Prod.ext (hf w).2.1 (hf w).2.2
  · rw [if_neg hid]

theorem windowSize_windowSetGeometry_ne_iff {id : Nat} {w : Window}
    (hw : windowById s id = some w) (x y nw nh : Int) (id' : Nat) :
    windowSize (windowSetGeometry s id x y nw nh) id' ≠ windowSize s id' ↔
      sizeGiven w nw nh ≠ (w.w, w.h) ∧ id = id' := by
  unfold windowSize windowSetGeometry
  rw [windowById_writeById s (by exact fun _ => rfl)]
  by_cases hid : id' = id
  · subst hid
    rw [if_pos rfl, hw]
    simp [sizeGiven]
  · rw [if_neg hid]
    exact iff_of_false (fun h => h rfl) fun h => hid h.2.symm

theorem saveRect_keeps (w : Window) :
    (saveRect w).id = w.id ∧ (saveRect w).w = w.w ∧ (saveRect w).h = w.h := by
  unfold saveRect
  split <;> exact ⟨rfl, rfl, rfl⟩

theorem sizeGiven_floatingSize (w : Window) :
    sizeGiven w (floatingSize w).1 (floatingSize w).2 = floatingSize w := by
  simp only [sizeGiven, floatingSize]
  refine Prod.ext ?_ ?_
  · by_cases h : 0 < w.savedW <;> simp [h]
  · by_cases h : 0 < w.savedH <;> simp [h]

theorem ite_eq_some_iff {p : Prop} [Decidable p] {id id' : Nat} :
    (if p then some id else none) = some id' ↔ p ∧ id = id' := by
  split <;> simp_all

theorem windowSize_wmRelease_ne_iff (wm : Wm) (id : Nat) :
    windowSize (wmRelease wm).stack id ≠ windowSize wm.stack id ↔ releaseResizes wm = some id := by
  unfold wmRelease releaseResizes
  by_cases hmoving : wm.moving = true
  · rw [if_pos hmoving, if_pos hmoving]
    unfold wmSnapOnRelease
    have htarget : snapTarget { wm with moving := false, moveId := 0 } = snapTarget wm := rfl
    rw [htarget]
    dsimp only
    cases hw : windowById wm.stack wm.moveId with
    | none => simp
    | some w =>
        cases snapTarget wm with
        | none => simp
        | some n =>
            dsimp only
            rw [ite_eq_some_iff]
            by_cases hssd : windowHasSsd w = true
            · rw [if_pos hssd]
              obtain ⟨-, hwidth, hheight⟩ := saveRect_keeps w
              have hsaved : windowById (wm.stack.writeById wm.moveId saveRect) wm.moveId =
                  some (saveRect w) := by
                rw [windowById_writeById _ fun v => (saveRect_keeps v).1, if_pos rfl, hw,
                  Option.map_some]
              have hgiven := windowSize_windowSetGeometry_ne_iff hsaved n.x n.y n.w n.h id
              rw [windowSize_writeById saveRect_keeps, sizeGiven, hwidth, hheight] at hgiven
              exact hgiven.trans (and_congr_left fun _ => (and_iff_right hssd).symm)
            · rw [if_neg hssd]
              exact iff_of_false (fun h => h rfl) fun h => hssd h.1.1
  · rw [if_neg hmoving, if_neg hmoving]
    simp

theorem windowSize_unsnap_ne_iff {w : Window} (hw : windowById wm.stack w.id = some w) (id : Nat) :
    windowSize (unsnap wm w).1.stack id ≠ windowSize wm.stack id ↔
      (w.snapped ∧ floatingSize w ≠ (w.w, w.h)) ∧ w.id = id := by
  unfold unsnap
  by_cases hsnapped : w.snapped = true
  · rw [if_pos hsnapped]
    dsimp only
    rw [windowSize_writeById (by exact fun _ => ⟨rfl, rfl, rfl⟩)]
    refine (windowSize_windowSetGeometry_ne_iff hw _ _ (floatingSize w).1 (floatingSize w).2
      id).trans ?_
    rw [sizeGiven_floatingSize]
    exact and_congr_left fun _ => (and_iff_right hsnapped).symm
  · rw [if_neg hsnapped]
    exact iff_of_false (fun h => h rfl) fun h => hsnapped h.1.1

theorem windowSize_wmPress_ne_iff (hs : wm.stack.ids.Nodup) (id : Nat) :
    windowSize (wmPress wm).stack id ≠ windowSize wm.stack id ↔ pressResizes wm = some id := by
  unfold wmPress pressResizes
  cases hhit : windowAt wm.stack wm.cursorX wm.cursorY with
  | none => simp
  | some w =>
      have hw : windowById (windowFocus wm.stack w.id) w.id = some w :=
        (windowById_windowFocus hs _ _).trans (windowById_windowAt hs hhit)
      have hfocus : windowSize (windowFocus wm.stack w.id) id = windowSize wm.stack id :=
        windowSize_congr (windowById_windowFocus hs w.id id)
      dsimp only
      rw [hw, ite_eq_some_iff, ← hfocus]
      dsimp only
      by_cases hbar : windowHasSsd w = true ∧ wm.cursorY - w.y < decorTitlebarH
      · rw [if_pos hbar]
        refine (@windowSize_unsnap_ne_iff { wm with stack := windowFocus wm.stack w.id } w hw
          id).trans ?_
        refine and_congr_left fun _ => ?_
        exact ⟨fun h => ⟨hbar.1, hbar.2, h⟩, fun h => h.2.2⟩
      · rw [if_neg hbar]
        exact iff_of_false (fun h => h rfl) fun h => hbar ⟨h.1.1, h.1.2.1⟩

theorem windowSize_wmPointerButton_ne_iff (hs : wm.stack.ids.Nodup) (button : Nat)
    (pressed : Bool) (id : Nat) :
    windowSize (wmPointerButton wm button pressed).stack id ≠ windowSize wm.stack id ↔
      buttonResizes wm button pressed = some id := by
  unfold wmPointerButton buttonResizes
  split
  · simp
  · split
    · exact windowSize_wmPress_ne_iff hs id
    · exact windowSize_wmRelease_ne_iff wm id

/-! ## Motions and keys -/

theorem windowSize_dragGrabbed (wm : Wm) (id : Nat) :
    windowSize (dragGrabbed wm).stack id = windowSize wm.stack id := by
  unfold dragGrabbed
  split
  · exact windowSize_writeById (by exact fun _ => ⟨rfl, rfl, rfl⟩) wm.moveId id
  · rfl

theorem windowSize_wmPointerMotion (wm : Wm) (dx dy : Rat) (id : Nat) :
    windowSize (wmPointerMotion wm dx dy).stack id = windowSize wm.stack id :=
  windowSize_dragGrabbed _ id

theorem windowSize_wmPointerMotionAbs (wm : Wm) (ax ay : Rat) (id : Nat) :
    windowSize (wmPointerMotionAbs wm ax ay).stack id = windowSize wm.stack id :=
  windowSize_dragGrabbed _ id

theorem windowSize_wmKey (hs : wm.stack.ids.Nodup) (keysym : Nat) (pressed altDown : Bool)
    (id : Nat) : windowSize (wmKey wm keysym pressed altDown).1.stack id =
      windowSize wm.stack id := by
  unfold wmKey
  split
  · unfold windowFocusCycle
    dsimp only
    split
    · rfl
    · split
      · exact windowSize_congr (windowById_windowFocus hs _ _)
      · rfl
  · rfl

end CrystallineLattice.Manager
