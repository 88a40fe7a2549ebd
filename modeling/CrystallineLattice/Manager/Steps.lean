import CrystallineLattice.Foundation.Runs
import CrystallineLattice.Manager.Resizing
import CrystallineLattice.Stack.Edits

/-!
# What one event of the window manager does

A press or a release rewrites one window at most, and a motion moves the one that
is dragged.  The file says for each event which window that is and what becomes
of it; everything else only changes the stacking order.
-/

namespace CrystallineLattice.Manager

open CrystallineLattice.Foundation
open CrystallineLattice.Stack

inductive WmEvent where
  | motion (dx dy : Rat)
  | motionAbs (ax ay : Rat)
  | button (button : Nat) (pressed : Bool)
  | key (keysym : Nat) (pressed altDown : Bool)
  deriving DecidableEq, Repr

def Wm.next (wm : Wm) : WmEvent → Wm
  | .motion dx dy => wmPointerMotion wm dx dy
  | .motionAbs ax ay => wmPointerMotionAbs wm ax ay
  | .button button pressed => wmPointerButton wm button pressed
  | .key keysym pressed altDown => (wmKey wm keysym pressed altDown).1

def wmSystem : System Wm WmEvent := ⟨fun _ _ => True, Wm.next⟩

/-- The window that a press takes hold of, as it finds it after giving it the focus. -/
def pressGrabs (wm : Wm) : Option Window :=
  match windowAt wm.stack wm.cursorX wm.cursorY with
  | none => none
  | some hit =>
      (windowById (windowFocus wm.stack hit.id) hit.id).filter fun w =>
        windowHasSsd w && decide (wm.cursorY - w.y < decorTitlebarH)

/-- The window once it is held: a snapped one has its floating size back, under the cursor. -/
def heldWindow (wm : Wm) (w : Window) : Window :=
  if w.snapped then
    { w with
      x := max (wm.cursorX - (floatingSize w).1.tdiv 2) 0
      y := max (wm.cursorY - decorTitlebarH.tdiv 2) 0
      w := (floatingSize w).1
      h := (floatingSize w).2
      snapped := false }
  else w

def snapTo (n : Area) (w : Window) : Window :=
  { saveRect w with
    x := n.x
    y := n.y
    w := (sizeGiven w n.w n.h).1
    h := (sizeGiven w n.w n.h).2 }

variable {wm : Wm} {s : WindowStack} {w : Window} {id : Nat}

/-! ## The writes of a press and of a release -/

theorem unsnap_eq (wm : Wm) (hw : windowById wm.stack w.id = some w) :
    unsnap wm w =
      ({ wm with
          stack := wm.stack.writeById w.id fun _ => heldWindow wm w
          reconfiguredId := if w.snapped then w.id else wm.reconfiguredId },
        (heldWindow wm w).x, (heldWindow wm w).y) := by
  unfold unsnap
  by_cases hsnapped : w.snapped = true
  · have hheld : heldWindow wm w = _ := if_pos hsnapped
    have hgiven (p q : Int) :
        (if 0 < (if 0 < p then p else q) then (if 0 < p then p else q) else q) =
          if 0 < p then p else q := by
      by_cases hp : 0 < p <;> simp [hp]
    rw [if_pos hsnapped, if_pos hsnapped]
    unfold windowSetGeometry
    dsimp only
    rw [writeById_writeById _ _ (by exact fun _ => rfl),
      writeById_congr (g := fun _ => heldWindow wm w) hw
        (by simp only [hheld, floatingSize, sizeGiven, hgiven])]
    rw [hheld]
    rfl
  · have hheld : heldWindow wm w = w := if_neg hsnapped
    rw [if_neg hsnapped, if_neg hsnapped, hheld, writeById_same hw]

theorem grab_eq (wm : Wm) (hw : windowById wm.stack w.id = some w) :
    grab wm w =
      { wm with
        stack := wm.stack.writeById w.id fun _ => heldWindow wm w
        moving := true
        moveId := w.id
        grabDx := wm.cursorX - (heldWindow wm w).x
        grabDy := wm.cursorY - (heldWindow wm w).y
        reconfiguredId := if w.snapped then w.id else wm.reconfiguredId } := by
  unfold grab
  rw [unsnap_eq wm hw]

theorem wmSnapOnRelease_eq (wm : Wm) (hw : windowById wm.stack id = some w) :
    wmSnapOnRelease wm id =
      match (snapTarget wm).filter fun _ => windowHasSsd w with
      | none => wm
      | some n =>
          { wm with
            stack := wm.stack.writeById id fun _ => snapTo n w
            reconfiguredId := id } := by
  unfold wmSnapOnRelease
  rw [hw]
  dsimp only
  by_cases hssd : windowHasSsd w = true
  · cases snapTarget wm with
    | none => simp [hssd]
    | some n =>
        rw [if_pos hssd]
        unfold windowSetGeometry
        dsimp only
        rw [writeById_writeById _ _ fun v => (saveRect_keeps v).1]
        have hfinal : snapTo n w = { saveRect w with
            x := n.x
            y := n.y
            w := if 0 < n.w then n.w else (saveRect w).w
            h := if 0 < n.h then n.h else (saveRect w).h } := by
          obtain ⟨-, hwidth, hheight⟩ := saveRect_keeps w
          rw [hwidth, hheight]
          rfl
        rw [writeById_congr (g := fun _ => snapTo n w) hw hfinal.symm]
        simp [Option.filter, hssd]
  · rw [if_neg hssd]
    cases snapTarget wm <;> simp [Option.filter, hssd]

/-- A press either takes hold of a window or only restacks. -/
theorem wmPress_cases (wm : Wm) :
    (pressGrabs wm = none ∧ ∃ s, wmPress wm = { wm with stack := s } ∧
        (s = wm.stack ∨ ∃ id, s = windowFocus wm.stack id)) ∨
      ∃ w, pressGrabs wm = some w ∧ windowHasSsd w = true ∧
        wm.cursorY - w.y < decorTitlebarH ∧
        (∃ hit, windowAt wm.stack wm.cursorX wm.cursorY = some hit ∧ hit.id = w.id) ∧
        windowById (windowFocus wm.stack w.id) w.id = some w ∧
        wmPress wm = grab { wm with stack := windowFocus wm.stack w.id } w := by
  unfold wmPress pressGrabs
  cases hhit : windowAt wm.stack wm.cursorX wm.cursorY with
  | none => exact .inl ⟨rfl, wm.stack, rfl, .inl rfl⟩
  | some hit =>
      dsimp only
      cases hw : windowById (windowFocus wm.stack hit.id) hit.id with
      | none => exact .inl ⟨rfl, _, rfl, .inr ⟨hit.id, rfl⟩⟩
      | some w =>
          have hid : w.id = hit.id := id_of_windowById hw
          dsimp only
          by_cases hbar : windowHasSsd w = true ∧ wm.cursorY - w.y < decorTitlebarH
          · refine .inr ⟨w, ?_, hbar.1, hbar.2, ⟨hit, rfl, hid.symm⟩, hid ▸ hw, ?_⟩
            · exact Option.filter_eq_some_iff.mpr ⟨rfl, by simpa using hbar⟩
            · rw [if_pos hbar, hid]
          · refine .inl ⟨?_, _, if_neg hbar, .inr ⟨hit.id, rfl⟩⟩
            simpa [Option.filter] using hbar

end CrystallineLattice.Manager
