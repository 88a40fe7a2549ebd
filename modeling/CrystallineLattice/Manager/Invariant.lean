import CrystallineLattice.Manager.Model
import CrystallineLattice.Stack.Wallpaper

/-!
# What the window manager does to the stack

The window manager moves, resizes and stacks windows.  It leaves wallpapers where
they are: it drags and snaps only windows that have a server title bar.
-/

namespace CrystallineLattice.Manager

open CrystallineLattice.Foundation
open CrystallineLattice.Stack

/-- The stack is well formed, and a window that is dragged is no wallpaper. -/
structure Steered (wm : Wm) : Prop where
  stack : wm.stack.WellFormed
  drag : wm.moving = true → NoWallpaper wm.stack wm.moveId

structure Manages (wm wm' : Wm) : Prop where
  rearranges : Rearranges wm.stack wm'.stack
  tidies : ∀ sw sh, Tidies sw sh wm.stack wm'.stack
  drag : wm'.moving = true → NoWallpaper wm'.stack wm'.moveId

namespace Manages

variable {wm wm' wm'' : Wm}

theorem steered (h : Manages wm wm') (hwm : Steered wm) : Steered wm' :=
  ⟨h.rearranges.wellFormed hwm.stack, h.drag⟩

theorem trans (h : Manages wm wm') (h' : Manages wm' wm'') : Manages wm wm'' :=
  ⟨h.rearranges.trans h'.rearranges, fun sw sh => (h.tidies sw sh).trans (h'.tidies sw sh), h'.drag⟩

theorem of_stack (hstack : wm'.stack = wm.stack)
    (hdrag : wm'.moving = true → NoWallpaper wm.stack wm'.moveId) : Manages wm wm' where
  rearranges := hstack ▸ .refl _
  tidies _ _ := .of_windows (congrArg WindowStack.windows hstack)
    (congrArg WindowStack.nextId hstack)
  drag := hstack ▸ hdrag

theorem place {id : Nat} {f : Window → Window} (hstack : wm'.stack = wm.stack.writeById id f)
    (hother : NoWallpaper wm.stack id) (hcontent : ∀ w, (f w).content = w.content)
    (hdrag : wm'.moving = true → NoWallpaper wm.stack wm'.moveId) : Manages wm wm' := by
  have hid (w : Window) : (f w).id = w.id :=
    show (f w).content.id = w.content.id from congrArg Window.id (hcontent w)
  have hrole (w : Window) : (f w).role = w.role :=
    show (f w).content.role = w.content.role from congrArg Window.role (hcontent w)
  refine ⟨?_, fun sw sh => ?_, fun hmoving => ?_⟩
  · rw [hstack]
    exact .writeById _ id hid hcontent
  · rw [hstack]
    exact .edit_other hother hid hrole
  · rw [hstack]
    exact (hdrag hmoving).keep (.edit _ id hid hrole)

theorem restack {s : WindowStack} (hstack : wm'.stack = s) (hrearranges : Rearranges wm.stack s)
    (htidies : ∀ sw sh, Tidies sw sh wm.stack s)
    (hdrag : wm'.moving = true → NoWallpaper wm.stack wm'.moveId) : Manages wm wm' := by
  subst hstack
  exact ⟨hrearranges, htidies, fun hmoving => (hdrag hmoving).keep (htidies 0 0).roles⟩

end Manages

variable {wm : Wm}

/-! ## Pointer motion -/

theorem dragGrabbed_manages (hwm : Steered wm) : Manages wm (dragGrabbed wm) := by
  unfold dragGrabbed
  split
  · rename_i hmoving
    exact .place rfl (hwm.drag hmoving) (fun _ => rfl) fun _ => hwm.drag hmoving
  · exact .of_stack rfl hwm.drag

theorem wmPointerMotion_manages (hwm : Steered wm) (dx dy : Rat) :
    Manages wm (wmPointerMotion wm dx dy) := by
  have hcursor (x y : Int) : Manages wm { wm with cursorX := x, cursorY := y } :=
    .of_stack rfl hwm.drag
  exact (hcursor _ _).trans (dragGrabbed_manages ⟨hwm.stack, hwm.drag⟩)

theorem wmPointerMotionAbs_manages (hwm : Steered wm) (ax ay : Rat) :
    Manages wm (wmPointerMotionAbs wm ax ay) := by
  have hcursor (x y : Int) : Manages wm { wm with cursorX := x, cursorY := y } :=
    .of_stack rfl hwm.drag
  exact (hcursor _ _).trans (dragGrabbed_manages ⟨hwm.stack, hwm.drag⟩)

/-! ## Buttons -/

theorem noWallpaper_of_ssd {s : WindowStack} (hs : s.WellFormed) {id : Nat} {w : Window}
    (hw : windowById s id = some w) (hssd : windowHasSsd w = true) : NoWallpaper s id := by
  refine .of_windowById hs hw fun hdesktop => ?_
  simp [windowHasSsd, hdesktop] at hssd

theorem wmSnapOnRelease_manages (wm : Wm) (hs : wm.stack.WellFormed)
    (hidle : wm.moving = false) (id : Nat) : Manages wm (wmSnapOnRelease wm id) := by
  have hrest (wm' : Wm) (hmoving : wm'.moving = wm.moving) :
      wm'.moving = true → NoWallpaper wm.stack wm'.moveId := fun h => by
    rw [hmoving, hidle] at h
    cases h
  unfold wmSnapOnRelease
  cases hw : windowById wm.stack id with
  | none => exact .of_stack rfl (hrest wm rfl)
  | some w =>
      dsimp only
      split
      · rename_i hssd
        have hother := noWallpaper_of_ssd hs hw hssd
        cases snapTarget wm with
        | none => exact .of_stack rfl (hrest wm rfl)
        | some n =>
            have hsaved : Manages wm { wm with stack := wm.stack.writeById id saveRect } := by
              refine .place rfl hother (fun w => ?_) (hrest _ rfl)
              unfold saveRect
              split <;> rfl
            refine hsaved.trans (.place rfl ?_ (fun _ => rfl) ?_)
            · exact hother.keep (hsaved.tidies 0 0).roles
            · intro h
              rw [show wm.moving = true from h] at hidle
              cases hidle
      · exact .of_stack rfl (hrest wm rfl)

theorem wmRelease_manages (hwm : Steered wm) : Manages wm (wmRelease wm) := by
  unfold wmRelease
  split
  · have hdropped : Manages wm { wm with moving := false, moveId := 0 } :=
      .of_stack rfl fun h => by cases h
    refine hdropped.trans (wmSnapOnRelease_manages _ ?_ rfl _)
    exact hwm.stack
  · exact .of_stack rfl hwm.drag

theorem unsnap_manages (hwm : Steered wm) {w : Window} (hother : NoWallpaper wm.stack w.id) :
    Manages wm (unsnap wm w).1 := by
  unfold unsnap
  split
  · dsimp only
    generalize (if 0 < w.savedW then w.savedW else w.w) = nw
    generalize (if 0 < w.savedH then w.savedH else w.h) = nh
    generalize max (wm.cursorX - nw.tdiv 2) 0 = wx
    generalize max (wm.cursorY - decorTitlebarH.tdiv 2) 0 = wy
    have hrestored : Manages wm { wm with stack := windowSetGeometry wm.stack w.id wx wy nw nh } :=
      .place rfl hother (fun _ => rfl) hwm.drag
    exact hrestored.trans (.place rfl (hother.keep (hrestored.tidies 0 0).roles) (fun _ => rfl)
      hrestored.drag)
  · exact .of_stack rfl hwm.drag

theorem grab_manages (hwm : Steered wm) {w : Window} (hother : NoWallpaper wm.stack w.id) :
    Manages wm (grab wm w) := by
  have hunsnap := unsnap_manages hwm hother
  exact hunsnap.trans (.of_stack rfl fun _ => hother.keep (hunsnap.tidies 0 0).roles)

theorem wmPress_manages (hwm : Steered wm) : Manages wm (wmPress wm) := by
  unfold wmPress
  cases windowAt wm.stack wm.cursorX wm.cursorY with
  | none => exact .of_stack rfl hwm.drag
  | some hit =>
      have hfocus : Manages wm { wm with stack := windowFocus wm.stack hit.id } :=
        .restack rfl (windowFocus_rearranges hwm.stack.nodup hit.id) (fun _ _ => .focus _ _)
          hwm.drag
      dsimp only
      cases hw : windowById (windowFocus wm.stack hit.id) hit.id with
      | none => exact hfocus
      | some w =>
          dsimp only
          split
          · rename_i hbar
            have hfocused := hfocus.steered hwm
            have hother : NoWallpaper (windowFocus wm.stack hit.id) w.id := by
              rw [id_of_windowById hw]
              exact noWallpaper_of_ssd hfocused.stack hw hbar.1
            exact hfocus.trans (grab_manages hfocused hother)
          · exact hfocus

theorem wmPointerButton_manages (hwm : Steered wm) (button : Nat) (pressed : Bool) :
    Manages wm (wmPointerButton wm button pressed) := by
  unfold wmPointerButton
  split
  · exact .of_stack rfl hwm.drag
  · split
    · exact wmPress_manages hwm
    · exact wmRelease_manages hwm

/-! ## Keys -/

theorem wmKey_manages (hwm : Steered wm) (keysym : Nat) (pressed altDown : Bool) :
    Manages wm (wmKey wm keysym pressed altDown).1 := by
  unfold wmKey
  split
  · exact .restack rfl (windowFocusCycle_rearranges hwm.stack.nodup 1)
      (fun _ _ => .focusCycle _ _) hwm.drag
  · exact .of_stack rfl hwm.drag

end CrystallineLattice.Manager
