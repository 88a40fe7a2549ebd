import CrystallineLattice.Stack.Invariant

/-!
# The window manager

This file models `wm.c`.  A pointer delta or position is a `double` in C; here it
is a rational number, cut off towards zero where C converts it to `int`.
-/

namespace CrystallineLattice.Manager

open CrystallineLattice.Foundation
open CrystallineLattice.Stack

def wmBtnLeft : Nat := 0x110
def wmKeyTab : Nat := 0xff09

def snapEdge : Int := 16

structure Wm where
  stack : WindowStack
  screenW : Int
  screenH : Int
  cursorX : Int
  cursorY : Int
  moving : Bool
  moveId : Nat
  grabDx : Int
  grabDy : Int
  reconfiguredId : Nat
  deriving DecidableEq, Repr

/-- The C conversion of a `double` to `int`. -/
def truncate (q : Rat) : Int := q.num.tdiv q.den

def clampi (v lo hi : Int) : Int := if v < lo then lo else if hi < v then hi else v

/-- `wm_init` leaves `reconfigured_id` as it finds it. -/
def wmInit (stack : WindowStack) (screenW screenH : Int) (reconfiguredId : Nat) : Wm where
  stack := stack
  screenW := screenW
  screenH := screenH
  cursorX := screenW.tdiv 2
  cursorY := screenH.tdiv 2
  moving := false
  moveId := 0
  grabDx := 0
  grabDy := 0
  reconfiguredId := reconfiguredId

/-! ## Pointer motion -/

def dragGrabbed (wm : Wm) : Wm :=
  if wm.moving then
    { wm with
      stack := windowMove wm.stack wm.moveId (wm.cursorX - wm.grabDx) (wm.cursorY - wm.grabDy) }
  else wm

def wmPointerMotion (wm : Wm) (dx dy : Rat) : Wm :=
  dragGrabbed { wm with
    cursorX := clampi (wm.cursorX + truncate dx) 0 (wm.screenW - 1)
    cursorY := clampi (wm.cursorY + truncate dy) 0 (wm.screenH - 1) }

def wmPointerMotionAbs (wm : Wm) (ax ay : Rat) : Wm :=
  dragGrabbed { wm with
    cursorX := clampi (truncate ax) 0 (wm.screenW - 1)
    cursorY := clampi (truncate ay) 0 (wm.screenH - 1) }

/-! ## Aero Snap -/

structure Area where
  x : Int
  y : Int
  w : Int
  h : Int
  deriving DecidableEq, Repr

/-- The screen without the edge that a mapped taskbar is docked to. -/
def withoutTaskbar (wm : Wm) (t : Window) : Area :=
  let screen : Area := ⟨0, 0, wm.screenW, wm.screenH⟩
  let fullW := (int32 (wm.screenW * 3)).tdiv 4 ≤ t.w
  let fullH := (int32 (wm.screenH * 3)).tdiv 4 ≤ t.h
  if fullW ∧ t.y ≤ 0 then
    let b := int32 (t.y + t.h)
    if screen.y < b then { screen with h := screen.h - (b - screen.y), y := b } else screen
  else if fullW then
    if t.y < screen.y + screen.h then { screen with h := t.y - screen.y } else screen
  else if fullH ∧ t.x ≤ 0 then
    let r := int32 (t.x + t.w)
    if screen.x < r then { screen with w := screen.w - (r - screen.x), x := r } else screen
  else if fullH then
    if t.x < screen.x + screen.w then { screen with w := t.x - screen.x } else screen
  else screen

/-- The first mapped taskbar counts. -/
def wmWorkArea (wm : Wm) : Area :=
  let area : Area :=
    match wm.stack.windows.find? fun t => t.role == .taskbar && t.mapped with
    | none => ⟨0, 0, wm.screenW, wm.screenH⟩
    | some t => withoutTaskbar wm t
  { area with
    w := if area.w < 1 then wm.screenW else area.w
    h := if area.h < 1 then wm.screenH else area.h }

/-- Where a window goes that is released at the cursor, if the cursor is at an edge. -/
def snapTarget (wm : Wm) : Option Area :=
  let a := wmWorkArea wm
  if wm.cursorY ≤ snapEdge then some a
  else if wm.cursorX ≤ snapEdge then some ⟨a.x, a.y, a.w.tdiv 2, a.h⟩
  else if wm.screenW - snapEdge ≤ wm.cursorX then
    some ⟨a.x + a.w - a.w.tdiv 2, a.y, a.w.tdiv 2, a.h⟩
  else none

def saveRect (w : Window) : Window :=
  if w.snapped then { w with snapped := true }
  else
    { w with
      savedX := w.x
      savedY := w.y
      savedW := w.w
      savedH := w.h
      snapped := true }

def wmSnapOnRelease (wm : Wm) (id : Nat) : Wm :=
  match windowById wm.stack id with
  | none => wm
  | some w =>
      if windowHasSsd w then
        match snapTarget wm with
        | none => wm
        | some n =>
            { wm with
              stack := windowSetGeometry (wm.stack.writeById id saveRect) id n.x n.y n.w n.h
              reconfiguredId := id }
      else wm

/-! ## Buttons -/

def wmRelease (wm : Wm) : Wm :=
  if wm.moving then wmSnapOnRelease { wm with moving := false, moveId := 0 } wm.moveId else wm

/-- Dragging a snapped window restores its floating size under the cursor. -/
def unsnap (wm : Wm) (w : Window) : Wm × Int × Int :=
  if w.snapped then
    let nw := if 0 < w.savedW then w.savedW else w.w
    let nh := if 0 < w.savedH then w.savedH else w.h
    let wx := max (wm.cursorX - nw.tdiv 2) 0
    let wy := max (wm.cursorY - decorTitlebarH.tdiv 2) 0
    ({ wm with
        stack := (windowSetGeometry wm.stack w.id wx wy nw nh).writeById w.id fun win =>
          { win with snapped := false }
        reconfiguredId := w.id }, wx, wy)
  else (wm, w.x, w.y)

/-- A press on the server title bar of `w` starts a drag. -/
def grab (wm : Wm) (w : Window) : Wm :=
  let (wm, wx, wy) := unsnap wm w
  { wm with
    moving := true
    moveId := w.id
    grabDx := wm.cursorX - wx
    grabDy := wm.cursorY - wy }

def wmPress (wm : Wm) : Wm :=
  match windowAt wm.stack wm.cursorX wm.cursorY with
  | none => wm
  | some w =>
      let wm := { wm with stack := windowFocus wm.stack w.id }
      match windowById wm.stack w.id with
      | none => wm
      | some w =>
          if windowHasSsd w ∧ wm.cursorY - w.y < decorTitlebarH then grab wm w else wm

def wmPointerButton (wm : Wm) (button : Nat) (pressed : Bool) : Wm :=
  if button ≠ wmBtnLeft then wm
  else if pressed then wmPress wm
  else wmRelease wm

/-- The second component is that the key was consumed. -/
def wmKey (wm : Wm) (keysym : Nat) (pressed altDown : Bool) : Wm × Bool :=
  if pressed && altDown && decide (keysym = wmKeyTab) then
    ({ wm with stack := windowFocusCycle wm.stack 1 }, true)
  else (wm, false)

end CrystallineLattice.Manager
