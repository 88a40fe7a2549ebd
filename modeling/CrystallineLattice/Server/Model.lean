import CrystallineLattice.Manager.Model
import CrystallineLattice.Native.Input
import CrystallineLattice.Platform.Model
import CrystallineLattice.Wayland.Coherence
import CrystallineLattice.Wayland.Seat

/-!
# The display server

This file models `server.c`: the callback that changes the resolution, the
handler of input events, and the loop of `server_run`, one stage of an iteration
after the other.  The window manager, the transport and the frontend share one
window stack.  A transport or frontend that could not be created is one that
nobody connects to.
-/

namespace CrystallineLattice.Server

open CrystallineLattice.Foundation
open CrystallineLattice.Stack
open CrystallineLattice.Native
open CrystallineLattice.Wayland
open CrystallineLattice.Manager
open CrystallineLattice.Platform

inductive Stage where
  | seat
  | idle
  | frame
  | input
  | transport
  | wayland
  | control
  | hotplug
  | tail
  deriving DecidableEq, Repr

/-- The framebuffers are drawn to in turn; `front ^ 1` is the one that is not shown. -/
def firstFb : Fin 2 := 0

def secondFb : Fin 2 := 1

def otherFb (front : Fin 2) : Fin 2 := front + 1

/-- An atomic commit: `ACTIVE` off, or a frame, if need be with the modeset state. -/
inductive AtomicCommit where
  | blank (ok : Bool)
  | frame (modeset : Bool) (ok : Bool)
  deriving DecidableEq, Repr

/-- The state of `server_run`; `commits` records what was committed so far. -/
structure ServerRun where
  world : World
  fe : Frontend
  seat : Seat
  wm : Wm
  drm : Drm
  kms : Kms
  fb : Fin 2 → DumbFb
  inputW : Int
  inputH : Int
  master : Bool
  needModeset : Bool
  dirty : Bool
  activity : Bool
  blanked : Bool
  front : Fin 2
  lastActivity : Int
  idleMs : Int
  ctrlHeld : Bool
  altHeld : Bool
  running : Bool
  stage : Stage
  commits : List AtomicCommit
  feStack : fe.stack = world.t.stack
  wmStack : wm.stack = world.t.stack

namespace ServerRun

def stack (X : ServerRun) : WindowStack := X.world.t.stack

def setWm (X : ServerRun) (wm : Wm) : ServerRun :=
  { X with
    world := { X.world with t := { X.world.t with stack := wm.stack } }
    fe := { X.fe with stack := wm.stack }
    wm := wm
    feStack := rfl
    wmStack := rfl }

def setWorld (X : ServerRun) (W : World) : ServerRun :=
  { X with
    world := W
    fe := { X.fe with stack := W.t.stack }
    wm := { X.wm with stack := W.t.stack }
    feStack := rfl
    wmStack := rfl }

def setTransport (X : ServerRun) (t : Transport) : ServerRun := X.setWorld { X.world with t := t }

def setFe (X : ServerRun) (fe : Frontend) : ServerRun :=
  { X with
    world := follow X.world X.fe fe
    fe := fe
    wm := { X.wm with stack := fe.stack }
    feStack := rfl
    wmStack := rfl }

end ServerRun

/-! ## Changing the resolution -/

structure ApplyAnswers where
  mode : ModeAnswers
  fb : Fin 2 → FbAnswers

/-- One iteration of the loop that reallocates the framebuffers. -/
def reallocFb (X : ServerRun) (i : Fin 2) (a : FbAnswers) (nw nh : Int) : ServerRun × Bool :=
  let r := dumbFbCreate (dumbFbDestroy X.drm (X.fb i)).1 a nw nh
  ({ X with drm := r.dev, fb := Function.update X.fb i r.fb }, r.ok)

/-- One iteration of the loop that refits the wallpaper. -/
def coverDesktop (nw nh : Int) (s : WindowStack) (i : Nat) : WindowStack :=
  match s.windows[i]? with
  | none => s
  | some w => if w.role = .desktop then windowSetGeometry s w.id 0 0 nw nh else s

def coverDesktops (s : WindowStack) (nw nh : Int) : WindowStack :=
  (List.range s.count).foldl (coverDesktop nw nh) s

def resizeScreen (wm : Wm) (nw nh : Int) : Wm :=
  { wm with
    screenW := nw
    screenH := nh
    cursorX := if nw ≤ wm.cursorX then nw - 1 else wm.cursorX
    cursorY := if nh ≤ wm.cursorY then nh - 1 else wm.cursorY
    stack := coverDesktops wm.stack nw nh }

/-- The rest of `apply_mode_cb`, once there are framebuffers. -/
def announceMode (X : ServerRun) (nw nh : Int) : ServerRun :=
  let X := X.setWm (resizeScreen X.wm nw nh)
  let X := X.setTransport (transportBroadcastScreen X.world.t nw nh)
  { X with needModeset := true, dirty := true }

def applyModeCb (X : ServerRun) (a : ApplyAnswers) (w h refresh : Int) : ServerRun × Bool :=
  let r := kmsSetModeWh X.drm X.kms a.mode w h refresh
  let X := { X with drm := r.dev, kms := r.k }
  if r.ok then
    let nw : Int := X.kms.mode.hdisplay.toNat
    let nh : Int := X.kms.mode.vdisplay.toNat
    let (X, ok) := reallocFb X firstFb (a.fb firstFb) nw nh
    if ok then
      let (X, ok) := reallocFb X secondFb (a.fb secondFb) nw nh
      if ok then (announceMode X nw nh, true) else (X, false)
    else (X, false)
  else (X, false)

/-! ## Input -/

inductive InputEvent where
  | motion (dx dy : Rat)
  | motionAbs (ax ay : Rat)
  | button (button : Nat) (pressed : Bool)
  | key (keysym keycode : Nat) (pressed altDown : Bool)
  deriving DecidableEq, Repr

def routeMotion (X : ServerRun) : ServerRun :=
  let X := { X with seat := wlFrontendPointerMotion X.fe X.seat X.wm.cursorX X.wm.cursorY }
  let X := X.setTransport (transportPointerMotion X.world.t X.wm.cursorX X.wm.cursorY)
  { X with dirty := true }

def routeButton (X : ServerRun) (button : Nat) (pressed : Bool) : ServerRun :=
  let X := { X with seat := wlFrontendPointerButton X.fe X.seat button pressed }
  let X := X.setTransport
    (transportPointerButton X.world.t button pressed X.wm.cursorX X.wm.cursorY)
  { X with dirty := true }

def routeKey (X : ServerRun) (keysym keycode : Nat) (pressed : Bool) : ServerRun :=
  let X := { X with seat := wlFrontendKeyboardKey X.fe X.seat keycode pressed }
  X.setTransport (transportKeyboardKey X.world.t X.wm.stack.focusId keysym pressed)

/-- Ctrl and Alt are tracked by their raw key codes. -/
def trackModifiers (X : ServerRun) (keycode : Nat) (pressed : Bool) : ServerRun :=
  if keycode = 29 ∨ keycode = 97 then { X with ctrlHeld := pressed }
  else if keycode = 56 ∨ keycode = 100 then { X with altHeld := pressed }
  else X

def xkbKeyEscape : Nat := 0xff1b

def onKey (X : ServerRun) (keysym keycode : Nat) (pressed altDown : Bool) : ServerRun :=
  let X := trackModifiers X keycode pressed
  -- Ctrl+Alt+T starts a terminal, which is another process
  if pressed ∧ X.ctrlHeld ∧ X.altHeld ∧ keycode = 20 then X
  else if pressed ∧ keysym = xkbKeyEscape then { X with running := false }
  else
    let (wm, consumed) := wmKey X.wm keysym pressed altDown
    if consumed then { X.setWm wm with dirty := true }
    else routeKey (X.setWm wm) keysym keycode pressed

def onInput (X : ServerRun) (ev : InputEvent) : ServerRun :=
  let X := { X with activity := true }
  match ev with
  | .motion dx dy => routeMotion (X.setWm (wmPointerMotion X.wm dx dy))
  | .motionAbs ax ay => routeMotion (X.setWm (wmPointerMotionAbs X.wm ax ay))
  | .button button pressed =>
      routeButton (X.setWm (wmPointerButton X.wm button pressed)) button pressed
  | .key keysym keycode pressed altDown => onKey X keysym keycode pressed altDown

/-- What libinput reports; an absolute position is a fraction of the device's range. -/
inductive RawInput where
  | motion (dx dy : Rat)
  | motionAbs (fx fy : Rat)
  | button (button : Nat) (pressed : Bool)
  | key (keysym keycode : Nat) (pressed altDown : Bool)
  deriving DecidableEq, Repr

/-- An absolute position is transformed into the range that the input layer was created with. -/
def emit (X : ServerRun) : RawInput → InputEvent
  | .motion dx dy => .motion dx dy
  | .motionAbs fx fy => .motionAbs (fx * X.inputW) (fy * X.inputH)
  | .button button pressed => .button button pressed
  | .key keysym keycode pressed altDown => .key keysym keycode pressed altDown

end CrystallineLattice.Server
