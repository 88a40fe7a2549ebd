import CrystallineLattice.Native.Model

/-!
# Input for native clients

The server owns the cursor and the focus and forwards input to the client whose
window it is for.  Pointer events go to the window under the cursor, found anew
for each event; keys go to the window that the caller names.
-/

namespace CrystallineLattice.Native

open CrystallineLattice.Foundation
open CrystallineLattice.Stack

def winTitlebar (w : Window) : Int := if windowHasSsd w then decorTitlebarH else 0

/-- The window under the cursor, unless the cursor is on its server title bar. -/
def pointerTarget (s : WindowStack) (cursorX cursorY : Int) : Option Window :=
  (windowAt s cursorX cursorY).filter fun w => w.y + winTitlebar w ≤ cursorY

def pointerInput (t : Transport) (cursorX cursorY : Int) (kind : ClInputKind) (code : Nat)
    (pressed : Bool) : Transport :=
  match pointerTarget t.stack cursorX cursorY with
  | none => t
  | some w =>
      match findByServerId t w.id with
      | none => t
      | some (i, j) =>
          clSend t (t.clients i).fd
            (.input ((t.clients i).wins j).clientWid kind (cursorX - w.x)
              (cursorY - w.y - winTitlebar w) code pressed)

def transportPointerMotion (t : Transport) (cursorX cursorY : Int) : Transport :=
  pointerInput t cursorX cursorY .motion 0 false

def transportPointerButton (t : Transport) (button : Nat) (pressed : Bool)
    (cursorX cursorY : Int) : Transport :=
  pointerInput t cursorX cursorY .button button pressed

def transportKeyboardKey (t : Transport) (focusId keysym : Nat) (pressed : Bool) : Transport :=
  match findByServerId t focusId with
  | none => t
  | some (i, j) =>
      clSend t (t.clients i).fd
        (.input ((t.clients i).wins j).clientWid .key 0 0 keysym pressed)

def transportNotifyGeometry (t : Transport) (serverId : Nat) : Transport :=
  match findByServerId t serverId with
  | none => t
  | some (i, j) =>
      match windowById t.stack serverId with
      | none => t
      | some w =>
          clSend t (t.clients i).fd
            (.configure ((t.clients i).wins j).clientWid w.x w.y (uint32 w.w) (uint32 w.h))

def sendScreen (w h : Int) (t : Transport) (i : Fin clMaxClients) : Transport :=
  if 0 ≤ (t.clients i).fd ∧ (t.clients i).hello then
    clSend t (t.clients i).fd (.screen (uint32 w) (uint32 h))
  else t

def transportBroadcastScreen (t : Transport) (w h : Int) : Transport :=
  (List.finRange clMaxClients).foldl (sendScreen w h) { t with sw := w, sh := h }

end CrystallineLattice.Native
