import CrystallineLattice.Server.Invariant
import CrystallineLattice.Server.Scanout
import CrystallineLattice.Wayland.Lifetimes

/-!
# The flush

At the end of an iteration `wl_frontend_flush` sends what is queued, and libwayland
destroys a client that cannot be written to.  Windows leave the stack then, which the
frontend notes in its `dirty`; the server hears of it when `wl_frontend_dispatch` is
called the next time.
-/

namespace CrystallineLattice.Server

open CrystallineLattice.Foundation
open CrystallineLattice.Stack
open CrystallineLattice.Native
open CrystallineLattice.Wayland

namespace ServerRun

/-- An object goes with its client, and nothing is reported. -/
def drop (X : ServerRun) (e : ClientEvent) : ServerRun :=
  let X := { X with seat := X.seat.next X.fe e }
  match e with
  | .surface _ e => X.setFe (X.fe.next e)
  | _ => X

/-- What libwayland destroys with a client; no destructor uses a freed record. -/
def CanDrop (X : ServerRun) : ClientEvent → Prop
  | .surface _ (.destroy r) => X.fe.enabled (.destroy r) ∧ X.fe.UsesLive (.destroy r)
  | .surface _ (.destroyCallback _) => True
  | .unlink _ => True
  | _ => False

def dropSystem : System ServerRun ClientEvent := ⟨CanDrop, drop⟩

/-- What `wl_frontend_dispatch` does last. -/
def collect (X : ServerRun) : ServerRun :=
  { X with
    fe := { X.fe with dirty := false }
    dirty := X.dirty || X.fe.dirty
    feStack := X.feStack }

def focusKeyboard (X : ServerRun) : ServerRun :=
  { X with seat := wlFrontendKeyboardFocus X.fe X.seat X.stack.focusId }

def updateFocus (X : ServerRun) : ServerRun :=
  X.setTransport (transportUpdateFocus X.world.t X.stack.focusId)

/-- The end of an iteration, in which the flush destroys the given objects. -/
def atTailLosing (X : ServerRun) (lost : List ClientEvent) : ServerRun :=
  (dropSystem.exec X.focusKeyboard lost).updateFocus.notifyReconfigured

theorem atTailLosing_nil (X : ServerRun) : X.atTailLosing [] = X.atTail := rfl

variable {X : ServerRun}

theorem CanDrop.surface {client : Nat} {e : FeEvent} (h : X.CanDrop (.surface client e)) :
    X.fe.enabled e ∧ ∀ stack, e ≠ .outside stack := by
  cases e with
  | destroy r => exact ⟨h.1, fun _ => by simp⟩
  | destroyCallback callback => exact ⟨trivial, fun _ => by simp⟩
  | _ => exact h.elim

theorem display_lose (X : ServerRun) (lost : List ClientEvent) :
    (dropSystem.exec X lost).display = X.display := by
  induction lost generalizing X with
  | nil => rfl
  | cons e lost ih =>
      refine (ih (X.drop e)).trans ?_
      cases e <;> rfl

theorem display_atTailLosing (X : ServerRun) (lost : List ClientEvent) :
    (X.atTailLosing lost).display = X.display :=
  (display_notifyReconfigured _).trans (display_lose X.focusKeyboard lost)

end ServerRun

namespace Keeps

variable {X : ServerRun}

theorem drop {e : ClientEvent} (hen : X.CanDrop e) (hwithin : (X.drop e).Within) :
    Keeps X (X.drop e) := by
  cases e with
  | surface client e =>
      have hset : Keeps X (X.setFe (X.fe.next e)) :=
        .setFe (X.fe.next e).dirty hen.surface.1 hen.surface.2 hwithin
      exact hset.trans (.same rfl rfl rfl rfl)
  | _ => exact .same rfl rfl rfl rfl

theorem lose {lost : List ClientEvent} (hrun : ServerRun.dropSystem.Legal X lost)
    (hwithin : (ServerRun.dropSystem.exec X lost).Within) :
    Keeps X (ServerRun.dropSystem.exec X lost) := by
  induction lost generalizing X with
  | nil => exact .same rfl rfl rfl rfl
  | cons e lost ih =>
      have hrest := ih hrun.2 hwithin
      exact (drop hrun.1 (hrest.within hwithin)).trans hrest

theorem collect (X : ServerRun) : Keeps X X.collect where
  inv hX := by
    refine ⟨⟨hX.coherent.stack, hX.coherent.world, ?_, ?_⟩, hX.numbered, hX.drag⟩
    · exact ⟨hX.coherent.contents.held, hX.coherent.contents.unshared⟩
    · exact ⟨hX.coherent.shown.mapped, hX.coherent.shown.apart, hX.coherent.shown.heap,
        hX.coherent.shown.created⟩
  sw := rfl
  sh := rfl
  tidies _ := .refl _
  within hwithin := hwithin

end Keeps

end CrystallineLattice.Server
