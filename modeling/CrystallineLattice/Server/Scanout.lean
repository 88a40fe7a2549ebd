import CrystallineLattice.Server.Resolution

/-!
# Who works on the display

Input, the clients, and the end of an iteration leave the display alone: its mode
and framebuffers, the flags that a commit depends on, and what was committed.
-/

namespace CrystallineLattice.Server

open CrystallineLattice.Foundation
open CrystallineLattice.Stack
open CrystallineLattice.Native
open CrystallineLattice.Wayland
open CrystallineLattice.Manager
open CrystallineLattice.Platform

theorem otherFb_otherFb (i : Fin 2) : otherFb (otherFb i) = i := by
  revert i
  decide

theorem otherFb_ne (i : Fin 2) : otherFb i ≠ i := by
  revert i
  decide

structure DisplayState where
  drm : Drm
  kms : Kms
  fb : Fin 2 → DumbFb
  front : Fin 2
  master : Bool
  needModeset : Bool
  blanked : Bool
  lastActivity : Int
  idleMs : Int
  commits : List AtomicCommit

def ServerRun.display (X : ServerRun) : DisplayState where
  drm := X.drm
  kms := X.kms
  fb := X.fb
  front := X.front
  master := X.master
  needModeset := X.needModeset
  blanked := X.blanked
  lastActivity := X.lastActivity
  idleMs := X.idleMs
  commits := X.commits

def Aside : ServerEvent → Prop
  | .input _ => True
  | .transport _ => True
  | .wayland _ => True
  | .tail => True
  | .pass => True
  | _ => False

section Display

variable (X : ServerRun)

theorem display_onKey (keysym keycode : Nat) (pressed altDown : Bool) :
    (onKey X keysym keycode pressed altDown).display = X.display := by
  have htracked : (trackModifiers X keycode pressed).display = X.display := by
    unfold trackModifiers
    split
    · rfl
    · split <;> rfl
  rw [← htracked]
  unfold onKey
  generalize trackModifiers X keycode pressed = Y
  dsimp only
  split
  · rfl
  · split
    · rfl
    · split <;> rfl

theorem display_onInput (ev : InputEvent) : (onInput X ev).display = X.display := by
  cases ev with
  | key keysym keycode pressed altDown =>
      exact display_onKey { X with activity := true } keysym keycode pressed altDown
  | _ => rfl

theorem display_notifyReconfigured : X.notifyReconfigured.display = X.display := by
  unfold ServerRun.notifyReconfigured
  split <;> rfl

theorem display_atTail : X.atTail.display = X.display := display_notifyReconfigured _

theorem display_next {e : ServerEvent} (he : Aside e) : (X.next e).display = X.display := by
  cases e with
  | input raw => exact display_onInput X _
  | transport e => rfl
  | wayland e => cases e <;> rfl
  | tail => exact display_atTail X
  | pass => rfl
  | _ => exact he.elim

end Display

structure SameScanout (X Y : ServerRun) : Prop where
  drm : Y.drm = X.drm
  kms : Y.kms = X.kms
  fb : Y.fb = X.fb
  front : Y.front = X.front

namespace SameScanout

variable {X Y Z : ServerRun}

theorem refl (X : ServerRun) : SameScanout X X := ⟨rfl, rfl, rfl, rfl⟩

theorem trans (h : SameScanout X Y) (h' : SameScanout Y Z) : SameScanout X Z where
  drm := h'.drm.trans h.drm
  kms := h'.kms.trans h.kms
  fb := h'.fb.trans h.fb
  front := h'.front.trans h.front

theorem of_display (h : Y.display = X.display) : SameScanout X Y :=
  ⟨congrArg DisplayState.drm h, congrArg DisplayState.kms h, congrArg DisplayState.fb h,
    congrArg DisplayState.front h⟩

theorem atIdle (X : ServerRun) (now : Int) (committed : Bool) :
    SameScanout X (X.atIdle now committed) := by
  have hwake : SameScanout X (X.wake now) := by
    unfold ServerRun.wake
    split
    · dsimp only
      split <;> exact ⟨rfl, rfl, rfl, rfl⟩
    · exact refl X
  refine hwake.trans ?_
  unfold ServerRun.atIdle
  dsimp only
  split
  · exact ⟨rfl, rfl, rfl, rfl⟩
  · exact refl _

/-- Nothing but a frame and a change of the resolution works on the framebuffers. -/
theorem next (X : ServerRun) {e : ServerEvent} (hframe : ∀ answers, e ≠ .frame answers)
    (hcontrol : ∀ w h refresh a, e ≠ .control w h refresh a) : SameScanout X (X.next e) := by
  cases e with
  | seat active =>
      show SameScanout X (X.atSeat active).advance
      unfold ServerRun.atSeat
      split
      · exact ⟨rfl, rfl, rfl, rfl⟩
      · split <;> exact ⟨rfl, rfl, rfl, rfl⟩
  | idle now committed => exact (atIdle X now committed).trans ⟨rfl, rfl, rfl, rfl⟩
  | frame answers => exact (hframe answers rfl).elim
  | control w h refresh a => exact (hcontrol w h refresh a rfl).elim
  | hotplug changed => cases changed <;> exact ⟨rfl, rfl, rfl, rfl⟩
  | _ => exact of_display (display_next X trivial)

end SameScanout

/-! ## Changes of the resolution -/

/-- A mode is found and its blob made, so that the framebuffers are replaced. -/
def SwitchesMode (a : ApplyAnswers) (w h refresh : Int) : Prop :=
  (requestedMode a.mode w h refresh).isSome ∧ a.mode.blob.isSome

instance (a : ApplyAnswers) (w h refresh : Int) : Decidable (SwitchesMode a w h refresh) :=
  inferInstanceAs (Decidable (_ ∧ _))

/-- The first framebuffer is destroyed, and the second when the first could be made anew. -/
def Destroys (a : ApplyAnswers) (w h refresh : Int) (i : Fin 2) : Prop :=
  SwitchesMode a w h refresh ∧ (i = firstFb ∨ (a.fb firstFb).Succeeds)

instance (a : ApplyAnswers) (w h refresh : Int) (i : Fin 2) :
    Decidable (Destroys a w h refresh i) :=
  inferInstanceAs (Decidable (_ ∧ (_ ∨ _)))

theorem applyModeCb_front (X : ServerRun) (a : ApplyAnswers) (w h refresh : Int) :
    (applyModeCb X a w h refresh).1.front = X.front := by
  rcases applyModeCb_cases X a w h refresh with
    ⟨-, heq⟩ | ⟨newmode, blob, drm, fb, -, -, ⟨-, heq⟩ | ⟨-, -, heq⟩⟩
  · rw [heq]
  · rw [heq]
  · rw [heq]
    rfl

theorem applyModeCb_fb (X : ServerRun) (a : ApplyAnswers) (w h refresh : Int) {i : Fin 2}
    (hkept : ¬ Destroys a w h refresh i) : (applyModeCb X a w h refresh).1.fb i = X.fb i := by
  rcases kmsSetModeWh_cases X.drm X.kms a.mode w h refresh with
    ⟨newmode, blob, hmode, hblob, hok, -⟩ | ⟨-, heq⟩
  · have hswitches : SwitchesMode a w h refresh := ⟨by rw [hmode]; rfl, by rw [hblob]; rfl⟩
    have hsecond : i ≠ firstFb ∧ ¬ (a.fb firstFb).Succeeds :=
      not_or.mp fun h => hkept ⟨hswitches, h⟩
    unfold applyModeCb
    dsimp only
    rw [if_pos hok, if_neg fun h => hsecond.2 ((reallocFb_ok ..).mp h)]
    exact Function.update_of_ne hsecond.1 _ _
  · unfold applyModeCb
    simp only [heq]
    rfl

end CrystallineLattice.Server
