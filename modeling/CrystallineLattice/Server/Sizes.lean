import CrystallineLattice.Native.Wallpaper
import CrystallineLattice.Server.Resolution

/-!
# The size of the screen

Every part of the server keeps the size of the screen for itself.  A change of the
resolution reaches the mode, the framebuffers, the window manager and the
transport; the input layer and the Wayland frontend keep the size they were
created with.
-/

namespace CrystallineLattice.Server

open CrystallineLattice.Foundation
open CrystallineLattice.Stack
open CrystallineLattice.Native
open CrystallineLattice.Wayland
open CrystallineLattice.Manager
open CrystallineLattice.Platform

/-! ## The window manager -/

def screenOf (wm : Wm) : Int × Int := (wm.screenW, wm.screenH)

section Manager

variable (wm : Wm)

@[simp] theorem screenOf_dragGrabbed : screenOf (dragGrabbed wm) = screenOf wm := by
  unfold dragGrabbed
  split <;> rfl

@[simp] theorem screenOf_wmPointerMotion (dx dy : Rat) :
    screenOf (wmPointerMotion wm dx dy) = screenOf wm :=
  screenOf_dragGrabbed _

@[simp] theorem screenOf_wmPointerMotionAbs (ax ay : Rat) :
    screenOf (wmPointerMotionAbs wm ax ay) = screenOf wm :=
  screenOf_dragGrabbed _

theorem screenOf_wmSnapOnRelease (id : Nat) :
    screenOf (wmSnapOnRelease wm id) = screenOf wm := by
  unfold wmSnapOnRelease
  cases windowById wm.stack id with
  | none => rfl
  | some w =>
      dsimp only
      split
      · cases snapTarget wm <;> rfl
      · rfl

theorem screenOf_grab (w : Window) : screenOf (grab wm w) = screenOf wm := by
  unfold grab unsnap
  by_cases h : w.snapped = true
  · simp only [h, if_true]
    rfl
  · simp only [h]
    rfl

theorem screenOf_wmPress : screenOf (wmPress wm) = screenOf wm := by
  unfold wmPress
  cases windowAt wm.stack wm.cursorX wm.cursorY with
  | none => rfl
  | some w =>
      dsimp only
      cases windowById (windowFocus wm.stack w.id) w.id with
      | none => rfl
      | some w =>
          dsimp only
          split
          · exact screenOf_grab _ w
          · rfl

@[simp] theorem screenOf_wmPointerButton (button : Nat) (pressed : Bool) :
    screenOf (wmPointerButton wm button pressed) = screenOf wm := by
  unfold wmPointerButton wmRelease
  split
  · rfl
  · split
    · exact screenOf_wmPress wm
    · split
      · exact screenOf_wmSnapOnRelease _ _
      · rfl

@[simp] theorem screenOf_wmKey (keysym : Nat) (pressed altDown : Bool) :
    screenOf (wmKey wm keysym pressed altDown).1 = screenOf wm := by
  unfold wmKey
  split <;> rfl

end Manager

/-! ## The frontend -/

def outputOf (seat : Seat) : Int × Int := (seat.sw, seat.sh)

section Frontend

variable (fe : Frontend) (seat : Seat)

@[simp] theorem outputOf_sendModifiers (client : Nat) :
    outputOf (sendModifiers seat client) = outputOf seat := by
  unfold sendModifiers
  split <;> rfl

@[simp] theorem outputOf_pointerLeave : outputOf (pointerLeave fe seat) = outputOf seat := by
  unfold pointerLeave
  dsimp only
  split <;> rfl

@[simp] theorem outputOf_pointerEnter (target : Option Hover) :
    outputOf (pointerEnter seat target) = outputOf seat := by
  unfold pointerEnter
  cases target with
  | none => rfl
  | some t =>
      dsimp only
      refine List.foldlRecOn (motive := fun acc => outputOf acc = outputOf seat) _ _ ?_ ?_
      · rfl
      · exact fun acc hacc d _ => hacc

@[simp] theorem outputOf_wlFrontendPointerMotion (gx gy : Int) :
    outputOf (wlFrontendPointerMotion fe seat gx gy) = outputOf seat := by
  have hmoved : outputOf (if hoverId (hover fe gx gy) ≠ seat.pointerFocus then
      { pointerEnter (pointerLeave fe seat) (hover fe gx gy) with
        pointerFocus := hoverId (hover fe gx gy) }
      else seat) = outputOf seat := by
    split
    · exact (outputOf_pointerEnter _ _).trans (outputOf_pointerLeave fe seat)
    · rfl
  unfold wlFrontendPointerMotion
  dsimp only
  split
  · exact hmoved
  · exact hmoved

@[simp] theorem outputOf_wlFrontendPointerButton (button : Nat) (pressed : Bool) :
    outputOf (wlFrontendPointerButton fe seat button pressed) = outputOf seat := by
  unfold wlFrontendPointerButton
  split <;> rfl

@[simp] theorem outputOf_wlFrontendKeyboardKey (keycode : Nat) (pressed : Bool) :
    outputOf (wlFrontendKeyboardKey fe seat keycode pressed) = outputOf seat := by
  have hkeys : outputOf (if seat.hasXkb then { seat with keys := seat.keys ++ [(keycode, pressed)] }
      else seat) = outputOf seat := by
    split <;> rfl
  unfold wlFrontendKeyboardKey
  dsimp only
  split
  · exact hkeys
  · exact (outputOf_sendModifiers _ _).trans hkeys

@[simp] theorem outputOf_wlFrontendKeyboardFocus (id : Nat) :
    outputOf (wlFrontendKeyboardFocus fe seat id) = outputOf seat := by
  have hleave : outputOf (keyboardLeave fe seat) = outputOf seat := by
    unfold keyboardLeave
    split <;> rfl
  unfold wlFrontendKeyboardFocus
  split
  · split
    · rfl
    · exact hleave
  · split
    · rfl
    · exact (outputOf_sendModifiers _ _).trans hleave

@[simp] theorem outputOf_next (e : ClientEvent) : outputOf (seat.next fe e) = outputOf seat := by
  cases e with
  | surface client e => cases e <;> rfl
  | getPointer client resource version => cases resource <;> rfl
  | getKeyboard client resource version =>
      cases resource with
      | none => rfl
      | some r =>
          simp only [Seat.next, seatGetKeyboard]
          split <;> split <;> rfl
  | unlink r => rfl
  | bindOutput client resource => cases resource <;> rfl

end Frontend

/-! ## The transport -/

def advertised (t : Transport) : Int × Int := (t.sw, t.sh)

section Transport

variable (t : Transport)

@[simp] theorem advertised_pointerInput (cursorX cursorY : Int) (kind : ClInputKind) (code : Nat)
    (pressed : Bool) :
    advertised (pointerInput t cursorX cursorY kind code pressed) = advertised t := by
  unfold pointerInput
  split
  · rfl
  · split <;> rfl

@[simp] theorem advertised_transportKeyboardKey (focusId keysym : Nat) (pressed : Bool) :
    advertised (transportKeyboardKey t focusId keysym pressed) = advertised t := by
  unfold transportKeyboardKey
  split <;> rfl

@[simp] theorem advertised_transportNotifyGeometry (id : Nat) :
    advertised (transportNotifyGeometry t id) = advertised t := by
  unfold transportNotifyGeometry
  split
  · rfl
  · split <;> rfl

@[simp] theorem advertised_transportUpdateFocus (id : Nat) :
    advertised (transportUpdateFocus t id) = advertised t :=
  Prod.ext (Tidy.notifyFocus (S := False) t id).sw (Tidy.notifyFocus (S := False) t id).sh

@[simp] theorem advertised_transportBroadcastScreen (w h : Int) :
    advertised (transportBroadcastScreen t w h) = (w, h) := by
  refine List.foldlRecOn (motive := fun u => advertised u = (w, h)) _ _ ?_ ?_
  · rfl
  · intro u hu i _
    refine Eq.trans ?_ hu
    unfold sendScreen
    split <;> rfl

end Transport

/-! ## All sizes -/

def modeSize (k : Kms) : Int × Int := (k.mode.hdisplay.toNat, k.mode.vdisplay.toNat)

def fbSize (fb : DumbFb) : Int × Int := (fb.w, fb.h)

namespace ServerRun

/--
The sizes that the parts of the server work with: the mode, the two framebuffers,
the window manager's screen, what the transport tells native clients, the range
of absolute positions, and what the frontend tells Wayland clients.
-/
def sizes (X : ServerRun) : List (Int × Int) :=
  [modeSize X.kms, fbSize (X.fb firstFb), fbSize (X.fb secondFb), screenOf X.wm,
    advertised X.world.t, (X.inputW, X.inputH), outputOf X.seat]

def SizesAgree (X : ServerRun) : Prop := ∀ p ∈ X.sizes, ∀ q ∈ X.sizes, p = q

/-- The parts that a change of the resolution reaches, and those that it does not. -/
def Sized (current initial : Int × Int) (X : ServerRun) : Prop :=
  X.sizes = [current, current, current, current, current, initial, initial]

theorem Sized.agree_iff {current initial : Int × Int} {X : ServerRun}
    (h : X.Sized current initial) : X.SizesAgree ↔ current = initial := by
  unfold SizesAgree
  rw [h]
  constructor
  · intro hagree
    exact hagree current (by simp) initial (by simp)
  · rintro rfl p hp q hq
    simp only [List.mem_cons, List.not_mem_nil, or_false, or_self] at hp hq
    rw [hp, hq]

end ServerRun

def changedTo : ServerEvent → Option (Int × Int)
  | .control w h refresh a =>
      if (requestedMode a.mode w h refresh).isSome ∧ a.mode.blob.isSome ∧
          ∀ i, (a.fb i).Succeeds then some (w, h)
      else none
  | _ => none

def lastSize (initial : Int × Int) (es : List ServerEvent) : Int × Int :=
  es.foldl (fun size e => (changedTo e).getD size) initial

/-- A change of the resolution that does not fail at a framebuffer. -/
def Settles : ServerEvent → Prop
  | .control w h refresh a => ¬ StrandsMode a w h refresh
  | _ => True

instance (e : ServerEvent) : Decidable (Settles e) := by
  cases e <;> unfold Settles <;> infer_instance

/-! ## The handlers -/

section Handlers

variable (X : ServerRun)

theorem sizes_setWm {wm : Wm} (h : screenOf wm = screenOf X.wm) :
    (X.setWm wm).sizes = X.sizes := by
  simp only [ServerRun.sizes, ← h]
  rfl

theorem sizes_setTransport {t : Transport} (h : advertised t = advertised X.world.t) :
    (X.setTransport t).sizes = X.sizes := by
  simp only [ServerRun.sizes, ← h]
  rfl

theorem sizes_setSeat {seat : Seat} (h : outputOf seat = outputOf X.seat) :
    ServerRun.sizes { X with seat := seat } = X.sizes := by
  simp only [ServerRun.sizes, ← h]

theorem sizes_routeMotion : (routeMotion X).sizes = X.sizes :=
  (sizes_setTransport _ (advertised_pointerInput ..)).trans
    (sizes_setSeat X (outputOf_wlFrontendPointerMotion ..))

theorem sizes_routeButton (button : Nat) (pressed : Bool) :
    (routeButton X button pressed).sizes = X.sizes :=
  (sizes_setTransport _ (advertised_pointerInput ..)).trans
    (sizes_setSeat X (outputOf_wlFrontendPointerButton ..))

theorem sizes_routeKey (keysym keycode : Nat) (pressed : Bool) :
    (routeKey X keysym keycode pressed).sizes = X.sizes :=
  (sizes_setTransport _ (advertised_transportKeyboardKey ..)).trans
    (sizes_setSeat X (outputOf_wlFrontendKeyboardKey ..))

theorem sizes_onKey (keysym keycode : Nat) (pressed altDown : Bool) :
    (onKey X keysym keycode pressed altDown).sizes = X.sizes := by
  have htracked : (trackModifiers X keycode pressed).sizes = X.sizes := by
    unfold trackModifiers
    split
    · rfl
    · split <;> rfl
  rw [← htracked]
  unfold onKey
  generalize trackModifiers X keycode pressed = Y
  have hkey := sizes_setWm Y (screenOf_wmKey Y.wm keysym pressed altDown)
  dsimp only
  split
  · rfl
  · split
    · rfl
    · split
      · exact hkey
      · exact (sizes_routeKey _ keysym keycode pressed).trans hkey

theorem sizes_onInput (ev : InputEvent) : (onInput X ev).sizes = X.sizes := by
  have hactive : ServerRun.sizes { X with activity := true } = X.sizes := rfl
  rw [← hactive]
  unfold onInput
  generalize ({ X with activity := true } : ServerRun) = Y
  cases ev with
  | motion dx dy => exact (sizes_routeMotion _).trans (sizes_setWm Y (screenOf_wmPointerMotion ..))
  | motionAbs ax ay =>
      exact (sizes_routeMotion _).trans (sizes_setWm Y (screenOf_wmPointerMotionAbs ..))
  | button button pressed =>
      exact (sizes_routeButton _ button pressed).trans
        (sizes_setWm Y (screenOf_wmPointerButton ..))
  | key keysym keycode pressed altDown => exact sizes_onKey Y keysym keycode pressed altDown

theorem sizes_atTail : X.atTail.sizes = X.sizes := by
  have hnotify (Y : ServerRun) : Y.notifyReconfigured.sizes = Y.sizes := by
    unfold ServerRun.notifyReconfigured
    split
    · exact sizes_setTransport Y (advertised_transportNotifyGeometry ..)
    · rfl
  exact ((hnotify _).trans (sizes_setTransport _ (advertised_transportUpdateFocus ..))).trans
    (sizes_setSeat X (outputOf_wlFrontendKeyboardFocus ..))

theorem sizes_atWayland (e : ClientEvent) : (X.atWayland e).sizes = X.sizes := by
  have hseat := sizes_setSeat X (outputOf_next X.fe X.seat e)
  cases e <;> exact hseat

theorem sizes_announceMode (nw nh : Int) :
    (announceMode X nw nh).sizes =
      [modeSize X.kms, fbSize (X.fb firstFb), fbSize (X.fb secondFb), (nw, nh), (nw, nh),
        (X.inputW, X.inputH), outputOf X.seat] := by
  have hadvertised := advertised_transportBroadcastScreen
    (X.setWm (resizeScreen X.wm nw nh)).world.t nw nh
  have hsizes : (announceMode X nw nh).sizes =
      [modeSize X.kms, fbSize (X.fb firstFb), fbSize (X.fb secondFb), (nw, nh),
        advertised (transportBroadcastScreen (X.setWm (resizeScreen X.wm nw nh)).world.t nw nh),
        (X.inputW, X.inputH), outputOf X.seat] := rfl
  rw [hsizes, hadvertised]

theorem sizes_next (e : ServerEvent) (he : ∀ w h refresh a, e ≠ .control w h refresh a) :
    (X.next e).sizes = X.sizes := by
  cases e with
  | seat active =>
      show (X.atSeat active).sizes = X.sizes
      unfold ServerRun.atSeat
      split
      · rfl
      · split <;> rfl
  | idle now committed =>
      show (X.atIdle now committed).sizes = X.sizes
      have hwake : (X.wake now).sizes = X.sizes := by
        unfold ServerRun.wake
        split
        · dsimp only
          split <;> rfl
        · rfl
      rw [← hwake]
      unfold ServerRun.atIdle
      dsimp only
      split <;> rfl
  | frame answers =>
      show (X.atFrame answers).sizes = X.sizes
      unfold ServerRun.atFrame
      split <;> rfl
  | input raw => exact sizes_onInput X (emit X raw)
  | transport e =>
      obtain ⟨hsw, hsh⟩ := World.screen_next X.world e
      exact sizes_setTransport X (t := (X.world.next e).t) (Prod.ext hsw hsh)
  | wayland e => exact sizes_atWayland X e
  | control w h refresh a => exact (he w h refresh a rfl).elim
  | hotplug changed => cases changed <;> rfl
  | tail => exact sizes_atTail X
  | pass => rfl

end Handlers

/-! ## Runs -/

namespace ServerRun.Sized

variable {current initial : Int × Int} {X : ServerRun}

theorem control (h : X.Sized current initial) {a : ApplyAnswers} {w ht refresh : Int}
    (hsettles : ¬ StrandsMode a w ht refresh) :
    (applyModeCb X a w ht refresh).1.Sized
      ((changedTo (.control w ht refresh a)).getD current) initial := by
  rcases applyModeCb_cases X a w ht refresh with
    ⟨hnone, heq⟩ | ⟨newmode, blob, drm, fb, hmode, hmade, ⟨hfail, heq⟩ | ⟨hsucceed, hfb, heq⟩⟩
  · have hsame : changedTo (.control w ht refresh a) = none := by
      rcases hnone with hnone | hnone <;> simp [changedTo, hnone]
    rw [heq, hsame]
    exact h
  · exact (hsettles ⟨by rw [hmode]; rfl, by rw [hmade]; rfl, hfail⟩).elim
  · have hnew : changedTo (.control w ht refresh a) = some (w, ht) := by
      simp [changedTo, hmode, hmade, hsucceed]
    obtain ⟨hw, hh⟩ := requestedMode_size hmode
    obtain ⟨-, -, -, -, -, hinput, houtput⟩ :
        _ ∧ _ ∧ _ ∧ _ ∧ _ ∧ (X.inputW, X.inputH) = initial ∧ outputOf X.seat = initial := by
      simpa [Sized, sizes] using h
    rw [heq, hnew, Sized, sizes_announceMode]
    simp only [modeSize, fbSize, hw, hh, (hfb firstFb).1, (hfb firstFb).2, (hfb secondFb).1,
      (hfb secondFb).2, hinput, houtput, Option.getD_some]

theorem next (h : X.Sized current initial) {e : ServerEvent} (hsettles : Settles e) :
    (X.next e).Sized ((changedTo e).getD current) initial := by
  by_cases he : ∃ w ht refresh a, e = .control w ht refresh a
  · obtain ⟨w, ht, refresh, a, rfl⟩ := he
    exact h.control hsettles
  · push Not at he
    have hsame : changedTo e = none := by
      cases e with
      | control w ht refresh a => exact (he w ht refresh a rfl).elim
      | _ => rfl
    rw [hsame, Sized, sizes_next X e he]
    exact h

theorem exec (h : X.Sized current initial) {es : List ServerEvent}
    (hsettles : ∀ e ∈ es, Settles e) : (system.exec X es).Sized (lastSize current es) initial := by
  induction es generalizing X current with
  | nil => exact h
  | cons e es ih =>
      exact ih (h.next (hsettles e List.mem_cons_self)) fun e' he' =>
        hsettles e' (List.mem_cons_of_mem e he')

end ServerRun.Sized

theorem Setup.sized (S : Setup) : S.start.Sized (S.width, S.height) (S.width, S.height) := by
  have hfb (i : Fin 2) : fbSize (S.fb i) = (S.width, S.height) :=
    Prod.ext (S.fits i).1 (S.fits i).2
  have hsizes : S.start.sizes =
      [(S.width, S.height), fbSize (S.fb firstFb), fbSize (S.fb secondFb), (S.width, S.height),
        (S.width, S.height), (S.width, S.height), (S.width, S.height)] := rfl
  rw [ServerRun.Sized, hsizes, hfb firstFb, hfb secondFb]

/--
Wherever a run of the loop has come to, with changes of the resolution of which
none failed at a framebuffer, all sizes agree if and only if the last successful
change was one back to the size that the server was started with.
-/
theorem sizes_agree_iff_back (S : Setup) (es : List ServerEvent)
    (hsettles : ∀ e ∈ es, Settles e) :
    (ServerRun.system.exec S.start es).SizesAgree ↔
      lastSize (S.width, S.height) es = (S.width, S.height) :=
  (S.sized.exec hsettles).agree_iff

/-- The first iteration, up to its control socket, where the mode is changed to 1280 by 720. -/
def shrinkRun : List ServerEvent :=
  [.seat true, .idle 0 false, .frame ⟨true, true⟩, .pass, .pass, .pass,
    .control 1280 720 0 ⟨⟨some monitor, some 8⟩, newBuffer⟩]

def smallerRun : List ServerEvent := shrinkRun ++ [.pass, .hotplug false, .tail]

/-- Then the mode is changed back to the first one. -/
def restoredRun : List ServerEvent :=
  shrinkRun ++
    [.control 1920 1080 0 ⟨⟨some monitor, some 9⟩, newBuffer⟩, .pass, .hotplug false, .tail]

theorem sizes_agree_iff_back_restoredRun :
    (ServerRun.system.exec plainSetup.start restoredRun).SizesAgree ↔
      lastSize (1920, 1080) restoredRun = (1920, 1080) :=
  sizes_agree_iff_back plainSetup restoredRun (by decide)

/-- At the top of the second iteration the mode is smaller, the range of the pointer is not. -/
theorem smaller_mode_stale_range :
    ServerRun.system.Legal plainSetup.start smallerRun ∧
      (ServerRun.system.exec plainSetup.start smallerRun).stage = .seat ∧
      ¬ (ServerRun.system.exec plainSetup.start smallerRun).SizesAgree := by
  refine ⟨⟨⟨rfl, rfl⟩, rfl, rfl, .inl rfl, .inr (.inl rfl), .inr (.inr (.inl rfl)), rfl,
    .inr (.inr (.inr rfl)), rfl, rfl, trivial⟩, by decide, fun h => ?_⟩
  have hagree := h (1280, 720) (by decide) (1920, 1080) (by decide)
  revert hagree
  decide

end CrystallineLattice.Server
