import CrystallineLattice.Server.Pictures

/-!
# What the loop does by itself

Apart from the clients' requests, the server sends messages, moves and stacks
windows, and keeps its own books.  A relation that allows this much holds across
every such event.
-/

namespace CrystallineLattice.Server

open CrystallineLattice.Foundation
open CrystallineLattice.Stack
open CrystallineLattice.Native
open CrystallineLattice.Wayland
open CrystallineLattice.Manager

/-! ## Sending leaves the cursor's shape alone -/

theorem cursor_pointerInput (t : Transport) (cursorX cursorY : Int) (kind : ClInputKind)
    (code : Nat) (pressed : Bool) :
    (pointerInput t cursorX cursorY kind code pressed).cursor = t.cursor := by
  unfold pointerInput
  split
  · rfl
  · split <;> rfl

theorem cursor_transportNotifyGeometry (t : Transport) (id : Nat) :
    (transportNotifyGeometry t id).cursor = t.cursor := by
  unfold transportNotifyGeometry
  split
  · rfl
  · split <;> rfl

theorem cursor_transportBroadcastScreen (t : Transport) (w h : Int) :
    (transportBroadcastScreen t w h).cursor = t.cursor := by
  refine List.foldlRecOn (motive := fun u : Transport => u.cursor = t.cursor) _ _ rfl ?_
  intro u hu i _
  unfold sendScreen
  split <;> exact hu

/-! ## The rule -/

/-- `R` allows the server to send, to rearrange the windows, and to do what neither of them sees. -/
structure Housekeeping (R : ServerRun → ServerRun → Prop) : Prop where
  trans : ∀ {X Y Z}, R X Y → R Y Z → R X Z
  same : ∀ {X Y : ServerRun}, Y.world = X.world → Y.fe = X.fe →
    Y.wm.moving = X.wm.moving → Y.wm.moveId = X.wm.moveId → R X Y
  send : ∀ {X : ServerRun} {t}, SameBooks X.world.t t → t.cursor = X.world.t.cursor →
    R X (X.setTransport t)
  rearrange : ∀ {X : ServerRun} {wm}, (X.Inv → (X.setWm wm).Inv) →
    (X.Inv → Rearranges X.stack wm.stack) → R X (X.setWm wm)

namespace Housekeeping

variable {R : ServerRun → ServerRun → Prop}

theorem manage (hR : Housekeeping R) {X : ServerRun} {wm : Wm} (h : X.Inv → Manages X.wm wm) :
    R X (X.setWm wm) :=
  hR.rearrange (fun hX => hX.setWm (h hX).rearranges (h hX).drag) fun hX => by
    rw [ServerRun.stack, ← X.wmStack]
    exact (h hX).rearranges

theorem routeMotion (hR : Housekeeping R) (X : ServerRun) : R X (routeMotion X) := by
  have hseat : R X { X with
      seat := wlFrontendPointerMotion X.fe X.seat X.wm.cursorX X.wm.cursorY } :=
    hR.same rfl rfl rfl rfl
  exact hR.trans (hR.trans hseat (hR.send (.pointerInput _ _ _ _ _ _) (cursor_pointerInput ..)))
    (hR.same rfl rfl rfl rfl)

theorem routeButton (hR : Housekeeping R) (X : ServerRun) (button : Nat) (pressed : Bool) :
    R X (routeButton X button pressed) := by
  have hseat : R X { X with seat := wlFrontendPointerButton X.fe X.seat button pressed } :=
    hR.same rfl rfl rfl rfl
  exact hR.trans (hR.trans hseat (hR.send (.pointerInput _ _ _ _ _ _) (cursor_pointerInput ..)))
    (hR.same rfl rfl rfl rfl)

theorem routeKey (hR : Housekeeping R) (X : ServerRun) (keysym keycode : Nat) (pressed : Bool) :
    R X (routeKey X keysym keycode pressed) := by
  have hseat : R X { X with seat := wlFrontendKeyboardKey X.fe X.seat keycode pressed } :=
    hR.same rfl rfl rfl rfl
  exact hR.trans hseat (hR.send (.transportKeyboardKey _ _ _ _)
    (ServerRun.SameFrame.transportKeyboardKey _ _ _ _).cursor)

theorem onKey (hR : Housekeeping R) (X : ServerRun) (keysym keycode : Nat)
    (pressed altDown : Bool) : R X (onKey X keysym keycode pressed altDown) := by
  have htracked : R X (trackModifiers X keycode pressed) := by
    unfold trackModifiers
    split
    · exact hR.same rfl rfl rfl rfl
    · split <;> exact hR.same rfl rfl rfl rfl
  refine hR.trans htracked ?_
  unfold Server.onKey
  generalize trackModifiers X keycode pressed = Y
  have hwm : R Y (Y.setWm (wmKey Y.wm keysym pressed altDown).1) :=
    hR.manage fun hY => wmKey_manages hY.steered keysym pressed altDown
  dsimp only
  split
  · exact hR.same rfl rfl rfl rfl
  · split
    · exact hR.same rfl rfl rfl rfl
    · split
      · exact hR.trans hwm (hR.same rfl rfl rfl rfl)
      · exact hR.trans hwm (hR.routeKey _ keysym keycode pressed)

theorem onInput (hR : Housekeeping R) (X : ServerRun) (ev : InputEvent) : R X (onInput X ev) := by
  have hactive : R X { X with activity := true } := hR.same rfl rfl rfl rfl
  refine hR.trans hactive ?_
  cases ev with
  | motion dx dy =>
      refine hR.trans (hR.manage fun hY => ?_) (hR.routeMotion _)
      exact wmPointerMotion_manages hY.steered dx dy
  | motionAbs ax ay =>
      refine hR.trans (hR.manage fun hY => ?_) (hR.routeMotion _)
      exact wmPointerMotionAbs_manages hY.steered ax ay
  | button button pressed =>
      refine hR.trans (hR.manage fun hY => ?_) (hR.routeButton _ button pressed)
      exact wmPointerButton_manages hY.steered button pressed
  | key keysym keycode pressed altDown => exact hR.onKey _ keysym keycode pressed altDown

theorem notifyReconfigured (hR : Housekeeping R) (X : ServerRun) : R X X.notifyReconfigured := by
  unfold ServerRun.notifyReconfigured
  split
  · exact hR.trans (hR.send (.transportNotifyGeometry _ _) (cursor_transportNotifyGeometry ..))
      (hR.same rfl rfl rfl rfl)
  · exact hR.same rfl rfl rfl rfl

theorem atTail (hR : Housekeeping R) (X : ServerRun) : R X X.atTail := by
  have hseat : R X { X with seat := wlFrontendKeyboardFocus X.fe X.seat X.stack.focusId } :=
    hR.same rfl rfl rfl rfl
  have hfocus := (ServerRun.SameFrame.transportUpdateFocus X.world.t X.stack.focusId).cursor
  exact hR.trans (hR.trans hseat (hR.send (.transportUpdateFocus _ _) hfocus))
    (hR.notifyReconfigured _)

theorem announceMode (hR : Housekeeping R) (X : ServerRun) (nw nh : Int) :
    R X (announceMode X nw nh) := by
  have hfitted : R X (X.setWm (resizeScreen X.wm nw nh)) := by
    refine hR.rearrange (fun hX => ?_) fun _ => ?_
    · refine hX.setWm (coverDesktops_rearranges _ nw nh) fun hmoving => ?_
      exact (hX.steered.drag hmoving).keep (coverDesktops_roles _ nw nh)
    · rw [ServerRun.stack, ← X.wmStack]
      exact coverDesktops_rearranges _ nw nh
  exact hR.trans (hR.trans hfitted (hR.send (.transportBroadcastScreen _ nw nh)
    (cursor_transportBroadcastScreen ..))) (hR.same rfl rfl rfl rfl)

theorem applyModeCb (hR : Housekeeping R) (X : ServerRun) (a : ApplyAnswers) (w h refresh : Int) :
    R X (applyModeCb X a w h refresh).1 := by
  rcases applyModeCb_cases X a w h refresh with
    ⟨-, heq⟩ | ⟨newmode, blob, drm, fb, -, -, ⟨-, heq⟩ | ⟨-, -, heq⟩⟩
  · rw [heq]
    exact hR.same rfl rfl rfl rfl
  · rw [heq]
    exact hR.same rfl rfl rfl rfl
  · rw [heq]
    refine hR.trans ?_ (hR.announceMode _ w h)
    exact hR.same rfl rfl rfl rfl

def Outside : ServerEvent → Prop
  | .transport _ => True
  | .wayland (.surface _ _) => True
  | _ => False

theorem next (hR : Housekeeping R) (X : ServerRun) {e : ServerEvent} (he : ¬ Outside e) :
    R X (X.next e) := by
  have hkept (X Y : ServerRun) (hworld : Y.world = X.world) (hfe : Y.fe = X.fe)
      (hwm : Y.wm = X.wm) : R X Y := hR.same hworld hfe (by rw [hwm]) (by rw [hwm])
  cases e with
  | seat active =>
      refine hR.trans ?_ (hkept _ (X.atSeat active).advance rfl rfl rfl)
      unfold ServerRun.atSeat
      split
      · exact hkept X _ rfl rfl rfl
      · split <;> exact hkept X _ rfl rfl rfl
  | idle now committed =>
      have hwake : R X (X.wake now) := by
        unfold ServerRun.wake
        split
        · dsimp only
          split <;> exact hkept X _ rfl rfl rfl
        · exact hkept X X rfl rfl rfl
      refine hR.trans (hR.trans hwake ?_) (hkept _ (X.atIdle now committed).advance rfl rfl rfl)
      unfold ServerRun.atIdle
      dsimp only
      split <;> exact hkept _ _ rfl rfl rfl
  | frame answers =>
      refine hR.trans ?_ (hkept _ (X.atFrame answers).advance rfl rfl rfl)
      unfold ServerRun.atFrame
      split <;> exact hkept X _ rfl rfl rfl
  | input raw => exact hR.onInput X _
  | transport e => exact (he trivial).elim
  | wayland e =>
      cases e with
      | surface client e => exact (he trivial).elim
      | _ => exact hkept X _ rfl rfl rfl
  | control w h refresh a => exact hR.applyModeCb X a w h refresh
  | hotplug changed => cases changed <;> exact hkept X _ rfl rfl rfl
  | tail => exact hR.trans (hR.atTail X) (hkept _ X.atTail.advance rfl rfl rfl)
  | pass => exact hkept X _ rfl rfl rfl

end Housekeeping

end CrystallineLattice.Server
