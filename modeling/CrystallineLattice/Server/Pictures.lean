import CrystallineLattice.Server.Flush
import CrystallineLattice.Server.Pointing
import CrystallineLattice.Wayland.Repaint

/-!
# Changes of the picture

The frame that `composite` draws depends on the windows, on the memory behind them, on
the cursor and on its shape.  A change of one of them asks for a repaint: the server
does it in `ctx.dirty`, or the frontend in its own `dirty`.
-/

namespace CrystallineLattice.Server

open CrystallineLattice.Foundation
open CrystallineLattice.Stack
open CrystallineLattice.Compositor (Block DumbFb SameLook)
open CrystallineLattice.Native
open CrystallineLattice.Wayland
open CrystallineLattice.Manager

namespace ServerRun

def frame (X : ServerRun) (shared : Nat → Block) (fb : DumbFb) : Option DumbFb :=
  X.picture (X.fe.memory shared) fb X.wm.cursorX X.wm.cursorY

/-- The compositor sees no difference between the states. -/
structure SameFrame (X Y : ServerRun) : Prop where
  look : ∀ shared, SameLook X.stack Y.stack (X.fe.memory shared) (Y.fe.memory shared)
  cursor : Y.world.t.cursor = X.world.t.cursor
  cursorX : Y.wm.cursorX = X.wm.cursorX
  cursorY : Y.wm.cursorY = X.wm.cursorY

namespace SameFrame

variable {X Y Z : ServerRun}

theorem trans (h : SameFrame X Y) (h' : SameFrame Y Z) : SameFrame X Z where
  look shared := (h.look shared).trans (h'.look shared)
  cursor := h'.cursor.trans h.cursor
  cursorX := h'.cursorX.trans h.cursorX
  cursorY := h'.cursorY.trans h.cursorY

theorem frame (h : SameFrame X Y) (shared : Nat → Block) (fb : DumbFb) :
    Y.frame shared fb = X.frame shared fb := by
  unfold ServerRun.frame picture
  rw [h.cursor, h.cursorX, h.cursorY, (h.look shared).composite]

theorem of_eq (hworld : Y.world = X.world) (hfe : Y.fe = X.fe) (hwm : Y.wm = X.wm) :
    SameFrame X Y := by
  have hstack : Y.stack = X.stack := by rw [stack, hworld, stack]
  refine ⟨fun shared => ?_, by rw [hworld], by rw [hwm], by rw [hwm]⟩
  rw [hstack, hfe]
  exact .refl _ _

theorem refl (X : ServerRun) : SameFrame X X := of_eq rfl rfl rfl

theorem setWorld {W : World} (h : SameScene X.world.t W.t) : SameFrame X (X.setWorld W) :=
  ⟨fun _ => ⟨h.windows, h.focusId, fun p _ => by cases p <;> rfl⟩, h.cursor, rfl, rfl⟩

theorem setTransport {t : Transport} (h : SameScene X.world.t t) :
    SameFrame X (X.setTransport t) :=
  setWorld (W := { X.world with t := t }) h

theorem setWm {wm : Wm} (hstack : wm.stack = X.wm.stack) (hx : wm.cursorX = X.wm.cursorX)
    (hy : wm.cursorY = X.wm.cursorY) : SameFrame X (X.setWm wm) := by
  have hsame : (X.setWm wm).stack = X.stack := hstack.trans X.wmStack
  exact ⟨fun _ => ⟨by rw [hsame], by rw [hsame], fun p _ => by cases p <;> rfl⟩, rfl, hx, hy⟩

/-! ## Sending -/

theorem transportKeyboardKey (t : Transport) (focusId keysym : Nat) (pressed : Bool) :
    SameScene t (transportKeyboardKey t focusId keysym pressed) := by
  unfold Native.transportKeyboardKey
  split
  · exact .refl t
  · exact .same rfl rfl

theorem transportUpdateFocus (t : Transport) (id : Nat) :
    SameScene t (transportUpdateFocus t id) := by
  have hsend (u : Transport) (id : Nat) (focused : Bool) :
      SameScene u (sendFocus u id focused) := by
    unfold sendFocus
    split
    · exact .refl u
    · exact .same rfl rfl
  unfold Native.transportUpdateFocus notifyFocus
  split
  · exact .refl t
  · have hleft := hsend t t.focusedServerId false
    have hnoted : SameScene (sendFocus t t.focusedServerId false)
        { sendFocus t t.focusedServerId false with focusedServerId := id } := .same rfl rfl
    exact (hleft.trans hnoted).trans (hsend _ id true)

/-! ## The stages -/

theorem atSeat (X : ServerRun) (active : Bool) : SameFrame X (X.atSeat active) := by
  unfold ServerRun.atSeat
  split
  · exact of_eq rfl rfl rfl
  · split <;> exact of_eq rfl rfl rfl

theorem atIdle (X : ServerRun) (now : Int) (committed : Bool) :
    SameFrame X (X.atIdle now committed) := by
  have hwake : SameFrame X (X.wake now) := by
    unfold ServerRun.wake
    split
    · dsimp only
      split <;> exact of_eq rfl rfl rfl
    · exact refl X
  refine hwake.trans ?_
  unfold ServerRun.atIdle
  dsimp only
  split
  · exact of_eq rfl rfl rfl
  · exact refl _

theorem atFrame (X : ServerRun) (answers : CommitAnswers) : SameFrame X (X.atFrame answers) := by
  unfold ServerRun.atFrame
  split
  · exact of_eq rfl rfl rfl
  · exact refl X

theorem onKey (X : ServerRun) (keysym keycode : Nat) (pressed altDown : Bool)
    (hclean : (onKey X keysym keycode pressed altDown).dirty = false) :
    SameFrame X (onKey X keysym keycode pressed altDown) := by
  have htracked : SameFrame X (trackModifiers X keycode pressed) := by
    unfold trackModifiers
    split
    · exact of_eq rfl rfl rfl
    · split
      · exact of_eq rfl rfl rfl
      · exact refl X
  revert hclean
  unfold Server.onKey
  generalize trackModifiers X keycode pressed = Y at htracked
  dsimp only
  split
  · exact fun _ => htracked
  · split
    · exact fun _ => htracked.trans (of_eq rfl rfl rfl)
    · unfold wmKey
      split
      · intro hclean
        cases hclean
      · intro _
        have hsame : SameFrame Y (Y.setWm Y.wm) := .setWm rfl rfl rfl
        have hseat : SameFrame (Y.setWm Y.wm) { Y.setWm Y.wm with
            seat := wlFrontendKeyboardKey Y.fe Y.seat keycode pressed } := of_eq rfl rfl rfl
        exact ((htracked.trans hsame).trans hseat).trans
          (.setTransport (transportKeyboardKey _ _ _ _))

theorem onInput (X : ServerRun) (ev : InputEvent) (hclean : (onInput X ev).dirty = false) :
    SameFrame X (onInput X ev) := by
  have hactive : SameFrame X { X with activity := true } := of_eq rfl rfl rfl
  cases ev with
  | key keysym keycode pressed altDown =>
      exact hactive.trans (onKey _ keysym keycode pressed altDown hclean)
  | _ => cases hclean

theorem atTransport (X : ServerRun) {e : Native.Event} (hown : OwnEvent e)
    (hclean : (X.atTransport e).dirty = false) : SameFrame X (X.atTransport e) := by
  have hquiet : X.transportDirty e = false := (Bool.or_eq_false_iff.mp hclean).2
  have hscene : SameScene X.world.t (X.world.next e).t := by
    cases e with
    | addClient fd epollOk => exact transportAddClient_scene X.world.t fd epollOk
    | datagram i d k now => exact clientDatagram_clean hquiet
    | hangup i now => cases hquiet
    | expire now =>
        rw [World.next, orphansExpire_clean hquiet]
        exact .refl X.world.t
    | updateFocus id => exact hown.elim
    | other op => exact hown.elim
  exact (setWorld hscene).trans (of_eq rfl rfl rfl)

theorem setFe {X : ServerRun} (hX : X.Inv) {e : FeEvent} (hen : X.fe.enabled e)
    (hours : ∀ stack, e ≠ .outside stack) (hquiet : (X.fe.next e).dirty = false)
    (reported : Bool) : SameFrame X (X.setFe { X.fe.next e with dirty := reported }) := by
  refine ⟨fun shared => ?_, rfl, rfl, rfl⟩
  have hlook := (repaints_next hX.coherent hen hours).sameLook hquiet shared
  rw [X.feStack] at hlook
  exact ⟨hlook.windows, hlook.focusId, fun p hp => (by cases p <;> rfl : _ = _).trans
    (hlook.pixels p hp)⟩

theorem atWayland {X : ServerRun} (hX : X.Inv) {e : ClientEvent} (hen : X.ClientEnabled e)
    (hclean : (X.atWayland e).dirty = false) : SameFrame X (X.atWayland e) := by
  cases e with
  | surface client e =>
      have hquiet : (X.fe.next e).dirty = false := (Bool.or_eq_false_iff.mp hclean).2
      exact (setFe hX hen.1 hen.2 hquiet false).trans (of_eq rfl rfl rfl)
  | getPointer client resource version => exact of_eq rfl rfl rfl
  | getKeyboard client resource version => exact of_eq rfl rfl rfl
  | unlink r => exact of_eq rfl rfl rfl
  | bindOutput client resource => exact of_eq rfl rfl rfl

theorem drop {X : ServerRun} (hX : X.Inv) {e : ClientEvent} (hen : X.CanDrop e)
    (hclean : (X.drop e).fe.dirty = false) : SameFrame X (X.drop e) := by
  cases e with
  | surface client e =>
      have hset := setFe hX hen.surface.1 hen.surface.2 hclean (X.fe.next e).dirty
      exact hset.trans (of_eq rfl rfl rfl)
  | _ => exact of_eq rfl rfl rfl

theorem collect (X : ServerRun) : SameFrame X X.collect :=
  ⟨fun _ => ⟨rfl, rfl, fun p _ => by cases p <;> rfl⟩, rfl, rfl, rfl⟩

theorem applyModeCb (X : ServerRun) (a : ApplyAnswers) (w h refresh : Int)
    (hclean : (applyModeCb X a w h refresh).1.dirty = false) :
    SameFrame X (applyModeCb X a w h refresh).1 := by
  rcases applyModeCb_cases X a w h refresh with
    ⟨-, heq⟩ | ⟨newmode, blob, drm, fb, -, -, ⟨-, heq⟩ | ⟨-, -, heq⟩⟩
  · rw [heq]
    exact refl X
  · rw [heq]
    exact of_eq rfl rfl rfl
  · rw [heq] at hclean
    cases hclean

theorem notifyReconfigured (X : ServerRun) (hclean : X.notifyReconfigured.dirty = false) :
    SameFrame X X.notifyReconfigured := by
  revert hclean
  unfold ServerRun.notifyReconfigured
  split
  · exact fun hclean => nomatch hclean
  · exact fun _ => refl X

theorem atTail (X : ServerRun) (hclean : X.atTail.dirty = false) : SameFrame X X.atTail := by
  have hseat : SameFrame X { X with
      seat := wlFrontendKeyboardFocus X.fe X.seat X.stack.focusId } := of_eq rfl rfl rfl
  have hfocus := hseat.trans (.setTransport (transportUpdateFocus _ X.stack.focusId))
  exact hfocus.trans (notifyReconfigured _ hclean)

/-- As long as no repaint is asked for, the next frame would be the same. -/
theorem next {X : ServerRun} (hX : X.Inv) {e : ServerEvent} (hen : X.enabled e)
    (hclean : (X.next e).dirty = false) : SameFrame X (X.next e) := by
  have hadvance (Y : ServerRun) : SameFrame Y Y.advance := of_eq rfl rfl rfl
  cases e with
  | seat active => exact (atSeat X active).trans (hadvance _)
  | idle now committed => exact (atIdle X now committed).trans (hadvance _)
  | frame answers => exact (atFrame X answers).trans (hadvance _)
  | input raw => exact onInput X _ hclean
  | transport e => exact atTransport X hen.2.1 hclean
  | wayland e => exact atWayland hX hen.2 hclean
  | control w h refresh a => exact applyModeCb X a w h refresh hclean
  | hotplug changed => cases changed <;> exact of_eq rfl rfl rfl
  | tail => exact (atTail X hclean).trans (hadvance _)
  | pass => exact hadvance X

end SameFrame

/-! ## Repaints that were asked for -/

/-- Neither the server nor the frontend has noted that a repaint is needed. -/
def Clean (X : ServerRun) : Prop := X.dirty = false ∧ X.fe.dirty = false

/-- What changes the picture asks for a repaint, and no repaint is forgotten. -/
structure Reports (X Y : ServerRun) : Prop where
  inv : X.Inv → Y.Inv
  within : Y.Within → X.Within
  clean : X.Inv → Y.Clean → X.Clean ∧ SameFrame X Y

namespace Reports

variable {X Y Z : ServerRun}

theorem trans (h : Reports X Y) (h' : Reports Y Z) : Reports X Z where
  inv hX := h'.inv (h.inv hX)
  within hZ := h.within (h'.within hZ)
  clean hX hclean := by
    obtain ⟨hmid, hlate⟩ := h'.clean (h.inv hX) hclean
    obtain ⟨hstart, hearly⟩ := h.clean hX hmid
    exact ⟨hstart, hearly.trans hlate⟩

theorem of_eq (hworld : Y.world = X.world) (hfe : Y.fe = X.fe) (hwm : Y.wm = X.wm)
    (hdirty : Y.dirty = X.dirty) : Reports X Y where
  inv := (Keeps.same hworld hfe (by rw [hwm]) (by rw [hwm])).inv
  within := (Keeps.same hworld hfe (by rw [hwm]) (by rw [hwm])).within
  clean _ hclean := ⟨⟨hdirty ▸ hclean.1, hfe ▸ hclean.2⟩, .of_eq hworld hfe hwm⟩

theorem drop {e : ClientEvent} (hen : X.CanDrop e) (hwithin : (X.drop e).Within) :
    Reports X (X.drop e) where
  inv := (Keeps.drop hen hwithin).inv
  within := (Keeps.drop hen hwithin).within
  clean hX hclean := by
    refine ⟨?_, .drop hX hen hclean.2⟩
    cases e with
    | surface client e =>
        have hraised := (repaints_next hX.coherent hen.surface.1 hen.surface.2).raised
        exact ⟨hclean.1, hraised hclean.2⟩
    | _ => exact hclean

theorem lose {lost : List ClientEvent} (hrun : dropSystem.Legal X lost)
    (hwithin : (dropSystem.exec X lost).Within) : Reports X (dropSystem.exec X lost) := by
  induction lost generalizing X with
  | nil => exact of_eq rfl rfl rfl rfl
  | cons e lost ih =>
      have hmid : (X.drop e).Within := (Keeps.lose hrun.2 hwithin).within hwithin
      exact (drop hrun.1 hmid).trans (ih hrun.2 hwithin)

theorem collect (X : ServerRun) : Reports X X.collect where
  inv := (Keeps.collect X).inv
  within := (Keeps.collect X).within
  clean _ hclean := ⟨Bool.or_eq_false_iff.mp hclean.1, .collect X⟩

theorem updateFocus (X : ServerRun) : Reports X X.updateFocus := by
  have hkeeps : Keeps X X.updateFocus :=
    .setTransport (.transportUpdateFocus _ _) (advertised_transportUpdateFocus _ _)
  refine ⟨hkeeps.inv, hkeeps.within, fun _ hclean => ⟨hclean, ?_⟩⟩
  exact .setTransport (SameFrame.transportUpdateFocus _ _)

theorem notifyReconfigured (X : ServerRun) : Reports X X.notifyReconfigured where
  inv := (Keeps.notifyReconfigured X).inv
  within := (Keeps.notifyReconfigured X).within
  clean _ hclean := by
    refine ⟨?_, .notifyReconfigured X hclean.1⟩
    revert hclean
    unfold ServerRun.notifyReconfigured
    split
    · exact fun hclean => nomatch hclean.1
    · exact fun hclean => hclean

/-- A window that goes with a client is noted in the frontend's `dirty`. -/
theorem atTailLosing {lost : List ClientEvent} (hrun : dropSystem.Legal X.focusKeyboard lost)
    (hwithin : (X.atTailLosing lost).Within) : Reports X (X.atTailLosing lost) := by
  have hseat : Reports X X.focusKeyboard := of_eq rfl rfl rfl rfl
  have hrest := (updateFocus (dropSystem.exec X.focusKeyboard lost)).trans (notifyReconfigured _)
  exact (hseat.trans (lose hrun (hrest.within hwithin))).trans hrest

end Reports

end ServerRun

end CrystallineLattice.Server
