import CrystallineLattice.Manager.Invariant
import CrystallineLattice.Server.Sizes
import CrystallineLattice.Wayland.Wallpaper

/-!
# The invariant of the server

The transport and the frontend stay coherent whatever the loop does, and the
window manager drags no wallpaper.  Each handler is shown to keep this, and to
tidy the stack for the screen that the transport knows.
-/

namespace CrystallineLattice.Server

open CrystallineLattice.Foundation
open CrystallineLattice.Stack
open CrystallineLattice.Native
open CrystallineLattice.Wayland
open CrystallineLattice.Manager
open CrystallineLattice.Platform

/-! ## Sending -/

/-- Windows, tables and sessions are the same; messages may have been sent. -/
structure SameBooks (t t' : Transport) : Prop where
  ledger : ∀ foreign, t'.ledger foreign = t.ledger foreign
  clients : t'.clients = t.clients

namespace SameBooks

variable {t t' t'' : Transport}

theorem stack (h : SameBooks t t') : t'.stack = t.stack := congrArg Ledger.stack (h.ledger [])

theorem trans (h : SameBooks t t') (h' : SameBooks t' t'') : SameBooks t t'' :=
  ⟨fun foreign => (h'.ledger foreign).trans (h.ledger foreign), h'.clients.trans h.clients⟩

theorem clSend (t : Transport) (fd : Int) (m : Message) : SameBooks t (clSend t fd m) :=
  ⟨fun _ => rfl, rfl⟩

theorem refl (t : Transport) : SameBooks t t := ⟨fun _ => rfl, rfl⟩

theorem pointerInput (t : Transport) (cursorX cursorY : Int) (kind : ClInputKind) (code : Nat)
    (pressed : Bool) : SameBooks t (pointerInput t cursorX cursorY kind code pressed) := by
  unfold Native.pointerInput
  split
  · exact refl t
  · split
    · exact refl t
    · exact clSend t _ _

theorem transportKeyboardKey (t : Transport) (focusId keysym : Nat) (pressed : Bool) :
    SameBooks t (transportKeyboardKey t focusId keysym pressed) := by
  unfold Native.transportKeyboardKey
  split
  · exact refl t
  · exact clSend t _ _

theorem transportNotifyGeometry (t : Transport) (id : Nat) :
    SameBooks t (transportNotifyGeometry t id) := by
  unfold Native.transportNotifyGeometry
  split
  · exact refl t
  · split
    · exact refl t
    · exact clSend t _ _

theorem transportUpdateFocus (t : Transport) (id : Nat) :
    SameBooks t (transportUpdateFocus t id) := by
  refine ⟨fun foreign => ledger_notifyFocus t id, ?_⟩
  have hsend (u : Transport) (id : Nat) (focused : Bool) :
      (sendFocus u id focused).clients = u.clients := by
    unfold sendFocus
    split <;> rfl
  unfold Native.transportUpdateFocus notifyFocus
  split
  · rfl
  · exact (hsend _ _ _).trans (hsend t _ _)

theorem transportBroadcastScreen (t : Transport) (w h : Int) :
    SameBooks t (transportBroadcastScreen t w h) := by
  refine List.foldlRecOn (motive := fun u => SameBooks t u) _ _ ?_ ?_
  · exact ⟨fun _ => rfl, rfl⟩
  · intro u hu i _
    refine hu.trans ?_
    unfold sendScreen
    split
    · exact clSend u _ _
    · exact refl u

end SameBooks

/-! ## The invariant -/

structure ServerRun.Inv (X : ServerRun) : Prop where
  coherent : Coherent none X.world X.fe
  numbered : X.fe.Numbered
  drag : X.wm.moving = true → NoWallpaper X.stack X.wm.moveId

/-- The handler keeps the invariant, tidies the stack for the same screen and creates no window. -/
structure Keeps (X Y : ServerRun) : Prop where
  inv : X.Inv → Y.Inv
  sw : Y.world.t.sw = X.world.t.sw
  sh : Y.world.t.sh = X.world.t.sh
  tidies : X.Inv → Tidies X.world.t.sw X.world.t.sh X.stack Y.stack
  within : Y.Within → X.Within

variable {X Y Z : ServerRun}

theorem ServerRun.Inv.steered (hX : X.Inv) : Steered X.wm where
  stack := by
    rw [X.wmStack]
    exact hX.coherent.world.ledger.stack
  drag hmoving := by
    rw [X.wmStack]
    exact hX.drag hmoving

theorem ServerRun.Inv.setTransport (hX : X.Inv) {t : Transport} (h : SameBooks X.world.t t) :
    (X.setTransport t).Inv := by
  have hstack : t.stack = X.stack := h.stack
  have hfe : (X.setTransport t).fe = X.fe := by
    show { X.fe with stack := t.stack } = X.fe
    rw [hstack, ServerRun.stack, ← X.feStack]
  refine ⟨?_, ?_, fun hmoving => ?_⟩
  · rw [hfe]
    refine ⟨X.feStack.trans hstack.symm, ⟨?_, ?_, ?_⟩, hX.coherent.contents, hX.coherent.shown⟩
    · show (t.ledger X.world.foreign).Inv
      rw [h.ledger]
      exact hX.coherent.world.ledger
    · show ∀ i, (t.clients i).fd < 0 → (t.clients i).hello = false
      rw [h.clients]
      exact hX.coherent.world.session.closed
    · show ∀ i, (t.clients i).hello = true ↔ (t.clients i).token ≠ 0
      rw [h.clients]
      exact hX.coherent.world.session.ready
  · rw [hfe]
    exact hX.numbered
  · show NoWallpaper t.stack X.wm.moveId
    rw [hstack]
    exact hX.drag hmoving

theorem ServerRun.Inv.setWm (hX : X.Inv) {wm : Wm} (h : Rearranges X.wm.stack wm.stack)
    (hdrag : wm.moving = true → NoWallpaper wm.stack wm.moveId) : (X.setWm wm).Inv := by
  rw [X.wmStack] at h
  have huntouched : Untouched X.world.foreign X.fe.stack wm.stack := by
    rw [X.feStack]
    exact .of_view h.view_eq
  refine ⟨⟨rfl, ⟨?_, ?_⟩, hX.coherent.contents, ?_⟩, hX.numbered, hdrag⟩
  · exact hX.coherent.world.ledger.rearrange h
  · exact ⟨hX.coherent.world.session.closed, hX.coherent.world.session.ready⟩
  · exact hX.coherent.shown.restack huntouched fun _ hid => hid

namespace Keeps

theorem trans (h : Keeps X Y) (h' : Keeps Y Z) : Keeps X Z where
  inv hX := h'.inv (h.inv hX)
  sw := h'.sw.trans h.sw
  sh := h'.sh.trans h.sh
  tidies hX := (h.tidies hX).trans (h.sw ▸ h.sh ▸ h'.tidies (h.inv hX))
  within hZ := h.within (h'.within hZ)

theorem same (hworld : Y.world = X.world) (hfe : Y.fe = X.fe)
    (hmoving : Y.wm.moving = X.wm.moving) (hmoveId : Y.wm.moveId = X.wm.moveId) : Keeps X Y := by
  have hstack : Y.stack = X.stack := congrArg (fun W : World => W.t.stack) hworld
  refine ⟨fun hX => ⟨?_, ?_, fun h => ?_⟩, by rw [hworld], by rw [hworld], fun _ => ?_, ?_⟩
  · rw [hworld, hfe]
    exact hX.coherent
  · rw [hfe]
    exact hX.numbered
  · rw [hstack, hmoveId]
    exact hX.drag (hmoving ▸ h)
  · rw [hstack]
    exact .refl _
  · unfold ServerRun.Within
    rw [hworld]
    exact fun h => h

theorem setTransport {t : Transport} (h : SameBooks X.world.t t)
    (hscreen : advertised t = advertised X.world.t) : Keeps X (X.setTransport t) where
  inv hX := hX.setTransport h
  sw := congrArg Prod.fst hscreen
  sh := congrArg Prod.snd hscreen
  tidies _ := .of_windows (congrArg WindowStack.windows h.stack)
    (congrArg WindowStack.nextId h.stack)
  within := by
    show (t.ledger X.world.foreign).Within → (X.world.t.ledger X.world.foreign).Within
    rw [h.ledger]
    exact fun hwithin => hwithin

theorem setWm {wm : Wm} (h : X.Inv → Manages X.wm wm) : Keeps X (X.setWm wm) where
  inv hX := hX.setWm (h hX).rearranges (h hX).drag
  sw := rfl
  sh := rfl
  tidies hX := by
    have htidies := (h hX).tidies X.world.t.sw X.world.t.sh
    rw [X.wmStack] at htidies
    exact htidies
  within hwithin := hwithin

/-! ## Input -/

theorem routeMotion (X : ServerRun) : Keeps X (routeMotion X) := by
  have hseat : Keeps X { X with
      seat := wlFrontendPointerMotion X.fe X.seat X.wm.cursorX X.wm.cursorY } :=
    .same rfl rfl rfl rfl
  exact (hseat.trans (.setTransport (.pointerInput _ _ _ _ _ _)
    (advertised_pointerInput _ _ _ _ _ _))).trans (.same rfl rfl rfl rfl)

theorem routeButton (X : ServerRun) (button : Nat) (pressed : Bool) :
    Keeps X (routeButton X button pressed) := by
  have hseat : Keeps X { X with
      seat := wlFrontendPointerButton X.fe X.seat button pressed } :=
    .same rfl rfl rfl rfl
  exact (hseat.trans (.setTransport (.pointerInput _ _ _ _ _ _)
    (advertised_pointerInput _ _ _ _ _ _))).trans (.same rfl rfl rfl rfl)

theorem routeKey (X : ServerRun) (keysym keycode : Nat) (pressed : Bool) :
    Keeps X (routeKey X keysym keycode pressed) := by
  have hseat : Keeps X { X with
      seat := wlFrontendKeyboardKey X.fe X.seat keycode pressed } :=
    .same rfl rfl rfl rfl
  exact hseat.trans (.setTransport (.transportKeyboardKey _ _ _ _)
    (advertised_transportKeyboardKey _ _ _ _))

theorem onKey (X : ServerRun) (keysym keycode : Nat) (pressed altDown : Bool) :
    Keeps X (onKey X keysym keycode pressed altDown) := by
  have htracked : Keeps X (trackModifiers X keycode pressed) := by
    unfold trackModifiers
    split
    · exact .same rfl rfl rfl rfl
    · split <;> exact .same rfl rfl rfl rfl
  refine htracked.trans ?_
  unfold Server.onKey
  generalize trackModifiers X keycode pressed = Y
  have hwm : Keeps Y (Y.setWm (wmKey Y.wm keysym pressed altDown).1) :=
    .setWm fun hY => wmKey_manages hY.steered keysym pressed altDown
  dsimp only
  split
  · exact .same rfl rfl rfl rfl
  · split
    · exact .same rfl rfl rfl rfl
    · split
      · exact hwm.trans (.same rfl rfl rfl rfl)
      · exact hwm.trans (routeKey _ keysym keycode pressed)

theorem onInput (X : ServerRun) (ev : InputEvent) : Keeps X (onInput X ev) := by
  have hactive : Keeps X { X with activity := true } := .same rfl rfl rfl rfl
  refine hactive.trans ?_
  cases ev with
  | motion dx dy =>
      refine trans (setWm fun hY => ?_) (routeMotion _)
      exact wmPointerMotion_manages hY.steered dx dy
  | motionAbs ax ay =>
      refine trans (setWm fun hY => ?_) (routeMotion _)
      exact wmPointerMotionAbs_manages hY.steered ax ay
  | button button pressed =>
      refine trans (setWm fun hY => ?_) (routeButton _ button pressed)
      exact wmPointerButton_manages hY.steered button pressed
  | key keysym keycode pressed altDown => exact onKey _ keysym keycode pressed altDown

/-! ## The other stages -/

theorem atSeat (X : ServerRun) (active : Bool) : Keeps X (X.atSeat active) := by
  unfold ServerRun.atSeat
  split
  · exact .same rfl rfl rfl rfl
  · split <;> exact .same rfl rfl rfl rfl

theorem atIdle (X : ServerRun) (now : Int) (committed : Bool) :
    Keeps X (X.atIdle now committed) := by
  have hwake : Keeps X (X.wake now) := by
    unfold ServerRun.wake
    split
    · dsimp only
      split <;> exact .same rfl rfl rfl rfl
    · exact .same rfl rfl rfl rfl
  refine hwake.trans ?_
  unfold ServerRun.atIdle
  dsimp only
  split <;> exact .same rfl rfl rfl rfl

theorem atFrame (X : ServerRun) (answers : CommitAnswers) : Keeps X (X.atFrame answers) := by
  unfold ServerRun.atFrame
  split <;> exact .same rfl rfl rfl rfl

theorem atHotplug (X : ServerRun) (changed : Bool) : Keeps X (X.atHotplug changed) := by
  cases changed <;> exact .same rfl rfl rfl rfl

theorem notifyReconfigured (X : ServerRun) : Keeps X X.notifyReconfigured := by
  unfold ServerRun.notifyReconfigured
  split
  · exact (setTransport (.transportNotifyGeometry _ _)
      (advertised_transportNotifyGeometry _ _)).trans (.same rfl rfl rfl rfl)
  · exact .same rfl rfl rfl rfl

theorem atTail (X : ServerRun) : Keeps X X.atTail := by
  have hseat : Keeps X { X with
      seat := wlFrontendKeyboardFocus X.fe X.seat X.stack.focusId } :=
    .same rfl rfl rfl rfl
  exact (hseat.trans (.setTransport (.transportUpdateFocus _ _)
    (advertised_transportUpdateFocus _ _))).trans (notifyReconfigured _)

theorem advance (X : ServerRun) : Keeps X X.advance := .same rfl rfl rfl rfl

/-! ## The clients -/

theorem atTransport {e : Native.Event} (hown : ServerRun.OwnEvent e)
    (hen : X.world.enabled e) (hwithin : (X.world.next e).Within) : Keeps X (X.atTransport e) := by
  have hours (op : OtherOp) : e ≠ .other op := fun heq => by
    rw [heq] at hown
    exact hown
  have hgentle : e.Gentle := by
    cases e with
    | other op => exact (hours op rfl).elim
    | _ => trivial
  have htidies (hX : X.Inv) := hX.coherent.world.tidies hen hours hwithin
  obtain ⟨hsw, hsh⟩ := World.screen_next X.world e
  refine ⟨fun hX => ?_, hsw, hsh, htidies, World.Within.mono⟩
  have hworld := hX.coherent.world
  have huntouched : Untouched X.world.foreign X.fe.stack (X.world.next e).t.stack := by
    rw [X.feStack]
    exact hworld.untouched hen hgentle hwithin
  have hforeign := (World.next_extends X.world e).2
  refine ⟨⟨rfl, hworld.step hen hwithin, hX.coherent.contents, ?_⟩, hX.numbered, ?_⟩
  · exact hX.coherent.shown.restack huntouched fun id hid => hforeign.subset hid
  · exact fun hmoving => (hX.drag hmoving).keep (htidies hX).roles

theorem apart (hX : X.Inv) {e : FeEvent} (hcreated : X.fe.created <+: (X.fe.next e).created)
    (hwithin : (follow X.world X.fe (X.fe.next e)).Within) : Apart X.fe (X.fe.next e) := by
  have hcounted : X.fe.stack.nextId =
      1 + X.world.t.history.created.length + X.world.foreign.length := by
    rw [X.feStack]
    exact hX.coherent.world.ledger.counting.counted
  refine ⟨fun a s hs hid => ?_, by omega, fun hne => ?_⟩
  · obtain ⟨w, hw, hrole, -⟩ := (hX.coherent.shown.mapped hs hid).window
    obtain ⟨w₀, hw₀, rfl⟩ := Option.map_eq_some_iff.mp hw
    refine .of_windowById ?_ hw₀ fun hdesktop => ?_
    · rw [X.feStack]
      exact hX.coherent.world.ledger.stack
    · cases hrole.symm.trans hdesktop
  · obtain ⟨made, hmade⟩ := hcreated
    have hsome : 0 < made.length := by
      refine List.length_pos_iff.mpr fun hnil => hne ?_
      rw [← hmade, hnil, List.append_nil]
    have hbound : X.world.t.history.created.length +
        (X.world.foreign ++ ((X.fe.next e).created.drop X.fe.created.length).map Prod.fst).length <
          4294967295 := hwithin
    rw [← hmade, List.drop_left, List.length_append, List.length_map] at hbound
    omega

theorem setFe (reported : Bool) {e : FeEvent} (hen : X.fe.enabled e)
    (hours : ∀ stack, e ≠ .outside stack)
    (hwithin : (follow X.world X.fe (X.fe.next e)).Within) :
    Keeps X (X.setFe { X.fe.next e with dirty := reported }) := by
  have hsame : Leads none none (X.fe.next e) { X.fe.next e with dirty := reported } :=
    .same rfl rfl rfl rfl
  have hleads (hX : X.Inv) := (leads_next (fun h => hX.numbered _ h) hen hours).trans hsame
  have htidies (hX : X.Inv) :
      Tidies X.world.t.sw X.world.t.sh X.stack (X.fe.next e).stack := by
    have h : Tidies X.world.t.sw X.world.t.sh X.fe.stack (X.fe.next e).stack :=
      next_tidies (apart hX (hleads hX).created hwithin) hours
    rwa [X.feStack] at h
  refine ⟨fun hX => ?_, rfl, rfl, htidies, within_of_follow⟩
  refine ⟨(hleads hX).coherent hX.coherent hwithin, hX.numbered.next e, ?_⟩
  exact fun hmoving => (hX.drag hmoving).keep (htidies hX).roles

theorem surface (client : Nat) {e : FeEvent} (hen : X.fe.enabled e)
    (hours : ∀ stack, e ≠ .outside stack)
    (hwithin : (follow X.world X.fe (X.fe.next e)).Within) :
    Keeps X (X.atWayland (.surface client e)) :=
  (setFe false hen hours hwithin).trans (.same rfl rfl rfl rfl)

theorem atWayland {e : ClientEvent} (hen : X.ClientEnabled e)
    (hwithin : (X.atWayland e).Within) : Keeps X (X.atWayland e) := by
  cases e with
  | surface client e => exact surface client hen.1 hen.2 hwithin
  | getPointer client resource version => exact .same rfl rfl rfl rfl
  | getKeyboard client resource version => exact .same rfl rfl rfl rfl
  | unlink r => exact .same rfl rfl rfl rfl
  | bindOutput client resource => exact .same rfl rfl rfl rfl

end Keeps

/-! ## A change of the resolution -/

theorem coverDesktop_rearranges (nw nh : Int) (s : WindowStack) (i : Nat) :
    Rearranges s (coverDesktop nw nh s i) := by
  unfold coverDesktop
  cases s.windows[i]? with
  | none => exact .refl _
  | some w =>
      dsimp only
      split
      · exact windowSetGeometry_rearranges _ _ _ _ _ _
      · exact .refl _

theorem coverDesktop_roles (nw nh : Int) (s : WindowStack) (i : Nat) :
    KeepsRoles s (coverDesktop nw nh s i) := by
  unfold coverDesktop
  cases s.windows[i]? with
  | none => exact .of_subset rfl (List.Subset.refl _)
  | some w =>
      dsimp only
      split
      · exact .edit _ _ (fun _ => rfl) fun _ => rfl
      · exact .of_subset rfl (List.Subset.refl _)

theorem coverDesktops_rearranges (s : WindowStack) (nw nh : Int) :
    Rearranges s (coverDesktops s nw nh) :=
  List.foldlRecOn (motive := Rearranges s) _ _ (.refl s) fun u hu i _ =>
    hu.trans (coverDesktop_rearranges nw nh u i)

theorem coverDesktops_roles (s : WindowStack) (nw nh : Int) :
    KeepsRoles s (coverDesktops s nw nh) :=
  List.foldlRecOn (motive := KeepsRoles s) _ _ (.of_subset rfl (List.Subset.refl _))
    fun u hu i _ => hu.trans (coverDesktop_roles nw nh u i)

theorem announceMode_inv (hX : X.Inv) (nw nh : Int) : (announceMode X nw nh).Inv := by
  have hresized : (X.setWm (resizeScreen X.wm nw nh)).Inv := by
    refine hX.setWm (coverDesktops_rearranges _ nw nh) fun hmoving => ?_
    exact (hX.steered.drag hmoving).keep (coverDesktops_roles _ nw nh)
  have hannounced := hresized.setTransport (.transportBroadcastScreen _ nw nh)
  exact ⟨hannounced.coherent, hannounced.numbered, hannounced.drag⟩

/-- A change that fails leaves all of this alone; one that succeeds announces the new size. -/
theorem applyModeCb_keeps (X : ServerRun) (a : ApplyAnswers) (w h refresh : Int) :
    Keeps X (applyModeCb X a w h refresh).1 ∨
      ∃ Y newmode, requestedMode a.mode w h refresh = some newmode ∧ Keeps X Y ∧
        (applyModeCb X a w h refresh).1 = announceMode Y w h := by
  rcases applyModeCb_cases X a w h refresh with
    ⟨-, heq⟩ | ⟨newmode, blob, drm, fb, hmode, -, ⟨-, heq⟩ | ⟨-, -, heq⟩⟩
  · rw [heq]
    exact .inl (.same rfl rfl rfl rfl)
  · rw [heq]
    exact .inl (.same rfl rfl rfl rfl)
  · refine .inr ⟨_, newmode, hmode, ?_, congrArg Prod.fst heq⟩
    exact .same rfl rfl rfl rfl

/-! ## Runs -/

theorem Keeps.next {e : ServerEvent} (hen : X.enabled e)
    (hsame : ∀ w h refresh a, e ≠ .control w h refresh a) (hwithin : (X.next e).Within) :
    Keeps X (X.next e) := by
  cases e with
  | seat active => exact (atSeat X active).trans (advance _)
  | idle now committed => exact (atIdle X now committed).trans (advance _)
  | frame answers => exact (atFrame X answers).trans (advance _)
  | input raw => exact onInput X _
  | transport e => exact atTransport hen.2.1 hen.2.2 hwithin
  | wayland e => exact atWayland hen.2 hwithin
  | control w h refresh a => exact (hsame w h refresh a rfl).elim
  | hotplug changed => exact (atHotplug X changed).trans (advance _)
  | tail => exact (atTail X).trans (advance _)
  | pass => exact advance X

namespace ServerRun

theorem announceMode_within (nw nh : Int) (h : (announceMode X nw nh).Within) : X.Within := by
  have hledger := (SameBooks.transportBroadcastScreen
    (X.setWm (resizeScreen X.wm nw nh)).world.t nw nh).ledger X.world.foreign
  have hbound : Ledger.Within ((transportBroadcastScreen
    (X.setWm (resizeScreen X.wm nw nh)).world.t nw nh).ledger X.world.foreign) := h
  rw [hledger] at hbound
  exact hbound

theorem Within.mono {e : ServerEvent} (hen : X.enabled e) (h : (X.next e).Within) : X.Within := by
  cases e with
  | control w h' refresh a =>
      rcases applyModeCb_keeps X a w h' refresh with hkeeps | ⟨Y, newmode, -, hkeeps, heq⟩
      · exact hkeeps.within h
      · refine hkeeps.within (announceMode_within w h' ?_)
        rw [← heq]
        exact h
  | _ => exact (Keeps.next hen (fun _ _ _ _ => by simp) h).within h

theorem Inv.step (hX : X.Inv) {e : ServerEvent} (hen : X.enabled e)
    (hwithin : (X.next e).Within) : (X.next e).Inv := by
  cases e with
  | control w h refresh a =>
      show (applyModeCb X a w h refresh).1.Inv
      rcases applyModeCb_keeps X a w h refresh with hkeeps | ⟨Y, newmode, -, hkeeps, heq⟩
      · exact hkeeps.inv hX
      · rw [heq]
        exact announceMode_inv (hkeeps.inv hX) w h
  | _ => exact (Keeps.next hen (fun _ _ _ _ => by simp) hwithin).inv hX

end ServerRun

/-! ## The start -/

/-- To the transport the demo scene is made by other users of its stack. -/
def seeding (sw sh : Int) : List Native.Event :=
  [.other (.call (.create .desktop 0 0 sw sh 0x00204060 (cString "desktop"))),
    .other (.call (.create .normal (sw.tdiv 6) (sh.tdiv 6) 520 360 0x00d8d8d8
      (cString "Window A"))),
    .other (.call (.create .normal (sw.tdiv 3) (sh.tdiv 3) 480 320 0x00eeeeee
      (cString "Window B"))),
    .other (.call (.focus 3))]

theorem exec_seeding (sw sh : Int) : World.system.exec (World.start sw sh) (seeding sw sh) =
    ⟨transportCreate (seedWindows windowStackInit sw sh) sw sh, [1, 2, 3]⟩ := rfl

theorem seedWindows_windows (sw sh : Int) :
    (seedWindows windowStackInit sw sh).windows =
      [newWindow 1 .desktop 0 0 sw sh 0x00204060 (cString "desktop"),
        newWindow 2 .normal (sw.tdiv 6) (sh.tdiv 6) 520 360 0x00d8d8d8 (cString "Window A"),
        newWindow 3 .normal (sw.tdiv 3) (sh.tdiv 3) 480 320 0x00eeeeee (cString "Window B")] :=
  rfl

theorem Setup.start_world_inv (S : Setup) : S.start.world.Inv := by
  show World.Inv ⟨transportCreate S.stack S.width S.height, if S.seeded then [1, 2, 3] else []⟩
  unfold stack
  cases S.seeded with
  | false => exact World.start_inv S.width S.height
  | true =>
      have hrun : World.system.Legal (.start S.width S.height) (seeding S.width S.height) :=
        ⟨trivial, trivial, trivial, trivial, trivial⟩
      have hwithin : (World.system.exec (.start S.width S.height)
          (seeding S.width S.height)).Within := by
        rw [exec_seeding]
        show 0 + 3 < 4294967295
        decide
      have hseeded := (World.start_inv S.width S.height).run hrun hwithin
      rw [exec_seeding] at hseeded
      exact hseeded

theorem Setup.start_blank (S : Setup) {w : Window} (hw : w ∈ S.stack.windows) : w.buf = .null := by
  unfold stack at hw
  cases hseeded : S.seeded with
  | false =>
      rw [hseeded] at hw
      cases hw
  | true =>
      rw [hseeded, if_pos rfl, seedWindows_windows] at hw
      simp only [List.mem_cons, List.not_mem_nil, or_false] at hw
      rcases hw with rfl | rfl | rfl <;> rfl

theorem Setup.start_inv (S : Setup) : S.start.Inv where
  coherent := {
    stack := rfl
    world := S.start_world_inv
    contents := ⟨(fun h => by cases h), (fun h => by cases h)⟩
    shown := {
      mapped := fun h => by cases h
      apart := fun h => by cases h
      heap := fun {id w address} hw hbuf => by
        obtain ⟨w₀, hw₀, rfl⟩ := Option.map_eq_some_iff.mp hw
        have hnull : w₀.buf = .null := S.start_blank (mem_of_windowById hw₀)
        cases hnull.symm.trans hbuf
      created := fun h => by cases h } }
  numbered _ h := by cases h
  drag h := by cases h

theorem ServerRun.Inv.run {X : ServerRun} (hX : X.Inv) {es : List ServerEvent}
    (hrun : ServerRun.system.Legal X es) (hwithin : (ServerRun.system.exec X es).Within) :
    (ServerRun.system.exec X es).Inv :=
  System.invariant_below (B := ServerRun.Within) (fun _ _ hen h => ServerRun.Within.mono hen h)
    (fun _ _ hI hen h => hI.step hen h) hrun hX hwithin

end CrystallineLattice.Server
