import CrystallineLattice.Native.Conversation
import CrystallineLattice.Server.Invariant

/-!
# The conversations of a server

Input, the clients, changes of the resolution and the end of an iteration all send
to native clients.  Each of these is one turn of the transport, so what every
connection hears conforms to the protocol through any run of the loop.  A message
that is handed to `cl_send` is taken to be heard: a send that would have to wait, and
is dropped by the program, is not followed here.
-/

namespace CrystallineLattice.Server

open CrystallineLattice.Foundation
open CrystallineLattice.Stack
open CrystallineLattice.Native
open CrystallineLattice.Wayland
open CrystallineLattice.Manager
open CrystallineLattice.Platform

namespace ServerRun

variable {X : ServerRun}

theorem Inv.seated (hX : X.Inv) : Seated X.world.t := hX.coherent.world.seated

/-! ## Sending -/

theorem sends_setWm (X : ServerRun) (wm : Wm) : Sends X.world.t (X.setWm wm).world.t :=
  .of_eq rfl ⟨rfl, rfl⟩ rfl

theorem sends_routeMotion (hX : Seated X.world.t) :
    Sends X.world.t (routeMotion X).world.t :=
  Sends.pointerInput hX X.wm.cursorX X.wm.cursorY .motion 0 false

theorem sends_routeButton (hX : Seated X.world.t) (button : Nat) (pressed : Bool) :
    Sends X.world.t (routeButton X button pressed).world.t :=
  Sends.pointerInput hX X.wm.cursorX X.wm.cursorY .button button pressed

theorem sends_routeKey (hX : Seated X.world.t) (keysym keycode : Nat) (pressed : Bool) :
    Sends X.world.t (routeKey X keysym keycode pressed).world.t :=
  Sends.transportKeyboardKey hX X.wm.stack.focusId keysym pressed

theorem sends_onKey (hX : Seated X.world.t) (keysym keycode : Nat) (pressed altDown : Bool) :
    Sends X.world.t (onKey X keysym keycode pressed altDown).world.t := by
  have htracked : (trackModifiers X keycode pressed).world = X.world := by
    unfold trackModifiers
    split
    · rfl
    · split <;> rfl
  rw [← htracked] at hX ⊢
  unfold onKey
  generalize trackModifiers X keycode pressed = Y at hX ⊢
  have hwm := sends_setWm Y (wmKey Y.wm keysym pressed altDown).1
  dsimp only
  split
  · exact .refl _
  · split
    · exact .refl _
    · split
      · exact hwm
      · exact hwm.trans (sends_routeKey (hX.of_clients hwm.clients) keysym keycode pressed)

theorem sends_onInput (hX : Seated X.world.t) (ev : InputEvent) :
    Sends X.world.t (onInput X ev).world.t := by
  cases ev with
  | motion dx dy =>
      have hwm := sends_setWm X (wmPointerMotion X.wm dx dy)
      exact hwm.trans (sends_routeMotion (hX.of_clients hwm.clients))
  | motionAbs ax ay =>
      have hwm := sends_setWm X (wmPointerMotionAbs X.wm ax ay)
      exact hwm.trans (sends_routeMotion (hX.of_clients hwm.clients))
  | button button pressed =>
      have hwm := sends_setWm X (wmPointerButton X.wm button pressed)
      exact hwm.trans (sends_routeButton (hX.of_clients hwm.clients) button pressed)
  | key keysym keycode pressed altDown =>
      exact sends_onKey (X := { X with activity := true }) hX keysym keycode pressed altDown

theorem sends_atTail (hX : Seated X.world.t) : Sends X.world.t X.atTail.world.t := by
  have hfocus : Sends X.world.t (transportUpdateFocus X.world.t X.stack.focusId) :=
    .notifyFocus hX X.stack.focusId
  have hnotify (Y : ServerRun) (hY : Seated Y.world.t) :
      Sends Y.world.t Y.notifyReconfigured.world.t := by
    unfold notifyReconfigured
    split
    · exact .transportNotifyGeometry hY Y.wm.reconfiguredId
    · exact .refl _
  let seat := wlFrontendKeyboardFocus X.fe X.seat X.stack.focusId
  let Y := ({ X with seat := seat } : ServerRun).setTransport
    (transportUpdateFocus X.world.t X.stack.focusId)
  exact hfocus.trans (hnotify Y (hX.of_clients hfocus.clients))

/-! ## Turns -/

theorem applyModeCb_sends (X : ServerRun) (a : ApplyAnswers) (w h refresh : Int) :
    Sends X.world.t (applyModeCb X a w h refresh).1.world.t ∨
      Resizes X.world.t (applyModeCb X a w h refresh).1.world.t := by
  rcases applyModeCb_cases X a w h refresh with
    ⟨-, heq⟩ | ⟨newmode, blob, drm, fb, -, -, ⟨-, heq⟩ | ⟨-, -, heq⟩⟩
  · rw [heq]
    exact .inl (.refl _)
  · rw [heq]
    exact .inl (.refl X.world.t)
  · rw [heq]
    have hresizes := transportBroadcastScreen_resizes
      (X.setWm (resizeScreen X.wm w h)).world.t w h
    exact .inr ⟨hresizes.clients, hresizes.sent⟩

theorem next_sends (hX : X.Inv) {e : ServerEvent} (he : ∀ e', e ≠ .transport e') :
    Sends X.world.t (X.next e).world.t ∨ Resizes X.world.t (X.next e).world.t := by
  have hquiet {Y : ServerRun} (hworld : Y.world = X.world) : Sends X.world.t Y.world.t :=
    hworld ▸ .refl _
  cases e with
  | seat active =>
      refine .inl (hquiet ?_)
      show (X.atSeat active).world = X.world
      unfold atSeat
      split
      · rfl
      · split <;> rfl
  | idle now committed =>
      refine .inl (hquiet ?_)
      show (X.atIdle now committed).world = X.world
      have hwake : (X.wake now).world = X.world := by
        unfold wake
        split
        · dsimp only
          split <;> rfl
        · rfl
      unfold atIdle
      dsimp only
      split <;> exact hwake
  | frame answers =>
      refine .inl (hquiet ?_)
      show (X.atFrame answers).world = X.world
      unfold atFrame
      split <;> rfl
  | input raw => exact .inl (sends_onInput hX.seated _)
  | transport e => exact (he e rfl).elim
  | wayland e =>
      cases e with
      | surface client e => exact .inl (.of_eq rfl ⟨rfl, rfl⟩ rfl)
      | _ => exact .inl (hquiet rfl)
  | control w h refresh a => exact applyModeCb_sends X a w h refresh
  | hotplug changed => cases changed <;> exact .inl (hquiet rfl)
  | tail => exact .inl (sends_atTail hX.seated)
  | pass => exact .inl (hquiet rfl)

/-- A new connection has a descriptor that no open connection has. -/
def NewFd (X : ServerRun) : ServerEvent → Prop
  | .transport (.addClient fd _) => ∀ i, (X.world.t.clients i).fd ≠ fd
  | _ => True

theorem turn_next (hX : X.Inv) {e : ServerEvent} (hen : X.enabled e) (hnew : X.NewFd e)
    (hfds : Watch.OwnFds X.world.t) :
    Turn X.world.t (X.next e).world.t ∧ Watch.OwnFds (X.next e).world.t := by
  by_cases he : ∃ e', e = .transport e'
  · obtain ⟨e, rfl⟩ := he
    refine ⟨World.turn hX.coherent.world hen.2.2, hfds.next fun fd epollOk heq => ?_⟩
    subst heq
    exact hnew
  · have hsame {u : Transport} (hclients : u.clients = X.world.t.clients) : Watch.OwnFds u :=
      hfds.of_lost fun i => .inl (by rw [hclients])
    rcases next_sends hX (fun e' heq => he ⟨e', heq⟩) with hsends | hresizes
    · exact ⟨.work (.of_clients rfl (.refl _) rfl) hsends, hsame hsends.clients⟩
    · exact ⟨.resize hresizes, hsame hresizes.clients⟩

end ServerRun

/-! ## Runs -/

/-- The server, and what every connection has heard since it was made. -/
structure Talk where
  run : ServerRun
  heard : Fin clMaxClients → List Message

namespace Talk

def start (X : ServerRun) : Talk := ⟨X, fun _ => []⟩

def next (D : Talk) (e : ServerEvent) : Talk where
  run := D.run.next e
  heard i := listen D.run.world.t (D.run.next e).world.t i (D.heard i)

def enabled (D : Talk) (e : ServerEvent) : Prop := D.run.enabled e ∧ D.run.NewFd e

def system : System Talk ServerEvent := ⟨enabled, next⟩

def Within (D : Talk) : Prop := D.run.Within

instance (D : Talk) : Decidable D.Within := inferInstanceAs (Decidable D.run.Within)

structure Inv (D : Talk) : Prop where
  run : D.run.Inv
  fds : Watch.OwnFds D.run.world.t
  conforms : ∀ i, 0 ≤ (D.run.world.t.clients i).fd → Conforms D.run.world.t i (D.heard i)

def hears (D : Talk) (e : ServerEvent) (i : Fin clMaxClients) : List Message :=
  news D.run.world.t (D.next e).run.world.t ((D.next e).run.world.t.clients i).fd

/-- Everything that is heard in the event is a welcome, or fits. -/
def HearsFit (D : Talk) (e : ServerEvent) : Prop :=
  ∀ i, 0 ≤ ((D.next e).run.world.t.clients i).fd → ∀ m ∈ D.hears e i,
    m.isWelcome = true ∨ Fits (D.next e).run.world.t i m

variable {D : Talk}

theorem start_inv (S : Setup) : (start S.start).Inv where
  run := S.start_inv
  fds i i' hopen := by simp [start, Setup.start, transportCreate, ClClient.zero] at hopen
  conforms i hopen := by simp [start, Setup.start, transportCreate, ClClient.zero] at hopen

theorem Inv.step (hD : D.Inv) {e : ServerEvent} (hen : D.enabled e) (hwithin : (D.next e).Within) :
    (D.next e).Inv ∧ D.HearsFit e := by
  obtain ⟨hturn, hfds⟩ := ServerRun.turn_next hD.run hen.1 hen.2 hD.fds
  exact ⟨⟨hD.run.step hen.1 hwithin, hfds, fun i hopen =>
    hturn.conforms hD.fds hfds hopen (hD.conforms i)⟩, fun i hopen m => hturn.fits hfds hopen⟩

theorem Within.mono {e : ServerEvent} (hen : D.enabled e) (h : (D.next e).Within) : D.Within :=
  ServerRun.Within.mono hen.1 h

end Talk

/--
In every run of the loop, if no send fails, whatever is heard fits or is a welcome;
and at its end every connection's conversation has been as it should be.
-/
theorem conversations_conform (S : Setup) (es : List ServerEvent)
    (hrun : Talk.system.Legal (.start S.start) es)
    (hwithin : (Talk.system.exec (.start S.start) es).Within) :
    let D := Talk.system.exec (.start S.start) es
    Talk.system.Each Talk.HearsFit (.start S.start) es ∧
      ∀ i, 0 ≤ (D.run.world.t.clients i).fd → Conforms D.run.world.t i (D.heard i) := by
  have hbelow := System.each_below (fun _ _ hen h => Talk.Within.mono hen h) hrun hwithin
  have hstep (D : Talk) (e : ServerEvent) (hD : D.Inv)
      (h : Talk.system.enabled D e ∧ (Talk.system.next D e).Within) :
      (Talk.system.next D e).Inv := (hD.step h.1 h.2).1
  exact ⟨System.each_of_invariant hstep (fun D e hD h => (hD.step h.1 h.2).2) hbelow
    (Talk.start_inv S), (System.invariant hstep hbelow (Talk.start_inv S)).conforms⟩

/-- A client opens a window, the resolution is changed, and the pointer is moved over the window. -/
def chatRun : List ServerEvent :=
  [.seat true, .idle 0 false, .frame ⟨true, true⟩, .pass, .transport (.addClient 7 true),
    .transport (.datagram 0 (.ofWords [clHelloType, clMagic, 2, 1, 0] []) ⟨none, fun _ => 0⟩ 10),
    .transport (.datagram 0 (.ofWords [clCreateWindowType, 3, 0, 900, 500, 300, 200] [])
      ⟨none, fun _ => 0⟩ 20),
    .pass, .pass, .control 1280 720 0 ⟨⟨some monitor, some 8⟩, newBuffer⟩, .pass, .hotplug false,
    .tail, .seat true, .idle 40 false, .frame ⟨true, true⟩, .input (.motion 0 0)]

theorem chatRun_legal : Talk.system.Legal (.start plainSetup.start) chatRun := by
  have hfd : (0 : Int) ≤ 7 := by decide
  have hnew : ∀ i : Fin clMaxClients, (plainSetup.start.world.t.clients i).fd ≠ 7 := by decide
  exact ⟨⟨⟨rfl, rfl⟩, trivial⟩, ⟨rfl, trivial⟩, ⟨rfl, trivial⟩, ⟨.inl rfl, trivial⟩,
    ⟨⟨rfl, trivial, hfd⟩, hnew⟩,
    ⟨⟨rfl, trivial, by decide +kernel, by decide +kernel⟩, trivial⟩,
    ⟨⟨rfl, trivial, by decide +kernel, by decide +kernel⟩, trivial⟩, ⟨.inr (.inl rfl), trivial⟩,
    ⟨.inr (.inr (.inl rfl)), trivial⟩, ⟨rfl, trivial⟩, ⟨.inr (.inr (.inr rfl)), trivial⟩,
    ⟨rfl, trivial⟩, ⟨rfl, trivial⟩, ⟨⟨rfl, rfl⟩, trivial⟩, ⟨rfl, trivial⟩, ⟨rfl, trivial⟩,
    ⟨rfl, trivial⟩, trivial⟩

theorem conversations_conform_chatRun :
    let D := Talk.system.exec (.start plainSetup.start) chatRun
    Talk.system.Each Talk.HearsFit (.start plainSetup.start) chatRun ∧
      ∀ i, 0 ≤ (D.run.world.t.clients i).fd → Conforms D.run.world.t i (D.heard i) :=
  conversations_conform plainSetup chatRun chatRun_legal (by decide +kernel)

example : (Talk.system.exec (.start plainSetup.start) chatRun).heard 0 =
    [.welcome clMagic 2 1920 1080 1, .configure 3 900 500 300 200, .focus 3 true,
      .screen 1280 720, .input 3 .motion 60 40 0 false] := by
  decide +kernel

end CrystallineLattice.Server
