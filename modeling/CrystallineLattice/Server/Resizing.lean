import CrystallineLattice.Manager.Resizing
import CrystallineLattice.Server.Routing
import CrystallineLattice.Wayland.Configures

/-!
# Telling the owner about a new size

When the window manager has resized a window, the loop's tail hands the window to
the transport, which knows the windows of native clients.  But native windows have
no server title bar, so the window manager never resizes one; and the frontend,
whose windows it does resize, is not asked to tell anyone.
-/

namespace CrystallineLattice.Server

open CrystallineLattice.Foundation
open CrystallineLattice.Stack
open CrystallineLattice.Native
open CrystallineLattice.Wayland
open CrystallineLattice.Manager

/-- Between two states a client is sent the size of its window `w`. -/
def SentSize (X Y : ServerRun) (d : Delivery) (w : Window) : Prop :=
  match d.peer with
  | .native fd => ∃ x y, (fd, .configure d.window x y (uint32 w.w) (uint32 w.h)) ∈
      Y.world.t.os.sent.drop X.world.t.os.sent.length
  | .wayland _ => ∃ a s toplevel, X.fe.surfaces a = some s ∧ s.serverId = w.id ∧
      s.xdgToplevel = some toplevel ∧ ¬ (w.w = 0 ∧ w.h - decorTitlebarH = 0) ∧
      .toplevelConfigure toplevel w.w (w.h - decorTitlebarH) ∈
        Y.fe.sent.drop X.fe.sent.length

namespace ServerRun

/--
The owner of a window that the window manager resizes is sent the new size before
the iteration ends, in the state `Z`.
-/
def TellsResized (X : ServerRun) (e : ServerEvent) (Z : ServerRun) : Prop :=
  match e with
  | .input raw =>
      let Y := X.next (.input raw)
      ∀ d id, X.Owns d id → windowSize Y.stack id ≠ windowSize X.stack id →
        ∃ w, windowById Y.stack id = some w ∧ SentSize X Z d w
  | _ => True

/-- The event is no button that changes the size of a Wayland client's window. -/
def ResizesNoClient (X : ServerRun) : ServerEvent → Prop
  | .input (.button button pressed) =>
      ∀ id ∈ buttonResizes X.wm button pressed, ∀ client, ¬ X.Owns ⟨.wayland client, id⟩ id
  | _ => True

end ServerRun

/-! ## Only the window manager's buttons resize -/

section Sizes

variable {X : ServerRun}

theorem windowSize_routeKey (keysym keycode : Nat) (pressed : Bool) (id : Nat) :
    windowSize (routeKey X keysym keycode pressed).stack id = windowSize X.stack id :=
  congrArg (windowSize · id) (SameBooks.transportKeyboardKey X.world.t _ keysym pressed).stack

theorem windowSize_onKey (hs : X.stack.ids.Nodup) (keysym keycode : Nat)
    (pressed altDown : Bool) (id : Nat) :
    windowSize (onKey X keysym keycode pressed altDown).stack id = windowSize X.stack id := by
  obtain ⟨ctrlHeld, altHeld, htracked⟩ := trackModifiers_eq X keycode pressed
  have hkey : windowSize (wmKey X.wm keysym pressed altDown).1.stack id =
      windowSize X.stack id := by
    have hnodup : X.wm.stack.ids.Nodup := X.wmStack.symm ▸ hs
    rw [windowSize_wmKey hnodup, X.wmStack]
    rfl
  unfold onKey
  rw [htracked]
  dsimp only
  split
  · rfl
  · split
    · rfl
    · split
      · exact hkey
      · exact (windowSize_routeKey keysym keycode pressed id).trans hkey

theorem windowSize_onInput_ne_iff (hs : X.stack.ids.Nodup) (ev : InputEvent) (id : Nat) :
    windowSize (onInput X ev).stack id ≠ windowSize X.stack id ↔
      ∃ button pressed, ev = .button button pressed ∧
        buttonResizes X.wm button pressed = some id := by
  have hwm : X.wm.stack = X.stack := X.wmStack
  have hroute (Y : ServerRun) (kind : ClInputKind) (code : Nat) (pressed : Bool) :
      (pointerInput Y.world.t Y.wm.cursorX Y.wm.cursorY kind code pressed).stack = Y.stack :=
    (SameBooks.pointerInput Y.world.t _ _ kind code pressed).stack
  cases ev with
  | motion dx dy =>
      refine iff_of_false (fun h => h ?_) (by simp)
      refine (congrArg (windowSize · id) (hroute _ _ _ _)).trans ?_
      exact (windowSize_wmPointerMotion X.wm dx dy id).trans (congrArg (windowSize · id) hwm)
  | motionAbs ax ay =>
      refine iff_of_false (fun h => h ?_) (by simp)
      refine (congrArg (windowSize · id) (hroute _ _ _ _)).trans ?_
      exact (windowSize_wmPointerMotionAbs X.wm ax ay id).trans (congrArg (windowSize · id) hwm)
  | button button pressed =>
      have hstack : (onInput X (.button button pressed)).stack =
          (wmPointerButton X.wm button pressed).stack := hroute _ _ _ _
      rw [hstack, ← hwm]
      refine (windowSize_wmPointerButton_ne_iff (hwm ▸ hs) button pressed id).trans ?_
      exact ⟨fun h => ⟨button, pressed, rfl, h⟩, fun ⟨_, _, heq, h⟩ => by cases heq; exact h⟩
  | key keysym keycode pressed altDown =>
      refine iff_of_false (fun h => h ?_) (by simp)
      exact windowSize_onKey (X := { X with activity := true }) hs keysym keycode pressed altDown id

end Sizes

/-! ## Only the frontend's windows are resized -/

theorem ssd_of_buttonResizes {wm : Wm} (hs : wm.stack.ids.Nodup) {button : Nat} {pressed : Bool}
    {id : Nat} (h : buttonResizes wm button pressed = some id) :
    ∃ w, windowById wm.stack id = some w ∧ windowHasSsd w = true := by
  unfold buttonResizes at h
  split at h
  · cases h
  · split at h
    · unfold pressResizes at h
      split at h
      · cases h
      · rename_i w hhit
        obtain ⟨hssd, rfl⟩ := ite_eq_some_iff.mp h
        exact ⟨w, windowById_windowAt hs hhit, hssd.1⟩
    · unfold releaseResizes at h
      split at h
      · split at h
        · rename_i w _ hw _
          obtain ⟨hssd, rfl⟩ := ite_eq_some_iff.mp h
          exact ⟨w, hw, hssd.1⟩
        · cases h
      · cases h

section Owners

variable {X : ServerRun}

theorem not_ssd_of_native (hX : X.Inv) {fd : Int} {wid id : Nat} {w : Window}
    (hown : X.Owns ⟨.native fd, wid⟩ id) (hw : windowById X.stack id = some w) :
    windowHasSsd w = false := by
  obtain ⟨i, j, hheld⟩ := hown
  obtain ⟨⟨-, hocc⟩, heq⟩ := holding_eq_some.mp hheld
  cases heq
  obtain ⟨v, hv, -, happ⟩ := hX.coherent.world.ledger.linked (h := .client i) hocc
  cases hw.symm.trans hv
  simp [windowHasSsd, happ]

theorem not_sentSize {Y : ServerRun} (hY : Y.fe.Unsized) {client window : Nat} {w : Window} :
    ¬ SentSize X Y ⟨.wayland client, window⟩ w := by
  rintro ⟨a, s, toplevel, -, -, -, hsize, hmem⟩
  exact hsize (hY _ _ _ (List.mem_of_mem_drop hmem))

theorem windowSize_input_ne_iff (hX : X.Inv) (raw : RawInput) (id : Nat) :
    windowSize (X.next (.input raw)).stack id ≠ windowSize X.stack id ↔
      ∃ button pressed, raw = .button button pressed ∧
        buttonResizes X.wm button pressed = some id := by
  have hs : X.stack.ids.Nodup := hX.coherent.world.ledger.stack.nodup
  refine (windowSize_onInput_ne_iff hs (emit X raw) id).trans ?_
  cases raw <;> simp [emit]

theorem tellsResized_iff (hX : X.Inv) (e : ServerEvent) {Z : ServerRun} (hZ : Z.fe.Unsized) :
    X.TellsResized e Z ↔ X.ResizesNoClient e := by
  cases e with
  | input raw =>
      unfold ServerRun.TellsResized ServerRun.ResizesNoClient
      constructor
      · intro h
        cases raw with
        | button button pressed =>
            intro id hid client hown
            obtain ⟨w, -, hsent⟩ := h _ id hown
              ((windowSize_input_ne_iff hX _ id).mpr ⟨button, pressed, rfl, hid⟩)
            exact not_sentSize hZ hsent
        | _ => trivial
      · intro h d id hown hresized
        obtain ⟨button, pressed, rfl, hid⟩ := (windowSize_input_ne_iff hX _ id).mp hresized
        obtain ⟨peer, window⟩ := d
        cases peer with
        | native fd =>
            have hs : X.wm.stack.ids.Nodup :=
              X.wmStack.symm ▸ hX.coherent.world.ledger.stack.nodup
            obtain ⟨w, hw, hssd⟩ := ssd_of_buttonResizes hs hid
            rw [X.wmStack] at hw
            rw [not_ssd_of_native hX hown hw] at hssd
            cases hssd
        | wayland client =>
            obtain rfl : window = id := hown.1
            exact (h _ hid client hown).elim
  | _ => exact Iff.rfl

end Owners

/-! ## Runs -/

section Runs

variable {X : ServerRun}

theorem sent_onKey (keysym keycode : Nat) (pressed altDown : Bool) :
    (onKey X keysym keycode pressed altDown).fe.sent = X.fe.sent := by
  obtain ⟨ctrlHeld, altHeld, htracked⟩ := trackModifiers_eq X keycode pressed
  unfold onKey
  rw [htracked]
  dsimp only
  split
  · rfl
  · split
    · rfl
    · split <;> rfl

theorem sent_onInput (ev : InputEvent) : (onInput X ev).fe.sent = X.fe.sent := by
  cases ev with
  | key keysym keycode pressed altDown =>
      exact sent_onKey (X := { X with activity := true }) keysym keycode pressed altDown
  | _ => rfl

theorem sent_applyModeCb (a : ApplyAnswers) (w h refresh : Int) :
    (applyModeCb X a w h refresh).1.fe.sent = X.fe.sent := by
  rcases applyModeCb_cases X a w h refresh with
    ⟨-, heq⟩ | ⟨newmode, blob, drm, fb, -, -, ⟨-, heq⟩ | ⟨-, -, heq⟩⟩
  · rw [heq]
  · rw [heq]
  · rw [heq]
    rfl

theorem sent_atIdle (now : Int) (committed : Bool) :
    (X.atIdle now committed).fe.sent = X.fe.sent := by
  have hwake : (X.wake now).fe.sent = X.fe.sent := by
    unfold ServerRun.wake
    split
    · dsimp only
      split <;> rfl
    · rfl
  unfold ServerRun.atIdle
  dsimp only
  split <;> exact hwake

theorem unsized_next (hX : X.fe.Unsized) (e : ServerEvent) : (X.next e).fe.Unsized := by
  cases e with
  | seat active =>
      refine hX.of_sent ?_
      simp only [ServerRun.next, ServerRun.atSeat, ServerRun.advance]
      split
      · rfl
      · split <;> rfl
  | idle now committed => exact hX.of_sent (sent_atIdle now committed)
  | frame answers =>
      refine hX.of_sent ?_
      simp only [ServerRun.next, ServerRun.atFrame, ServerRun.advance]
      split <;> rfl
  | input raw => exact hX.of_sent (sent_onInput (emit X raw))
  | transport e => exact hX.of_sent rfl
  | wayland e =>
      cases e with
      | surface client e => exact (hX.next e).of_sent rfl
      | _ => exact hX.of_sent rfl
  | control w h refresh a => exact hX.of_sent (sent_applyModeCb a w h refresh)
  | hotplug changed => cases changed <;> exact hX.of_sent rfl
  | tail =>
      refine hX.of_sent ?_
      simp only [ServerRun.next, ServerRun.atTail, ServerRun.advance]
      unfold ServerRun.notifyReconfigured
      dsimp only
      split <;> rfl
  | pass => exact hX.of_sent rfl

end Runs

/--
In a run of the server in which fewer than `2^32 - 1` windows are created, the
owner of every window that the window manager resizes is sent the new size by the
end of the iteration, if and only if no window of a Wayland client is resized in
an iteration that ends.
-/
theorem resizes_told_iff_none (S : Setup) (es : List ServerEvent)
    (hrun : ServerRun.system.Legal S.start es)
    (hwithin : (ServerRun.system.exec S.start es).Within) :
    ServerRun.system.EachUntil (· = .tail) ServerRun.TellsResized S.start es ↔
      ServerRun.system.EachUntil (· = .tail) (fun X e _ => X.ResizesNoClient e) S.start es := by
  have hbelow := System.each_below (B := ServerRun.Within)
    (fun _ _ hen h => ServerRun.Within.mono hen h) hrun hwithin
  have hstart : S.start.fe.Unsized := fun _ _ _ hmem => by cases hmem
  refine System.eachUntil_congr (I := fun X => X.Inv ∧ X.fe.Unsized)
    (fun X e hX h => ⟨hX.1.step h.1 h.2, unsized_next hX.2 e⟩)
    (fun X e Z hX _ hZ => tellsResized_iff hX.1 e hZ.2) hbelow ⟨S.start_inv, hstart⟩

/-- The Wayland window is dragged by its title bar to the top of the screen, and maximized. -/
def dragToTop : List ServerEvent :=
  openRun ++ [.seat true, .idle 1 false, .frame ⟨true, true⟩, .input (.motion (-800) (-440)),
    .input (.button 272 true), .input (.motion 0 (-100))]

def snapRun : List ServerEvent :=
  dragToTop ++ .input (.button 272 false) ::
    ([.pass, .pass, .pass, .pass, .hotplug false] ++ .tail :: [])

theorem snapRun_legal : ServerRun.system.Legal plainSetup.start snapRun :=
  openRun_append_legal ⟨⟨rfl, rfl⟩, rfl, rfl, rfl, rfl, rfl, rfl, .inl rfl, .inr (.inl rfl),
    .inr (.inr (.inl rfl)), .inr (.inr (.inr rfl)), rfl, rfl, trivial⟩

theorem resizes_told_iff_none_snapRun :
    ServerRun.system.EachUntil (· = .tail) ServerRun.TellsResized plainSetup.start snapRun ↔
      ServerRun.system.EachUntil (· = .tail) (fun X e _ => X.ResizesNoClient e) plainSetup.start
        snapRun :=
  resizes_told_iff_none plainSetup snapRun snapRun_legal (by decide +kernel)

/-- The frontend sends nothing more, and its client does not learn of the new size. -/
theorem snapped_client_not_told :
    ServerRun.system.Legal plainSetup.start snapRun ∧
      (ServerRun.system.exec plainSetup.start snapRun).Within ∧
      ¬ ServerRun.system.EachUntil (· = .tail) ServerRun.TellsResized plainSetup.start
        snapRun := by
  refine ⟨snapRun_legal, by decide +kernel, fun h => ?_⟩
  have htold := h dragToTop (.input (.button 272 false)) _ .tail [] rfl (by simp) rfl
  have hown : (ServerRun.system.exec plainSetup.start dragToTop).Owns ⟨.wayland 1, 2⟩ 2 :=
    owns_of_clientOf (by decide +kernel)
  obtain ⟨w, -, a, s, toplevel, -, -, -, -, hmem⟩ := htold _ 2 hown (by decide +kernel)
  have hsilent : (ServerRun.system.exec plainSetup.start snapRun).fe.sent.drop
      (ServerRun.system.exec plainSetup.start dragToTop).fe.sent.length = [] := by
    decide +kernel
  rw [show dragToTop ++ .input (.button 272 false) ::
    ([.pass, .pass, .pass, .pass, .hotplug false] ++ [.tail]) = snapRun from rfl, hsilent] at hmem
  cases hmem

end CrystallineLattice.Server
