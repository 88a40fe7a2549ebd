import CrystallineLattice.Native.Focus
import CrystallineLattice.Server.Invariant

/-!
# Who receives input

The server forwards a button or a key twice, to the Wayland frontend and to the
transport.  The transport looks for the receiver anew; the frontend goes by the
focus that it remembers from the last motion, or from the end of the last
iteration.
-/

namespace CrystallineLattice.Server

open CrystallineLattice.Foundation
open CrystallineLattice.Stack
open CrystallineLattice.Native
open CrystallineLattice.Wayland
open CrystallineLattice.Manager
open CrystallineLattice.Platform

inductive Peer where
  | native (fd : Int)
  | wayland (client : Nat)
  deriving DecidableEq, Repr

/--
Input that was sent to a client, for one of its windows: a native client knows it
by an id of its own, a Wayland client by the surface that was entered.
-/
structure Delivery where
  peer : Peer
  window : Nat
  deriving DecidableEq, Repr

/-! ## What is sent -/

def nativeDeliveries (kind : ClInputKind) (sent : List (Int × Message)) : List Delivery :=
  sent.filterMap fun
    | (fd, .input wid k _ _ _ _) => if k = kind then some ⟨.native fd, wid⟩ else none
    | _ => none

def waylandButtons (focus : Nat) (sent : List (Nat × SeatMessage)) : List Delivery :=
  sent.filterMap fun
    | (client, .button ..) => some ⟨.wayland client, focus⟩
    | _ => none

def waylandKeys (focus : Nat) (sent : List (Nat × SeatMessage)) : List Delivery :=
  sent.filterMap fun
    | (client, .key ..) => some ⟨.wayland client, focus⟩
    | _ => none

def clientOf (fe : Frontend) (seat : Seat) (id : Nat) : Option Nat :=
  (surfaceByWindow fe id).map fun p => seat.client p.1

theorem mem_pointerInput {t : Transport} {cursorX cursorY : Int} {kind : ClInputKind} {code : Nat}
    {pressed : Bool} {d : Delivery} :
    d ∈ nativeDeliveries kind ((pointerInput t cursorX cursorY kind code pressed).os.sent.drop
        t.os.sent.length) ↔
      ∃ w i j, pointerTarget t.stack cursorX cursorY = some w ∧
        findByServerId t w.id = some (i, j) ∧
        d = ⟨.native (t.clients i).fd, ((t.clients i).wins j).clientWid⟩ := by
  unfold pointerInput
  cases htarget : pointerTarget t.stack cursorX cursorY with
  | none => simp [nativeDeliveries]
  | some w =>
      dsimp only
      cases hfind : findByServerId t w.id with
      | none => simp [nativeDeliveries, hfind]
      | some p =>
          obtain ⟨i, j⟩ := p
          simp [nativeDeliveries, clSend, Os.send, hfind]

theorem mem_transportKeyboardKey {t : Transport} {focusId keysym : Nat} {pressed : Bool}
    {d : Delivery} :
    d ∈ nativeDeliveries .key ((transportKeyboardKey t focusId keysym pressed).os.sent.drop
        t.os.sent.length) ↔
      ∃ i j, findByServerId t focusId = some (i, j) ∧
        d = ⟨.native (t.clients i).fd, ((t.clients i).wins j).clientWid⟩ := by
  unfold transportKeyboardKey
  cases hfind : findByServerId t focusId with
  | none => simp [nativeDeliveries]
  | some p =>
      obtain ⟨i, j⟩ := p
      simp [nativeDeliveries, clSend, Os.send]

theorem mem_told {f : Nat × SeatMessage → Option Delivery} {devices : List Device} {c : Nat}
    {m : Device → SeatMessage} {rest : List (Nat × SeatMessage)} {d d' : Delivery}
    (hm : ∀ p, f (c, m p) = some d') (hrest : ∀ q ∈ rest, f q = none) :
    d ∈ (((devices.filter fun p => p.client = c).map fun p => (c, m p)) ++ rest).filterMap f ↔
      (∃ p ∈ devices, p.client = c) ∧ d = d' := by
  simp only [List.mem_filterMap, List.mem_append, List.mem_map, List.mem_filter,
    decide_eq_true_eq]
  constructor
  · rintro ⟨q, ⟨p, hp, rfl⟩ | hq, hd⟩
    · rw [hm p] at hd
      exact ⟨⟨p, hp⟩, (Option.some.inj hd).symm⟩
    · rw [hrest q hq] at hd
      cases hd
  · rintro ⟨⟨p, hp⟩, rfl⟩
    exact ⟨(c, m p), .inl ⟨p, hp, rfl⟩, hm p⟩

theorem mem_wlFrontendPointerButton {fe : Frontend} {seat : Seat} {button : Nat} {pressed : Bool}
    {focus : Nat} {d : Delivery} :
    d ∈ waylandButtons focus ((wlFrontendPointerButton fe seat button pressed).sent.drop
        seat.sent.length) ↔
      ∃ c, clientOf fe seat seat.pointerFocus = some c ∧ (∃ p ∈ seat.pointers, p.client = c) ∧
        d = ⟨.wayland c, focus⟩ := by
  unfold wlFrontendPointerButton clientOf
  cases surfaceByWindow fe seat.pointerFocus with
  | none => simp [waylandButtons]
  | some p =>
      simp only [pointerFrameAll, Seat.tell, Seat.nextSerial, List.append_assoc, List.drop_left,
        Option.map_some, Option.some.injEq, exists_eq_left']
      refine mem_told (fun _ => rfl) fun q hq => ?_
      obtain ⟨_, -, rfl⟩ := List.mem_map.mp hq
      rfl

theorem sendModifiers_sent (seat : Seat) (client : Nat) :
    ∃ rest, (sendModifiers seat client).sent = seat.sent ++ rest ∧
      ∀ q ∈ rest, ∃ keyboard serial keys, q.2 = .modifiers keyboard serial keys := by
  unfold sendModifiers
  split
  · refine ⟨_, rfl, fun q hq => ?_⟩
    obtain ⟨_, -, rfl⟩ := List.mem_map.mp hq
    exact ⟨_, _, _, rfl⟩
  · exact ⟨[], (List.append_nil _).symm, by simp⟩

theorem mem_wlFrontendKeyboardKey {fe : Frontend} {seat : Seat} {keycode : Nat} {pressed : Bool}
    {focus : Nat} {d : Delivery} :
    d ∈ waylandKeys focus ((wlFrontendKeyboardKey fe seat keycode pressed).sent.drop
        seat.sent.length) ↔
      ∃ c, clientOf fe seat seat.kbdFocus = some c ∧ (∃ p ∈ seat.keyboards, p.client = c) ∧
        d = ⟨.wayland c, focus⟩ := by
  have hkeys : ∃ keys, (if seat.hasXkb then
      { seat with keys := seat.keys ++ [(keycode, pressed)] } else seat) =
        { seat with keys := keys } := by
    split
    · exact ⟨_, rfl⟩
    · exact ⟨seat.keys, rfl⟩
  obtain ⟨keys, hkeys⟩ := hkeys
  unfold wlFrontendKeyboardKey clientOf
  rw [hkeys]
  dsimp only
  cases surfaceByWindow fe seat.kbdFocus with
  | none => simp [waylandKeys]
  | some p =>
      obtain ⟨a, s⟩ := p
      dsimp only
      simp only [Option.map_some, Option.some.injEq, exists_eq_left']
      generalize hu : Seat.tell _ _ _ _ = u
      obtain ⟨rest, hsent, hrest⟩ := sendModifiers_sent u (seat.client a)
      rw [hsent, ← hu]
      simp only [Seat.tell, Seat.nextSerial, List.append_assoc, List.drop_left]
      refine mem_told (fun _ => rfl) fun q hq => ?_
      obtain ⟨_, _, _, heq⟩ := hrest q hq
      obtain ⟨client, m⟩ := q
      cases heq
      rfl

/-! ## Owners -/

namespace ServerRun

/-- The window with the id `id` is the receiver's, who knows it by that name. -/
def Owns (X : ServerRun) (d : Delivery) (id : Nat) : Prop :=
  match d.peer with
  | .native fd => ∃ i j, X.world.t.holding i j = some ⟨fd, d.window, id⟩
  | .wayland client => d.window = id ∧ id ≠ 0 ∧
      ∃ a s, X.fe.surfaces a = some s ∧ s.serverId = id ∧ X.seat.client a = client

/-- The cursor is over what the client shows in the window, not over the server's title bar. -/
def OverContent (X : ServerRun) (peer : Peer) (w : Window) : Prop :=
  match peer with
  | .native _ => w.y + winTitlebar w ≤ X.wm.cursorY
  | .wayland _ => ∃ a s, X.fe.surfaces a = some s ∧ s.serverId = w.id ∧
      0 ≤ X.wm.cursorY - (w.y + decorTitlebarH) ∧
      X.wm.cursorY - (w.y + decorTitlebarH) < s.ch ∧
      0 ≤ X.wm.cursorX - w.x ∧ X.wm.cursorX - w.x < s.cw

end ServerRun

theorem clientOf_eq_some {fe : Frontend} {seat : Seat} {id c : Nat}
    (h : clientOf fe seat id = some c) :
    ∃ a s, surfaceByWindow fe id = some (a, s) ∧ seat.client a = c := by
  obtain ⟨⟨a, s⟩, hs, hc⟩ := Option.map_eq_some_iff.mp h
  exact ⟨a, s, hs, hc⟩

section Owners

variable {X : ServerRun}

theorem surfaceByWindow_of_shows (hX : X.Inv) {a : Nat} {s : FeSurface}
    (hs : X.fe.surfaces a = some s) (hid : s.serverId ≠ 0) :
    surfaceByWindow X.fe s.serverId = some (a, s) := by
  have hlive : (X.fe.surfaces a).isSome := by
    rw [hs, Option.isSome_some]
  exact surfaceByWindow_of_serverId hs hid (hX.numbered a hlive) fun hs' hid' =>
    (hX.coherent.shown.apart hs hs' hid hid'.symm).symm

theorem not_native_of_shows (hX : X.Inv) {a : Nat} {s : FeSurface}
    (hs : X.fe.surfaces a = some s) (hid : s.serverId ≠ 0) {i : Fin clMaxClients}
    {j : Fin winMax} {held : Holding} (hheld : X.world.t.holding i j = some held) :
    held.id ≠ s.serverId := by
  intro heq
  obtain ⟨⟨-, hocc⟩, rfl⟩ := holding_eq_some.mp hheld
  have hforeign : s.serverId ∈ X.world.foreign := (hX.coherent.shown.mapped hs hid).ours
  have hours : ((X.world.t.clients i).wins j).serverId ∉ X.world.foreign :=
    hX.coherent.world.ledger.ours (h := .client i) hocc
  rw [show ((X.world.t.clients i).wins j).serverId = s.serverId from heq] at hours
  exact hours hforeign

theorem clientOf_of_owns (hX : X.Inv) {client window id : Nat}
    (h : X.Owns ⟨.wayland client, window⟩ id) : clientOf X.fe X.seat id = some client := by
  obtain ⟨-, hid, a, s, hs, rfl, rfl⟩ := h
  rw [clientOf, surfaceByWindow_of_shows hX hs hid]
  rfl

theorem owns_of_clientOf {client id : Nat} (h : clientOf X.fe X.seat id = some client) :
    X.Owns ⟨.wayland client, id⟩ id := by
  obtain ⟨a, s, hs, hc⟩ := clientOf_eq_some h
  obtain ⟨hid, hs, hshows⟩ := surfaceByWindow_eq_some hs
  exact ⟨rfl, hid, a, s, hs, hshows, hc⟩

theorem owns_of_findByServerId {id : Nat} {i : Fin clMaxClients} {j : Fin winMax}
    (h : findByServerId X.world.t id = some (i, j)) :
    X.Owns ⟨.native (X.world.t.clients i).fd, ((X.world.t.clients i).wins j).clientWid⟩ id :=
  ⟨i, j, (findByServerId_eq_some h).2⟩

theorem not_both_own (hX : X.Inv) {fd : Int} {wid client window id : Nat}
    (hnative : X.Owns ⟨.native fd, wid⟩ id) (hwayland : X.Owns ⟨.wayland client, window⟩ id) :
    False := by
  obtain ⟨i, j, hheld⟩ := hnative
  obtain ⟨-, hid, a, s, hs, hshows, -⟩ := hwayland
  exact not_native_of_shows hX hs (hshows ▸ hid) hheld hshows.symm

end Owners

/-! ## Keys -/

namespace ServerRun

def keyDeliveries (X Y : ServerRun) : List Delivery :=
  nativeDeliveries .key (Y.world.t.os.sent.drop X.world.t.os.sent.length) ++
    waylandKeys X.seat.kbdFocus (Y.seat.sent.drop X.seat.sent.length)

/-- A key reaches at most one client, the owner of the focused window. -/
def KeyReachesFocus (X : ServerRun) : ServerEvent → Prop
  | .input (.key keysym keycode pressed altDown) =>
      let Y := X.next (.input (.key keysym keycode pressed altDown))
      (∀ d ∈ X.keyDeliveries Y, ∀ d' ∈ X.keyDeliveries Y, d.peer = d'.peer) ∧
        ∀ d ∈ X.keyDeliveries Y, ∃ window, Y.Owns ⟨d.peer, window⟩ Y.stack.focusId
  | _ => True

/-- The key is no shortcut of the server or the window manager. -/
def Forwards (X : ServerRun) (keysym keycode : Nat) (pressed altDown : Bool) : Prop :=
  let Y := trackModifiers X keycode pressed
  ¬ (pressed ∧ Y.ctrlHeld ∧ Y.altHeld ∧ keycode = 20) ∧ ¬ (pressed ∧ keysym = xkbKeyEscape) ∧
    (wmKey X.wm keysym pressed altDown).2 = false

/--
If a key is forwarded and the client that the frontend remembers has a keyboard,
the focused window is that client's.
-/
def KeyboardInStep (X : ServerRun) : ServerEvent → Prop
  | .input (.key keysym keycode pressed altDown) =>
      X.Forwards keysym keycode pressed altDown →
        ∀ c ∈ clientOf X.fe X.seat X.seat.kbdFocus, (∃ p ∈ X.seat.keyboards, p.client = c) →
          clientOf X.fe X.seat X.stack.focusId = some c
  | _ => True

end ServerRun

section Keys

variable {X Y : ServerRun}

theorem ServerRun.setWm_self (X : ServerRun) : X.setWm X.wm = X := by
  have hworld : ({ X.world with t := { X.world.t with stack := X.wm.stack } } : World) =
      X.world := by
    rw [X.wmStack]
  have hfe : { X.fe with stack := X.wm.stack } = X.fe := by
    rw [X.wmStack, ← X.feStack]
  simp only [ServerRun.setWm, hworld, hfe]

theorem owns_congr {d : Delivery} {id : Nat} (hclients : Y.world.t.clients = X.world.t.clients)
    (hsurfaces : Y.fe.surfaces = X.fe.surfaces) (hclient : Y.seat.client = X.seat.client) :
    Y.Owns d id ↔ X.Owns d id := by
  unfold ServerRun.Owns Transport.holding
  rw [hclients, hsurfaces, hclient]

theorem client_wlFrontendKeyboardKey (fe : Frontend) (seat : Seat) (keycode : Nat)
    (pressed : Bool) : (wlFrontendKeyboardKey fe seat keycode pressed).client = seat.client := by
  have hkeys : (if seat.hasXkb then { seat with keys := seat.keys ++ [(keycode, pressed)] }
      else seat).client = seat.client := by
    split <;> rfl
  have hsend (u : Seat) (client : Nat) : (sendModifiers u client).client = u.client := by
    unfold sendModifiers
    split <;> rfl
  unfold wlFrontendKeyboardKey
  dsimp only
  split
  · exact hkeys
  · exact (hsend _ _).trans hkeys

theorem routeKey_reaches_iff (hX : X.Inv) (keysym keycode : Nat) (pressed : Bool) :
    let Y := routeKey X keysym keycode pressed
    ((∀ d ∈ X.keyDeliveries Y, ∀ d' ∈ X.keyDeliveries Y, d.peer = d'.peer) ∧
        ∀ d ∈ X.keyDeliveries Y, ∃ window, Y.Owns ⟨d.peer, window⟩ Y.stack.focusId) ↔
      ∀ c ∈ clientOf X.fe X.seat X.seat.kbdFocus, (∃ p ∈ X.seat.keyboards, p.client = c) →
        clientOf X.fe X.seat X.stack.focusId = some c := by
  intro Y
  have hbooks := SameBooks.transportKeyboardKey X.world.t X.wm.stack.focusId keysym pressed
  have hfocus : Y.stack.focusId = X.stack.focusId := congrArg WindowStack.focusId hbooks.stack
  have howns {d : Delivery} {id : Nat} : Y.Owns d id ↔ X.Owns d id :=
    owns_congr hbooks.clients rfl (client_wlFrontendKeyboardKey _ _ _ _)
  have hmem {d : Delivery} : d ∈ X.keyDeliveries Y ↔
      (∃ i j, findByServerId X.world.t X.stack.focusId = some (i, j) ∧
        d = ⟨.native (X.world.t.clients i).fd, ((X.world.t.clients i).wins j).clientWid⟩) ∨
      ∃ c, clientOf X.fe X.seat X.seat.kbdFocus = some c ∧
        (∃ p ∈ X.seat.keyboards, p.client = c) ∧ d = ⟨.wayland c, X.seat.kbdFocus⟩ := by
    refine List.mem_append.trans (or_congr ?_ mem_wlFrontendKeyboardKey)
    rw [show X.stack.focusId = X.wm.stack.focusId from congrArg WindowStack.focusId X.wmStack.symm]
    exact mem_transportKeyboardKey
  constructor
  · rintro ⟨-, howned⟩ c hc hlistens
    obtain ⟨window, hown⟩ := howned _ (hmem.mpr (.inr ⟨c, hc, hlistens, rfl⟩))
    rw [hfocus, howns] at hown
    exact clientOf_of_owns hX hown
  · intro hstep
    have howned (d : Delivery) (hd : d ∈ X.keyDeliveries Y) :
        ∃ window, X.Owns ⟨d.peer, window⟩ X.stack.focusId := by
      rcases hmem.mp hd with ⟨i, j, hfind, rfl⟩ | ⟨c, hc, hlistens, rfl⟩
      · exact ⟨_, owns_of_findByServerId hfind⟩
      · exact ⟨_, owns_of_clientOf (hstep c hc hlistens)⟩
    refine ⟨fun d hd d' hd' => ?_, fun d hd => ?_⟩
    · obtain ⟨window, hown⟩ := howned d hd
      obtain ⟨window', hown'⟩ := howned d' hd'
      rcases hmem.mp hd with ⟨i, j, hfind, rfl⟩ | ⟨c, hc, -, rfl⟩ <;>
        rcases hmem.mp hd' with ⟨i', j', hfind', rfl⟩ | ⟨c', hc', -, rfl⟩
      · cases hfind.symm.trans hfind'
        rfl
      · exact (not_both_own hX hown hown').elim
      · exact (not_both_own hX hown' hown).elim
      · cases hc.symm.trans hc'
        rfl
    · rw [hfocus]
      obtain ⟨window, hown⟩ := howned d hd
      exact ⟨window, howns.mpr hown⟩

theorem trackModifiers_eq (X : ServerRun) (keycode : Nat) (pressed : Bool) :
    ∃ ctrlHeld altHeld, trackModifiers X keycode pressed =
      { X with ctrlHeld := ctrlHeld, altHeld := altHeld } := by
  unfold trackModifiers
  split
  · exact ⟨pressed, X.altHeld, rfl⟩
  · split
    · exact ⟨X.ctrlHeld, pressed, rfl⟩
    · exact ⟨X.ctrlHeld, X.altHeld, rfl⟩

theorem onKey_cases (X : ServerRun) (keysym keycode : Nat) (pressed altDown : Bool) :
    (¬ X.Forwards keysym keycode pressed altDown ∧
        (onKey X keysym keycode pressed altDown).world.t.os = X.world.t.os ∧
        (onKey X keysym keycode pressed altDown).seat = X.seat) ∨
      X.Forwards keysym keycode pressed altDown ∧
        onKey X keysym keycode pressed altDown =
          routeKey (trackModifiers X keycode pressed) keysym keycode pressed := by
  obtain ⟨ctrlHeld, altHeld, htracked⟩ := trackModifiers_eq X keycode pressed
  unfold ServerRun.Forwards onKey
  rw [htracked]
  dsimp only
  split
  · rename_i hterminal
    exact .inl ⟨fun h => h.1 hterminal, rfl, rfl⟩
  · rename_i hterminal
    split
    · rename_i hescape
      exact .inl ⟨fun h => h.2.1 hescape, rfl, rfl⟩
    · rename_i hescape
      split
      · rename_i hconsumed
        refine .inl ⟨fun h => ?_, rfl, rfl⟩
        rw [hconsumed] at h
        cases h.2.2
      · rename_i hconsumed
        have hkept : (wmKey X.wm keysym pressed altDown).2 = false := by simpa using hconsumed
        have hsame : (wmKey X.wm keysym pressed altDown).1 = X.wm := by
          unfold wmKey at hkept ⊢
          split at hkept
          · cases hkept
          · rename_i hother
            rw [if_neg hother]
        refine .inr ⟨⟨hterminal, hescape, hkept⟩, ?_⟩
        rw [hsame]
        exact congrArg (fun Z => routeKey Z keysym keycode pressed) (ServerRun.setWm_self _)

theorem forwards_active (X : ServerRun) (keysym keycode : Nat) (pressed altDown : Bool) :
    ServerRun.Forwards { X with activity := true } keysym keycode pressed altDown ↔
      X.Forwards keysym keycode pressed altDown := by
  unfold ServerRun.Forwards trackModifiers
  split
  · exact Iff.rfl
  · split <;> exact Iff.rfl

theorem keyReaches_iff (hX : X.Inv) (keysym keycode : Nat) (pressed altDown : Bool) :
    X.KeyReachesFocus (.input (.key keysym keycode pressed altDown)) ↔
      X.KeyboardInStep (.input (.key keysym keycode pressed altDown)) := by
  have hnext : X.next (.input (.key keysym keycode pressed altDown)) =
      onKey { X with activity := true } keysym keycode pressed altDown := rfl
  unfold ServerRun.KeyReachesFocus ServerRun.KeyboardInStep
  dsimp only
  rw [hnext, ← forwards_active X]
  rcases onKey_cases { X with activity := true } keysym keycode pressed altDown with
    ⟨hshortcut, hos, hseat⟩ | ⟨hforwards, heq⟩
  · have hnone : X.keyDeliveries
        (onKey { X with activity := true } keysym keycode pressed altDown) = [] := by
      simp [ServerRun.keyDeliveries, hos, hseat, nativeDeliveries, waylandKeys]
    rw [hnone]
    exact iff_of_true (by simp) fun h => (hshortcut h).elim
  · obtain ⟨ctrlHeld, altHeld, htracked⟩ := trackModifiers_eq { X with activity := true } keycode
      pressed
    have hkept : Keeps X { X with activity := true, ctrlHeld := ctrlHeld, altHeld := altHeld } :=
      .same rfl rfl rfl rfl
    rw [heq, htracked]
    refine (routeKey_reaches_iff (hkept.inv hX) keysym keycode pressed).trans ?_
    exact ⟨fun h _ => h, fun h => h hforwards⟩

end Keys

theorem each_iff_of_inv {C D : ServerRun → ServerEvent → Prop}
    (hiff : ∀ X e, X.Inv → (C X e ↔ D X e)) (S : Setup) {es : List ServerEvent}
    (hrun : ServerRun.system.Legal S.start es)
    (hwithin : (ServerRun.system.exec S.start es).Within) :
    ServerRun.system.Each C S.start es ↔ ServerRun.system.Each D S.start es := by
  have hbelow := System.each_below (B := ServerRun.Within)
    (fun _ _ hen h => ServerRun.Within.mono hen h) hrun hwithin
  exact System.each_congr (I := ServerRun.Inv) (fun _ _ hX h => hX.step h.1 h.2)
    (fun X e hX _ => hiff X e hX) hbelow S.start_inv

/--
In a run of the server in which fewer than `2^32 - 1` windows are created, every
key reaches at most one client, the owner of the focused window, if and only if
the frontend's keyboard focus is in step at every key that is forwarded.
-/
theorem keys_reach_focus_iff_in_step (S : Setup) (es : List ServerEvent)
    (hrun : ServerRun.system.Legal S.start es)
    (hwithin : (ServerRun.system.exec S.start es).Within) :
    ServerRun.system.Each ServerRun.KeyReachesFocus S.start es ↔
      ServerRun.system.Each ServerRun.KeyboardInStep S.start es := by
  refine each_iff_of_inv (fun X e hX => ?_) S hrun hwithin
  cases e with
  | input raw =>
      cases raw with
      | key keysym keycode pressed altDown => exact keyReaches_iff hX keysym keycode pressed altDown
      | _ => exact Iff.rfl
  | _ => exact Iff.rfl

/-- A native client opens a window, and a Wayland client maps one that overlaps it. -/
def openRun : List ServerEvent :=
  [.seat true, .idle 0 false, .frame ⟨true, true⟩, .pass, .transport (.addClient 7 true),
    .transport (.datagram 0 (.ofWords [clHelloType, clMagic, 2, 1, 0] []) ⟨none, fun _ => 0⟩ 10),
    .transport (.datagram 0 (.ofWords [clCreateWindowType, 3, 0, 5, 5, 300, 200] [])
      ⟨none, fun _ => 0⟩ 20),
    .pass, .wayland (.surface 1 (.createSurface true (some 1))),
    .wayland (.surface 1 (.getXdgSurface 1 (some 2))),
    .wayland (.surface 1 (.getToplevel 2 (some 3))), .wayland (.surface 1 (.commit 1 none none)),
    .wayland (.surface 1 (.attach 1 (some 4))),
    .wayland (.surface 1 (.commit 1 (some ⟨400, 300, 1600, fun _ => 0⟩) (some 64))),
    .wayland (.getPointer 1 (some 5) 5), .wayland (.getKeyboard 1 (some 6) 5), .pass, .pass,
    .hotplug false, .tail]

theorem openRun_legal : ServerRun.system.Legal plainSetup.start openRun := by
  have hfd : (0 : Int) ≤ 7 := by decide
  have hnew := @Frontend.newHandle_of_none
  exact ⟨⟨rfl, rfl⟩, rfl, rfl, .inl rfl, ⟨rfl, trivial, hfd⟩,
    ⟨rfl, trivial, by decide +kernel, by decide +kernel⟩,
    ⟨rfl, trivial, by decide +kernel, by decide +kernel⟩, .inr (.inl rfl),
    ⟨rfl, hnew rfl, by simp⟩, ⟨rfl, ⟨⟨0, rfl⟩, hnew rfl⟩, by simp⟩,
    ⟨rfl, ⟨⟨0, rfl⟩, hnew rfl⟩, by simp⟩, ⟨rfl, ⟨⟨0, rfl⟩, Frontend.newBlock_none _ _⟩, by simp⟩,
    ⟨rfl, ⟨0, rfl⟩, by simp⟩,
    ⟨rfl, ⟨⟨0, rfl⟩, Frontend.newBlock_of_unused rfl rfl rfl⟩, by simp⟩,
    ⟨rfl, trivial⟩, ⟨rfl, trivial⟩,
    .inr (.inr (.inl rfl)), .inr (.inr (.inr rfl)), rfl, rfl, trivial⟩

theorem openRun_append_legal {es : List ServerEvent}
    (h : ServerRun.system.Legal (ServerRun.system.exec plainSetup.start openRun) es) :
    ServerRun.system.Legal plainSetup.start (openRun ++ es) :=
  (System.legal_append _ _ _).mpr ⟨openRun_legal, h⟩

def typeRun : List ServerEvent :=
  openRun ++ [.seat true, .idle 1 false, .frame ⟨true, true⟩, .input (.key 97 30 true false)]

theorem keys_reach_focus_iff_in_step_typeRun :
    ServerRun.system.Each ServerRun.KeyReachesFocus plainSetup.start typeRun ↔
      ServerRun.system.Each ServerRun.KeyboardInStep plainSetup.start typeRun :=
  keys_reach_focus_iff_in_step plainSetup typeRun
    (openRun_append_legal ⟨⟨rfl, rfl⟩, rfl, rfl, rfl, trivial⟩) (by decide +kernel)

/-- In the next iteration a click on the native window comes before the key. -/
def clickAndTypeRun : List ServerEvent :=
  openRun ++ [.seat true, .idle 1 false, .frame ⟨true, true⟩, .input (.motion (-900) (-500)),
    .input (.button 272 true), .input (.key 97 30 true false)]

/-- The key after the click goes to the native client and to the Wayland client. -/
theorem key_reaches_two_clients :
    ServerRun.system.Legal plainSetup.start clickAndTypeRun ∧
      (ServerRun.system.exec plainSetup.start clickAndTypeRun).Within ∧
      ¬ ServerRun.system.Each ServerRun.KeyReachesFocus plainSetup.start clickAndTypeRun := by
  refine ⟨openRun_append_legal ⟨⟨rfl, rfl⟩, rfl, rfl, rfl, rfl, rfl, trivial⟩, by decide +kernel,
    fun h => ?_⟩
  have hkey := ((System.each_append _ (clickAndTypeRun.take 25) [.input (.key 97 30 true false)]).mp
    h).2.1
  have hsame := hkey.1 ⟨.native 7, 3⟩ (by decide +kernel) ⟨.wayland 1, 2⟩ (by decide +kernel)
  cases hsame

/-! ## Buttons -/

namespace ServerRun

def buttonDeliveries (X Y : ServerRun) : List Delivery :=
  nativeDeliveries .button (Y.world.t.os.sent.drop X.world.t.os.sent.length) ++
    waylandButtons X.seat.pointerFocus (Y.seat.sent.drop X.seat.sent.length)

/--
A button reaches at most one window, and if one, the topmost mapped window under
the cursor, which is over its content.
-/
def ButtonReachesTop (X : ServerRun) : ServerEvent → Prop
  | .input (.button button pressed) =>
      let Y := X.next (.input (.button button pressed))
      (∀ d ∈ X.buttonDeliveries Y, ∀ d' ∈ X.buttonDeliveries Y, d = d') ∧
        ∀ d ∈ X.buttonDeliveries Y,
          ∃ w, windowAt Y.stack Y.wm.cursorX Y.wm.cursorY = some w ∧ Y.Owns d w.id ∧
            Y.OverContent d.peer w
  | _ => True

/--
If the client that the frontend remembers has a pointer, the frontend would find
the same window anew, once the window manager has seen the button.
-/
def PointerInStep (X : ServerRun) : ServerEvent → Prop
  | .input (.button button pressed) =>
      let Y := X.setWm (wmPointerButton X.wm button pressed)
      ∀ c ∈ clientOf X.fe X.seat X.seat.pointerFocus, (∃ p ∈ X.seat.pointers, p.client = c) →
        X.seat.pointerFocus = hoverId (hover Y.fe Y.wm.cursorX Y.wm.cursorY)
  | _ => True

end ServerRun

section Buttons

variable {X : ServerRun}

theorem hoverId_eq_iff {fe : Frontend} {gx gy : Int} {id : Nat} (hid : id ≠ 0) :
    id = hoverId (hover fe gx gy) ↔
      ∃ w a s, windowAt fe.stack gx gy = some w ∧ id = w.id ∧
        surfaceByWindow fe w.id = some (a, s) ∧
        0 ≤ gy - (w.y + decorTitlebarH) ∧ gy - (w.y + decorTitlebarH) < s.ch ∧
        0 ≤ gx - w.x ∧ gx - w.x < s.cw := by
  unfold hover
  constructor
  · intro h
    cases hhit : windowAt fe.stack gx gy with
    | none =>
        rw [hhit] at h
        exact (hid h).elim
    | some w =>
        rw [hhit] at h
        dsimp only at h
        cases hfind : surfaceByWindow fe w.id with
        | none =>
            rw [hfind] at h
            exact (hid h).elim
        | some p =>
            obtain ⟨a, s⟩ := p
            rw [hfind] at h
            dsimp only at h
            split at h
            · rename_i hover
              exact ⟨w, a, s, rfl, h, hfind, hover⟩
            · exact (hid h).elim
  · rintro ⟨w, a, s, hhit, rfl, hfind, hover⟩
    rw [hhit]
    dsimp only
    rw [hfind]
    dsimp only
    rw [if_pos hover]
    rfl

theorem client_wlFrontendPointerButton (fe : Frontend) (seat : Seat) (button : Nat)
    (pressed : Bool) :
    (wlFrontendPointerButton fe seat button pressed).client = seat.client := by
  unfold wlFrontendPointerButton
  split <;> rfl

theorem routeButton_reaches_iff (hX : X.Inv) (button : Nat) (pressed : Bool) :
    let Y := routeButton X button pressed
    ((∀ d ∈ X.buttonDeliveries Y, ∀ d' ∈ X.buttonDeliveries Y, d = d') ∧
        ∀ d ∈ X.buttonDeliveries Y,
          ∃ w, windowAt Y.stack Y.wm.cursorX Y.wm.cursorY = some w ∧ Y.Owns d w.id ∧
            Y.OverContent d.peer w) ↔
      ∀ c ∈ clientOf X.fe X.seat X.seat.pointerFocus, (∃ p ∈ X.seat.pointers, p.client = c) →
        X.seat.pointerFocus = hoverId (hover X.fe X.wm.cursorX X.wm.cursorY) := by
  intro Y
  have hbooks := SameBooks.pointerInput X.world.t X.wm.cursorX X.wm.cursorY .button button pressed
  have hstack : Y.stack = X.stack := hbooks.stack
  have howns {d : Delivery} {id : Nat} : Y.Owns d id ↔ X.Owns d id :=
    owns_congr hbooks.clients rfl (client_wlFrontendPointerButton _ _ _ _)
  have hmem {d : Delivery} : d ∈ X.buttonDeliveries Y ↔
      (∃ w i j, pointerTarget X.stack X.wm.cursorX X.wm.cursorY = some w ∧
        findByServerId X.world.t w.id = some (i, j) ∧
        d = ⟨.native (X.world.t.clients i).fd, ((X.world.t.clients i).wins j).clientWid⟩) ∨
      ∃ c, clientOf X.fe X.seat X.seat.pointerFocus = some c ∧
        (∃ p ∈ X.seat.pointers, p.client = c) ∧ d = ⟨.wayland c, X.seat.pointerFocus⟩ :=
    List.mem_append.trans (or_congr mem_pointerInput mem_wlFrontendPointerButton)
  have htop (w : Window) : windowAt Y.stack Y.wm.cursorX Y.wm.cursorY = some w ↔
      windowAt X.stack X.wm.cursorX X.wm.cursorY = some w := by
    rw [hstack]
    exact Iff.rfl
  constructor
  · rintro ⟨-, hreached⟩ c hc hlistens
    obtain ⟨w, hw, hown, a, s, hs, hid, hover⟩ :=
      hreached _ (hmem.mpr (.inr ⟨c, hc, hlistens, rfl⟩))
    obtain ⟨hnamed, hnonzero, -⟩ := howns.mp hown
    have hfocus : X.seat.pointerFocus = w.id := hnamed
    have hfind : surfaceByWindow X.fe w.id = some (a, s) := by
      rw [← hid]
      exact surfaceByWindow_of_shows hX hs (hid ▸ hnonzero)
    refine (hoverId_eq_iff (hfocus ▸ hnonzero)).mpr ⟨w, a, s, ?_, hfocus, hfind, hover⟩
    rw [X.feStack]
    exact (htop w).mp hw
  · intro hstep
    have hreached (d : Delivery) (hd : d ∈ X.buttonDeliveries Y) :
        ∃ w, windowAt X.stack X.wm.cursorX X.wm.cursorY = some w ∧ X.Owns d w.id ∧
          X.OverContent d.peer w := by
      rcases hmem.mp hd with ⟨w, i, j, htarget, hfind, rfl⟩ | ⟨c, hc, hlistens, rfl⟩
      · obtain ⟨hw, hbelow⟩ := Option.filter_eq_some_iff.mp htarget
        have hcontent : w.y + winTitlebar w ≤ X.wm.cursorY := of_decide_eq_true hbelow
        exact ⟨w, hw, owns_of_findByServerId hfind, hcontent⟩
      · obtain ⟨a, s, hshown, -⟩ := clientOf_eq_some hc
        obtain ⟨hnonzero, -⟩ := surfaceByWindow_eq_some hshown
        obtain ⟨w, a, s, hw, hid, hfind, hover⟩ :=
          (hoverId_eq_iff hnonzero).mp (hstep c hc hlistens)
        obtain ⟨-, hs, hshows⟩ := surfaceByWindow_eq_some hfind
        rw [X.feStack] at hw
        have hown := owns_of_clientOf hc
        refine ⟨w, hw, ?_, a, s, hs, hshows, hover⟩
        rwa [← hid]
    refine ⟨fun d hd d' hd' => ?_, fun d hd => ?_⟩
    · obtain ⟨w, hw, hown, -⟩ := hreached d hd
      obtain ⟨w', hw', hown', -⟩ := hreached d' hd'
      cases hw.symm.trans hw'
      rcases hmem.mp hd with ⟨v, i, j, htarget, hfind, rfl⟩ | ⟨c, hc, -, rfl⟩ <;>
        rcases hmem.mp hd' with ⟨v', i', j', htarget', hfind', rfl⟩ | ⟨c', hc', -, rfl⟩
      · cases htarget.symm.trans htarget'
        cases hfind.symm.trans hfind'
        rfl
      · exact (not_both_own hX hown hown').elim
      · exact (not_both_own hX hown' hown).elim
      · cases hc.symm.trans hc'
        rfl
    · obtain ⟨w, hw, hown, hover⟩ := hreached d hd
      exact ⟨w, (htop w).mpr hw, howns.mpr hown, hover⟩

theorem buttonReaches_iff (hX : X.Inv) (button : Nat) (pressed : Bool) :
    X.ButtonReachesTop (.input (.button button pressed)) ↔
      X.PointerInStep (.input (.button button pressed)) := by
  have hactive : Keeps X { X with activity := true } := .same rfl rfl rfl rfl
  have hwm : Keeps { X with activity := true } (ServerRun.setWm { X with activity := true }
      (wmPointerButton X.wm button pressed)) :=
    .setWm fun hY => wmPointerButton_manages hY.steered button pressed
  exact routeButton_reaches_iff ((hactive.trans hwm).inv hX) button pressed

end Buttons

/--
In a run of the server in which fewer than `2^32 - 1` windows are created, every
button reaches at most one window, the topmost under the cursor, if and only if
the frontend's pointer focus is in step at every button.
-/
theorem buttons_reach_top_iff_in_step (S : Setup) (es : List ServerEvent)
    (hrun : ServerRun.system.Legal S.start es)
    (hwithin : (ServerRun.system.exec S.start es).Within) :
    ServerRun.system.Each ServerRun.ButtonReachesTop S.start es ↔
      ServerRun.system.Each ServerRun.PointerInStep S.start es := by
  refine each_iff_of_inv (fun X e hX => ?_) S hrun hwithin
  cases e with
  | input raw =>
      cases raw with
      | button button pressed => exact buttonReaches_iff hX button pressed
      | _ => exact Iff.rfl
  | _ => exact Iff.rfl

/-- In the next iteration the cursor moves onto the Wayland window, and a button is pressed. -/
def clickRun : List ServerEvent :=
  openRun ++ [.seat true, .idle 1 false, .frame ⟨true, true⟩, .input (.motion (-660) (-290)),
    .input (.button 272 true)]

theorem buttons_reach_top_iff_in_step_clickRun :
    ServerRun.system.Each ServerRun.ButtonReachesTop plainSetup.start clickRun ↔
      ServerRun.system.Each ServerRun.PointerInStep plainSetup.start clickRun :=
  buttons_reach_top_iff_in_step plainSetup clickRun
    (openRun_append_legal ⟨⟨rfl, rfl⟩, rfl, rfl, rfl, rfl, trivial⟩) (by decide +kernel)

/-- Between the motion and the button the native client opens a window under the cursor. -/
def coverAndClickRun : List ServerEvent :=
  openRun ++ [.seat true, .idle 1 false, .frame ⟨true, true⟩, .input (.motion (-660) (-290)), .pass,
    .transport (.datagram 0 (.ofWords [clCreateWindowType, 4, 0, 200, 200, 300, 200] [])
      ⟨none, fun _ => 0⟩ 30),
    .pass, .pass, .pass, .hotplug false, .tail, .seat true, .idle 2 false, .frame ⟨true, true⟩,
    .input (.button 272 true)]

/-- The button goes to the new window and to the Wayland window below it. -/
theorem button_reaches_two_windows :
    ServerRun.system.Legal plainSetup.start coverAndClickRun ∧
      (ServerRun.system.exec plainSetup.start coverAndClickRun).Within ∧
      ¬ ServerRun.system.Each ServerRun.ButtonReachesTop plainSetup.start coverAndClickRun := by
  refine ⟨openRun_append_legal ⟨⟨rfl, rfl⟩, rfl, rfl, rfl, .inl rfl,
    ⟨rfl, trivial, by decide +kernel, by decide +kernel⟩, .inr (.inl rfl), .inr (.inr (.inl rfl)),
    .inr (.inr (.inr rfl)), rfl, rfl, ⟨rfl, rfl⟩, rfl, rfl, rfl, trivial⟩, by decide +kernel,
    fun h => ?_⟩
  have hbutton := ((System.each_append _ (coverAndClickRun.take 34) [.input (.button 272 true)]).mp
    h).2.1
  have hsame := hbutton.1 ⟨.native 7, 4⟩ (by decide +kernel) ⟨.wayland 1, 2⟩ (by decide +kernel)
  cases hsame

end CrystallineLattice.Server
