import CrystallineLattice.Native.Input
import CrystallineLattice.Native.Wallpaper
import CrystallineLattice.Native.Watch

/-!
# What a connection hears

A connection hears nothing until its handshake is complete, then one `CL_WELCOME`,
and from then on only about its own windows and about the screen.  This file says
so of each turn of the transport: of a handshake, of a change of the screen, and of
everything else, which ends with the sending of some messages.
-/

namespace CrystallineLattice.Native

open CrystallineLattice.Foundation
open CrystallineLattice.Stack

def Transport.HasWid (t : Transport) (i : Fin clMaxClients) (wid : Nat) : Prop :=
  wid ≠ 0 ∧ ∃ j, ((t.clients i).wins j).clientWid = wid

/--
What connection `i` may hear after its welcome.  A `CL_CREATE_WINDOW` without an id
is answered with a `CL_CONFIGURE` all the same.
-/
def Fits (t : Transport) (i : Fin clMaxClients) : Message → Prop
  | .welcome .. => False
  | .configure wid .. => wid = 0 ∨ t.HasWid i wid
  | .focus wid _ => t.HasWid i wid
  | .input wid .. => t.HasWid i wid
  | .screen w h => (w, h) = (uint32 t.sw, uint32 t.sh)

/-- The message goes to a connection that is in session, and it fits there. -/
def Proper (t : Transport) (p : Int × Message) : Prop :=
  ∃ i, p.1 = (t.clients i).fd ∧ 0 ≤ p.1 ∧ (t.clients i).hello = true ∧ Fits t i p.2

/-- Nothing but proper messages is new. -/
structure Sends (t u : Transport) : Prop where
  clients : u.clients = t.clients
  screen : u.sw = t.sw ∧ u.sh = t.sh
  sent : ∃ l, u.os.sent = t.os.sent ++ l ∧ ∀ p ∈ l, Proper u p

/-- Nothing is sent, and a session can only end; a slot that was free is not in session. -/
structure Works (t u : Transport) : Prop where
  sent : u.os.sent = t.os.sent
  screen : u.sw = t.sw ∧ u.sh = t.sh
  slot : ∀ i, (u.clients i).fd < 0 ∨
    (t.clients i).fd < 0 ∧ (u.clients i).hello = false ∨
    (u.clients i).fd = (t.clients i).fd ∧ (u.clients i).hello = (t.clients i).hello ∧
      (u.clients i).token = (t.clients i).token

structure Greets (t u : Transport) (i : Fin clMaxClients) : Prop where
  fresh : (t.clients i).hello = false
  isOpen : 0 ≤ (t.clients i).fd
  ready : (u.clients i).hello = true
  fd : (u.clients i).fd = (t.clients i).fd
  others : ∀ i', i' ≠ i → u.clients i' = t.clients i'
  screen : u.sw = t.sw ∧ u.sh = t.sh
  sent : u.os.sent = t.os.sent ++ [((t.clients i).fd,
    .welcome clMagic clVersion (uint32 t.sw) (uint32 t.sh) (u.clients i).token)]

structure Resizes (t u : Transport) : Prop where
  clients : u.clients = t.clients
  sent : ∃ l, u.os.sent = t.os.sent ++ l ∧ (∀ p ∈ l, Proper u p) ∧
    ∀ i, 0 ≤ (u.clients i).fd → (u.clients i).hello = true →
      ((u.clients i).fd, .screen (uint32 u.sw) (uint32 u.sh)) ∈ l

inductive Turn (t u : Transport) : Prop where
  | work {v : Transport} (works : Works t v) (sends : Sends v u)
  | greet {i : Fin clMaxClients} (greets : Greets t u i)
  | resize (resizes : Resizes t u)

/-- Only a connection in session has windows. -/
def Seated (t : Transport) : Prop :=
  ∀ i j, ((t.clients i).wins j).clientWid ≠ 0 → (t.clients i).hello = true

theorem Seated.of_clients {t u : Transport} (h : Seated t) (hclients : u.clients = t.clients) :
    Seated u := by
  unfold Seated
  rw [hclients]
  exact h

theorem World.Inv.seated {W : World} (hW : W.Inv) : Seated W.t := by
  intro i j hwid
  rw [hW.session.ready i]
  exact fun hzero => hwid (hW.ledger.naming.vacant (h := .client i) hzero j)

theorem Proper.congr {t u : Transport} (hclients : u.clients = t.clients)
    (hscreen : u.sw = t.sw ∧ u.sh = t.sh) {p : Int × Message} (hp : Proper t p) : Proper u p := by
  unfold Proper Fits Transport.HasWid at hp ⊢
  rw [hclients, hscreen.1, hscreen.2]
  exact hp

theorem Seated.proper {t : Transport} (ht : Seated t) {id : Nat} {i : Fin clMaxClients}
    {j : Fin winMax} (hfind : findByServerId t id = some (i, j)) {m : Message}
    (hfits : t.HasWid i ((t.clients i).wins j).clientWid → Fits t i m) :
    Proper t ((t.clients i).fd, m) := by
  obtain ⟨-, hheld⟩ := findByServerId_eq_some hfind
  obtain ⟨⟨hfd, hwid⟩, -⟩ := holding_eq_some.mp hheld
  exact ⟨i, rfl, hfd, ht i j hwid, hfits ⟨hwid, j, rfl⟩⟩

/-! ## Sending -/

namespace Sends

variable {t u v : Transport}

theorem refl (t : Transport) : Sends t t := ⟨rfl, ⟨rfl, rfl⟩, [], by simp, by simp⟩

theorem trans (h : Sends t u) (h' : Sends u v) : Sends t v := by
  obtain ⟨l, hl, hproper⟩ := h.sent
  obtain ⟨l', hl', hproper'⟩ := h'.sent
  refine ⟨h'.clients.trans h.clients, ⟨h'.screen.1.trans h.screen.1, h'.screen.2.trans h.screen.2⟩,
    l ++ l', by rw [hl', hl, List.append_assoc], fun p hp => ?_⟩
  rcases List.mem_append.mp hp with hp | hp
  · exact (hproper p hp).congr h'.clients h'.screen
  · exact hproper' p hp

theorem of_eq (hclients : u.clients = t.clients) (hscreen : u.sw = t.sw ∧ u.sh = t.sh)
    (hsent : u.os.sent = t.os.sent) : Sends t u :=
  ⟨hclients, hscreen, [], by simp [hsent], by simp⟩

theorem clSend {fd : Int} {m : Message} (hm : Proper t (fd, m)) : Sends t (clSend t fd m) where
  clients := rfl
  screen := ⟨rfl, rfl⟩
  sent := ⟨[(fd, m)], rfl, fun p hp => by
    rw [List.mem_singleton.mp hp]
    exact hm.congr rfl ⟨rfl, rfl⟩⟩

theorem sendFocus (ht : Seated t) (id : Nat) (focused : Bool) :
    Sends t (sendFocus t id focused) := by
  unfold Native.sendFocus
  cases hfind : findByServerId t id with
  | none => exact refl t
  | some p => exact clSend (ht.proper hfind fun h => h)

theorem notifyFocus (ht : Seated t) (f : Nat) : Sends t (notifyFocus t f) := by
  unfold Native.notifyFocus
  split
  · exact refl t
  · have hleft := sendFocus ht t.focusedServerId false
    have hnoted : Sends (Native.sendFocus t t.focusedServerId false)
        { Native.sendFocus t t.focusedServerId false with focusedServerId := f } :=
      of_eq rfl ⟨rfl, rfl⟩ rfl
    have hseated := ht.of_clients (hleft.trans hnoted).clients
    exact (hleft.trans hnoted).trans (sendFocus hseated f true)

theorem pointerInput (ht : Seated t) (cursorX cursorY : Int) (kind : ClInputKind) (code : Nat)
    (pressed : Bool) : Sends t (pointerInput t cursorX cursorY kind code pressed) := by
  unfold Native.pointerInput
  cases pointerTarget t.stack cursorX cursorY with
  | none => exact refl t
  | some w =>
      dsimp only
      cases hfind : findByServerId t w.id with
      | none => exact refl t
      | some p => exact clSend (ht.proper hfind id)

theorem transportKeyboardKey (ht : Seated t) (focusId keysym : Nat) (pressed : Bool) :
    Sends t (transportKeyboardKey t focusId keysym pressed) := by
  unfold Native.transportKeyboardKey
  cases hfind : findByServerId t focusId with
  | none => exact refl t
  | some p => exact clSend (ht.proper hfind id)

theorem transportNotifyGeometry (ht : Seated t) (id : Nat) :
    Sends t (transportNotifyGeometry t id) := by
  unfold Native.transportNotifyGeometry
  cases hfind : findByServerId t id with
  | none => exact refl t
  | some p =>
      dsimp only
      cases windowById t.stack id with
      | none => exact refl t
      | some w => exact clSend (ht.proper hfind .inr)

end Sends

/-! ## The turns -/

namespace Works

variable {t u : Transport} {i : Fin clMaxClients}

theorem of_session (hsent : u.os.sent = t.os.sent) (hscreen : Tidy False t u)
    (hsession : ∀ i, (u.clients i).fd = (t.clients i).fd ∧
      (u.clients i).hello = (t.clients i).hello ∧ (u.clients i).token = (t.clients i).token) :
    Works t u :=
  ⟨hsent, ⟨hscreen.sw, hscreen.sh⟩, fun i => .inr (.inr (hsession i))⟩

theorem of_clients (hsent : u.os.sent = t.os.sent) (hscreen : Tidy False t u)
    (hclients : u.clients = t.clients) : Works t u :=
  of_session hsent hscreen fun i => by
    rw [hclients]
    exact ⟨rfl, rfl, rfl⟩

theorem clientDrop (t : Transport) (i : Fin clMaxClients) (now : Int) :
    Works t (clientDrop t i now) := by
  have htidy := Tidy.clientDrop (S := False) t i now
  obtain ⟨hothers, hself, -, -⟩ := clientDrop_frame t i now
  refine ⟨(Quiet.clientDrop t i now).sent, ⟨htidy.sw, htidy.sh⟩, fun i' => ?_⟩
  by_cases hi : i' = i
  · rw [hi, hself]
    exact .inl (by decide)
  · rw [hothers i' hi]
    exact .inr (.inr ⟨rfl, rfl, rfl⟩)

theorem transportAddClient (t : Transport) (fd : Int) (epollOk : Bool) :
    Works t (transportAddClient t fd epollOk) := by
  have htidy := Tidy.transportAddClient (S := False) t fd epollOk
  refine ⟨(Quiet.transportAddClient t fd epollOk).sent, ⟨htidy.sw, htidy.sh⟩, fun i' => ?_⟩
  unfold Native.transportAddClient
  cases hslot : clientByFd t (-1) with
  | none => exact .inr (.inr ⟨rfl, rfl, rfl⟩)
  | some i =>
      have hfree : (t.clients i).fd = -1 := by simpa using firstIndex_eq_some hslot
      by_cases hi : i' = i
      · subst hi
        refine .inr (.inl ⟨by omega, ?_⟩)
        cases epollOk <;> simp [Transport.setClient, ClClient.zero]
      · refine .inr (.inr ?_)
        cases epollOk <;> simp [Transport.setClient, hi]

end Works

theorem onCreateWindow_turn {t : Transport} (ht : Seated t) {i : Fin clMaxClients}
    (hopen : 0 ≤ (t.clients i).fd) (hready : (t.clients i).hello = true) (m : ClCreateWindow) :
    ∃ v, Works t v ∧ Sends v (onCreateWindow t i m) := by
  rcases onCreateWindow_cases t i m with ⟨heq, -⟩ | ⟨j, -, heq⟩
  · rw [heq]
    exact ⟨t, .of_clients rfl (.refl t) rfl, .refl t⟩
  · rw [heq]
    split
    · exact ⟨t, .of_clients rfl (.refl t) rfl, .of_eq rfl ⟨rfl, rfl⟩ rfl⟩
    · obtain ⟨stack, history, hadopt⟩ : ∃ stack history,
          let v := ({ t with stack := stack, history := history }.setWin (.client i) j
            { (t.clients i).wins j with clientWid := m.wid, serverId := t.stack.nextId })
          let v' := sendConfigure v (t.clients i).fd m.wid t.stack.nextId
          adoptWindow { t with stack := (requestedWindow t.stack m).1 } i j m.wid
            (roleFromWire m.role) t.stack.nextId =
              if roleFromWire m.role = .normal then notifyFocus v' t.stack.nextId else v' := by
        unfold adoptWindow
        exact ⟨_, _, rfl⟩
      dsimp only at hadopt
      have hwins (i' : Fin clMaxClients) : ({ t with stack := stack, history := history }.setWin
          (.client i) j { (t.clients i).wins j with
            clientWid := m.wid, serverId := t.stack.nextId }).clients i' =
          if i' = i then
            { t.clients i with
              wins := Function.update (t.clients i).wins j
                { (t.clients i).wins j with clientWid := m.wid, serverId := t.stack.nextId } }
          else t.clients i' := by
        by_cases hi : i' = i <;> simp [Transport.setWin, Transport.setClient, hi]
      have hworks : Works t ({ t with stack := stack, history := history }.setWin (.client i) j
          { (t.clients i).wins j with clientWid := m.wid, serverId := t.stack.nextId }) := by
        refine .of_session rfl ⟨rfl, rfl, False.elim⟩ fun i' => ?_
        rw [hwins]
        split
        · rename_i hi
          rw [hi]
          exact ⟨rfl, rfl, rfl⟩
        · exact ⟨rfl, rfl, rfl⟩
      generalize ({ t with stack := stack, history := history }.setWin (.client i) j
        { (t.clients i).wins j with clientWid := m.wid, serverId := t.stack.nextId }) = v
        at hadopt hwins hworks
      have hself := (hwins i).trans (if_pos rfl)
      have hseated : Seated v := by
        intro i' j' hwid
        rw [hwins] at hwid ⊢
        split
        · exact hready
        · rename_i hi
          rw [if_neg hi] at hwid
          exact ht i' j' hwid
      have hnamed : m.wid = 0 ∨ v.HasWid i m.wid := by
        by_cases hzero : m.wid = 0
        · exact .inl hzero
        · exact .inr ⟨hzero, j, by rw [hself]; simp⟩
      have hconfigure : Sends v (sendConfigure v (t.clients i).fd m.wid t.stack.nextId) := by
        unfold sendConfigure
        cases windowById v.stack t.stack.nextId with
        | none => exact .refl v
        | some w => exact .clSend ⟨i, by rw [hself], hopen, by rw [hself]; exact hready, hnamed⟩
      rw [hadopt]
      refine ⟨v, hworks, ?_⟩
      split
      · exact hconfigure.trans (.notifyFocus (hseated.of_clients hconfigure.clients) _)
      · exact hconfigure

theorem acceptHello_greets (t : Transport) {i : Fin clMaxClients} (d : Datagram)
    (hopen : 0 ≤ (t.clients i).fd) (hfresh : (t.clients i).hello = false) :
    Greets t (acceptHello t i d) i := by
  obtain ⟨u, hu, heq⟩ := acceptHello_cases t i d
  obtain ⟨hothers, -, hfd, hready, -⟩ := hu.frame
  have hkept : u.os.sent = t.os.sent ∧ u.sw = t.sw ∧ u.sh = t.sh := by
    cases hu <;> exact ⟨rfl, rfl, rfl⟩
  rw [heq]
  refine ⟨hfresh, hopen, hready, hfd, hothers, hkept.2, ?_⟩
  rw [sent_closeFds, ← hkept.1, ← hkept.2.1, ← hkept.2.2, ← hfd]
  rfl

theorem clientDatagram_turn {t : Transport} (ht : Seated t) {i : Fin clMaxClients}
    (hopen : 0 ≤ (t.clients i).fd) (d : Datagram) (k : Kernel) (now : Int) :
    Turn t (clientDatagram t i d k now false).t := by
  rcases clientDatagram_cases t i d k now false with heq | ⟨-, heq⟩
  · rw [heq]
    have hquiet {u : Transport} (hu : Quiet t u) (hscreen : Tidy False t u)
        (hframe : OnlyTable (.client i) t u) : Turn t u :=
      .work (.of_session hu.sent hscreen hframe.session) (.refl u)
    have hclose {u : Transport} (hu : Quiet t u) (hscreen : Tidy False t u)
        (hframe : OnlyTable (.client i) t u) : Turn t (closeFds u d.fds) :=
      hquiet (hu.trans (.closeFds u d.fds)) (hscreen.trans (.of_stack rfl rfl rfl))
        (hframe.trans (.same rfl rfl rfl))
    have hpath := dispatch_path t i d k false
    generalize dispatch t i d k false = r at hpath ⊢
    cases hpath with
    | reject why => exact hclose (.refl t) (.refl t) (.same rfl rfl rfl)
    | hello fresh type full accepted => exact .greet (acceptHello_greets t d hopen fresh)
    | createWindow ready type full =>
        obtain ⟨v, hworks, hsends⟩ := onCreateWindow_turn ht hopen ready (.read d.buf)
        exact .work hworks (hsends.trans (.of_eq rfl ⟨rfl, rfl⟩ (sent_closeFds _ d.fds)))
    | setTitle ready type full =>
        exact hclose (.onSetTitle t i _) (.onSetTitle t i _) (onSetTitle_frame t i _)
    | commit ready type full =>
        exact hquiet (.onCommit t i _ _ _) (.onCommit t i _ _ _) (onCommit_frame t i _ _ _)
    | destroyWindow ready type full =>
        exact hclose (.onDestroyWindow t i _) (.onDestroyWindow t i _) (onDestroyWindow_frame t i _)
    | setGeometry ready type full =>
        exact hclose (.onSetGeometry t i _) (.onSetGeometry t i _) (onSetGeometry_frame t i _)
    | setCursor ready type full =>
        exact hquiet (.onSetCursor t _ _ _) (.onSetCursor t _ _ _) (onSetCursor_frame t i _ _ _)
    | ignore ready type => exact hclose (.refl t) (.refl t) (.same rfl rfl rfl)
  · rw [heq]
    have hclosed : Works t (closeFds t d.fds) :=
      .of_clients (sent_closeFds t d.fds) (.of_stack rfl rfl rfl) rfl
    have hdropped := Works.clientDrop (closeFds t d.fds) i now
    exact .work ⟨hdropped.sent.trans hclosed.sent, hdropped.screen, hdropped.slot⟩ (.refl _)

namespace World

theorem turn {W : World} (hW : W.Inv) {e : Event} (hen : W.enabled e) :
    Turn W.t (W.next e).t := by
  cases e with
  | addClient fd epollOk => exact .work (.transportAddClient W.t fd epollOk) (.refl _)
  | datagram i d k now => exact clientDatagram_turn hW.seated hen.1 d k now
  | hangup i now => exact .work (.clientDrop W.t i now) (.refl _)
  | expire now =>
      simp only [World.next]
      exact .work (.of_clients (Quiet.orphansExpire W.t now).sent (.orphansExpire W.t now)
        (orphansExpire_clients W.t now)) (.refl _)
  | updateFocus f =>
      exact .work (.of_clients rfl (.refl W.t) rfl) (.notifyFocus hW.seated f)
  | other op => exact .work (.of_clients rfl (.refl W.t) rfl) (.of_eq rfl ⟨rfl, rfl⟩ rfl)

end World

def screenMessages (t : Transport) (w h : Int) (is : List (Fin clMaxClients)) :
    List (Int × Message) :=
  is.filterMap fun i =>
    if 0 ≤ (t.clients i).fd ∧ (t.clients i).hello then
      some ((t.clients i).fd, .screen (uint32 w) (uint32 h))
    else none

theorem sendScreens_eq (w h : Int) (t : Transport) (is : List (Fin clMaxClients)) :
    is.foldl (sendScreen w h) t =
      { t with os := { t.os with sent := t.os.sent ++ screenMessages t w h is } } := by
  induction is generalizing t with
  | nil => simp [screenMessages]
  | cons i is ih =>
      rw [List.foldl_cons, ih, sendScreen]
      by_cases hsession : 0 ≤ (t.clients i).fd ∧ (t.clients i).hello
      · have hsame (fd : Int) (m : Message) :
            screenMessages (clSend t fd m) w h is = screenMessages t w h is := rfl
        rw [if_pos hsession, hsame]
        simp [screenMessages, hsession, clSend, Os.send]
      · rw [if_neg hsession]
        simp [screenMessages, hsession]

theorem transportBroadcastScreen_resizes (t : Transport) (w h : Int) :
    Resizes t (transportBroadcastScreen t w h) := by
  unfold transportBroadcastScreen
  rw [sendScreens_eq]
  refine ⟨rfl, _, rfl, fun p hp => ?_, fun i hopen hready => ?_⟩
  · obtain ⟨i, -, hi⟩ := List.mem_filterMap.mp hp
    split at hi
    · rename_i hsession
      cases hi
      exact ⟨i, rfl, hsession.1, hsession.2, rfl⟩
    · cases hi
  · exact List.mem_filterMap.mpr ⟨i, List.mem_finRange i, if_pos ⟨hopen, hready⟩⟩

/-! ## The conversation -/

def Message.size : Message → Option (Nat × Nat)
  | .welcome _ _ w h _ => some (w, h)
  | .screen w h => some (w, h)
  | _ => none

def Message.isWelcome : Message → Bool
  | .welcome .. => true
  | _ => false

def news (t u : Transport) (fd : Int) : List Message :=
  (u.os.sent.drop t.os.sent.length).filterMap fun p => if p.1 = fd then some p.2 else none

/-- What connection `i` has heard when it had heard `l` before the turn. -/
def listen (t u : Transport) (i : Fin clMaxClients) (l : List Message) : List Message :=
  if (t.clients i).fd < 0 then [] else l ++ news t u (t.clients i).fd

/--
Before the handshake a connection has heard nothing.  After it, it has heard one
welcome, which came first and gave its token; and the size it heard last is the
size of the screen.
-/
def Conforms (t : Transport) (i : Fin clMaxClients) (l : List Message) : Prop :=
  if (t.clients i).hello then
    ∃ w h rest, l = .welcome clMagic clVersion w h (t.clients i).token :: rest ∧
      (∀ m ∈ rest, m.isWelcome = false) ∧
      (l.filterMap Message.size).getLast? = some (uint32 t.sw, uint32 t.sh)
  else l = []

theorem news_eq {t u : Transport} {l : List (Int × Message)} (h : u.os.sent = t.os.sent ++ l)
    (fd : Int) : news t u fd = l.filterMap fun p => if p.1 = fd then some p.2 else none := by
  rw [news, h, List.drop_left]

theorem fits_of_news {t u : Transport} (hu : Watch.OwnFds u) {l : List (Int × Message)}
    (hl : u.os.sent = t.os.sent ++ l) (hproper : ∀ p ∈ l, Proper u p) {i : Fin clMaxClients}
    (hopen : 0 ≤ (u.clients i).fd) {m : Message} (hm : m ∈ news t u (u.clients i).fd) :
    (u.clients i).hello = true ∧ Fits u i m := by
  rw [news_eq hl] at hm
  obtain ⟨p, hp, heq⟩ := List.mem_filterMap.mp hm
  obtain ⟨i', hfd, -, hready, hfits⟩ := hproper p hp
  split at heq
  · rename_i hsame
    obtain rfl : i = i' := hu i i' hopen (hsame.symm.trans hfd)
    cases heq
    exact ⟨hready, hfits⟩
  · cases heq

theorem size_of_fits {t : Transport} {i : Fin clMaxClients} {m : Message} (hm : Fits t i m)
    {s : Nat × Nat} (hs : m.size = some s) : s = (uint32 t.sw, uint32 t.sh) := by
  cases m with
  | welcome magic version w h token => exact hm.elim
  | screen w h =>
      cases hs
      exact hm
  | _ => cases hs

theorem Conforms.heard {t u : Transport} {i : Fin clMaxClients} {l new : List Message}
    (hl : Conforms t i l) (hhello : (u.clients i).hello = (t.clients i).hello)
    (htoken : (u.clients i).token = (t.clients i).token)
    (hnew : ∀ m ∈ new, (u.clients i).hello = true ∧ Fits u i m)
    (hscreen : (u.clients i).hello = true → u.sw = t.sw ∧ u.sh = t.sh ∨
      .screen (uint32 u.sw) (uint32 u.sh) ∈ new) : Conforms u i (l ++ new) := by
  unfold Conforms at hl ⊢
  rw [← hhello] at hl
  split
  · rename_i hready
    rw [if_pos hready] at hl
    obtain ⟨w, h, rest, rfl, hrest, hsize⟩ := hl
    refine ⟨w, h, rest ++ new, by rw [htoken]; rfl, fun m hm => ?_, ?_⟩
    · rcases List.mem_append.mp hm with hm | hm
      · exact hrest m hm
      · cases m with
        | welcome magic version w h token => exact (hnew _ hm).2.elim
        | _ => rfl
    · rw [List.filterMap_append, List.getLast?_append]
      cases hlast : (new.filterMap Message.size).getLast? with
      | some s =>
          obtain ⟨m, hm, hs⟩ := List.mem_filterMap.mp (List.mem_of_getLast? hlast)
          rw [size_of_fits (hnew m hm).2 hs]
          rfl
      | none =>
          rcases hscreen hready with ⟨hsw, hsh⟩ | hmem
          · rw [hsize, hsw, hsh]
            rfl
          · have hsome := List.mem_filterMap.mpr ⟨_, hmem, (rfl : Message.size _ = some _)⟩
            rw [List.getLast?_eq_none_iff.mp hlast] at hsome
            cases hsome
  · rename_i hfresh
    rw [if_neg hfresh] at hl
    cases new with
    | nil => rw [hl]; rfl
    | cons m new => exact (hfresh (hnew m List.mem_cons_self).1).elim

/-- Whatever the turn, every connection's conversation is as it should be. -/
theorem Turn.conforms {t u : Transport} (hturn : Turn t u) (ht : Watch.OwnFds t)
    (hu : Watch.OwnFds u) {i : Fin clMaxClients} (hopen : 0 ≤ (u.clients i).fd)
    {l : List Message} (hl : 0 ≤ (t.clients i).fd → Conforms t i l) :
    Conforms u i (listen t u i l) := by
  unfold listen
  cases hturn with
  | @work v works sends =>
      obtain ⟨new, hnew, hproper⟩ := sends.sent
      have hslot := works.slot i
      rw [← sends.clients] at hslot
      rcases hslot with hended | ⟨hfree, hfresh⟩ | ⟨hfd, hhello, htoken⟩
      · omega
      · rw [if_pos hfree, Conforms, if_neg (by simp [hfresh])]
      · rw [if_neg (by omega), ← hfd]
        refine (hl (by omega)).heard hhello htoken
          (fun m => fits_of_news hu (works.sent ▸ hnew) hproper hopen) fun _ => .inl ?_
        exact ⟨sends.screen.1.trans works.screen.1, sends.screen.2.trans works.screen.2⟩
  | @greet i₀ greets =>
      by_cases hi : i = i₀
      · subst hi
        have hfirst := hl greets.isOpen
        rw [Conforms, if_neg (by simp [greets.fresh])] at hfirst
        rw [if_neg (by have := greets.isOpen; omega), hfirst, news_eq greets.sent, Conforms,
          if_pos greets.ready]
        refine ⟨uint32 t.sw, uint32 t.sh, [], by simp, by simp, ?_⟩
        rw [greets.screen.1, greets.screen.2]
        simp [Message.size]
      · have hsame := greets.others i hi
        have hother : (t.clients i₀).fd ≠ (t.clients i).fd := fun heq =>
          hi (ht i₀ i greets.isOpen heq).symm
        rw [hsame] at hopen
        rw [if_neg (by omega), news_eq greets.sent]
        refine (hl hopen).heard (by rw [hsame]) (by rw [hsame]) (by simp [hother])
          fun _ => .inl greets.screen
  | resize resizes =>
      obtain ⟨new, hnew, hproper, htold⟩ := resizes.sent
      have hclients := congrFun resizes.clients i
      have hopen' := hopen
      rw [hclients] at hopen'
      rw [if_neg (by omega), ← congrArg ClClient.fd hclients]
      refine (hl hopen').heard (by rw [hclients]) (by rw [hclients])
        (fun m => fits_of_news hu hnew hproper hopen) fun hready => .inr ?_
      rw [news_eq hnew]
      exact List.mem_filterMap.mpr ⟨_, htold i hopen hready, if_pos rfl⟩

theorem Turn.fits {t u : Transport} (hturn : Turn t u) (hu : Watch.OwnFds u)
    {i : Fin clMaxClients} (hopen : 0 ≤ (u.clients i).fd) {m : Message}
    (hm : m ∈ news t u (u.clients i).fd) : m.isWelcome = true ∨ Fits u i m := by
  cases hturn with
  | work works sends =>
      obtain ⟨new, hnew, hproper⟩ := sends.sent
      exact .inr (fits_of_news hu (works.sent ▸ hnew) hproper hopen hm).2
  | greet greets =>
      rw [news_eq greets.sent] at hm
      obtain ⟨p, hp, heq⟩ := List.mem_filterMap.mp hm
      rw [List.mem_singleton.mp hp] at heq
      split at heq
      · cases heq
        exact .inl rfl
      · cases heq
  | resize resizes =>
      obtain ⟨new, hnew, hproper, -⟩ := resizes.sent
      exact .inr (fits_of_news hu hnew hproper hopen hm).2

end CrystallineLattice.Native
