import CrystallineLattice.Native.Placement
import CrystallineLattice.Native.Watch

/-!
# What a client knows about its windows' rectangles

A client knows where a window of its own is from the last `CL_CONFIGURE` that it
was sent for the window, or from its own `CL_SET_GEOMETRY` if that came later.
This file follows both along the events of the transport.
-/

namespace CrystallineLattice.Native

open CrystallineLattice.Foundation
open CrystallineLattice.Stack

structure Geometry where
  x : Int
  y : Int
  w : Nat
  h : Nat
  deriving DecidableEq, Repr

def windowGeometry (win : Window) : Geometry := ⟨win.x, win.y, uint32 win.w, uint32 win.h⟩

def ClSetGeometry.geometry (m : ClSetGeometry) : Geometry := ⟨m.x, m.y, m.w, m.h⟩

/-- The window that a `SET_GEOMETRY` is handled for. -/
def setGeometryFor (t : Transport) (i : Fin clMaxClients) (d : Datagram) : Option Nat :=
  if (t.clients i).hello ∧ d.buf.u32 0 = clSetGeometryType ∧ ClSetGeometry.size ≤ d.n then
    (winFind (t.clients i) (ClSetGeometry.read d.buf).wid).map fun j =>
      ((t.clients i).wins j).serverId
  else none

/-- What was told so far, with a request of the event added. -/
def asked (t : Transport) (told : Nat → Option Geometry) : Event → Nat → Option Geometry
  | .datagram i d _ _ =>
      match setGeometryFor t i d with
      | some id => Function.update told id (some (ClSetGeometry.read d.buf).geometry)
      | none => told
  | _ => told

/-- A `CL_CONFIGURE` reaches the connection that it is sent to, which knows the window. -/
def hear (t : Transport) (told : Nat → Option Geometry) (p : Int × Message) :
    Nat → Option Geometry :=
  match p.2 with
  | .configure wid x y w h => fun id =>
      if ∃ i j, t.holding i j = some ⟨p.1, wid, id⟩ then some ⟨x, y, w, h⟩ else told id
  | _ => told

def toldBy (t u : Transport) (told : Nat → Option Geometry) : Nat → Option Geometry :=
  (u.os.sent.drop t.os.sent.length).foldl (hear u) told

def toldAfter (W : World) (told : Nat → Option Geometry) (e : Event) : Nat → Option Geometry :=
  toldBy W.t (W.next e).t (asked W.t told e)

/-- The window is in the table of a client, or of one that is expected back. -/
def Ledger.Entered (L : Ledger) (id : Nat) : Prop := ∃ h j, L.Owns h j id

/-- Every window of a client is where its owner was last told. -/
def Agrees (W : World) (told : Nat → Option Geometry) : Prop :=
  ∀ id, W.ledger.Entered id → ∀ win, windowById W.t.stack id = some win →
    told id = some (windowGeometry win)

/-- The request is carried out as it is, or asks for what the window has. -/
def ClSetGeometry.Honoured (m : ClSetGeometry) (win : Window) : Prop :=
  if win.role = .desktop then m.geometry = windowGeometry win
  else (0 < int32 m.w ∨ m.w = uint32 win.w) ∧ (0 < int32 m.h ∨ m.h = uint32 win.h)

/-- The other users of the stack place only windows that they created. -/
def PlacesForeign (foreign : List Nat) : OtherOp → Prop
  | .call (.move id _ _) => id ∈ foreign
  | .call (.setGeometry id _ _ _ _) => id ∈ foreign
  | .call _ => True
  | .edit id f => id ∈ foreign ∨ ∀ w, (f w).place = w.place

/-- A new connection has a descriptor that no open connection has, and others place their own. -/
def World.Apart (W : World) : Event → Prop
  | .addClient fd _ => ∀ i, (W.t.clients i).fd ≠ fd
  | .other op => PlacesForeign W.foreign op
  | _ => True

def World.Honours (W : World) : Event → Prop
  | .datagram i d _ _ => ∀ id ∈ setGeometryFor W.t i d, ∀ win,
      windowById W.t.stack id = some win → (ClSetGeometry.read d.buf).Honoured win
  | _ => True

/-! ## Requests -/

theorem setGeometryFor_eq_some {t : Transport} {i : Fin clMaxClients} {d : Datagram} {id : Nat} :
    setGeometryFor t i d = some id ↔
      ∃ j, Places t i d j ∧ ((t.clients i).wins j).serverId = id := by
  unfold setGeometryFor
  split
  · rename_i h
    rw [Option.map_eq_some_iff]
    exact exists_congr fun j => and_congr_left fun _ =>
      ⟨fun hslot => ⟨h.1, h.2.1, h.2.2, hslot⟩, fun hp => hp.slot⟩
  · rename_i h
    exact iff_of_false (by simp) fun ⟨_, hp, _⟩ => h ⟨hp.ready, hp.type, hp.full⟩

theorem uint32_int32_of_pos {n : Nat} (hn : n < 4294967296) (hpos : 0 < int32 n) :
    uint32 (int32 n) = n := by
  unfold int32 at hpos ⊢
  unfold uint32
  omega

theorem geometry_placed_iff (buf : Bytes) (win : Window) :
    (ClSetGeometry.read buf).geometry = windowGeometry (placed (.read buf) win) ↔
      (ClSetGeometry.read buf).Honoured win := by
  have hw : (ClSetGeometry.read buf).w < 4294967296 := Bytes.u32_lt buf 16
  have hh : (ClSetGeometry.read buf).h < 4294967296 := Bytes.u32_lt buf 20
  generalize ClSetGeometry.read buf = m at hw hh ⊢
  have hside {n : Nat} {size : Int} (hn : n < 4294967296) :
      n = uint32 (if 0 < int32 n then int32 n else size) ↔ 0 < int32 n ∨ n = uint32 size := by
    by_cases hpos : 0 < int32 n
    · rw [if_pos hpos, uint32_int32_of_pos hn hpos]
      simp [hpos]
    · simp [hpos]
  unfold ClSetGeometry.Honoured placed
  split
  · exact Iff.rfl
  · simp only [ClSetGeometry.geometry, windowGeometry, Geometry.mk.injEq, true_and, hside hw,
      hside hh]

/-! ## Messages -/

theorem foldl_hear_of_silent {t : Transport} {l : List (Int × Message)}
    (hl : ∀ p ∈ l, ∀ wid x y w h, p.2 ≠ .configure wid x y w h) (told : Nat → Option Geometry) :
    l.foldl (hear t) told = told := by
  induction l generalizing told with
  | nil => rfl
  | cons p l ih =>
      have hp : hear t told p = told := by
        unfold hear
        split
        · rename_i wid x y w h heq
          exact (hl p List.mem_cons_self _ _ _ _ _ heq).elim
        · rfl
      rw [List.foldl_cons, hp]
      exact ih (fun q hq => hl q (List.mem_cons_of_mem _ hq)) told

def Unconfigured (t u : Transport) : Prop :=
  ∃ l, u.os.sent = t.os.sent ++ l ∧ ∀ p ∈ l, ∀ wid x y w h, p.2 ≠ .configure wid x y w h

theorem Unconfigured.of_quiet {t u : Transport} (h : Quiet t u) : Unconfigured t u :=
  ⟨[], by rw [h.sent, List.append_nil], by simp⟩

theorem Unconfigured.trans {t u v : Transport} (h : Unconfigured t u) (h' : Unconfigured u v) :
    Unconfigured t v := by
  obtain ⟨l, hl, hquiet⟩ := h
  obtain ⟨l', hl', hquiet'⟩ := h'
  refine ⟨l ++ l', by rw [hl', hl, List.append_assoc], fun p hp => ?_⟩
  exact (List.mem_append.mp hp).elim (hquiet p) (hquiet' p)

theorem focusMessages_unconfigured (t : Transport) (id : Nat) (focused : Bool) :
    ∀ p ∈ focusMessages t id focused, ∀ wid x y w h, p.2 ≠ .configure wid x y w h := by
  intro p hp
  unfold focusMessages at hp
  split at hp
  · cases hp
  · rw [List.mem_singleton.mp hp]
    simp

theorem notifyFocus_unconfigured (t : Transport) (id : Nat) :
    Unconfigured t (notifyFocus t id) := by
  by_cases hsame : id = t.focusedServerId
  · rw [hsame, notifyFocus_self]
    exact .of_quiet (.refl t)
  · rw [notifyFocus_eq hsame]
    refine ⟨_, rfl, fun p hp => ?_⟩
    exact (List.mem_append.mp hp).elim (focusMessages_unconfigured t _ _ p)
      (focusMessages_unconfigured t _ _ p)

theorem acceptHello_unconfigured (t : Transport) (i : Fin clMaxClients) (d : Datagram) :
    Unconfigured t (acceptHello t i d) := by
  obtain ⟨token, hsent, -⟩ := acceptHello_sent t i d
  refine ⟨_, hsent, fun p hp => ?_⟩
  rw [List.mem_singleton.mp hp]
  simp

theorem World.unconfigured_next (W : World) {e : Event}
    (hno : ∀ i d k now, e = .datagram i d k now → ∀ j, ¬ Creates W.t i d j) :
    Unconfigured W.t (W.next e).t := by
  cases e with
  | addClient fd epollOk => exact .of_quiet (.transportAddClient _ fd epollOk)
  | datagram i d k now =>
      cases clientDatagram_sends W.t i d k now false with
      | quiet silent held => exact .of_quiet silent
      | hello fresh type full accepted result =>
          have hnext : (W.next (.datagram i d k now)).t = acceptHello W.t i d := result
          rw [hnext]
          exact acceptHello_unconfigured W.t i d
      | creates j request => exact (hno i d k now rfl j request).elim
  | hangup i now => exact .of_quiet (.clientDrop _ i now)
  | expire now =>
      have hquiet := Quiet.orphansExpire W.t now
      simp only [World.next]
      exact .of_quiet hquiet
  | updateFocus focusId => exact notifyFocus_unconfigured W.t focusId
  | other op => exact .of_quiet ⟨rfl, rfl⟩

theorem toldBy_of_unconfigured {t u : Transport} (h : Unconfigured t u)
    (told : Nat → Option Geometry) : toldBy t u told = told := by
  obtain ⟨l, hsent, hquiet⟩ := h
  rw [toldBy, hsent, List.drop_left]
  exact foldl_hear_of_silent hquiet told

/-! ## Windows that stay where they are -/

theorem entered_of_routine {e : Event} {L L' : Ledger}
    (hreach : Ledger.system.Reaches (World.Routine e) L L') {id : Nat} (h : L'.Entered id) :
    L.Entered id := by
  have hkept : ∀ id, L'.Entered id → L.Entered id := by
    refine hreach.keeps (I := fun M => ∀ id, M.Entered id → L.Entered id)
      (fun M op hM hen hop id hid => hM id ?_) fun _ h => h
    obtain ⟨h, j, howns⟩ := hid
    have hslot {h' : Holder} {j' : Fin winMax} {w : ClWin} {s : WindowStack}
        {maps : List (Nat × Nat)} (hw : w.clientWid = 0 ∨
          w.clientWid = (M.wins h' j').clientWid ∧ w.serverId = (M.wins h' j').serverId)
        (howns : (Ledger.setWin { M with stack := s, maps := maps } h' j' w).Owns h j id) :
        M.Entered id := by
      unfold Ledger.Owns at howns
      rw [Ledger.setWin_wins] at howns
      by_cases hsame : h = h' ∧ j = j'
      · rw [if_pos hsame] at howns
        rcases hw with hzero | ⟨hwid, hid⟩
        · exact (howns.1 hzero).elim
        · exact ⟨h', j', hwid ▸ howns.1, hid ▸ howns.2⟩
      · rw [if_neg hsame] at howns
        exact ⟨h, j, howns⟩
    cases op with
    | create h' j' m sw sh => exact (show False from hop).elim
    | unmap h' j' => exact hslot (by exact .inr ⟨rfl, rfl⟩) howns
    | attach h' j' b base => exact hslot (by exact .inr ⟨rfl, rfl⟩) howns
    | close h' j' => exact hslot (by exact .inl rfl) howns
    | transfer src dst =>
        unfold Ledger.Owns at howns
        simp only [Ledger.system, Ledger.next, Ledger.setTable_wins] at howns
        split at howns
        · exact (howns.1 rfl).elim
        · split at howns
          · exact ⟨src, j, howns⟩
          · exact ⟨h, j, howns⟩
    | vacate h' =>
        unfold Ledger.Owns at howns
        simp only [Ledger.system, Ledger.next, Ledger.setTable_wins] at howns
        split at howns
        · exact (howns.1 rfl).elim
        · exact ⟨h, j, howns⟩
    | _ => exact ⟨h, j, howns⟩
  exact hkept id h

theorem entered_of_create {L : Ledger} {h : Holder} {j : Fin winMax} {m : ClCreateWindow}
    {sw sh : Int} {id : Nat} (hid : (L.next (.create h j m sw sh)).Entered id) :
    (m.wid ≠ 0 ∧ id = L.stack.nextId) ∨ L.Entered id := by
  obtain ⟨h', j', howns⟩ := hid
  unfold Ledger.Owns at howns
  rw [Ledger.next, Ledger.setWin_wins] at howns
  split at howns
  · exact .inl ⟨howns.1, howns.2.symm⟩
  · exact .inr ⟨h', j', howns⟩

theorem geometry_of_place {s s' : WindowStack} (hs : s.ids.Nodup) {id : Nat} {win' : Window}
    (hwin : windowById s' id = some win') (hplace : win'.place ∈ s.places) :
    ∃ win, windowById s id = some win ∧ windowGeometry win = windowGeometry win' := by
  obtain ⟨win, hwin', heq⟩ := windowById_of_place hs hplace
  have hid : win'.place.id = id := id_of_windowById hwin
  rw [hid] at hwin'
  obtain ⟨-, -, hx, hy, hw, hh⟩ := Place.mk.inj heq
  refine ⟨win, hwin', ?_⟩
  simp only [windowGeometry, hx, hy, hw, hh]

theorem Agrees.keep {W W' : World} {told : Nat → Option Geometry} (h : Agrees W told)
    (hs : W.t.stack.ids.Nodup) (hentered : ∀ id, W'.ledger.Entered id → W.ledger.Entered id)
    (hplaces : ∀ id, W'.ledger.Entered id → ∀ win, windowById W'.t.stack id = some win →
      win.place ∈ W.t.stack.places) : Agrees W' told := by
  intro id hid win' hwin'
  obtain ⟨win, hwin, hsame⟩ := geometry_of_place hs hwin' (hplaces id hid win' hwin')
  rw [h id (hentered id hid) win hwin, hsame]

theorem places_otherNext {s : WindowStack} (hs : s.WellFormed) {foreign : List Nat} {op : OtherOp}
    (hallowed : Ledger.OtherAllowed foreign op) (hforeign : PlacesForeign foreign op) {p : Place}
    (hp : p ∈ (Ledger.otherNext s foreign op).1.places) :
    p ∈ s.places ∨ p.id ∈ (Ledger.otherNext s foreign op).2 := by
  have hwritten {id : Nat} {f : Window → Window} (hf : ∀ w, (f w).id = w.id) (hid : id ∈ foreign)
      (hp : p ∈ (s.writeById id f).places) : p ∈ s.places ∨ p.id ∈ foreign :=
    (mem_places_write s hf hp).imp_right fun h : p.id = id => h ▸ hid
  cases op with
  | edit id f =>
      rcases hforeign with hid | hplace
      · exact hwritten hallowed.1 hid hp
      · exact .inl (places_redraw s id hplace ▸ hp)
  | call op =>
      cases op with
      | create role x y w h color title =>
          simp only [Ledger.otherNext, StackHistory.next] at hp ⊢
          rcases windowCreate_cases s role x y w h color title with ⟨heq, -⟩ | ⟨-, heq⟩
          · rw [heq] at hp
            exact .inl hp
          · rw [heq] at hp ⊢
            rw [if_neg (Nat.pos_iff_ne_zero.mp hs.nextPos)]
            rw [WindowStack.places, List.map_append] at hp
            rcases List.mem_append.mp hp with hold | hnew
            · exact .inl hold
            · rw [List.map_singleton, List.mem_singleton] at hnew
              refine .inr (List.mem_append_right _ (List.mem_singleton.mpr ?_))
              rw [hnew]
              rfl
      | destroy id => exact .inl (places_destroy s id hp)
      | raise id => exact .inl ((places_raise s id).mem_iff.mp hp)
      | lower id => exact .inl ((places_lower s id).mem_iff.mp hp)
      | move id x y => exact hwritten (by exact fun _ => rfl) hforeign hp
      | setGeometry id x y w h => exact hwritten (by exact fun _ => rfl) hforeign hp
      | focus id => exact .inl ((places_focus s id).mem_iff.mp hp)
      | focusCycle dir => exact .inl ((places_focusCycle s dir).mem_iff.mp hp)

/-! ## Creation -/

theorem adoptWindow_configures (t : Transport) (i : Fin clMaxClients) (j : Fin winMax) (wid : Nat)
    (role : WinRole) (id : Nat) {win : Window}
    (hwin : windowById (adoptWindow t i j wid role id).stack id = some win) :
    ∃ l, (adoptWindow t i j wid role id).os.sent = t.os.sent ++
        ((t.clients i).fd, .configure wid win.x win.y (uint32 win.w) (uint32 win.h)) :: l ∧
      ∀ p ∈ l, ∀ wid x y w h, p.2 ≠ .configure wid x y w h := by
  obtain ⟨u, heq, hsent⟩ : ∃ u : Transport, (adoptWindow t i j wid role id =
        let v := sendConfigure u (t.clients i).fd wid id
        if role = .normal then notifyFocus v id else v) ∧ u.os.sent = t.os.sent := by
    unfold adoptWindow
    exact ⟨_, rfl, rfl⟩
  have hstack : (adoptWindow t i j wid role id).stack = u.stack := by
    rw [heq]
    dsimp only
    split
    · exact (Unseen.notifyFocus _ _).stack.trans (Unseen.sendConfigure _ _ _ _).stack
    · exact (Unseen.sendConfigure _ _ _ _).stack
  rw [hstack] at hwin
  have hconfigure : sendConfigure u (t.clients i).fd wid id =
      clSend u (t.clients i).fd (.configure wid win.x win.y (uint32 win.w) (uint32 win.h)) := by
    rw [sendConfigure, hwin]
  have hrest : Unconfigured (sendConfigure u (t.clients i).fd wid id)
      (adoptWindow t i j wid role id) := by
    rw [heq]
    dsimp only
    split
    · exact notifyFocus_unconfigured _ _
    · exact .of_quiet (.refl _)
  obtain ⟨l, hl, hquiet⟩ := hrest
  refine ⟨l, ?_, hquiet⟩
  rw [hl, hconfigure, clSend, Os.send, hsent, List.append_assoc]
  rfl

theorem Creates.configures {W : World} (hW : W.Inv) {i : Fin clMaxClients} {d : Datagram}
    {j : Fin winMax} (h : Creates W.t i d j) (k : Kernel) (now : Int) {win : Window}
    (hwin : windowById (W.next (.datagram i d k now)).t.stack W.t.stack.nextId = some win) :
    ∃ l, (W.next (.datagram i d k now)).t.os.sent = W.t.os.sent ++
        ((W.t.clients i).fd, .configure (ClCreateWindow.read d.buf).wid win.x win.y
          (uint32 win.w) (uint32 win.h)) :: l ∧
      ∀ p ∈ l, ∀ wid x y w h, p.2 ≠ .configure wid x y w h := by
  rw [h.adopts hW] at hwin ⊢
  rw [sent_closeFds]
  exact adoptWindow_configures _ i j _ _ _ hwin

/-! ## Events -/

theorem Places.clients_eq {W : World} {i : Fin clMaxClients} {d : Datagram} {j : Fin winMax}
    (h : Places W.t i d j) (k : Kernel) (now : Int) :
    (W.next (.datagram i d k now)).t.clients = W.t.clients := by
  have hdispatch : dispatch W.t i d k false =
      ⟨closeFds (onSetGeometry W.t i (.read d.buf)) d.fds, true, true⟩ := by
    have hlong := h.full
    unfold ClSetGeometry.size at hlong
    rw [dispatch, if_neg (by omega), if_pos h.ready, dispatchRequest]
    simp only [h.type]
    rw [if_neg (by decide), if_neg (by decide), if_neg (by decide), if_neg (by decide),
      if_pos trivial, if_neg (Nat.not_lt.mpr h.full)]
  have hnext : (W.next (.datagram i d k now)).t =
      closeFds (onSetGeometry W.t i (.read d.buf)) d.fds := by
    rw [World.next, clientDatagram, hdispatch]
    rfl
  rw [hnext]
  rcases onSetGeometry_cases W.t i (.read d.buf) with heq | ⟨j, -, heq⟩ <;> rw [heq] <;> rfl

theorem Agrees.still {W : World} {told : Nat → Option Geometry} (h : Agrees W told) (hW : W.Inv)
    {e : Event} (hen : W.enabled e)
    (hcreate : ∀ i d k now, e = .datagram i d k now → ∀ j, ¬ Creates W.t i d j)
    (hplace : ∀ i d k now, e = .datagram i d k now → ∀ j, ¬ Places W.t i d j)
    (hplaces : ∀ id, (W.next e).ledger.Entered id → ∀ win,
      windowById (W.next e).t.stack id = some win → win.place ∈ W.t.stack.places) :
    Agrees (W.next e) (toldAfter W told e) ∧ W.Honours e := by
  have hnone (i : Fin clMaxClients) (d : Datagram) (k : Kernel) (now : Int)
      (he : e = .datagram i d k now) : setGeometryFor W.t i d = none :=
    Option.eq_none_iff_forall_not_mem.mpr fun id hid => by
      obtain ⟨j, hplaced, -⟩ := setGeometryFor_eq_some.mp hid
      exact hplace i d k now he j hplaced
  have hasked : asked W.t told e = told := by
    cases e with
    | datagram i d k now => rw [asked, hnone i d k now rfl]
    | _ => rfl
  have hentered (id : Nat) (hid : (W.next e).ledger.Entered id) : W.ledger.Entered id := by
    rcases World.next_ledger hW hen with ⟨hreach, -⟩ | ⟨_, _, _, _, _, hcreating⟩
    · exact entered_of_routine hreach hid
    · have hmade : World.Creating (fun _ => True) W e := (hcreating _).mpr trivial
      cases e with
      | datagram i d k now =>
          obtain ⟨j, hc, -⟩ := hmade
          exact (hcreate i d k now rfl j hc).elim
      | _ => exact hmade.elim
  refine ⟨?_, ?_⟩
  · rw [toldAfter, toldBy_of_unconfigured (W.unconfigured_next hcreate), hasked]
    exact h.keep hW.ledger.stack.nodup hentered hplaces
  · cases e with
    | datagram i d k now =>
        intro id hid
        rw [hnone i d k now rfl] at hid
        cases hid
    | _ => trivial

theorem Agrees.create {W : World} {told : Nat → Option Geometry} (h : Agrees W told) (hW : W.Inv)
    (hfds : Watch.OwnFds W.t) {i : Fin clMaxClients} {d : Datagram} {k : Kernel} {now : Int}
    (hen : W.enabled (.datagram i d k now)) (hwithin : (W.next (.datagram i d k now)).Within)
    {j : Fin winMax} (hmade : Creates W.t i d j)
    (hstack : (W.next (.datagram i d k now)).t.stack =
      Ledger.stackWithNew W.t.stack (.read d.buf) W.t.sw W.t.sh) :
    Agrees (W.next (.datagram i d k now)) (toldAfter W told (.datagram i d k now)) := by
  have hnext := hW.step hen hwithin
  have hdistinct : Distinct (W.next (.datagram i d k now)).t :=
    (hfds.next fun _ _ heq => by cases heq).distinct hnext
  have hasked : asked W.t told (.datagram i d k now) = told := by
    have hnone : setGeometryFor W.t i d = none :=
      Option.eq_none_iff_forall_not_mem.mpr fun id hid => by
        obtain ⟨j', hplaced, -⟩ := setGeometryFor_eq_some.mp hid
        exact absurd (hmade.type.symm.trans hplaced.type) (by decide)
    rw [asked, hnone]
  have hperm : (W.next (.datagram i d k now)).t.stack.places.Perm
      ((ClCreateWindow.read d.buf).place W.t.stack.nextId W.t.sw W.t.sh :: W.t.stack.places) := by
    rw [hstack]
    exact places_stackWithNew hW.ledger.stack hmade.accepted.room _ _ _
  obtain ⟨made, hwin, -⟩ := windowById_of_place hnext.ledger.stack.nodup
    (hperm.mem_iff.mpr List.mem_cons_self)
  rw [ClCreateWindow.place_id] at hwin
  obtain ⟨l, hsent, hquiet⟩ := hmade.configures hW k now hwin
  have htold : toldAfter W told (.datagram i d k now) =
      hear (W.next (.datagram i d k now)).t told
        ((W.t.clients i).fd, .configure (ClCreateWindow.read d.buf).wid made.x made.y
          (uint32 made.w) (uint32 made.h)) := by
    rw [toldAfter, hasked, toldBy, hsent, List.drop_left, List.foldl_cons]
    exact foldl_hear_of_silent hquiet _
  have hnew (hnamed : (ClCreateWindow.read d.buf).wid ≠ 0) :=
    (Gains.holds hW hen (.create hmade hnamed)).1
  intro id hid win hwin'
  rw [htold]
  have hentered : ((ClCreateWindow.read d.buf).wid ≠ 0 ∧ id = W.t.stack.nextId) ∨
      W.ledger.Entered id := by
    rcases W.datagram_ledger hW hen with ⟨-, hno⟩ | ⟨j', -, -, heq⟩
    · exact (hno j hmade).elim
    · rw [heq] at hid
      exact entered_of_create hid
  rcases hentered with ⟨hnamed, rfl⟩ | hold
  · obtain rfl : made = win := Option.some.inj (hwin.symm.trans hwin')
    rw [hear]
    exact if_pos ⟨i, j, hnew hnamed⟩
  · have hne : id ≠ W.t.stack.nextId := by
      obtain ⟨h', j', howns⟩ := hold
      obtain ⟨p, hp, rfl⟩ := hW.ledger.counting.recorded howns
      exact (hW.ledger.counting.created p hp).ne
    have hunheard : ¬ ∃ i' j', (W.next (.datagram i d k now)).t.holding i' j' =
        some ⟨(W.t.clients i).fd, (ClCreateWindow.read d.buf).wid, id⟩ := by
      rintro ⟨i', j', hheld⟩
      have hnamed : (ClCreateWindow.read d.buf).wid ≠ 0 := by
        obtain ⟨⟨-, hwid⟩, heq⟩ := holding_eq_some.mp hheld
        exact fun hzero => hwid ((congrArg Holding.wid heq).symm.trans hzero)
      obtain ⟨rfl, rfl⟩ := hdistinct.address i' j' i j _ _ hheld (hnew hnamed) rfl rfl
      rw [hnew hnamed] at hheld
      exact hne (congrArg Holding.id (Option.some.inj hheld)).symm
    have hplace : win.place ∈ W.t.stack.places := by
      refine (List.mem_cons.mp (hperm.mem_iff.mp
        (mem_places_of_windowById hwin'))).resolve_left fun heq => hne ?_
      have hid' : win.place.id = id := id_of_windowById hwin'
      rw [← hid', heq, ClCreateWindow.place_id]
    obtain ⟨win₀, hwin₀, hsame⟩ := geometry_of_place hW.ledger.stack.nodup hwin' hplace
    rw [← hsame, ← h id hold win₀ hwin₀, hear]
    exact if_neg hunheard

theorem Agrees.place_iff {W : World} {told : Nat → Option Geometry} (h : Agrees W told)
    (hW : W.Inv) {i : Fin clMaxClients} {d : Datagram} {k : Kernel} {now : Int}
    (hen : W.enabled (.datagram i d k now)) {j : Fin winMax} (hplaced : Places W.t i d j)
    (hstack : (W.next (.datagram i d k now)).t.stack =
      W.t.stack.writeById ((W.t.clients i).wins j).serverId (placed (.read d.buf))) :
    Agrees (W.next (.datagram i d k now)) (toldAfter W told (.datagram i d k now)) ↔
      W.Honours (.datagram i d k now) := by
  have hfor : setGeometryFor W.t i d = some ((W.t.clients i).wins j).serverId :=
    setGeometryFor_eq_some.mpr ⟨j, hplaced, rfl⟩
  have hcreate (j' : Fin winMax) (hc : Creates W.t i d j') : False :=
    absurd (hc.type.symm.trans hplaced.type) (by decide)
  obtain ⟨hwid, hslot⟩ := winFind_eq_some hplaced.slot
  have hocc : ((W.t.clients i).wins j).clientWid ≠ 0 := hslot.symm ▸ hwid
  obtain ⟨win, hwin, -⟩ := hW.ledger.linked (h := .client i) hocc
  have hclients := hplaced.clients_eq k now
  generalize hid : ((W.t.clients i).wins j).serverId = id at hstack hfor
  have htold : toldAfter W told (.datagram i d k now) =
      Function.update told id (some (ClSetGeometry.read d.buf).geometry) := by
    rw [toldAfter, toldBy_of_unconfigured (W.unconfigured_next ?_), asked, hfor]
    rintro i' d' k' now' heq j'
    cases heq
    exact hcreate j'
  have hnew : windowById (W.next (.datagram i d k now)).t.stack id =
      some (placed (.read d.buf) win) := by
    rw [hstack, windowById_writeById W.t.stack (placed_id _), if_pos rfl]
    rw [← hid]
    exact congrArg (Option.map _) hwin
  have howned : (W.next (.datagram i d k now)).ledger.Entered id := by
    refine ⟨.client i, j, ?_⟩
    show (((W.next (.datagram i d k now)).t.clients i).wins j).clientWid ≠ 0 ∧
      (((W.next (.datagram i d k now)).t.clients i).wins j).serverId = id
    rw [hclients]
    exact ⟨hocc, hid⟩
  rw [htold]
  constructor
  · intro hagrees id' hid' win' hwin'
    obtain rfl : id = id' := Option.some.inj (hfor.symm.trans hid')
    rw [← hid] at hwin'
    obtain rfl : win = win' := Option.some.inj (hwin.symm.trans hwin')
    have heq := hagrees id howned _ hnew
    rw [Function.update_self] at heq
    exact (geometry_placed_iff d.buf win).mp (Option.some.inj heq)
  · intro hhonours id' hid' win' hwin'
    by_cases hsame : id' = id
    · rw [hsame] at hwin' ⊢
      obtain rfl : placed (.read d.buf) win = win' := Option.some.inj (hnew.symm.trans hwin')
      rw [Function.update_self, (geometry_placed_iff d.buf win).mpr]
      exact hhonours id hfor win (hid ▸ hwin)
    · have hold : W.ledger.Entered id' := by
        rcases W.datagram_ledger hW hen with ⟨hreach, -⟩ | ⟨j', hc, -⟩
        · exact entered_of_routine hreach hid'
        · exact (hcreate j' hc).elim
      have hplace : win'.place ∈ W.t.stack.places := by
        have hmem := mem_places_of_windowById hwin'
        rw [hstack] at hmem
        refine (mem_places_write _ (placed_id _) hmem).resolve_right fun heq => hsame ?_
        exact (id_of_windowById hwin').symm.trans heq
      obtain ⟨win₀, hwin₀, hkept⟩ := geometry_of_place hW.ledger.stack.nodup hwin' hplace
      rw [Function.update_of_ne hsame, ← hkept]
      exact h id' hold win₀ hwin₀

/-- After an event the windows are where their owners were told exactly if it is honoured. -/
theorem Agrees.next_iff {W : World} {told : Nat → Option Geometry} (h : Agrees W told)
    (hW : W.Inv) (hfds : Watch.OwnFds W.t) {e : Event} (hen : W.enabled e) (hapart : W.Apart e)
    (hwithin : (W.next e).Within) :
    Agrees (W.next e) (toldAfter W told e) ↔ W.Honours e := by
  have hstill (hcreate : ∀ i d k now, e = .datagram i d k now → ∀ j, ¬ Creates W.t i d j)
      (hplace : ∀ i d k now, e = .datagram i d k now → ∀ j, ¬ Places W.t i d j)
      (hfrom : PlacesFrom W.t (W.next e).t) :
      Agrees (W.next e) (toldAfter W told e) ↔ W.Honours e := by
    have hboth := h.still hW hen hcreate hplace fun id _ win hwin =>
      hfrom (mem_places_of_windowById hwin)
    exact iff_of_true hboth.1 hboth.2
  cases e with
  | datagram i d k now =>
      have hpos : W.t.stack.nextId ≠ 0 := Nat.pos_iff_ne_zero.mp hW.ledger.stack.nextPos
      cases placesFrom_upkeep.clientDatagram W.t i d k now false with
      | upkeep kept uncreated unplaced unasked =>
          refine hstill ?_ ?_ kept
          · rintro i' d' k' now' heq
            cases heq
            exact uncreated
          · rintro i' d' k' now' heq
            cases heq
            exact unplaced
      | creates j request result cursor =>
          refine iff_of_true (h.create hW hfds hen hwithin request (result hpos).stack) ?_
          intro id hid
          obtain ⟨j', hplaced, -⟩ := setGeometryFor_eq_some.mp hid
          exact absurd (request.type.symm.trans hplaced.type) (by decide)
      | places j request result => exact h.place_iff hW hen request result.stack
      | cursor request result =>
          refine hstill ?_ ?_ ?_
          · rintro i' d' k' now' heq j' hc
            cases heq
            exact absurd (request.type.symm.trans hc.type) (by decide)
          · rintro i' d' k' now' heq j' hp
            cases heq
            exact absurd (request.type.symm.trans hp.type) (by decide)
          · obtain ⟨os, cursor, heq⟩ := onSetCursor_eq W.t (.read d.buf) d.fds k
            have hstack : (W.next (.datagram i d k now)).t.stack = W.t.stack := by
              refine (congrArg Transport.stack result).trans ?_
              rw [heq]
            rw [PlacesFrom, hstack]
            exact List.Subset.refl _
  | other op =>
      have hnext := hW.step hen hwithin
      have hboth := h.still hW hen (fun _ _ _ _ heq => by cases heq)
        (fun _ _ _ _ heq => by cases heq) fun id hid win hwin => ?_
      · exact iff_of_true hboth.1 hboth.2
      · refine (places_otherNext hW.ledger.stack hen hapart
          (mem_places_of_windowById hwin)).resolve_right fun hforeign => ?_
        obtain ⟨h', j', hocc, hslot⟩ := hid
        refine hnext.ledger.ours hocc ?_
        rw [hslot, ← id_of_windowById hwin]
        exact hforeign
  | _ =>
      exact hstill (fun _ _ _ _ heq => by cases heq) (fun _ _ _ _ heq => by cases heq)
        (W.upkeep_next placesFrom_upkeep (fun _ heq => by cases heq)
          fun _ _ _ _ heq => by cases heq)

end CrystallineLattice.Native
