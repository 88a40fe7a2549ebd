import CrystallineLattice.Native.Messages

/-!
# Who believes to be focused

The transport remembers one focused id and tells clients about changes of it.
This file follows what each connection was told about each of its windows, from
the moment it came to own the window: `CL_FOCUS` with 1 for gained, 0 for lost.
-/

namespace CrystallineLattice.Native

open CrystallineLattice.Foundation
open CrystallineLattice.Stack

/-! ## Alternation -/

def Alternates : Bool → List Bool → Prop
  | _, [] => True
  | b, x :: l => x = b ∧ Alternates (!b) l

theorem Alternates.append {b x : Bool} {l : List Bool} (h : Alternates b l)
    (hx : x = (l.getLast?.map not).getD b) : Alternates b (l ++ [x]) := by
  induction l generalizing b with
  | nil => exact ⟨hx, trivial⟩
  | cons y l ih =>
      obtain ⟨rfl, h⟩ := h
      refine ⟨rfl, ih h ?_⟩
      rw [hx]
      cases l with
      | nil => rfl
      | cons z l => simp [List.getLast?_cons]

/-! ## Messages of a focus change -/

/-- The `CL_FOCUS` that `sendFocus` sends, if any. -/
def focusMessages (t : Transport) (id : Nat) (focused : Bool) : List (Int × Message) :=
  match findByServerId t id with
  | none => []
  | some (i, j) => [((t.clients i).fd, .focus ((t.clients i).wins j).clientWid focused)]

theorem sendFocus_eq (t : Transport) (id : Nat) (focused : Bool) :
    sendFocus t id focused =
      { t with os := { t.os with sent := t.os.sent ++ focusMessages t id focused } } := by
  unfold sendFocus focusMessages
  cases findByServerId t id with
  | none => simp
  | some p => rfl

theorem notifyFocus_self (t : Transport) : notifyFocus t t.focusedServerId = t := by
  simp [notifyFocus]

theorem notifyFocus_eq {t : Transport} {f : Nat} (hne : f ≠ t.focusedServerId) :
    notifyFocus t f =
      { t with
        focusedServerId := f
        os := { t.os with
          sent := t.os.sent ++
            (focusMessages t t.focusedServerId false ++ focusMessages t f true) } } := by
  rw [notifyFocus, if_neg hne, sendFocus_eq t, sendFocus_eq]
  simp only [List.append_assoc]
  rfl

theorem notifyFocus_clients (t : Transport) (f : Nat) : (notifyFocus t f).clients = t.clients := by
  by_cases h : f = t.focusedServerId
  · rw [h, notifyFocus_self]
  · rw [notifyFocus_eq h]

theorem notifyFocus_focused (t : Transport) (f : Nat) :
    (notifyFocus t f).focusedServerId = f := by
  by_cases h : f = t.focusedServerId
  · rw [h, notifyFocus_self]
  · rw [notifyFocus_eq h]

/-- What the owner of a window reads off a message: a focus change of that window. -/
def Holding.hears (h : Holding) (p : Int × Message) : Option Bool :=
  match p.2 with
  | .focus wid focused => if p.1 = h.fd ∧ wid = h.wid then some focused else none
  | _ => none

theorem Holding.hears_silence (h : Holding) {l : List (Int × Message)}
    (hquiet : ∀ p ∈ l, ∀ wid b, p.2 ≠ .focus wid b) : l.filterMap h.hears = [] := by
  refine List.filterMap_eq_nil_iff.mpr fun p hp => ?_
  have hp := hquiet p hp
  unfold hears
  split
  · rename_i wid focused heq
    exact (hp wid focused heq).elim
  · rfl

/-- Slots of connections with the same window, or with the same address, are the same. -/
structure Distinct (t : Transport) : Prop where
  owner : ∀ i j i' j' h h', t.holding i j = some h → t.holding i' j' = some h' →
    h.id = h'.id → i = i' ∧ j = j'
  address : ∀ i j i' j' h h', t.holding i j = some h → t.holding i' j' = some h' →
    h.fd = h'.fd → h.wid = h'.wid → i = i' ∧ j = j'
  nonzero : ∀ i j h, t.holding i j = some h → h.id ≠ 0

theorem findByServerId_eq_some {t : Transport} {id : Nat} {i : Fin clMaxClients}
    {j : Fin winMax} (h : findByServerId t id = some (i, j)) :
    id ≠ 0 ∧ t.holding i j =
      some ⟨(t.clients i).fd, ((t.clients i).wins j).clientWid, id⟩ := by
  unfold findByServerId at h
  split at h
  · cases h
  · rename_i hid
    obtain ⟨i', -, hi'⟩ := List.exists_of_findSome?_eq_some h
    split at hi'
    · cases hi'
    · rename_i hfd
      obtain ⟨j', hj', heq⟩ := Option.map_eq_some_iff.mp hi'
      cases heq
      have hslot := firstIndex_eq_some hj'
      simp only [ne_eq, decide_not, Bool.and_eq_true, Bool.not_eq_eq_eq_not, Bool.not_true,
        decide_eq_false_iff_not, decide_eq_true_eq] at hslot
      refine ⟨hid, holding_eq_some.mpr ⟨⟨by omega, hslot.1⟩, ?_⟩⟩
      rw [hslot.2]

theorem findByServerId_eq_none {t : Transport} {id : Nat} (h : findByServerId t id = none)
    (hid : id ≠ 0) {i : Fin clMaxClients} {j : Fin winMax} {held : Holding}
    (hheld : t.holding i j = some held) : held.id ≠ id := by
  rintro rfl
  obtain ⟨⟨hfd, hwid⟩, heq⟩ := holding_eq_some.mp hheld
  unfold findByServerId at h
  rw [if_neg hid, List.findSome?_eq_none_iff] at h
  have hi := h i (List.mem_finRange i)
  rw [if_neg (by omega), Option.map_eq_none_iff] at hi
  have hj := firstIndex_eq_none.mp hi j
  simp [hwid, heq] at hj

theorem Distinct.hears_focus {t : Transport} (hD : Distinct t) {i : Fin clMaxClients}
    {j : Fin winMax} {h : Holding} (hheld : t.holding i j = some h) (id : Nat) (b : Bool) :
    (focusMessages t id b).filterMap h.hears = if h.id = id then [b] else [] := by
  unfold focusMessages
  cases hfind : findByServerId t id with
  | none =>
      have hne : h.id ≠ id := by
        intro heq
        have hid : id ≠ 0 := heq ▸ hD.nonzero i j h hheld
        exact findByServerId_eq_none hfind hid hheld heq
      simp [hne]
  | some p =>
      obtain ⟨i', j'⟩ := p
      obtain ⟨-, hfound⟩ := findByServerId_eq_some hfind
      by_cases heq : h.id = id
      · obtain ⟨rfl, rfl⟩ := hD.owner i j i' j' h _ hheld hfound heq
        rw [hheld] at hfound
        have hself : h = ⟨(t.clients i).fd, ((t.clients i).wins j).clientWid, id⟩ :=
          Option.some.inj hfound
        simp [Holding.hears, hself]
      · have hother : ¬ ((t.clients i').fd = h.fd ∧
            ((t.clients i').wins j').clientWid = h.wid) := by
          rintro ⟨hfd, hwid⟩
          obtain ⟨rfl, rfl⟩ := hD.address i j i' j' h _ hheld hfound hfd.symm hwid.symm
          rw [hheld] at hfound
          exact heq (congrArg Holding.id (Option.some.inj hfound))
        simp [Holding.hears, hother, heq]

theorem Distinct.of_clients {t u : Transport} (hD : Distinct t) (h : u.clients = t.clients) :
    Distinct u := by
  have hsame (i : Fin clMaxClients) (j : Fin winMax) : u.holding i j = t.holding i j := by
    unfold Transport.holding
    rw [h]
  refine ⟨?_, ?_, ?_⟩
  · simp only [hsame]
    exact hD.owner
  · simp only [hsame]
    exact hD.address
  · simp only [hsame]
    exact hD.nonzero

/-- What the owner of window `id` hears when the focus goes from `old` to `new`. -/
def transition (old new id : Nat) : List Bool :=
  if new = old then []
  else (if id = old then [false] else []) ++ if id = new then [true] else []

theorem Distinct.hears_notifyFocus {t : Transport} (hD : Distinct t) {i : Fin clMaxClients}
    {j : Fin winMax} {h : Holding} (hheld : t.holding i j = some h) (f : Nat) :
    ∃ l, (notifyFocus t f).os.sent = t.os.sent ++ l ∧
      l.filterMap h.hears = transition t.focusedServerId f h.id := by
  by_cases hf : f = t.focusedServerId
  · exact ⟨[], by simp [hf, notifyFocus_self], by simp [transition, hf]⟩
  · refine ⟨_, by rw [notifyFocus_eq hf], ?_⟩
    rw [List.filterMap_append, hD.hears_focus hheld, hD.hears_focus hheld, transition, if_neg hf]

/-! ## What an event tells -/

/--
A silent part, in which connections may come to own windows, and then one call
of `notify_focus`, perhaps with the id that is remembered already.
-/
structure Tells (W : World) (e : Event) (v : Transport) (f : Nat) : Prop where
  silent : Silent W.t v
  holding : ∀ i j h, v.holding i j = some h → W.t.holding i j = some h ∨ Gains W e i j h
  clients : (W.next e).t.clients = v.clients
  focused : (W.next e).t.focusedServerId = f
  sent : (W.next e).t.os.sent = (notifyFocus v f).os.sent

theorem Tells.of_silent {W : World} {e : Event} (h : Silent W.t (W.next e).t)
    (hheld : ∀ i j h, (W.next e).t.holding i j = some h →
      W.t.holding i j = some h ∨ Gains W e i j h) :
    Tells W e (W.next e).t W.t.focusedServerId where
  silent := h
  holding := hheld
  clients := rfl
  focused := h.focused
  sent := by rw [← h.focused, notifyFocus_self]

theorem Tells.of_narrows {W : World} {e : Event} (h : Silent W.t (W.next e).t)
    (hheld : Narrows W.t (W.next e).t) : Tells W e (W.next e).t W.t.focusedServerId :=
  .of_silent h fun i j held hnext => .inl (hheld i j held hnext)

theorem adoptWindow_tells (t : Transport) (i : Fin clMaxClients) (j : Fin winMax) (wid : Nat)
    (role : WinRole) (id : Nat) :
    ∃ v, Silent t v ∧
      v.clients = (t.setWin (.client i) j
        { (t.clients i).wins j with clientWid := wid, serverId := id }).clients ∧
      adoptWindow t i j wid role id =
        notifyFocus v (if role = .normal then id else v.focusedServerId) := by
  obtain ⟨stack, history, heq⟩ : ∃ stack history,
      let v := sendConfigure ({ t with stack := stack, history := history }.setWin (.client i) j
        { (t.clients i).wins j with clientWid := wid, serverId := id }) (t.clients i).fd wid id
      adoptWindow t i j wid role id = if role = .normal then notifyFocus v id else v := by
    unfold adoptWindow
    exact ⟨_, _, rfl⟩
  have hclients (u : Transport) (fd : Int) : (sendConfigure u fd wid id).clients = u.clients := by
    unfold sendConfigure
    cases windowById u.stack id <;> rfl
  refine ⟨_, .trans (.trans ?_ (.of_quiet (.setWin { t with stack := stack, history := history }
    (.client i) j _))) (.sendConfigure _ (t.clients i).fd wid id), (hclients _ _).trans rfl, ?_⟩
  · exact .of_eq rfl rfl
  · rw [heq]
    split
    · rfl
    · exact (notifyFocus_self _).symm

theorem holding_adopted {t : Transport} {i : Fin clMaxClients} {j : Fin winMax} {wid id : Nat}
    {v : Transport} (hv : v.clients = (t.setWin (.client i) j
      { (t.clients i).wins j with clientWid := wid, serverId := id }).clients)
    (i' : Fin clMaxClients) (j' : Fin winMax) :
    v.holding i' j' =
      if i' = i ∧ j' = j then
        if 0 ≤ (t.clients i).fd ∧ wid ≠ 0 then some ⟨(t.clients i).fd, wid, id⟩ else none
      else t.holding i' j' := by
  unfold Transport.holding
  rw [hv]
  by_cases hi : i' = i
  · subst hi
    by_cases hj : j' = j
    · subst hj
      simp [Transport.setWin, Transport.setClient]
    · simp [Transport.setWin, Transport.setClient, hj]
  · simp [Transport.setWin, Transport.setClient, hi]

theorem Creates.adopts {W : World} (hW : W.Inv) {i : Fin clMaxClients} {d : Datagram}
    {j : Fin winMax} (h : Creates W.t i d j) (k : Kernel) (now : Int) :
    (W.next (.datagram i d k now)).t = closeFds
      (adoptWindow { W.t with stack := (requestedWindow W.t.stack (.read d.buf)).1 } i j
        (ClCreateWindow.read d.buf).wid (roleFromWire (ClCreateWindow.read d.buf).role)
        W.t.stack.nextId) d.fds := by
  have hpos : W.t.stack.nextId ≠ 0 := Nat.pos_iff_ne_zero.mp hW.ledger.stack.nextPos
  have hdispatch : dispatch W.t i d k false =
      ⟨closeFds (onCreateWindow W.t i (.read d.buf)) d.fds, true, true⟩ := by
    have hlong := h.full
    unfold ClCreateWindow.size at hlong
    rw [dispatch, if_neg (by omega), if_pos h.ready, dispatchRequest]
    simp only [h.type, if_true]
    rw [if_neg (Nat.not_lt.mpr h.full)]
  have hcreate : onCreateWindow W.t i (.read d.buf) =
      adoptWindow { W.t with stack := (requestedWindow W.t.stack (.read d.buf)).1 } i j
        (ClCreateWindow.read d.buf).wid (roleFromWire (ClCreateWindow.read d.buf).role)
        W.t.stack.nextId := by
    rcases onCreateWindow_cases W.t i (.read d.buf) with ⟨-, hno⟩ | ⟨j', hacc, heq⟩
    · exact (hno j h.accepted).elim
    · have hj : j' = j := Option.some.inj (hacc.slot.symm.trans h.accepted.slot)
      rw [heq, if_neg hpos, hj]
  rw [World.next, clientDatagram, hdispatch, hcreate]
  rfl

theorem Creates.next_eq {W : World} (hW : W.Inv) {i : Fin clMaxClients} {d : Datagram}
    {j : Fin winMax} (h : Creates W.t i d j) (k : Kernel) (now : Int) :
    ∃ v, Silent W.t v ∧
      v.clients = (W.t.setWin (.client i) j
        { (W.t.clients i).wins j with
          clientWid := (ClCreateWindow.read d.buf).wid
          serverId := W.t.stack.nextId }).clients ∧
      (W.next (.datagram i d k now)).t = closeFds
        (notifyFocus v (if roleFromWire (ClCreateWindow.read d.buf).role = .normal then
          W.t.stack.nextId else v.focusedServerId)) d.fds := by
  obtain ⟨v, hv, hclients, heq⟩ := adoptWindow_tells
    { W.t with stack := (requestedWindow W.t.stack (.read d.buf)).1 } i j
    (ClCreateWindow.read d.buf).wid (roleFromWire (ClCreateWindow.read d.buf).role)
    W.t.stack.nextId
  exact ⟨v, ⟨hv.focused, hv.sent⟩, hclients, by rw [h.adopts hW, heq]⟩

theorem Reclaims.next_eq {W : World} {i o : Fin clMaxClients} {d : Datagram}
    (h : Reclaims W.t i d o) (k : Kernel) (now : Int) :
    (W.next (.datagram i d k now)).t = acceptHello W.t i d := by
  have hlong := h.full
  unfold ClHello.tokenOffset at hlong
  have hdispatch : dispatch W.t i d k false = ⟨acceptHello W.t i d, true, true⟩ := by
    rw [dispatch, if_neg (by omega), h.fresh]
    rw [dispatchHello, if_neg (not_not.mpr h.type), if_neg (Nat.not_lt.mpr h.full), h.accepted]
    rfl
  rw [World.next, clientDatagram, hdispatch]
  rfl

theorem acceptHello_silent (t : Transport) (i : Fin clMaxClients) (d : Datagram) :
    Silent t (acceptHello t i d) := by
  obtain ⟨token, hsent, hfocused⟩ := acceptHello_sent t i d
  refine ⟨hfocused, _, hsent, fun p hp => ?_⟩
  rw [List.mem_singleton.mp hp]
  simp

theorem acceptHello_holding {W : World} {i : Fin clMaxClients} {d : Datagram}
    (hfresh : (W.t.clients i).hello = false) (htype : d.buf.u32 0 = clHelloType)
    (hfull : ClHello.tokenOffset ≤ d.n) (haccepted : helloAccepted (.read d.buf) = true)
    (k : Kernel) (now : Int) (i' : Fin clMaxClients) (j : Fin winMax) (h : Holding)
    (hheld : (acceptHello W.t i d).holding i' j = some h) :
    W.t.holding i' j = some h ∨ Gains W (.datagram i d k now) i' j h := by
  obtain ⟨u, hu, hclients, -⟩ := acceptHello_frame W.t i d
  obtain ⟨hothers, -, hfd, -⟩ := hu.frame
  rw [← hclients] at hothers hfd
  have hwins := acceptHello_wins W.t i d
  rw [holding_eq_some] at hheld
  by_cases hi : i' = i
  · subst hi
    rw [hfd] at hheld
    by_cases hknown : helloToken d = 0
    · rw [hwins, if_pos hknown] at hheld
      exact .inl (holding_eq_some.mpr hheld)
    · cases horphan : orphanByToken W.t (helloToken d) with
      | none =>
          rw [hwins, if_neg hknown, horphan] at hheld
          exact .inl (holding_eq_some.mpr hheld)
      | some o =>
          rw [hwins, if_neg hknown, horphan] at hheld
          obtain ⟨⟨-, hnamed⟩, rfl⟩ := hheld
          exact .inr (.reclaim ⟨hfresh, htype, hfull, haccepted, hknown, horphan⟩ hnamed)
  · rw [hothers i' hi] at hheld
    exact .inl (holding_eq_some.mpr hheld)

theorem Creates.tells {W : World} (hW : W.Inv) {i : Fin clMaxClients} {d : Datagram}
    {j : Fin winMax} (hmade : Creates W.t i d j) (k : Kernel) (now : Int) :
    ∃ v f, Tells W (.datagram i d k now) v f := by
  obtain ⟨v, hsilent, hclients, heq⟩ := hmade.next_eq hW k now
  refine ⟨v, if roleFromWire (ClCreateWindow.read d.buf).role = .normal then W.t.stack.nextId
    else v.focusedServerId, hsilent, fun i' j' h hheld => ?_, ?_, ?_, ?_⟩
  · rw [holding_adopted hclients] at hheld
    by_cases hslot : i' = i ∧ j' = j
    · rw [if_pos hslot] at hheld
      split at hheld
      · rename_i hnamed
        obtain ⟨rfl, rfl⟩ := hslot
        cases hheld
        exact .inr (.create hmade hnamed.2)
      · cases hheld
    · rw [if_neg hslot] at hheld
      exact .inl hheld
  · rw [heq]
    exact notifyFocus_clients v _
  · rw [heq]
    exact notifyFocus_focused v _
  · rw [heq, sent_closeFds]

/-- What a datagram leads to, as far as messages and windows are concerned. -/
inductive SendPath (t : Transport) (i : Fin clMaxClients) (d : Datagram) (u : Transport) :
    Prop where
  | quiet (silent : Quiet t u) (held : Narrows t u)
  | hello (fresh : (t.clients i).hello = false) (type : d.buf.u32 0 = clHelloType)
      (full : ClHello.tokenOffset ≤ d.n) (accepted : helloAccepted (.read d.buf) = true)
      (result : u = acceptHello t i d)
  | creates (j : Fin winMax) (request : Creates t i d j)

theorem clientDatagram_sends (t : Transport) (i : Fin clMaxClients) (d : Datagram) (k : Kernel)
    (now : Int) (dirty : Bool) : SendPath t i d (clientDatagram t i d k now dirty).t := by
  have hclosed {u : Transport} (hquiet : Quiet t u) : Quiet t (closeFds u d.fds) :=
    hquiet.trans (.closeFds u d.fds)
  have hkept {u : Transport} (hheld : Narrows t u) : Narrows t (closeFds u d.fds) :=
    hheld.trans (.of_clients rfl)
  rcases clientDatagram_cases t i d k now dirty with heq | ⟨-, heq⟩
  · rw [heq]
    have hpath := dispatch_path t i d k dirty
    generalize dispatch t i d k dirty = r at hpath ⊢
    cases hpath with
    | reject why => exact .quiet (hclosed (.refl _)) (hkept (.refl _))
    | hello fresh type full accepted => exact .hello fresh type full accepted rfl
    | createWindow ready type full =>
        rcases onCreateWindow_cases t i (.read d.buf) with ⟨hsame, -⟩ | ⟨j, haccepted, -⟩
        · rw [hsame]
          exact .quiet (hclosed (.refl _)) (hkept (.refl _))
        · exact .creates j ⟨ready, type, full, haccepted⟩
    | setTitle ready type full =>
        exact .quiet (hclosed (.onSetTitle _ i _)) (hkept (.onSetTitle _ i _))
    | commit ready type full => exact .quiet (.onCommit _ i _ _ k) (.onCommit _ i _ _ k)
    | destroyWindow ready type full =>
        exact .quiet (hclosed (.onDestroyWindow _ i _)) (hkept (.onDestroyWindow _ i _))
    | setGeometry ready type full =>
        exact .quiet (hclosed (.onSetGeometry _ i _)) (hkept (.onSetGeometry _ i _))
    | setCursor ready type full => exact .quiet (.onSetCursor _ _ _ k) (.onSetCursor _ _ _ k)
    | ignore ready type => exact .quiet (hclosed (.refl _)) (hkept (.refl _))
  · rw [heq]
    exact .quiet ((hclosed (.refl _)).trans (.clientDrop _ i now))
      ((hkept (.refl _)).trans (.clientDrop _ i now))

theorem datagram_tells {W : World} (hW : W.Inv) (i : Fin clMaxClients) (d : Datagram)
    (k : Kernel) (now : Int) : ∃ v f, Tells W (.datagram i d k now) v f := by
  cases clientDatagram_sends W.t i d k now false with
  | quiet silent held => exact ⟨_, _, .of_narrows (.of_quiet silent) held⟩
  | hello fresh type full accepted result =>
      have hnext : (W.next (.datagram i d k now)).t = acceptHello W.t i d := result
      refine ⟨_, _, .of_silent ?_ fun i' j h hheld => ?_⟩
      · rw [hnext]
        exact acceptHello_silent W.t i d
      · rw [hnext] at hheld
        exact acceptHello_holding fresh type full accepted k now i' j h hheld
  | creates j request => exact Creates.tells hW request k now

theorem next_tells {W : World} (hW : W.Inv) (e : Event) : ∃ v f, Tells W e v f := by
  cases e with
  | addClient fd epollOk =>
      exact ⟨_, _, .of_narrows (.of_quiet (.transportAddClient _ fd epollOk))
        (.transportAddClient _ fd epollOk)⟩
  | datagram i d k now => exact datagram_tells hW i d k now
  | hangup i now =>
      exact ⟨_, _, .of_narrows (.of_quiet (.clientDrop _ i now)) (.clientDrop _ i now)⟩
  | expire now =>
      have hsilent : Silent W.t (orphansExpire W.t now).1 := .of_quiet (.orphansExpire W.t now)
      have hclients := orphansExpire_clients W.t now
      have hnext : (W.next (.expire now)).t = (orphansExpire W.t now).1 := by
        simp only [World.next]
      rw [← hnext] at hsilent hclients
      exact ⟨_, _, .of_narrows hsilent (.of_clients hclients)⟩
  | updateFocus focusId =>
      exact ⟨W.t, focusId, .refl _, fun _ _ _ h => .inl h, notifyFocus_clients _ _,
        notifyFocus_focused _ _, rfl⟩
  | other op => exact ⟨_, _, .of_narrows (.of_eq rfl rfl) (.of_clients rfl)⟩

theorem Gains.holds {W : World} (hW : W.Inv) {e : Event} (hen : W.enabled e)
    {i : Fin clMaxClients} {j : Fin winMax} {h : Holding} (hgains : Gains W e i j h) :
    (W.next e).t.holding i j = some h ∧ W.t.holding i j = none := by
  cases hgains with
  | @create _ _ d k now made named =>
      have hfree : ((W.t.clients i).wins j).clientWid = 0 := winAlloc_eq_some made.accepted.slot
      obtain ⟨v, -, hclients, heq⟩ := made.next_eq hW k now
      refine ⟨?_, by simp [Transport.holding, hfree]⟩
      rw [heq]
      have hsame : (closeFds (notifyFocus v (if roleFromWire (ClCreateWindow.read d.buf).role =
          .normal then W.t.stack.nextId else v.focusedServerId)) d.fds).clients = v.clients :=
        notifyFocus_clients v _
      unfold Transport.holding
      rw [hsame]
      have hadopted := holding_adopted hclients i j
      rw [if_pos ⟨rfl, rfl⟩, if_pos ⟨hen.1, named⟩] at hadopted
      exact hadopted
  | @reclaim _ o _ d k now back named =>
      have hvacant : ((W.t.clients i).wins j).clientWid = 0 :=
        hW.ledger.naming.vacant (h := .client i) (hW.session.fresh back.fresh) j
      obtain ⟨u, hu, hclients, -⟩ := acceptHello_frame W.t i d
      have hfd : ((acceptHello W.t i d).clients i).fd = (W.t.clients i).fd := by
        rw [hclients]
        exact hu.frame.2.2.1
      have hwins := acceptHello_wins W.t i d
      rw [if_neg back.known, back.held] at hwins
      refine ⟨?_, by simp [Transport.holding, hvacant]⟩
      rw [back.next_eq, holding_eq_some, hfd, hwins]
      exact ⟨⟨hen.1, named⟩, rfl⟩

end CrystallineLattice.Native
