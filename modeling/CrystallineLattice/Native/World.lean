import CrystallineLattice.Native.Frame
import CrystallineLattice.Native.Refinement

/-!
# Runs of the transport

The events are what `transport_process` reacts to: a new connection, a received
datagram, a lost client, the clock passing a deadline.  The server loop's focus
updates and the other users of the window stack run in between, in any order.
-/

namespace CrystallineLattice.Native

open CrystallineLattice.Foundation
open CrystallineLattice.Stack

/-- The transport, and the ids of the windows that the other users of the stack created. -/
structure World where
  t : Transport
  foreign : List Nat

inductive Event where
  | addClient (fd : Int) (epollOk : Bool)
  | datagram (i : Fin clMaxClients) (d : Datagram) (k : Kernel) (now : Int)
  | hangup (i : Fin clMaxClients) (now : Int)
  | expire (now : Int)
  | updateFocus (focusId : Nat)
  | other (op : OtherOp)

/--
A handshaken client has a token, and nobody else does; a free client slot is
not handshaken.
-/
structure Session (t : Transport) : Prop where
  closed : ∀ i, (t.clients i).fd < 0 → (t.clients i).hello = false
  ready : ∀ i, (t.clients i).hello = true ↔ (t.clients i).token ≠ 0

namespace World

def start (sw sh : Int) : World := ⟨transportCreate windowStackInit sw sh, []⟩

def ledger (W : World) : Ledger := W.t.ledger W.foreign

def next (W : World) : Event → World
  | .addClient fd epollOk => { W with t := transportAddClient W.t fd epollOk }
  | .datagram i d k now => { W with t := (clientDatagram W.t i d k now false).t }
  | .hangup i now => { W with t := clientDrop W.t i now }
  | .expire now => { W with t := (orphansExpire W.t now).1 }
  | .updateFocus focusId => { W with t := transportUpdateFocus W.t focusId }
  | .other op =>
      { t := { W.t with stack := (Ledger.otherNext W.t.stack W.foreign op).1 }
        foreign := (Ledger.otherNext W.t.stack W.foreign op).2 }

/-- Descriptors are not negative, and the kernel maps buffers at unused addresses. -/
def enabled (W : World) : Event → Prop
  | .addClient fd _ => 0 ≤ fd
  | .datagram i _ k _ => 0 ≤ (W.t.clients i).fd ∧ k.Fresh W.t
  | .hangup i _ => 0 ≤ (W.t.clients i).fd
  | .expire _ => True
  | .updateFocus _ => True
  | .other op => Ledger.OtherAllowed W.foreign op

def system : System World Event := ⟨enabled, next⟩

structure Inv (W : World) : Prop where
  ledger : W.ledger.Inv
  session : Session W.t

/-- Fewer than `2^32 - 1` windows have been created. -/
def Within (W : World) : Prop := W.ledger.Within

instance (W : World) : Decidable W.Within :=
  inferInstanceAs (Decidable (W.t.history.created.length + W.foreign.length < 4294967295))

def TokensWithin (W : World) : Prop := W.ledger.TokensWithin

instance (W : World) : Decidable W.TokensWithin :=
  inferInstanceAs (Decidable (W.t.history.issued.length < 4294967295))

end World

/-! ## Sessions -/

namespace Session

variable {t u : Transport}

theorem fresh (hS : Session t) {i : Fin clMaxClients} (h : (t.clients i).hello = false) :
    (t.clients i).token = 0 := by
  by_contra hne
  exact absurd ((hS.ready i).mpr hne) (by simp [h])

theorem onlyTable (hS : Session t) {h : Holder} (hu : OnlyTable h t u) : Session u where
  closed i := by
    obtain ⟨hfd, hhello, -⟩ := hu.session i
    rw [hfd, hhello]
    exact hS.closed i
  ready i := by
    obtain ⟨-, hhello, htoken⟩ := hu.session i
    rw [hhello, htoken]
    exact hS.ready i

theorem update (hS : Session t) {i : Fin clMaxClients}
    (hothers : ∀ i', i' ≠ i → u.clients i' = t.clients i')
    (hclosed : (u.clients i).fd < 0 → (u.clients i).hello = false)
    (hready : (u.clients i).hello = true ↔ (u.clients i).token ≠ 0) : Session u where
  closed i' := by
    by_cases heq : i' = i
    · exact heq ▸ hclosed
    · rw [hothers i' heq]
      exact hS.closed i'
  ready i' := by
    by_cases heq : i' = i
    · exact heq ▸ hready
    · rw [hothers i' heq]
      exact hS.ready i'

theorem acceptHello (hS : Session t) {i : Fin clMaxClients} (hfd : 0 ≤ (t.clients i).fd)
    (d : Datagram) : Session (acceptHello t i d) := by
  obtain ⟨u, hu, hclients, -⟩ := acceptHello_frame t i d
  obtain ⟨hothers, -, hfd', hhello, htoken, -⟩ := hu.frame
  rw [← hclients] at hothers hfd' hhello htoken
  refine hS.update hothers (fun hneg => ?_) (iff_of_true hhello htoken)
  omega

theorem clientDrop (hS : Session t) (i : Fin clMaxClients) (now : Int) :
    Session (clientDrop t i now) := by
  obtain ⟨hothers, hself, -, -⟩ := clientDrop_frame t i now
  refine hS.update hothers (fun _ => ?_) ?_
  · rw [hself]
    rfl
  · rw [hself]
    simp [ClClient.zero]

theorem clientDatagram (hS : Session t) {i : Fin clMaxClients} (hfd : 0 ≤ (t.clients i).fd)
    (d : Datagram) (k : Kernel) (now : Int) (dirty : Bool) :
    Session (clientDatagram t i d k now dirty).t := by
  rcases clientDatagram_cases t i d k now dirty with heq | ⟨-, heq⟩
  · rw [heq]
    rcases dispatch_frame t i d k dirty with htable | ⟨-, -, -, hhello⟩
    · exact hS.onlyTable htable
    · rw [hhello]
      exact hS.acceptHello hfd d
  · have hclosed : OnlyTable (.client i) t (closeFds t d.fds) := .same rfl rfl rfl
    rw [heq]
    exact (hS.onlyTable hclosed).clientDrop i now

theorem transportAddClient (hS : Session t) (fd : Int) (epollOk : Bool) :
    Session (transportAddClient t fd epollOk) := by
  unfold Native.transportAddClient
  cases clientByFd t (-1) with
  | none => exact ⟨hS.closed, hS.ready⟩
  | some i =>
      cases epollOk with
      | true =>
          refine hS.update (i := i) (fun i' hne => ?_) (fun _ => ?_) ?_
          · simp [Transport.setClient, hne]
          · simp [ClClient.zero]
          · simp [ClClient.zero]
      | false =>
          refine hS.update (i := i) (fun i' hne => ?_) (fun _ => ?_) ?_
          · simp [Transport.setClient, hne]
          · simp [ClClient.zero]
          · simp [ClClient.zero]

end Session

/-! ## Expiry -/

theorem expireSlot_cases (now : Int) (acc : Transport × Bool) (k : Fin clMaxClients) :
    expireSlot now acc k = acc ∨
      (acc.1.orphans k).token ≠ 0 ∧ (acc.1.orphans k).deadlineMs ≤ now ∧
        expireSlot now acc k = (orphanDestroy acc.1 k, true) := by
  unfold expireSlot
  split
  · rename_i hdue
    exact .inr ⟨hdue.1, hdue.2, rfl⟩
  · exact .inl rfl

theorem orphansExpire_rule {P : Transport → Prop} {now : Int}
    (hstep : ∀ t k, P t → (t.orphans k).token ≠ 0 → (t.orphans k).deadlineMs ≤ now →
      P (orphanDestroy t k)) {t : Transport} (ht : P t) : P (orphansExpire t now).1 := by
  refine List.foldlRecOn (motive := fun acc : Transport × Bool => P acc.1) _ _ ht ?_
  intro acc hacc k _
  rcases expireSlot_cases now acc k with heq | ⟨htoken, hdue, heq⟩
  · rw [heq]
    exact hacc
  · rw [heq]
    exact hstep acc.1 k hacc htoken hdue

theorem orphansExpire_clients (t : Transport) (now : Int) :
    (orphansExpire t now).1.clients = t.clients :=
  orphansExpire_rule (P := fun u => u.clients = t.clients)
    (fun u k hu _ _ => (orphanDestroy_frame u k).1.trans hu) rfl

theorem Session.orphansExpire {t : Transport} (hS : Session t) (now : Int) :
    Session (orphansExpire t now).1 where
  closed := by
    rw [orphansExpire_clients]
    exact hS.closed
  ready := by
    rw [orphansExpire_clients]
    exact hS.ready

/-! ## What was recorded stays recorded -/

theorem clientDatagram_extends (t : Transport) (i : Fin clMaxClients) (d : Datagram)
    (k : Kernel) (now : Int) (dirty : Bool) :
    t.history.Extends (clientDatagram t i d k now dirty).t.history := by
  rcases clientDatagram_cases t i d k now dirty with heq | ⟨-, heq⟩
  · rw [heq]
    rcases dispatch_frame t i d k dirty with htable | ⟨-, -, -, hhello⟩
    · exact htable.history
    · obtain ⟨u, hu, -, -, -, hhistory⟩ := acceptHello_frame t i d
      rw [hhello, hhistory]
      exact hu.frame.2.2.2.2.2
  · rw [heq]
    exact (clientDrop_frame (closeFds t d.fds) i now).2.2.2

theorem transportAddClient_extends (t : Transport) (fd : Int) (epollOk : Bool) :
    t.history.Extends (transportAddClient t fd epollOk).history := by
  unfold transportAddClient
  cases clientByFd t (-1) with
  | none => exact .refl _
  | some i => cases epollOk <;> exact .refl _

theorem otherNext_extends (s : WindowStack) (foreign : List Nat) (op : OtherOp) :
    foreign <+: (Ledger.otherNext s foreign op).2 := by
  cases op with
  | edit id f => exact List.prefix_rfl
  | call op =>
      cases op with
      | create role x y w h color title =>
          simp only [Ledger.otherNext, StackHistory.next]
          split
          · exact List.prefix_rfl
          · exact List.prefix_append _ _
      | _ => exact List.prefix_rfl

namespace World

theorem next_extends (W : World) (e : Event) :
    W.t.history.Extends (W.next e).t.history ∧ W.foreign <+: (W.next e).foreign := by
  cases e with
  | addClient fd epollOk => exact ⟨transportAddClient_extends W.t fd epollOk, List.prefix_rfl⟩
  | datagram i d k now => exact ⟨clientDatagram_extends W.t i d k now false, List.prefix_rfl⟩
  | hangup i now =>
      simp only [World.next]
      refine ⟨?_, List.prefix_rfl⟩
      exact (clientDrop_frame W.t i now).2.2.2
  | expire now =>
      simp only [World.next]
      refine ⟨?_, List.prefix_rfl⟩
      exact orphansExpire_rule (P := fun t => W.t.history.Extends t.history)
        (fun t k ht _ _ => ht.trans (orphanDestroy_frame t k).2.2) (.refl _)
  | updateFocus focusId =>
      exact ⟨(notifyFocus_frame W.t (.client 0) focusId).history, List.prefix_rfl⟩
  | other op => exact ⟨.refl _, otherNext_extends W.t.stack W.foreign op⟩

theorem Within.mono {W : World} {e : Event} (h : (W.next e).Within) : W.Within := by
  obtain ⟨hhistory, hforeign⟩ := next_extends W e
  have hcreated := hhistory.created.length_le
  have hforeign := hforeign.length_le
  unfold Within Ledger.Within ledger Transport.ledger at h ⊢
  dsimp only at h ⊢
  omega

theorem TokensWithin.mono {W : World} {e : Event} (h : (W.next e).TokensWithin) :
    W.TokensWithin := by
  have hissued := (next_extends W e).1.issued.length_le
  unfold TokensWithin Ledger.TokensWithin ledger Transport.ledger at h ⊢
  dsimp only at h ⊢
  omega

end World

/-! ## The transport refines the ledger -/

namespace Ledger

variable {L L' : Ledger} {P : LedgerOp → Prop}

theorem Inv.reaches (hL : L.Inv) (h : system.Reaches P L L') (hwithin : L'.Within) :
    L'.Inv :=
  h.keeps_below (fun _ _ h => h.mono) (fun _ _ hM hen _ hB => hM.step hen hB) hL hwithin

theorem Tokens.reaches (hL : Tokens L) (h : system.Reaches P L L')
    (hwithin : L'.TokensWithin) : Tokens L' :=
  h.keeps_below (fun _ _ h => h.mono) (fun _ _ hM hen _ hB => hM.step hen hB) hL hwithin

end Ledger

namespace World

variable {W : World}

theorem session_step (hS : Session W.t) {e : Event} (hen : W.enabled e) :
    Session (W.next e).t := by
  cases e with
  | addClient fd epollOk => exact hS.transportAddClient fd epollOk
  | datagram i d k now => exact hS.clientDatagram hen.1 d k now false
  | hangup i now => exact hS.clientDrop i now
  | expire now =>
      simp only [World.next]
      exact hS.orphansExpire now
  | updateFocus focusId => exact hS.onlyTable (notifyFocus_frame W.t (.client 0) focusId)
  | other op => exact ⟨hS.closed, hS.ready⟩

theorem Inv.step_session (hW : W.Inv) {e : Event} (hen : W.enabled e) :
    Session (W.next e).t :=
  session_step hW.session hen

/-- In an event, no client window is entered, and other users do what the event says. -/
def Routine (e : Event) : LedgerOp → Prop
  | .create .. => False
  | .other op => e = .other op
  | _ => True

theorem routine_of_by {e : Event} {h : Holder} {op : LedgerOp} (hop : op.By h) :
    Routine e op := by
  cases op with
  | create h' j m sw sh => exact (show False from hop)
  | other op => exact (show False from hop).elim
  | _ => trivial

theorem drop_reaches (e : Event) (t : Transport) (i : Fin clMaxClients) (now : Int)
    (foreign : List Nat) :
    Ledger.system.Reaches (Routine e) (t.ledger foreign) ((clientDrop t i now).ledger foreign) := by
  rcases clientDrop_reaches foreign t i now with ⟨k, -, h⟩ | ⟨-, h⟩
  · refine h.mono fun op hop => ?_
    rw [hop]
    trivial
  · exact h.mono fun _ => routine_of_by

theorem hello_reaches (e : Event) {i : Fin clMaxClients} (d : Datagram) (hW : W.Inv)
    (hfresh : (W.t.clients i).hello = false) :
    Ledger.system.Reaches (Routine e) W.ledger ((acceptHello W.t i d).ledger W.foreign) := by
  refine (acceptHello_reaches d hW.ledger.slots (hW.session.fresh hfresh)).mono fun op hop => ?_
  rcases hop with rfl | ⟨k, -, -, rfl⟩ <;> trivial

theorem datagram_ledger {i : Fin clMaxClients} {d : Datagram} {k : Kernel} {now : Int}
    (hW : W.Inv) (hen : W.enabled (.datagram i d k now)) :
    (Ledger.system.Reaches (Routine (.datagram i d k now)) W.ledger
        (W.next (.datagram i d k now)).ledger ∧
        ∀ j, ¬ Creates W.t i d j) ∨
      ∃ j, Creates W.t i d j ∧
        W.ledger.enabled (.create (.client i) j (.read d.buf) W.t.sw W.t.sh) ∧
        (W.next (.datagram i d k now)).ledger =
          W.ledger.next (.create (.client i) j (.read d.buf) W.t.sw W.t.sh) := by
  simp only [World.next, ledger]
  have hdispatch := dispatch_reaches d false hW.ledger hen.2 (hW.session.ready i).mp
  rcases clientDatagram_cases W.t i d k now false with heq | ⟨hrefuse, heq⟩
  · rw [heq]
    rcases hdispatch with ⟨h, hno⟩ | h | ⟨hfresh, htype, hhello⟩
    · exact .inl ⟨h.mono fun _ => routine_of_by, hno⟩
    · exact .inr h
    · rw [hhello]
      refine .inl ⟨hello_reaches _ d hW hfresh, fun j hc => ?_⟩
      exact absurd (hc.ready.symm.trans hfresh) (by decide)
  · have hdrop := drop_reaches (.datagram i d k now) (closeFds W.t d.fds) i now W.foreign
    rw [ledger_closeFds] at hdrop
    rw [heq]
    exact .inl ⟨hdrop, fun j hc => hc.not_refusable hrefuse⟩

/-- The events that carry out a `CREATE_WINDOW`; `C` is what its message satisfies. -/
def Creating (C : ClCreateWindow → Prop) (W : World) : Event → Prop
  | .datagram i d _ _ => ∃ j, Creates W.t i d j ∧ C (.read d.buf)
  | _ => False

theorem next_ledger (hW : W.Inv) {e : Event} (hen : W.enabled e) :
    (Ledger.system.Reaches (Routine e) W.ledger (W.next e).ledger ∧
        ¬ Creating (fun _ => True) W e) ∨
      ∃ h j m, W.ledger.enabled (.create h j m W.t.sw W.t.sh) ∧
        (W.next e).ledger = W.ledger.next (.create h j m W.t.sw W.t.sh) ∧
        ∀ C, Creating C W e ↔ C m := by
  cases e with
  | addClient fd epollOk =>
      refine .inl ⟨?_, fun h => h⟩
      refine transportAddClient_reaches fd epollOk hW.ledger.slots (fun _ => trivial)
        fun i hfd => ?_
      exact hW.session.fresh (hW.session.closed i (by omega))
  | datagram i d k now =>
      rcases datagram_ledger hW hen with ⟨h, hno⟩ | ⟨j, hc, hopen, heq⟩
      · exact .inl ⟨h, fun ⟨j, hc, _⟩ => hno j hc⟩
      · refine .inr ⟨.client i, j, .read d.buf, hopen, heq, fun C => ?_⟩
        exact ⟨fun ⟨_, _, hC⟩ => hC, fun hC => ⟨j, hc, hC⟩⟩
  | hangup i now =>
      refine .inl ⟨?_, fun h => h⟩
      simp only [World.next, ledger]
      exact drop_reaches _ W.t i now W.foreign
  | expire now =>
      refine .inl ⟨?_, fun h => h⟩
      simp only [World.next, ledger]
      exact orphansExpire_rule
        (P := fun t => Ledger.system.Reaches (Routine (.expire now)) W.ledger
          (t.ledger W.foreign))
        (fun t k ht _ _ =>
          ht.trans ((orphanDestroy_reaches W.foreign t k).mono fun _ => routine_of_by))
        (.refl _ _)
  | updateFocus focusId =>
      exact .inl ⟨.of_eq (ledger_notifyFocus W.t focusId).symm, fun h => h⟩
  | other op => exact .inl ⟨.single (e := .other op) rfl hen rfl, fun h => h⟩

/-- Every event is a legal run of ledger operations. -/
theorem refines : system.Refines Ledger.system Inv ledger := by
  intro W e hW hen
  rcases next_ledger hW hen with ⟨h, -⟩ | ⟨h, j, m, hopen, heq, -⟩
  · exact h.mono fun _ _ => trivial
  · exact .single (e := .create h j m W.t.sw W.t.sh) trivial hopen heq.symm

theorem Inv.step (hW : W.Inv) {e : Event} (hen : W.enabled e) (hwithin : (W.next e).Within) :
    (W.next e).Inv :=
  ⟨hW.ledger.reaches (refines W e hW hen) hwithin, hW.step_session hen⟩

theorem start_inv (sw sh : Int) : (start sw sh).Inv where
  ledger := {
    stack := windowStackInit_wellFormed
    naming := {
      owner := fun {h j h' j'} hocc => by
        cases h <;> exact (hocc rfl).elim
      distinct := fun {h j j'} hocc => by
        cases h <;> exact (hocc rfl).elim
      vacant := fun {h} _ j => by
        cases h <;> rfl }
    mapping := {
      free := fun {h j} _ => by
        cases h <;> rfl
      heap := fun {h j address} => by
        cases h <;> simp [ledger, start, transportCreate, Transport.ledger, Transport.wins,
          ClClient.zero, ClOrphan.zero, ClWin.zero]
      mapped := fun {base len} => by
        refine iff_of_false (by simp [ledger, start, transportCreate, Transport.ledger]) ?_
        rintro ⟨h, j, hbuf, -⟩
        cases h <;> cases hbuf
      once := List.nodup_nil
      single := fun {h j h' j' base} hbuf => by
        cases h <;> cases hbuf }
    counting := {
      counted := rfl
      created := fun p hp => by cases hp
      foreign := fun id hid => by cases hid
      apart := fun p hp => by cases hp
      recorded := fun {h j id} howns => by
        cases h <;> exact (howns.1 rfl).elim }
    linked := fun {h j} hocc => by
      cases h <;> exact (hocc rfl).elim }
  session := {
    closed := fun _ _ => rfl
    ready := fun _ => by simp [start, transportCreate, ClClient.zero] }

theorem start_tokens (sw sh : Int) : Ledger.Tokens (start sw sh).ledger where
  counted := rfl
  issued h := by cases h <;> exact Nat.le_refl _
  sessions {h h'} hne := by cases h <;> exact (hne rfl).elim

theorem Inv.run (hW : W.Inv) {es : List Event} (hrun : system.Legal W es)
    (hwithin : (system.exec W es).Within) : (system.exec W es).Inv :=
  System.invariant_below (B := Within) (fun _ _ _ h => h.mono)
    (fun _ _ hI hen h => hI.step hen h) hrun hW hwithin

theorem Inv.step_tokens (hW : W.Inv) (hT : Ledger.Tokens W.ledger) {e : Event}
    (hen : W.enabled e) (hwithin : (W.next e).TokensWithin) :
    Ledger.Tokens (W.next e).ledger :=
  hT.reaches (refines W e hW hen) hwithin

theorem Inv.run_tokens (hW : W.Inv) (hT : Ledger.Tokens W.ledger) {es : List Event}
    (hrun : system.Legal W es) (hwithin : (system.exec W es).Within)
    (htokens : (system.exec W es).TokensWithin) :
    (system.exec W es).Inv ∧ Ledger.Tokens (system.exec W es).ledger :=
  System.invariant_below (I := fun W => W.Inv ∧ Ledger.Tokens W.ledger)
    (B := fun W => W.Within ∧ W.TokensWithin)
    (fun _ _ _ h => ⟨h.1.mono, h.2.mono⟩)
    (fun _ _ hI hen h => ⟨hI.1.step hen h.1, hI.1.step_tokens hI.2 hen h.2⟩)
    hrun ⟨hW, hT⟩ ⟨hwithin, htokens⟩

/-! ## However many windows are created -/

/-- What holds in every state, also when the window ids have run out and come again. -/
structure Sound (W : World) : Prop where
  slots : W.ledger.Slots
  session : Session W.t

theorem Inv.sound (hW : W.Inv) : W.Sound := ⟨hW.ledger.slots, hW.session⟩

theorem slots_reaches {L L' : Ledger} {P : LedgerOp → Prop} (hL : L.Slots)
    (h : Ledger.system.Reaches P L L') : L'.Slots :=
  h.keeps (fun _ _ hM hen _ => hM.step hen) hL

theorem slots_clientDrop {t : Transport} {foreign : List Nat} (hL : (t.ledger foreign).Slots)
    (i : Fin clMaxClients) (now : Int) : ((clientDrop t i now).ledger foreign).Slots := by
  rcases clientDrop_reaches foreign t i now with ⟨k, -, h⟩ | ⟨-, h⟩
  · exact slots_reaches hL h
  · exact slots_reaches hL h

/-- A window that gets the id 0 is in the stack, but in no slot. -/
theorem slots_onCreateWindow {t : Transport} {foreign : List Nat}
    (hL : (t.ledger foreign).Slots) {i : Fin clMaxClients} (htoken : (t.clients i).token ≠ 0)
    (m : ClCreateWindow) : ((onCreateWindow t i m).ledger foreign).Slots := by
  rcases onCreateWindow_cases t i m with ⟨heq, -⟩ | ⟨j, haccepted, heq⟩
  · rw [heq]
    exact hL
  · rw [heq]
    split
    · exact ⟨hL.vacant, hL.mapping⟩
    · rw [ledger_adoptWindow]
      have hsession : (t.ledger foreign).token (.client i) ≠ 0 := htoken
      have hfree : ((t.ledger foreign).wins (.client i) j).clientWid = 0 :=
        winAlloc_eq_some haccepted.slot
      exact hL.enter hsession hfree m.wid _ ⟨rfl, rfl⟩ rfl

theorem slots_dispatch {t : Transport} {foreign : List Nat} (hL : (t.ledger foreign).Slots)
    (hS : Session t) {i : Fin clMaxClients} (d : Datagram) {k : Kernel} (hk : k.Fresh t)
    (dirty : Bool) : ((dispatch t i d k dirty).t.ledger foreign).Slots := by
  have hpath := dispatch_path t i d k dirty
  generalize dispatch t i d k dirty = r at hpath ⊢
  cases hpath with
  | reject why =>
      rw [rejected, ledger_closeFds]
      exact hL
  | hello fresh type full accepted =>
      exact slots_reaches hL (acceptHello_reaches d hL (hS.fresh fresh))
  | createWindow ready type full =>
      rw [ledger_closeFds]
      exact slots_onCreateWindow hL ((hS.ready i).mp ready) _
  | setTitle ready type full =>
      rw [ledger_closeFds]
      exact slots_reaches hL (onSetTitle_reaches t i _)
  | commit ready type full => exact slots_reaches hL (onCommit_reaches _ _ hL hk)
  | destroyWindow ready type full =>
      rw [ledger_closeFds]
      exact slots_reaches hL (onDestroyWindow_reaches t i _)
  | setGeometry ready type full =>
      rw [ledger_closeFds]
      exact slots_reaches hL (onSetGeometry_reaches t i _)
  | setCursor ready type full =>
      rw [ledger_onSetCursor]
      exact hL
  | ignore ready type =>
      rw [ledger_closeFds]
      exact hL

theorem Sound.step_slots (hW : W.Sound) {e : Event} (hen : W.enabled e) :
    (W.next e).ledger.Slots := by
  cases e with
  | addClient fd epollOk =>
      refine slots_reaches hW.slots (transportAddClient_reaches (P := fun _ => True) fd epollOk
        hW.slots (fun _ => trivial) fun i hfd => ?_)
      exact hW.session.fresh (hW.session.closed i (by omega))
  | datagram i d k now =>
      simp only [World.next, ledger]
      rcases clientDatagram_cases W.t i d k now false with heq | ⟨-, heq⟩
      · rw [heq]
        exact slots_dispatch hW.slots hW.session d hen.2 false
      · rw [heq]
        exact slots_clientDrop (by
          rw [ledger_closeFds]
          exact hW.slots) i now
  | hangup i now => exact slots_clientDrop hW.slots i now
  | expire now =>
      simp only [World.next, ledger]
      exact orphansExpire_rule (P := fun t => (t.ledger W.foreign).Slots)
        (fun t k ht _ _ => slots_reaches ht (orphanDestroy_reaches W.foreign t k)) hW.slots
  | updateFocus focusId =>
      have hsame : (W.next (.updateFocus focusId)).ledger = W.ledger :=
        ledger_notifyFocus W.t focusId
      rw [hsame]
      exact hW.slots
  | other op => exact ⟨hW.slots.vacant, hW.slots.mapping⟩

theorem Sound.step (hW : W.Sound) {e : Event} (hen : W.enabled e) : (W.next e).Sound :=
  ⟨hW.step_slots hen, session_step hW.session hen⟩

theorem Sound.run (hW : W.Sound) {es : List Event} (hrun : system.Legal W es) :
    (system.exec W es).Sound :=
  System.invariant (fun _ _ hI hen => hI.step hen) hrun hW

end World

end CrystallineLattice.Native
