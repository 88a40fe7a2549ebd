import CrystallineLattice.Native.Invariant
import CrystallineLattice.Native.Isolation
import CrystallineLattice.Native.Messages

/-!
# Reconnecting

A shell client that is lost leaves its windows with an orphan.  Until the
orphan's deadline nobody else can touch them, and a new connection that presents
the client's token takes the whole table over.
-/

namespace CrystallineLattice.Native

open CrystallineLattice.Foundation
open CrystallineLattice.Stack

def OwnsShell (t : Transport) (i : Fin clMaxClients) : Prop :=
  ∃ j w, ((t.clients i).wins j).clientWid ≠ 0 ∧
    windowById t.stack ((t.clients i).wins j).serverId = some w ∧
    (w.role = .taskbar ∨ w.role = .desktop ∨ w.role = .tray)

/-- Client `i` is lost: its connection ends, or the server drops it for a datagram. -/
inductive Loses (W : World) (i : Fin clMaxClients) (now : Int) : Event → Prop
  | hangup : Loses W i now (.hangup i now)
  | refused (d : Datagram) (k : Kernel) (bad : (dispatch W.t i d k false).ok = false) :
      Loses W i now (.datagram i d k now)

/-- What others do in between: nobody presents the token, and no expiry reaches the deadline. -/
def Bystander (token : Nat) (deadline : Int) : Event → Prop
  | .addClient .. | .hangup .. | .updateFocus _ => True
  | .datagram _ d _ _ => d.buf.u32 0 = clHelloType → helloToken d ≠ token
  | .expire now => now < deadline
  | .other _ => False

/-- A `CL_HELLO` that the server accepts and that presents a token. -/
structure ReconnectHello (d : Datagram) (token : Nat) : Prop where
  type : d.buf.u32 0 = clHelloType
  full : ClHello.size ≤ d.n
  accepted : helloAccepted (.read d.buf) = true
  presents : (ClHello.read d.buf).reconnectToken = token

/-! ## Losing the client -/

section Lost

variable {t : Transport} {i k : Fin clMaxClients}

theorem OwnsShell.isShellClient (h : OwnsShell t i) : isShellClient t i = true := by
  obtain ⟨j, w, hocc, hw, hrole⟩ := h
  refine List.any_eq_true.mpr ⟨j, List.mem_finRange j, ?_⟩
  have hshell : isShellWindow w = true := by
    rcases hrole with h | h | h <;> simp [isShellWindow, h]
  simp [hocc, hw, hshell]

theorem OwnsShell.tableCount_ne_zero (h : OwnsShell t i) : tableCount (t.clients i).wins ≠ 0 := by
  obtain ⟨j, -, hocc, -⟩ := h
  exact fun hzero => hocc (tableCount_eq_zero hzero j)

theorem exists_parkingSlot (hshell : OwnsShell t i) (htoken : (t.clients i).token ≠ 0)
    (hroom : ∃ o, (t.orphans o).token = 0) : ∃ k, parkingSlot t i = some k := by
  unfold parkingSlot
  rw [if_pos ⟨hshell.tableCount_ne_zero, htoken, hshell.isShellClient⟩]
  cases hfind : firstIndex fun k => decide ((t.orphans k).token = 0) with
  | some k => exact ⟨k, rfl⟩
  | none =>
      obtain ⟨o, ho⟩ := hroom
      simpa [ho] using firstIndex_eq_none.mp hfind o

theorem clientDrop_parked (hpark : parkingSlot t i = some k) (now : Int) :
    (clientDrop t i now).stack = t.stack ∧
      (clientDrop t i now).orphans k =
        ⟨(t.clients i).token, now + clReconnectGraceMs, (t.clients i).wins⟩ := by
  obtain ⟨-, -, horphans, -⟩ := clientDrop_frame t i now
  refine ⟨?_, by rw [horphans, if_pos hpark]⟩
  simp [clientDrop, hpark, Transport.setClient, Transport.setOrphan]

theorem Loses.next_eq {W : World} {now : Int} {e : Event} (h : Loses W i now e) :
    ∃ fds, (W.next e).t = clientDrop (closeFds W.t fds) i now := by
  cases h with
  | hangup => exact ⟨[], rfl⟩
  | refused d k bad =>
      refine ⟨d.fds, ?_⟩
      have hpath := dispatch_path W.t i d k false
      simp only [World.next, clientDatagram]
      generalize dispatch W.t i d k false = r at hpath bad ⊢
      cases hpath with
      | reject why => rfl
      | _ => cases bad

end Lost

/-! ## In between -/

def ClOrphan.names (o : ClOrphan) (id : Nat) : Bool :=
  ∃ j : Fin winMax, (o.wins j).clientWid ≠ 0 ∧ (o.wins j).serverId = id

/-- Slot `k` holds the orphan, and its windows are in the stack as they were in `s`. -/
structure Parked (k : Fin clMaxClients) (o : ClOrphan) (s : WindowStack) (t : Transport) :
    Prop where
  orphan : t.orphans k = o
  windows : s.Agree o.names t.stack

namespace Parked

variable {W : World} {k : Fin clMaxClients} {o : ClOrphan} {s : WindowStack}

theorem apart (hP : Parked k o s W.t) (hW : W.Inv) {h : Holder} (hne : h ≠ .orphan k) {id : Nat}
    (hnames : W.t.Names h id) : o.names id = false := by
  obtain ⟨j, hocc, hid⟩ := hnames
  refine Bool.eq_false_iff.mpr fun hown => ?_
  obtain ⟨j', hocc', hid'⟩ := of_decide_eq_true hown
  rw [← hP.orphan] at hocc' hid'
  have hparked : (W.ledger.wins (.orphan k) j').clientWid ≠ 0 := hocc'
  exact hne (hW.ledger.naming.owner hocc hparked (hid.trans hid'.symm)).1

theorem fresh (hP : Parked k o s W.t) (hW : W.Inv) : o.names W.t.stack.nextId = false := by
  refine Bool.eq_false_iff.mpr fun hown => ?_
  obtain ⟨j, hocc, hid⟩ := of_decide_eq_true hown
  rw [← hP.orphan] at hocc hid
  exact hW.ledger.named_ne_nextId (h := .orphan k) hocc hid

theorem addClient (hP : Parked k o s W.t) (fd : Int) (epollOk : Bool) :
    Parked k o s (transportAddClient W.t fd epollOk) := by
  have hsame : (transportAddClient W.t fd epollOk).orphans = W.t.orphans ∧
      (transportAddClient W.t fd epollOk).stack = W.t.stack := by
    unfold transportAddClient
    cases clientByFd W.t (-1) with
    | none => exact ⟨rfl, rfl⟩
    | some i => cases epollOk <;> exact ⟨rfl, rfl⟩
  exact ⟨hsame.1 ▸ hP.orphan, hsame.2 ▸ hP.windows⟩

theorem datagram (hP : Parked k o s W.t) (hW : W.Inv) (htoken : o.token ≠ 0)
    {i : Fin clMaxClients} {d : Datagram} {a : Kernel} (now : Int) (hk : a.Fresh W.t)
    (hother : d.buf.u32 0 = clHelloType → helloToken d ≠ o.token) :
    Parked k o s (clientDatagram W.t i d a now false).t where
  orphan := by
    rcases (clientDatagram_sessions W.t i d a now false).2 k (by rw [hP.orphan]; exact htoken) with
      hsame | ⟨-, htype, htaken, -⟩
    · exact hsame.trans hP.orphan
    · rw [hP.orphan] at htaken
      exact (hother htype htaken).elim
  windows := by
    have hne : Holder.client i ≠ .orphan k := by simp
    exact hP.windows.trans (clientDatagram_agree d now false hW.ledger hk (hW.session.ready i).mp
      (fun _ hnames => hP.apart hW hne hnames) (hP.fresh hW))

theorem drop (hP : Parked k o s W.t) (hW : W.Inv) (htoken : o.token ≠ 0)
    (i : Fin clMaxClients) (now : Int) : Parked k o s (clientDrop W.t i now) where
  orphan := by
    obtain ⟨-, -, horphans, -⟩ := clientDrop_frame W.t i now
    rw [horphans, if_neg, hP.orphan]
    intro hpark
    have hfree := (parkingSlot_eq_some hpark).2.2
    rw [hP.orphan] at hfree
    exact htoken hfree
  windows := by
    have hne : Holder.client i ≠ .orphan k := by simp
    exact hP.windows.trans
      (clientDrop_agree W.t i now fun _ hnames => hP.apart hW hne hnames)

theorem expire (hP : Parked k o s W.t) (hW : W.Inv) {now : Int} (hdue : now < o.deadlineMs) :
    Parked k o s (orphansExpire W.t now).1 := by
  have hloop : Parked k o s (orphansExpire W.t now).1 ∧ ∀ k', k' ≠ k → ∀ id,
      (orphansExpire W.t now).1.Names (.orphan k') id → o.names id = false := by
    refine orphansExpire_rule (P := fun t => Parked k o s t ∧ ∀ k', k' ≠ k → ∀ id,
      t.Names (.orphan k') id → o.names id = false) ?_ ⟨hP, fun k' hne id hnames => ?_⟩
    · intro t k' ⟨hparked, hothers⟩ _ hdue'
      have hne : k' ≠ k := by
        rintro rfl
        rw [hparked.orphan] at hdue'
        omega
      have hagree := orphanDestroy_agree t k' (hothers k' hne)
      obtain ⟨-, horphans, -⟩ := orphanDestroy_frame t k'
      generalize orphanDestroy t k' = u at hagree horphans ⊢
      refine ⟨⟨?_, hparked.windows.trans hagree⟩, fun k'' hne' id hnames => ?_⟩
      · rw [horphans, if_neg hne.symm, hparked.orphan]
      · obtain ⟨j, hocc, hid⟩ := hnames
        simp only [Transport.wins, horphans] at hocc hid
        split at hocc
        · exact (hocc rfl).elim
        · rename_i hother
          rw [if_neg hother] at hid
          exact hothers k'' hne' id ⟨j, hocc, hid⟩
    · exact hP.apart hW (fun heq => hne (Holder.orphan.inj heq)) hnames
  exact hloop.1

theorem updateFocus (hP : Parked k o s W.t) (focusId : Nat) :
    Parked k o s (transportUpdateFocus W.t focusId) where
  orphan := ((notifyFocus_frame W.t (.client 0) focusId).orphan k (by simp)).trans hP.orphan
  windows := by
    have hstack : (notifyFocus W.t focusId).stack = W.t.stack :=
      congrArg Ledger.stack (show (notifyFocus W.t focusId).ledger [] = W.t.ledger [] from
        ledger_notifyFocus W.t focusId)
    exact hP.windows.trans (.of_eq (congrArg WindowStack.windows hstack))

theorem step (hP : Parked k o s W.t) (hW : W.Inv) (htoken : o.token ≠ 0) {e : Event}
    (hen : W.enabled e) (hother : Bystander o.token o.deadlineMs e) :
    Parked k o s (W.next e).t := by
  cases e with
  | addClient fd epollOk => exact hP.addClient fd epollOk
  | datagram i d a now => exact hP.datagram hW htoken now hen.2 hother
  | hangup i now =>
      simp only [World.next]
      exact hP.drop hW htoken i now
  | expire now =>
      simp only [World.next]
      exact hP.expire hW hother
  | updateFocus focusId => exact hP.updateFocus focusId
  | other op => exact (show False from hother).elim

end Parked

/-! ## Coming back -/

theorem ReconnectHello.helloToken_eq {d : Datagram} {token : Nat} (h : ReconnectHello d token) :
    helloToken d = token := by
  rw [helloToken, if_pos h.full, h.presents]

theorem ReconnectHello.dispatch_eq {d : Datagram} {token : Nat} (h : ReconnectHello d token)
    {t : Transport} {i : Fin clMaxClients} (hfresh : (t.clients i).hello = false) (k : Kernel)
    (now : Int) (dirty : Bool) : (clientDatagram t i d k now dirty).t = acceptHello t i d := by
  have hfull := h.full
  have hshort : ¬ d.n < 4 := by
    unfold ClHello.size at hfull
    omega
  have htail : ¬ d.n < ClHello.tokenOffset := by
    unfold ClHello.size at hfull
    unfold ClHello.tokenOffset
    omega
  simp [clientDatagram, dispatch, dispatchHello, hshort, htail, hfresh, h.type, h.accepted]

theorem acceptHello_reclaims {t : Transport} {i k : Fin clMaxClients} {d : Datagram} {o : ClOrphan}
    (hparked : t.orphans k = o) (hunique : ∀ k', (t.orphans k').token = o.token → k' = k)
    (hcount : tableCount o.wins ≠ 0) (htoken : o.token ≠ 0) (hpresents : helloToken d = o.token) :
    (acceptHello t i d).clients i = ⟨(t.clients i).fd, true, o.token, o.wins⟩ ∧
      (acceptHello t i d).orphans k = .zero ∧ (acceptHello t i d).stack = t.stack ∧
      (acceptHello t i d).os.sent = t.os.sent ++
        [((t.clients i).fd, .welcome clMagic clVersion (uint32 t.sw) (uint32 t.sh) o.token)] := by
  obtain ⟨u, hu, heq⟩ := acceptHello_cases t i d
  rw [hpresents] at hu
  obtain rfl : u = reclaimed t i k := by
    cases hu with
    | fresh unknown =>
        rcases unknown with hzero | hnone
        · exact (htoken hzero).elim
        · exact (hnone k (by rw [hparked])).elim
    | reclaim k' known held windows => rw [hunique k' held]
    | empty k' known held windows =>
        rw [hunique k' held, hparked] at windows
        exact (hcount windows).elim
  obtain ⟨-, horphans, hself⟩ := reclaimed_frame t i k
  rw [hparked] at hself
  have hclients : (acceptHello t i d).clients = (reclaimed t i k).clients := by rw [heq]; rfl
  refine ⟨by rw [hclients, hself], ?_, by rw [heq]; rfl, ?_⟩
  · have hsame : (acceptHello t i d).orphans = (reclaimed t i k).orphans := by rw [heq]; rfl
    rw [hsame, horphans, if_pos rfl]
  · rw [heq, sent_closeFds, hself]
    rfl

/-! ## The round trip -/

/--
Client `i` of the state is lost, others come and go, and then the connection in
slot `i'`, which has not shaken hands yet, presents the lost client's token.
-/
structure Reconnection (W : World) (i : Fin clMaxClients) (lost : Event) (dropped : Int)
    (between : List Event) (i' : Fin clMaxClients) (d : Datagram) (k : Kernel) (now : Int) :
    Prop where
  ready : (W.t.clients i).hello = true
  shell : OwnsShell W.t i
  room : ∃ o, (W.t.orphans o).token = 0
  loses : Loses W i dropped lost
  lostEnabled : W.enabled lost
  others : World.system.Each (fun V e => V.enabled e ∧
    Bystander (W.t.clients i).token (dropped + clReconnectGraceMs) e) (W.next lost) between
  fresh : ((World.system.exec (W.next lost) between).t.clients i').hello = false
  enabled : (World.system.exec (W.next lost) between).enabled (.datagram i' d k now)
  hello : ReconnectHello d (W.t.clients i).token

/-- Client `i'` of `t'` has what client `i` of `t` had; `before` is `t'` before its handshake. -/
structure Restored (t : Transport) (i : Fin clMaxClients) (before t' : Transport)
    (i' : Fin clMaxClients) : Prop where
  token : (t'.clients i').token = (t.clients i).token
  /-- The welcome, the one message sent, carries the token. -/
  welcome : t'.os.sent = before.os.sent ++ [((before.clients i').fd,
    .welcome clMagic clVersion (uint32 t'.sw) (uint32 t'.sh) (t.clients i).token)]
  wins : (t'.clients i').wins = (t.clients i).wins
  windows : ∀ j, ((t.clients i).wins j).clientWid ≠ 0 →
    ∃ w, windowById t.stack ((t.clients i).wins j).serverId = some w ∧
      windowById t'.stack ((t.clients i).wins j).serverId = some w
  /-- The buffers in the table are still mapped. -/
  mapped : ∀ j base, ((t.clients i).wins j).buf = .mapping base →
    (base, ((t.clients i).wins j).bufLen) ∈ t'.os.maps
  /-- The table was parked in one orphan slot, which is free again. -/
  orphan : ∃ o, (before.orphans o).token = (t.clients i).token ∧
    (before.orphans o).wins = (t.clients i).wins ∧ t'.orphans o = .zero

namespace Reconnection

variable {W : World} {i i' : Fin clMaxClients} {lost : Event} {dropped : Int}
  {between : List Event} {d : Datagram} {k : Kernel} {now : Int}

/-- After the loss the table is parked until the deadline. -/
theorem parked (h : Reconnection W i lost dropped between i' d k now) (hW : W.Inv) :
    ∃ o, Parked o ⟨(W.t.clients i).token, dropped + clReconnectGraceMs, (W.t.clients i).wins⟩
      W.t.stack (W.next lost).t := by
  have htoken := (hW.session.ready i).mp h.ready
  obtain ⟨o, hpark⟩ := exists_parkingSlot h.shell htoken h.room
  obtain ⟨fds, hnext⟩ := h.loses.next_eq
  obtain ⟨hstack, horphan⟩ := clientDrop_parked (t := closeFds W.t fds) hpark dropped
  rw [hnext]
  exact ⟨o, horphan, .of_eq (congrArg WindowStack.windows hstack)⟩

theorem stays (h : Reconnection W i lost dropped between i' d k now) (hW : W.Inv)
    (hwithin : (World.system.exec (W.next lost) between).Within) :
    (World.system.exec (W.next lost) between).Inv ∧
      ∃ o, Parked o ⟨(W.t.clients i).token, dropped + clReconnectGraceMs, (W.t.clients i).wins⟩
        W.t.stack (World.system.exec (W.next lost) between).t := by
  have htoken := (hW.session.ready i).mp h.ready
  obtain ⟨o, hparked⟩ := h.parked hW
  have hmono : ∀ (V : World) e, (V.enabled e ∧
      Bystander (W.t.clients i).token (dropped + clReconnectGraceMs) e) →
      (World.system.next V e).Within → V.Within := fun _ _ _ hV => hV.mono
  have hnext := hW.step h.lostEnabled (System.bound_at_start hmono h.others hwithin)
  obtain ⟨hV, hstays⟩ := System.invariant_below (B := World.Within)
    (I := fun V => V.Inv ∧ Parked o _ W.t.stack V.t) hmono
    (fun V e hV he hbelow => ⟨hV.1.step he.1 hbelow, hV.2.step hV.1 htoken he.1 he.2⟩)
    h.others ⟨hnext, hparked⟩ hwithin
  exact ⟨hV, o, hstays⟩

theorem restores (h : Reconnection W i lost dropped between i' d k now) (hW : W.Inv)
    (hwithin : ((World.system.exec (W.next lost) between).next (.datagram i' d k now)).Within)
    (hunique : Ledger.Tokens (World.system.exec (W.next lost) between).ledger) :
    Restored W.t i (World.system.exec (W.next lost) between).t
      ((World.system.exec (W.next lost) between).next (.datagram i' d k now)).t i' := by
  have htoken := (hW.session.ready i).mp h.ready
  obtain ⟨hV, o, hparked⟩ := h.stays hW hwithin.mono
  have hend := hV.step h.enabled hwithin
  have hfresh := h.fresh
  generalize World.system.exec (W.next lost) between = V at hV hparked hend hunique hfresh ⊢
  have hnext : (V.next (.datagram i' d k now)).t = acceptHello V.t i' d :=
    h.hello.dispatch_eq hfresh k now false
  obtain ⟨hself, hfree, hstack, hsent⟩ := acceptHello_reclaims (i := i') hparked.orphan
    (fun k' heq => by
      have hlive : V.ledger.token (.orphan k') ≠ 0 := fun hzero => htoken (heq.symm.trans hzero)
      have hsame : V.ledger.token (.orphan k') = V.ledger.token (.orphan o) :=
        heq.trans (congrArg ClOrphan.token hparked.orphan).symm
      exact Holder.orphan.inj (hunique.sessions hlive hsame))
    h.shell.tableCount_ne_zero htoken h.hello.helloToken_eq
  have hwins : ((V.next (.datagram i' d k now)).t.clients i').wins = (W.t.clients i).wins := by
    rw [hnext, hself]
  have hscreen : (acceptHello V.t i' d).sw = V.t.sw ∧ (acceptHello V.t i' d).sh = V.t.sh := by
    obtain ⟨u, hu, heq⟩ := acceptHello_cases V.t i' d
    rw [heq]
    cases hu <;> exact ⟨rfl, rfl⟩
  refine {
    token := by rw [hnext, hself]
    welcome := by rw [hnext, hscreen.1, hscreen.2, hsent]
    wins := hwins
    windows := fun j hocc => ?_
    mapped := fun j base hbuf => ?_
    orphan := ⟨o, by rw [hparked.orphan], by rw [hparked.orphan], by rw [hnext, hfree]⟩ }
  · obtain ⟨w, hw, -⟩ := hW.ledger.linked (h := .client i) hocc
    have hnames : decide (∃ j' : Fin winMax, ((W.t.clients i).wins j').clientWid ≠ 0 ∧
        ((W.t.clients i).wins j').serverId = ((W.t.clients i).wins j).serverId) = true :=
      decide_eq_true ⟨j, hocc, rfl⟩
    exact ⟨w, hw, by rw [hnext, hstack, hparked.windows.windowById_eq hnames]; exact hw⟩
  · refine hend.ledger.mapping.mapped.mpr ⟨.client i', j, ?_, ?_⟩
    · change (((V.next (.datagram i' d k now)).t.clients i').wins j).buf = _
      rw [hwins, hbuf]
    · change (((V.next (.datagram i' d k now)).t.clients i').wins j).bufLen = _
      rw [hwins]

end Reconnection

/--
From every reachable state a shell client that is lost and reconnects within the
grace period has everything it had, whatever the other clients did meanwhile.
-/
theorem reconnect_restores (sw sh : Int) (es : List Event) (i i' : Fin clMaxClients)
    (lost : Event) (dropped : Int) (between : List Event) (d : Datagram) (k : Kernel) (now : Int)
    (hrun : World.system.Legal (.start sw sh) es)
    (h : Reconnection (World.system.exec (.start sw sh) es) i lost dropped between i' d k now)
    (hwithin : ((World.system.exec ((World.system.exec (.start sw sh) es).next lost)
      between).next (.datagram i' d k now)).Within)
    (htokens : ((World.system.exec ((World.system.exec (.start sw sh) es).next lost)
      between).next (.datagram i' d k now)).TokensWithin) :
    Restored (World.system.exec (.start sw sh) es).t i
      (World.system.exec ((World.system.exec (.start sw sh) es).next lost) between).t
      ((World.system.exec ((World.system.exec (.start sw sh) es).next lost)
        between).next (.datagram i' d k now)).t i' := by
  have hlegal : World.system.Legal (.start sw sh) (es ++ lost :: between) := by
    refine (System.legal_append _ _ _).mpr ⟨hrun, h.lostEnabled, ?_⟩
    exact System.each_mono (fun _ _ hC => hC.1) h.others
  have hexec : World.system.exec (.start sw sh) (es ++ lost :: between) =
      World.system.exec ((World.system.exec (.start sw sh) es).next lost) between :=
    System.exec_append _ _ _
  have hV := (World.start_inv sw sh).run_tokens (World.start_tokens sw sh) hlegal
    (by rw [hexec]; exact hwithin.mono) (by rw [hexec]; exact htokens.mono)
  have hW : (World.system.exec (.start sw sh) es).Inv := by
    refine (World.start_inv sw sh).run hrun ?_
    have hrest := ((System.legal_append _ _ _).mp hlegal).2
    refine System.bound_at_start (B := World.Within) (fun _ _ _ hB => hB.mono) hrest ?_
    exact hwithin.mono
  rw [hexec] at hV
  exact h.restores hW hwithin hV.2

/-- A guest takes the panel's slot and is gone before the panel is back in it. -/
def guestRun : List Event :=
  [.addClient 8 true,
    .datagram 0 (.ofWords [clHelloType, clMagic, 2, 1, 0] []) ⟨none, fun _ => 0⟩ 1500,
    .expire 2000,
    .hangup 0 2500,
    .addClient 9 true]

theorem reconnect_restores_guestRun :
    let W := World.system.exec (.start 1920 1080) (panelRun.take 5)
    let V := World.system.exec (W.next (.hangup 0 1000)) guestRun
    Restored W.t 0 V.t (V.next (.datagram 0 (.ofWords [clHelloType, clMagic, 2, 1, 1] [])
      ⟨none, fun _ => 0⟩ 3000)).t 0 := by
  have hrun : World.system.Legal (.start 1920 1080) (panelRun.take 5) :=
    ((System.legal_append _ (panelRun.take 5) (panelRun.drop 5)).mp panelRun_legal).1
  have hguest : (0 : Int) ≤ 8 := by decide
  have hback : (0 : Int) ≤ 9 := by decide
  have hearly : (2000 : Int) < 1000 + clReconnectGraceMs := by decide
  have hpanel :
      0 ≤ ((World.system.exec (.start 1920 1080) (panelRun.take 5)).t.clients 0).fd := by decide
  refine reconnect_restores 1920 1080 (panelRun.take 5) 0 0 (.hangup 0 1000) 1000 guestRun _ _ 3000
    hrun ?_ (by decide +kernel) (by decide +kernel)
  exact {
    ready := by decide
    shell := ⟨⟨0, by decide⟩,
      (windowById (World.system.exec (.start 1920 1080) (panelRun.take 5)).t.stack 2).get
        (by decide), by decide, by decide, .inl (by decide)⟩
    room := ⟨0, by decide⟩
    loses := .hangup
    lostEnabled := hpanel
    others := by
      refine ⟨⟨hguest, trivial⟩, ⟨⟨by decide, by decide⟩, fun _ => by decide⟩,
        ⟨trivial, hearly⟩, ⟨?_, trivial⟩, ⟨hback, trivial⟩, trivial⟩
      unfold World.enabled
      dsimp only
      decide +kernel
    fresh := by decide
    enabled := ⟨by decide, by decide⟩
    hello := ⟨by decide, by decide, by decide, by decide⟩ }

end CrystallineLattice.Native
