import CrystallineLattice.Native.World

/-!
# What a request sends

`CL_FOCUS` is sent by `notify_focus` and by nothing else.  A connection comes to
own a window when it creates one or when its `CL_HELLO` reclaims an orphan; every
other event leaves each slot with its window or empties it.
-/

namespace CrystallineLattice.Native

open CrystallineLattice.Foundation
open CrystallineLattice.Stack

/-! ## Silent steps -/

theorem sent_closeFds (t : Transport) (fds : List Int) : (closeFds t fds).os.sent = t.os.sent := by
  have hfold : ∀ os : Os, (fds.foldl Os.close os).sent = os.sent := by
    induction fds with
    | nil => exact fun _ => rfl
    | cons fd fds ih => exact fun os => ih (os.close fd)
  exact hfold t.os

structure Quiet (t u : Transport) : Prop where
  focused : u.focusedServerId = t.focusedServerId
  sent : u.os.sent = t.os.sent

namespace Quiet

variable {t u v : Transport}

theorem refl (t : Transport) : Quiet t t := ⟨rfl, rfl⟩

theorem trans (h : Quiet t u) (h' : Quiet u v) : Quiet t v :=
  ⟨h'.focused.trans h.focused, h'.sent.trans h.sent⟩

theorem closeFds (t : Transport) (fds : List Int) : Quiet t (closeFds t fds) :=
  ⟨rfl, sent_closeFds t fds⟩

theorem setWin (t : Transport) (h : Holder) (j : Fin winMax) (w : ClWin) :
    Quiet t (t.setWin h j w) := by
  cases h <;> exact ⟨rfl, rfl⟩

theorem winDropBuffer (t : Transport) (h : Holder) (j : Fin winMax) :
    Quiet t (winDropBuffer t h j) := by
  unfold Native.winDropBuffer
  dsimp only
  split
  · exact refl t
  · refine trans ?_ (setWin _ h j _)
    cases (t.wins h j).buf <;> exact ⟨rfl, rfl⟩

theorem closeSlot (t : Transport) (h : Holder) (j : Fin winMax) : Quiet t (closeSlot t h j) := by
  refine (winDropBuffer t h j).trans (trans ?_ (setWin _ h j .zero))
  exact ⟨rfl, rfl⟩

theorem attachBuffer (t : Transport) (h : Holder) (j : Fin winMax) (b : ClBuffer) (base : Nat) :
    Quiet t (attachBuffer t h j b base) :=
  ((winDropBuffer t h j).trans (setWin _ h j _)).trans ⟨rfl, rfl⟩

theorem destroyTable (t : Transport) (h : Holder) : Quiet t (destroyTable t h) :=
  destroyTable_rule (P := Quiet t) (fun u j hu => hu.trans (winDropBuffer u h j))
    (fun _ _ hu => hu.trans ⟨rfl, rfl⟩) (refl t)

theorem onSetTitle (t : Transport) (i : Fin clMaxClients) (m : ClSetTitle) :
    Quiet t (onSetTitle t i m) := by
  rcases onSetTitle_cases t i m with heq | ⟨j, title, -, heq⟩ <;> rw [heq] <;>
    exact ⟨rfl, rfl⟩

theorem onSetGeometry (t : Transport) (i : Fin clMaxClients) (m : ClSetGeometry) :
    Quiet t (onSetGeometry t i m) := by
  rcases onSetGeometry_cases t i m with heq | ⟨j, -, heq⟩ <;> rw [heq] <;> exact ⟨rfl, rfl⟩

theorem onDestroyWindow (t : Transport) (i : Fin clMaxClients) (m : ClDestroyWindow) :
    Quiet t (onDestroyWindow t i m) := by
  rcases onDestroyWindow_cases t i m with heq | ⟨j, -, heq⟩
  · rw [heq]
    exact refl t
  · rw [heq]
    exact closeSlot t _ j

theorem onCommit (t : Transport) (i : Fin clMaxClients) (m : ClCommit) (fds : List Int)
    (k : Kernel) : Quiet t (onCommit t i m fds k) := by
  rcases onCommit_cases t i m fds k with ⟨closed, heq⟩ | ⟨closed, j, base, -, -, heq⟩
  · rw [heq]
    exact ⟨rfl, rfl⟩
  · rw [heq]
    refine trans ?_ (attachBuffer _ _ j m.buffer base)
    exact ⟨rfl, rfl⟩

theorem onSetCursor (t : Transport) (m : ClSetCursor) (fds : List Int) (k : Kernel) :
    Quiet t (onSetCursor t m fds k) := by
  unfold Native.onSetCursor
  dsimp only
  split
  · refine trans ?_ (closeFds _ fds)
    exact ⟨rfl, rfl⟩
  · split
    · exact closeFds t fds
    · cases k.mmap with
      | none => exact closeFds t fds
      | some base =>
          have hclosed := closeFds
            { t with os := t.os.map base ((int32 m.width).toNat * (int32 m.height).toNat * 4) } fds
          exact ⟨hclosed.focused, hclosed.sent⟩

theorem clientDrop (t : Transport) (i : Fin clMaxClients) (now : Int) :
    Quiet t (clientDrop t i now) := by
  unfold Native.clientDrop
  dsimp only
  cases parkingSlot t i with
  | none =>
      have hdestroy := destroyTable t (.client i)
      dsimp only
      generalize Native.destroyTable t (.client i) = u at hdestroy ⊢
      exact ⟨hdestroy.focused, hdestroy.sent⟩
  | some k => exact ⟨rfl, rfl⟩

theorem orphanDestroy (t : Transport) (k : Fin clMaxClients) : Quiet t (orphanDestroy t k) := by
  have hdestroy := destroyTable t (.orphan k)
  unfold Native.orphanDestroy
  generalize Native.destroyTable t (.orphan k) = u at hdestroy ⊢
  exact ⟨hdestroy.focused, hdestroy.sent⟩

theorem transportAddClient (t : Transport) (fd : Int) (epollOk : Bool) :
    Quiet t (transportAddClient t fd epollOk) := by
  unfold Native.transportAddClient
  cases clientByFd t (-1) with
  | none => exact ⟨rfl, rfl⟩
  | some i => cases epollOk <;> exact ⟨rfl, rfl⟩

theorem orphansExpire (t : Transport) (now : Int) : Quiet t (orphansExpire t now).1 :=
  orphansExpire_rule (P := Quiet t) (fun u k hu _ _ => hu.trans (orphanDestroy u k)) (refl t)

end Quiet

/-- Messages were sent, but no `CL_FOCUS`, and the remembered focus is the same. -/
structure Silent (t u : Transport) : Prop where
  focused : u.focusedServerId = t.focusedServerId
  sent : ∃ l, u.os.sent = t.os.sent ++ l ∧ ∀ p ∈ l, ∀ wid b, p.2 ≠ .focus wid b

namespace Silent

variable {t u v : Transport}

theorem of_eq (hfocused : u.focusedServerId = t.focusedServerId)
    (hsent : u.os.sent = t.os.sent) : Silent t u :=
  ⟨hfocused, [], by simp [hsent], by simp⟩

theorem refl (t : Transport) : Silent t t := of_eq rfl rfl

theorem trans (h : Silent t u) (h' : Silent u v) : Silent t v where
  focused := h'.focused.trans h.focused
  sent := by
    obtain ⟨l, hl, hquiet⟩ := h.sent
    obtain ⟨l', hl', hquiet'⟩ := h'.sent
    refine ⟨l ++ l', by rw [hl', hl, List.append_assoc], fun p hp => ?_⟩
    rcases List.mem_append.mp hp with hp | hp
    · exact hquiet p hp
    · exact hquiet' p hp

theorem clSend (t : Transport) (fd : Int) {m : Message} (hm : ∀ wid b, m ≠ .focus wid b) :
    Silent t (clSend t fd m) where
  focused := rfl
  sent := ⟨[(fd, m)], rfl, fun p hp => by
    rw [List.mem_singleton.mp hp]
    exact hm⟩

theorem of_quiet (h : Quiet t u) : Silent t u := of_eq h.focused h.sent

theorem sendConfigure (t : Transport) (fd : Int) (wid id : Nat) :
    Silent t (sendConfigure t fd wid id) := by
  unfold Native.sendConfigure
  cases windowById t.stack id with
  | none => exact refl t
  | some win => exact clSend t fd (by simp)

end Silent

theorem acceptHello_sent (t : Transport) (i : Fin clMaxClients) (d : Datagram) :
    ∃ token, (acceptHello t i d).os.sent = t.os.sent ++
        [((t.clients i).fd, .welcome clMagic clVersion (uint32 t.sw) (uint32 t.sh) token)] ∧
      (acceptHello t i d).focusedServerId = t.focusedServerId := by
  obtain ⟨u, hu, heq⟩ := acceptHello_cases t i d
  have hfd : (u.clients i).fd = (t.clients i).fd := hu.frame.2.2.1
  refine ⟨(u.clients i).token, ?_, ?_⟩
  · rw [heq, sent_closeFds, hfd]
    cases hu <;> rfl
  · rw [heq]
    cases hu <;> rfl

/-! ## Who owns a window -/

/-- A connection's window: the connection's descriptor, and the window's id on the wire and here. -/
structure Holding where
  fd : Int
  wid : Nat
  id : Nat
  deriving DecidableEq, Repr

def Transport.holding (t : Transport) (i : Fin clMaxClients) (j : Fin winMax) : Option Holding :=
  if 0 ≤ (t.clients i).fd ∧ ((t.clients i).wins j).clientWid ≠ 0 then
    some ⟨(t.clients i).fd, ((t.clients i).wins j).clientWid, ((t.clients i).wins j).serverId⟩
  else none

theorem holding_eq_some {t : Transport} {i : Fin clMaxClients} {j : Fin winMax} {h : Holding} :
    t.holding i j = some h ↔
      (0 ≤ (t.clients i).fd ∧ ((t.clients i).wins j).clientWid ≠ 0) ∧
        h = ⟨(t.clients i).fd, ((t.clients i).wins j).clientWid,
          ((t.clients i).wins j).serverId⟩ := by
  unfold Transport.holding
  split
  · rename_i hocc
    simp [hocc, eq_comm]
  · rename_i hfree
    simp [hfree]

def Narrows (t u : Transport) : Prop :=
  ∀ i j h, u.holding i j = some h → t.holding i j = some h

namespace Narrows

variable {t u v : Transport}

theorem of_clients (h : u.clients = t.clients) : Narrows t u := by
  intro i j held hheld
  rw [holding_eq_some] at hheld ⊢
  rw [← h]
  exact hheld

theorem refl (t : Transport) : Narrows t t := fun _ _ _ h => h

theorem trans (h : Narrows t u) (h' : Narrows u v) : Narrows t v :=
  fun i j held hheld => h i j held (h' i j held hheld)

theorem setWin {h : Holder} {j : Fin winMax} {w : ClWin}
    (hw : w.clientWid = 0 ∨
      w.clientWid = (t.wins h j).clientWid ∧ w.serverId = (t.wins h j).serverId) :
    Narrows t (t.setWin h j w) := by
  cases h with
  | orphan k => exact of_clients rfl
  | client i =>
      intro i' j' held hheld
      rw [holding_eq_some] at hheld ⊢
      by_cases hi : i' = i
      · subst hi
        by_cases hj : j' = j
        · subst hj
          rcases hw with hzero | ⟨hwid, hid⟩
          · simp [Transport.setWin, Transport.setClient, hzero] at hheld
          · simpa [Transport.setWin, Transport.setClient, hwid, hid, Transport.wins] using hheld
        · simpa [Transport.setWin, Transport.setClient, hj] using hheld
      · simpa [Transport.setWin, Transport.setClient, hi] using hheld

theorem clear (t : Transport) (i : Fin clMaxClients) (fd : Int) :
    Narrows t (t.setClient i (.zero fd)) := by
  intro i' j held hheld
  rw [holding_eq_some] at hheld ⊢
  by_cases hi : i' = i
  · subst hi
    simp [Transport.setClient, ClClient.zero, ClWin.zero] at hheld
  · simpa [Transport.setClient, hi] using hheld

theorem winDropBuffer (t : Transport) (h : Holder) (j : Fin winMax) :
    Narrows t (winDropBuffer t h j) := by
  unfold Native.winDropBuffer
  dsimp only
  split
  · exact refl t
  · refine trans (of_clients rfl) (setWin (.inr ?_))
    cases h <;> exact ⟨rfl, rfl⟩

theorem closeSlot (t : Transport) (h : Holder) (j : Fin winMax) : Narrows t (closeSlot t h j) := by
  refine (winDropBuffer t h j).trans (trans ?_ (setWin (.inl rfl)))
  exact of_clients rfl

theorem attachBuffer (t : Transport) (h : Holder) (j : Fin winMax) (b : ClBuffer) (base : Nat) :
    Narrows t (attachBuffer t h j b base) := by
  have hslot : Narrows (Native.winDropBuffer t h j) ((Native.winDropBuffer t h j).setWin h j
      { (Native.winDropBuffer t h j).wins h j with
        buf := .mapping base
        bufLen := b.stride * b.height }) := setWin (.inr ⟨rfl, rfl⟩)
  refine ((winDropBuffer t h j).trans hslot).trans ?_
  exact of_clients rfl

theorem destroyTable (t : Transport) (h : Holder) : Narrows t (destroyTable t h) :=
  destroyTable_rule (P := Narrows t) (fun u j hu => hu.trans (winDropBuffer u h j))
    (fun _ _ hu => hu.trans (of_clients rfl)) (refl t)

theorem clientDrop (t : Transport) (i : Fin clMaxClients) (now : Int) :
    Narrows t (clientDrop t i now) := by
  have hclear (u : Transport) : Narrows u ({ u with os := u.os.close (t.clients i).fd }.setClient i
      (.zero (-1))) := trans (of_clients rfl) (clear _ i (-1))
  unfold Native.clientDrop
  dsimp only
  cases parkingSlot t i with
  | none => exact (destroyTable t (.client i)).trans (hclear _)
  | some k => exact trans (of_clients rfl) (hclear (t.setOrphan k _))

theorem transportAddClient (t : Transport) (fd : Int) (epollOk : Bool) :
    Narrows t (transportAddClient t fd epollOk) := by
  unfold Native.transportAddClient
  cases clientByFd t (-1) with
  | none => exact of_clients rfl
  | some i =>
      cases epollOk with
      | true => exact clear t i fd
      | false => exact trans (of_clients rfl) (clear _ i (-1))

theorem onSetTitle (t : Transport) (i : Fin clMaxClients) (m : ClSetTitle) :
    Narrows t (onSetTitle t i m) := by
  rcases onSetTitle_cases t i m with heq | ⟨j, title, -, heq⟩ <;> rw [heq] <;>
    exact of_clients rfl

theorem onSetGeometry (t : Transport) (i : Fin clMaxClients) (m : ClSetGeometry) :
    Narrows t (onSetGeometry t i m) := by
  rcases onSetGeometry_cases t i m with heq | ⟨j, -, heq⟩ <;> rw [heq] <;> exact of_clients rfl

theorem onDestroyWindow (t : Transport) (i : Fin clMaxClients) (m : ClDestroyWindow) :
    Narrows t (onDestroyWindow t i m) := by
  rcases onDestroyWindow_cases t i m with heq | ⟨j, -, heq⟩
  · rw [heq]
    exact refl t
  · rw [heq]
    exact closeSlot t _ j

theorem onCommit (t : Transport) (i : Fin clMaxClients) (m : ClCommit) (fds : List Int)
    (k : Kernel) : Narrows t (onCommit t i m fds k) := by
  rcases onCommit_cases t i m fds k with ⟨closed, heq⟩ | ⟨closed, j, base, -, -, heq⟩
  · rw [heq]
    exact of_clients rfl
  · rw [heq]
    refine trans ?_ (attachBuffer _ _ j m.buffer base)
    exact of_clients rfl

theorem onSetCursor (t : Transport) (m : ClSetCursor) (fds : List Int) (k : Kernel) :
    Narrows t (onSetCursor t m fds k) := by
  refine of_clients ?_
  unfold Native.onSetCursor
  dsimp only
  split
  · rfl
  · split
    · rfl
    · cases k.mmap <;> rfl

end Narrows

structure Reclaims (t : Transport) (i : Fin clMaxClients) (d : Datagram) (o : Fin clMaxClients) :
    Prop where
  fresh : (t.clients i).hello = false
  type : d.buf.u32 0 = clHelloType
  full : ClHello.tokenOffset ≤ d.n
  accepted : helloAccepted (.read d.buf) = true
  known : helloToken d ≠ 0
  held : orphanByToken t (helloToken d) = some o

theorem acceptHello_wins (t : Transport) (i : Fin clMaxClients) (d : Datagram) :
    ((acceptHello t i d).clients i).wins =
      if helloToken d = 0 then (t.clients i).wins
      else
        match orphanByToken t (helloToken d) with
        | none => (t.clients i).wins
        | some o => (t.orphans o).wins := by
  obtain ⟨c, hc⟩ : ∃ c, c = { t.clients i with hello := true } := ⟨_, rfl⟩
  have hsame : orphanByToken (t.setClient i c) (helloToken d) =
      orphanByToken t (helloToken d) := rfl
  unfold acceptHello clientReclaim
  dsimp only
  rw [← hc, hsame]
  by_cases hzero : helloToken d = 0
  · simp [hzero, hc, assignToken, sendWelcome, clSend, closeFds, Transport.setClient]
  · cases orphanByToken t (helloToken d) with
    | none => simp [hzero, hc, assignToken, sendWelcome, clSend, closeFds, Transport.setClient]
    | some o =>
        by_cases hcount : tableCount (t.orphans o).wins = 0 <;>
          simp [hzero, hc, hcount, assignToken, sendWelcome, clSend, closeFds,
            Transport.setClient, Transport.setOrphan]

inductive Gains (W : World) : Event → Fin clMaxClients → Fin winMax → Holding → Prop
  | create {i : Fin clMaxClients} {j : Fin winMax} {d : Datagram} {k : Kernel} {now : Int}
      (made : Creates W.t i d j) (named : (ClCreateWindow.read d.buf).wid ≠ 0) :
      Gains W (.datagram i d k now) i j
        ⟨(W.t.clients i).fd, (ClCreateWindow.read d.buf).wid, W.t.stack.nextId⟩
  | reclaim {i o : Fin clMaxClients} {j : Fin winMax} {d : Datagram} {k : Kernel} {now : Int}
      (back : Reclaims W.t i d o) (named : ((W.t.orphans o).wins j).clientWid ≠ 0) :
      Gains W (.datagram i d k now) i j
        ⟨(W.t.clients i).fd, ((W.t.orphans o).wins j).clientWid,
          ((W.t.orphans o).wins j).serverId⟩

end CrystallineLattice.Native
