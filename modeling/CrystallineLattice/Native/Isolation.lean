import CrystallineLattice.Stack.Frame
import CrystallineLattice.Native.World

/-!
# Isolation of clients

All clients share one window stack.  A request reorders, rewrites and deletes in
it, but only windows that the client's own slots name, and it touches no other
client's session and no parked orphan except the one whose token it presents.
-/

namespace CrystallineLattice.Native

open CrystallineLattice.Foundation
open CrystallineLattice.Stack

variable {q : Nat → Bool}

/-! ## Ledger operations -/

namespace Ledger

variable {L L' : Ledger}

theorem applyRolePolicy_agree (s : WindowStack) {id : Nat} (hid : q id = false) (role : WinRole)
    (sw sh : Int) : s.Agree q (applyRolePolicy s role id sw sh) := by
  unfold applyRolePolicy
  split
  · exact .windowFocus s hid
  · exact (WindowStack.Agree.windowSetGeometry s hid 0 0 sw sh).trans (.windowLower _ hid)
  · exact .refl q s

theorem stackWithNew_agree {s : WindowStack} (hroom : s.count < winMax)
    (hid : q s.nextId = false) (m : ClCreateWindow) (sw sh : Int) :
    s.Agree q (stackWithNew s m sw sh) := by
  obtain ⟨win, hwin, -, heq⟩ := requestedWindow_eq hroom m
  rw [stackWithNew, heq]
  have happend : s.Agree q ⟨s.windows ++ [win], s.focusId, uint32 (s.nextId + 1)⟩ :=
    .append s (by rw [hwin, hid]) _ _
  have hdecorated := happend.trans (.writeById _ hid (f := fun win =>
    { win with appDecorated := true }) fun _ => rfl)
  exact hdecorated.trans (applyRolePolicy_agree _ hid _ sw sh)

/-- An operation of a holder touches only windows that the holder names, and it names no more. -/
theorem by_step {h : Holder} {op : LedgerOp} (hop : op.By h) (hen : L.enabled op)
    (hq : ∀ j id, L.Owns h j id → q id = false) :
    L.stack.Agree q (L.next op).stack ∧ ∀ j id, (L.next op).Owns h j id → L.Owns h j id := by
  have hslot {slot : ClWin} {j : Fin winMax} {s : WindowStack} {maps : List (Nat × Nat)}
      (hsame : slot.clientWid = 0 ∨ slot.clientWid = (L.wins h j).clientWid ∧
        slot.serverId = (L.wins h j).serverId) (j' : Fin winMax) (id : Nat)
      (howns : Owns (setWin { L with stack := s, maps := maps } h j slot) h j' id) :
      L.Owns h j' id := by
    unfold Owns at howns ⊢
    rw [setWin_wins] at howns
    by_cases hj : j' = j
    · subst hj
      simp only [and_self, if_true] at howns
      rcases hsame with hzero | ⟨hwid, hid⟩
      · exact (howns.1 hzero).elim
      · rwa [← hwid, ← hid]
    · simpa [hj] using howns
  cases op with
  | grant h' => exact ⟨.refl _ _, fun _ _ howns => howns⟩
  | retitle h' j title =>
      cases hop
      exact ⟨.writeById _ (hq j _ ⟨hen, rfl⟩) fun _ => rfl, fun _ _ howns => howns⟩
  | place h' j x y w ht =>
      cases hop
      exact ⟨.windowSetGeometry _ (hq j _ ⟨hen, rfl⟩) x y w ht, fun _ _ howns => howns⟩
  | unmap h' j =>
      cases hop
      exact ⟨.writeById _ (hq j _ ⟨hen.1, rfl⟩) fun _ => rfl, hslot (.inr ⟨rfl, rfl⟩)⟩
  | attach h' j b base =>
      cases hop
      exact ⟨.writeById _ (hq j _ ⟨hen.1, rfl⟩) fun _ => rfl, hslot (.inr ⟨rfl, rfl⟩)⟩
  | close h' j =>
      cases hop
      exact ⟨.windowDestroy _ (hq j _ ⟨hen.1, rfl⟩), hslot (.inl rfl)⟩
  | vacate h' =>
      cases hop
      refine ⟨.refl _ _, fun j id howns => ?_⟩
      unfold Owns at howns
      simp [next, setTable_wins, ClWin.zero] at howns
  | transfer src dst => exact (show False from hop).elim
  | create h' j m sw sh => exact (show False from hop).elim
  | other op => exact (show False from hop).elim

theorem by_agree {h : Holder} (hreach : system.Reaches (LedgerOp.By h) L L')
    (hq : ∀ j id, L.Owns h j id → q id = false) : L.stack.Agree q L'.stack := by
  have hkept : L.stack.Agree q L'.stack ∧ ∀ j id, L'.Owns h j id → q id = false :=
    hreach.keeps (I := fun M => L.stack.Agree q M.stack ∧ ∀ j id, M.Owns h j id → q id = false)
      (fun M op hM hen hop => by
        obtain ⟨hagree, howns⟩ := by_step hop hen hM.2
        exact ⟨hM.1.trans hagree, fun j id h' => hM.2 j id (howns j id h')⟩)
      ⟨.refl q _, hq⟩
  exact hkept.1

theorem still_agree {P : LedgerOp → Prop} (hreach : system.Reaches P L L')
    (hstill : ∀ (M : Ledger) op, P op → (M.next op).stack = M.stack) : L'.stack = L.stack :=
  hreach.keeps (I := fun M => M.stack = L.stack)
    (fun M op hM _ hop => (hstill M op hop).trans hM) rfl

end Ledger

/-! ## The transport -/

variable {t : Transport} {i : Fin clMaxClients}

def Transport.Names (t : Transport) (h : Holder) (id : Nat) : Prop :=
  ∃ j, (t.wins h j).clientWid ≠ 0 ∧ (t.wins h j).serverId = id

instance (t : Transport) (h : Holder) (id : Nat) : Decidable (t.Names h id) :=
  inferInstanceAs (Decidable (∃ j : Fin winMax, (t.wins h j).clientWid ≠ 0 ∧
    (t.wins h j).serverId = id))

theorem orphanDestroy_agree (t : Transport) (k : Fin clMaxClients)
    (hq : ∀ id, t.Names (.orphan k) id → q id = false) :
    t.stack.Agree q (orphanDestroy t k).stack := by
  have hreach := orphanDestroy_reaches [] t k
  generalize orphanDestroy t k = u at hreach ⊢
  exact Ledger.by_agree hreach fun j id howns => hq id ⟨j, howns⟩

theorem clientDrop_agree (t : Transport) (i : Fin clMaxClients) (now : Int)
    (hq : ∀ id, t.Names (.client i) id → q id = false) :
    t.stack.Agree q (clientDrop t i now).stack := by
  rcases clientDrop_reaches [] t i now with ⟨k, -, hreach⟩ | ⟨-, hreach⟩
  · have hsame : (clientDrop t i now).stack = t.stack :=
      Ledger.still_agree hreach fun M op hop => by rw [hop]; rfl
    exact .of_eq (congrArg WindowStack.windows hsame)
  · exact Ledger.by_agree hreach fun j id howns => hq id ⟨j, howns⟩

theorem dispatch_agree {foreign : List Nat} (d : Datagram) {k : Kernel} (dirty : Bool)
    (hL : (t.ledger foreign).Inv) (hk : k.Fresh t)
    (htoken : (t.clients i).hello = true → (t.clients i).token ≠ 0)
    (hq : ∀ id, t.Names (.client i) id → q id = false) (hnew : q t.stack.nextId = false) :
    t.stack.Agree q (dispatch t i d k dirty).t.stack := by
  rcases dispatch_reaches d dirty hL hk htoken with
    ⟨hreach, -⟩ | ⟨j, -, hen, heq⟩ | ⟨-, -, heq⟩
  · exact Ledger.by_agree hreach fun j id howns => hq id ⟨j, howns⟩
  · have hstack : (dispatch t i d k dirty).t.stack = Ledger.stackWithNew t.stack (.read d.buf)
        t.sw t.sh := congrArg Ledger.stack heq
    rw [hstack]
    exact Ledger.stackWithNew_agree hen.2.2.1 hnew _ _ _
  · obtain ⟨u, -, -, -, hstack, -⟩ := acceptHello_frame t i d
    rw [heq, hstack]
    exact .refl q _

theorem clientDatagram_agree {foreign : List Nat} (d : Datagram) {k : Kernel} (now : Int)
    (dirty : Bool) (hL : (t.ledger foreign).Inv) (hk : k.Fresh t)
    (htoken : (t.clients i).hello = true → (t.clients i).token ≠ 0)
    (hq : ∀ id, t.Names (.client i) id → q id = false) (hnew : q t.stack.nextId = false) :
    t.stack.Agree q (clientDatagram t i d k now dirty).t.stack := by
  rcases clientDatagram_cases t i d k now dirty with heq | ⟨-, heq⟩
  · rw [heq]
    exact dispatch_agree d dirty hL hk htoken hq hnew
  · rw [heq]
    exact clientDrop_agree (closeFds t d.fds) i now hq

theorem clientDatagram_sessions (t : Transport) (i : Fin clMaxClients) (d : Datagram)
    (k : Kernel) (now : Int) (dirty : Bool) :
    (∀ i', i' ≠ i → (clientDatagram t i d k now dirty).t.clients i' = t.clients i') ∧
      ∀ o, (t.orphans o).token ≠ 0 →
        (clientDatagram t i d k now dirty).t.orphans o = t.orphans o ∨
          (t.clients i).hello = false ∧ d.buf.u32 0 = clHelloType ∧
            helloToken d = (t.orphans o).token ∧
            (clientDatagram t i d k now dirty).t.orphans o = .zero ∧
            ((clientDatagram t i d k now dirty).t.clients i).wins = (t.orphans o).wins := by
  rcases clientDatagram_cases t i d k now dirty with heq | ⟨-, heq⟩
  · rw [heq]
    rcases dispatch_frame t i d k dirty with htable | ⟨hfresh, htype, -, hhello⟩
    · exact ⟨fun i' hne => htable.client i' fun h => hne (Holder.client.inj h),
        fun o _ => .inl (htable.orphan o (by simp))⟩
    · obtain ⟨u, hu, hclients, horphans, -⟩ := acceptHello_frame t i d
      obtain ⟨hothers, htaken, -⟩ := hu.frame
      rw [hhello, hclients, horphans]
      refine ⟨hothers, fun o _ => (htaken o).imp_right ?_⟩
      rintro ⟨-, hheld, hzero, hwins⟩
      exact ⟨hfresh, htype, hheld.symm, hzero, hwins⟩
  · obtain ⟨hothers, -, horphans, -⟩ := clientDrop_frame (closeFds t d.fds) i now
    rw [heq]
    refine ⟨hothers, fun o htoken => .inl ?_⟩
    rw [horphans, if_neg]
    · rfl
    · exact fun hpark => htoken (parkingSlot_eq_some hpark).2.2

/-- The stack holds the window, and no slot of the client names it. -/
def Transport.elsewhere (t : Transport) (i : Fin clMaxClients) (id : Nat) : Bool :=
  id ∈ t.stack.ids && !decide (t.Names (.client i) id)

structure Isolated (i : Fin clMaxClients) (d : Datagram) (t t' : Transport) : Prop where
  /-- Windows that the client does not name are the same records, in the same order. -/
  windows : (t'.stack.windows.filter fun w => t.elsewhere i w.id) =
    t.stack.windows.filter fun w => t.elsewhere i w.id
  clients : ∀ i', i' ≠ i → t'.clients i' = t.clients i'
  /-- An orphan is as it was, or its whole table went to the client that gave its token. -/
  orphans : ∀ o, (t.orphans o).token ≠ 0 → t'.orphans o = t.orphans o ∨
    (t.clients i).hello = false ∧ d.buf.u32 0 = clHelloType ∧
      helloToken d = (t.orphans o).token ∧ t'.orphans o = .zero ∧
      (t'.clients i).wins = (t.orphans o).wins

/-- A panel shows a taskbar, and a second client has shaken hands. -/
def twoClients : List Event :=
  [.addClient 7 true,
    .datagram 0 (.ofWords [clHelloType, clMagic, 2, 1, 0] []) ⟨none, fun _ => 0⟩ 10,
    .datagram 0 (.ofWords [clCreateWindowType, 3, clRoleTaskbar, 0, 1040, 1920, 40] [])
      ⟨none, fun _ => 0⟩ 20,
    .addClient 8 true,
    .datagram 1 (.ofWords [clHelloType, clMagic, 2, 1, 0] []) ⟨none, fun _ => 0⟩ 30]

theorem twoClients_legal : World.system.Legal (.start 1920 1080) twoClients := by
  have hpanel : (0 : Int) ≤ 7 := by decide
  have hsecond : (0 : Int) ≤ 8 := by decide
  exact ⟨hpanel, ⟨by decide, by decide⟩, ⟨by decide, by decide⟩, hsecond,
    ⟨by decide, by decide⟩, trivial⟩

end CrystallineLattice.Native
