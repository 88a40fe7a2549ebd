import CrystallineLattice.Native.LedgerInvariant

/-!
# The transport refines the ledger

Every function of `transport.c` that changes the tables, the stack or the
mappings is a legal run of ledger operations, read through `Transport.ledger`.
The runs are labelled with the holder they act for.
-/

namespace CrystallineLattice.Native

open CrystallineLattice.Foundation
open CrystallineLattice.Stack

/-- The operation changes entries of `h` only, and enters no new window. -/
def LedgerOp.By (h : Holder) : LedgerOp → Prop
  | .grant h' | .retitle h' .. | .place h' .. | .unmap h' _ | .attach h' .. | .close h' _
  | .vacate h' => h' = h
  | .create .. | .transfer .. | .other _ => False

/-- What the ledger keeps of a transport, with the ids the other users created. -/
def Transport.ledger (t : Transport) (foreign : List Nat) : Ledger where
  stack := t.stack
  token := t.token
  wins := t.wins
  maps := t.os.maps
  nextToken := t.nextToken
  created := t.history.created
  issued := t.history.issued
  foreign := foreign

variable {t : Transport} {foreign : List Nat}

/-! ## What the ledger does not see -/

theorem maps_closeFds (t : Transport) (fds : List Int) : (closeFds t fds).os.maps = t.os.maps := by
  have hfold : ∀ os : Os, (fds.foldl Os.close os).maps = os.maps := by
    induction fds with
    | nil => exact fun _ => rfl
    | cons fd fds ih => exact fun os => ih (os.close fd)
  exact hfold t.os

@[simp] theorem ledger_closeFds (t : Transport) (fds : List Int) :
    (closeFds t fds).ledger foreign = t.ledger foreign := by
  unfold Transport.ledger
  rw [maps_closeFds]
  rfl

@[simp] theorem ledger_sendFocus (t : Transport) (id : Nat) (focused : Bool) :
    (sendFocus t id focused).ledger foreign = t.ledger foreign := by
  unfold sendFocus
  cases findByServerId t id <;> rfl

@[simp] theorem ledger_notifyFocus (t : Transport) (id : Nat) :
    (notifyFocus t id).ledger foreign = t.ledger foreign := by
  unfold notifyFocus
  by_cases h : id = t.focusedServerId
  · simp [h]
  · simp only [h, if_false, ledger_sendFocus]
    exact ledger_sendFocus t t.focusedServerId false

@[simp] theorem ledger_sendConfigure (t : Transport) (fd : Int) (wid id : Nat) :
    (sendConfigure t fd wid id).ledger foreign = t.ledger foreign := by
  unfold sendConfigure
  cases windowById t.stack id <;> rfl

/-! ## Slots and tables -/

theorem ledger_setClient (t : Transport) (i : Fin clMaxClients) (c : ClClient) :
    (t.setClient i c).ledger foreign = (t.ledger foreign).setTable (.client i) c.token c.wins := by
  have htoken : (t.setClient i c).token = Function.update t.token (.client i) c.token := by
    funext h
    cases h with
    | client i' =>
        by_cases heq : i' = i
        · subst heq
          simp [Transport.setClient, Transport.token]
        · simp [Transport.setClient, Transport.token, heq]
    | orphan k => simp [Transport.setClient, Transport.token]
  have hwins : (t.setClient i c).wins = Function.update t.wins (.client i) c.wins := by
    funext h
    cases h with
    | client i' =>
        by_cases heq : i' = i
        · subst heq
          simp [Transport.setClient, Transport.wins]
        · simp [Transport.setClient, Transport.wins, heq]
    | orphan k => simp [Transport.setClient, Transport.wins]
  unfold Transport.ledger Ledger.setTable
  rw [htoken, hwins]
  rfl

theorem ledger_setOrphan (t : Transport) (k : Fin clMaxClients) (o : ClOrphan) :
    (t.setOrphan k o).ledger foreign = (t.ledger foreign).setTable (.orphan k) o.token o.wins := by
  have htoken : (t.setOrphan k o).token = Function.update t.token (.orphan k) o.token := by
    funext h
    cases h with
    | client i => simp [Transport.setOrphan, Transport.token]
    | orphan k' =>
        by_cases heq : k' = k
        · subst heq
          simp [Transport.setOrphan, Transport.token]
        · simp [Transport.setOrphan, Transport.token, heq]
  have hwins : (t.setOrphan k o).wins = Function.update t.wins (.orphan k) o.wins := by
    funext h
    cases h with
    | client i => simp [Transport.setOrphan, Transport.wins]
    | orphan k' =>
        by_cases heq : k' = k
        · subst heq
          simp [Transport.setOrphan, Transport.wins]
        · simp [Transport.setOrphan, Transport.wins, heq]
  unfold Transport.ledger Ledger.setTable
  rw [htoken, hwins]
  rfl

theorem ledger_setWin (t : Transport) (h : Holder) (j : Fin winMax) (w : ClWin) :
    (t.setWin h j w).ledger foreign = (t.ledger foreign).setWin h j w := by
  cases h with
  | client i =>
      rw [Transport.setWin, ledger_setClient]
      have htoken : Function.update t.token (.client i) (t.clients i).token = t.token :=
        Function.update_eq_self _ _
      simp only [Ledger.setTable, Ledger.setWin, Transport.ledger, htoken]
      rfl
  | orphan k =>
      rw [Transport.setWin, ledger_setOrphan]
      have htoken : Function.update t.token (.orphan k) (t.orphans k).token = t.token :=
        Function.update_eq_self _ _
      simp only [Ledger.setTable, Ledger.setWin, Transport.ledger, htoken]
      rfl

theorem ledger_withStack (t : Transport) (s : WindowStack) :
    Transport.ledger { t with stack := s } foreign = { t.ledger foreign with stack := s } :=
  rfl

/-! ## Windows -/

theorem ledger_adoptWindow (t : Transport) (i : Fin clMaxClients) (j : Fin winMax)
    (m : ClCreateWindow) :
    (adoptWindow { t with stack := (requestedWindow t.stack m).1 } i j m.wid
        (roleFromWire m.role) t.stack.nextId).ledger foreign =
      (t.ledger foreign).next (.create (.client i) j m t.sw t.sh) := by
  unfold adoptWindow
  dsimp only
  split
  all_goals simp only [ledger_notifyFocus, ledger_sendConfigure, ledger_setWin]; rfl

theorem winDropBuffer_null {h : Holder} {j : Fin winMax} (hnull : (t.wins h j).buf = .null) :
    winDropBuffer t h j = t := by
  simp [winDropBuffer, hnull]

theorem ledger_winDropBuffer {h : Holder} {j : Fin winMax} (hne : (t.wins h j).buf ≠ .null) :
    (winDropBuffer t h j).ledger foreign = (t.ledger foreign).next (.unmap h j) := by
  simp only [winDropBuffer, hne, if_false, ledger_setWin]
  unfold Transport.ledger Ledger.next Ledger.setWin
  cases hbuf : (t.wins h j).buf with
  | null => exact (hne hbuf).elim
  | mapping base =>
      simp only [Os.munmap, hbuf]
      rfl
  | block address =>
      simp only [Os.munmap, hbuf]
      rfl

theorem winDropBuffer_slot (t : Transport) (h : Holder) (j : Fin winMax) :
    ((winDropBuffer t h j).wins h j).clientWid = (t.wins h j).clientWid ∧
      ((winDropBuffer t h j).wins h j).serverId = (t.wins h j).serverId ∧
      ((winDropBuffer t h j).wins h j).buf = .null := by
  by_cases hnull : (t.wins h j).buf = .null
  · rw [winDropBuffer_null hnull]
    exact ⟨rfl, rfl, hnull⟩
  · have hledger : (winDropBuffer t h j).ledger [] = (t.ledger []).next (.unmap h j) :=
      ledger_winDropBuffer hnull
    have hslot : ((winDropBuffer t h j).ledger []).wins h j =
        { t.wins h j with buf := .null, bufLen := 0 } := by
      rw [hledger]
      exact Ledger.setWin_wins_self _ _ _ _
    have hwins : (winDropBuffer t h j).wins h j = { t.wins h j with buf := .null, bufLen := 0 } :=
      hslot
    rw [hwins]
    exact ⟨rfl, rfl, rfl⟩

theorem winDropBuffer_maps (t : Transport) (h : Holder) (j : Fin winMax) :
    (winDropBuffer t h j).os.maps.Sublist t.os.maps := by
  unfold winDropBuffer
  dsimp only
  split
  · exact List.Sublist.refl _
  · rw [os_setWin]
    cases (t.wins h j).buf with
    | mapping base => exact List.erase_sublist
    | _ => exact List.Sublist.refl _

theorem winDropBuffer_reaches {h : Holder} {j : Fin winMax}
    (hocc : (t.wins h j).clientWid ≠ 0) :
    Ledger.system.Reaches (LedgerOp.By h) (t.ledger foreign)
      ((winDropBuffer t h j).ledger foreign) := by
  by_cases hnull : (t.wins h j).buf = .null
  · rw [winDropBuffer_null hnull]
    exact .refl _ _
  · exact .single (e := .unmap h j) rfl ⟨hocc, hnull⟩ (ledger_winDropBuffer hnull).symm

theorem closeSlot_reaches {h : Holder} {j : Fin winMax}
    (hocc : (t.wins h j).clientWid ≠ 0) :
    Ledger.system.Reaches (LedgerOp.By h) (t.ledger foreign)
      ((closeSlot t h j).ledger foreign) := by
  obtain ⟨hwid, -, hnull⟩ := winDropBuffer_slot t h j
  refine (winDropBuffer_reaches hocc).trans (.single (e := .close h j) rfl ⟨?_, hnull⟩ ?_)
  · exact hwid ▸ hocc
  · rw [closeSlot, ledger_setWin]
    rfl

theorem winDropBuffer_map {h : Holder} {j : Fin winMax} {base len : Nat} (closed : List Int)
    (hL : (t.ledger foreign).Slots) (hfresh : base ∉ t.os.maps.map Prod.fst) :
    winDropBuffer { t with os := { t.os.map base len with closed := closed } } h j =
      { winDropBuffer t h j with
        os := { (winDropBuffer t h j).os.map base len with closed := closed } } := by
  have hwins : Transport.wins { t with os := { t.os.map base len with closed := closed } } =
      t.wins := rfl
  unfold winDropBuffer
  simp only [hwins]
  cases hbuf : (t.wins h j).buf with
  | null => simp
  | block address => exact (hL.mapping.heap hbuf).elim
  | mapping old =>
      have hmem : (old, (t.wins h j).bufLen) ∈ t.os.maps :=
        hL.mapping.mapped.mpr ⟨h, j, hbuf, rfl⟩
      have hne : (base, len) ≠ (old, (t.wins h j).bufLen) := by
        intro heq
        injection heq with hbase
        exact hfresh (hbase ▸ List.mem_map_of_mem (f := Prod.fst) hmem)
      have hos : { t.os.map base len with closed := closed }.munmap (.mapping old)
          (t.wins h j).bufLen =
          { (t.os.munmap (.mapping old) (t.wins h j).bufLen).map base len with
            closed := closed } := by
        simp only [Os.munmap, Os.map, List.erase_cons, beq_false_of_ne hne, Bool.false_eq_true,
          if_false]
      simp only [reduceCtorEq, if_false, hos]
      cases h <;> rfl

theorem attachBuffer_reaches {h : Holder} {j : Fin winMax} {b : ClBuffer} {base : Nat}
    (hL : (t.ledger foreign).Slots) (hocc : (t.wins h j).clientWid ≠ 0)
    (hfresh : base ∉ t.os.maps.map Prod.fst) (closed : List Int) :
    Ledger.system.Reaches (LedgerOp.By h) (t.ledger foreign)
      ((attachBuffer
        { t with os := { t.os.map base (b.stride * b.height) with closed := closed } }
        h j b base).ledger foreign) := by
  obtain ⟨hwid, -, hnull⟩ := winDropBuffer_slot t h j
  have hkept : base ∉ (winDropBuffer t h j).os.maps.map Prod.fst := fun hmem =>
    hfresh (((winDropBuffer_maps t h j).map Prod.fst).subset hmem)
  refine (winDropBuffer_reaches hocc).trans
    (.single (e := .attach h j b base) rfl ⟨hwid ▸ hocc, hnull, hkept⟩ ?_)
  simp only [attachBuffer, winDropBuffer_map closed hL hfresh, stack_setWin]
  rw [ledger_withStack (Transport.setWin _ _ _ _), ledger_setWin]
  rfl

/-! ## Destroying a table -/

theorem wins_setWin (t : Transport) (h : Holder) (j : Fin winMax) (w : ClWin) :
    (t.setWin h j w).wins = Function.update t.wins h (Function.update (t.wins h) j w) := by
  have hledger : (t.setWin h j w).ledger [] = (t.ledger []).setWin h j w := ledger_setWin t h j w
  exact congrArg Ledger.wins hledger

theorem setWin_comm (t : Transport) (h : Holder) {j j' : Fin winMax} (hne : j ≠ j')
    (w w' : ClWin) :
    (t.setWin h j w).setWin h j' w' = (t.setWin h j' w').setWin h j w := by
  cases h with
  | client i => simp [Transport.setWin, Transport.setClient, Function.update_comm hne]
  | orphan k => simp [Transport.setWin, Transport.setOrphan, Function.update_comm hne]

theorem wins_setWin_ne (t : Transport) (h : Holder) {j j' : Fin winMax} (hne : j ≠ j')
    (w : ClWin) : (t.setWin h j w).wins h j' = t.wins h j' := by
  simp [wins_setWin, hne.symm]

theorem winDropBuffer_setWin (t : Transport) (h : Holder) {j j' : Fin winMax} (hne : j ≠ j')
    (w : ClWin) :
    winDropBuffer (t.setWin h j w) h j' = (winDropBuffer t h j').setWin h j w := by
  unfold winDropBuffer
  rw [wins_setWin_ne t h hne, stack_setWin, os_setWin]
  by_cases hnull : (t.wins h j').buf = .null
  · simp [hnull]
  · simp only [hnull, if_false]
    rw [setWin_comm _ h hne.symm]
    cases h <;> rfl

theorem closeSlot_wins_ne (t : Transport) (h : Holder) {j j' : Fin winMax} (hne : j ≠ j') :
    (closeSlot t h j).wins h j' = t.wins h j' := by
  have hdrop : (winDropBuffer t h j).wins h j' = t.wins h j' := by
    unfold winDropBuffer
    dsimp only
    split
    · rfl
    · rw [wins_setWin_ne _ h hne]
      cases h <;> rfl
  rw [closeSlot, wins_setWin_ne _ h hne]
  refine Eq.trans ?_ hdrop
  cases h <;> rfl

theorem destroySlot_setWin (t : Transport) (h : Holder) {j j' : Fin winMax} (hne : j ≠ j')
    (w : ClWin) :
    destroySlot h (t.setWin h j w) j' = (destroySlot h t j').setWin h j w := by
  unfold destroySlot
  rw [wins_setWin_ne t h hne]
  by_cases hfree : (t.wins h j').clientWid = 0
  · simp [hfree]
  · simp only [hfree, not_false_eq_true, ne_eq, if_true]
    rw [winDropBuffer_setWin t h hne, wins_setWin_ne _ h hne, stack_setWin]
    cases h <;> rfl

theorem foldl_destroySlot_setWin (h : Holder) {j : Fin winMax} (w : ClWin)
    {js : List (Fin winMax)} (hj : j ∉ js) (t : Transport) :
    js.foldl (destroySlot h) (t.setWin h j w) = (js.foldl (destroySlot h) t).setWin h j w := by
  induction js generalizing t with
  | nil => rfl
  | cons j' js ih =>
      have hne : j ≠ j' := fun heq => hj (heq ▸ List.mem_cons_self)
      rw [List.foldl_cons, List.foldl_cons, destroySlot_setWin t h hne]
      exact ih (fun hmem => hj (List.mem_cons_of_mem _ hmem)) _

/--
Destroying the windows of some slots closes them one by one.  The code zeroes
the slots only when it is done with the table, so the two agree once it is zeroed.
-/
theorem foldl_destroySlot_reaches (foreign : List Nat) (h : Holder) {js : List (Fin winMax)}
    (hjs : js.Nodup) (t : Transport) :
    ∃ L, Ledger.system.Reaches (LedgerOp.By h) (t.ledger foreign) L ∧
      (∀ j ∈ js, (L.wins h j).clientWid = 0) ∧
      (∀ j, j ∉ js → L.wins h j = t.wins h j) ∧
      ∀ token wins, L.setTable h token wins =
        ((js.foldl (destroySlot h) t).ledger foreign).setTable h token wins := by
  induction js generalizing t with
  | nil => exact ⟨t.ledger foreign, .refl _ _, by simp, fun _ _ => rfl, fun _ _ => rfl⟩
  | cons j js ih =>
      obtain ⟨hj, hjs⟩ := List.nodup_cons.mp hjs
      by_cases hfree : (t.wins h j).clientWid = 0
      · have hskip : destroySlot h t j = t := by simp [destroySlot, hfree]
        obtain ⟨L, hreach, hclosed, hrest, hend⟩ := ih hjs t
        refine ⟨L, hreach, fun j' hj' => ?_, fun j' hj' => ?_, fun token wins => ?_⟩
        · rcases List.mem_cons.mp hj' with rfl | hj'
          · rw [hrest j' hj]
            exact hfree
          · exact hclosed j' hj'
        · exact hrest j' fun hmem => hj' (List.mem_cons_of_mem _ hmem)
        · rw [List.foldl_cons, hskip]
          exact hend token wins
      · have hclose : closeSlot t h j = (destroySlot h t j).setWin h j .zero := by
          simp [closeSlot, destroySlot, hfree]
        obtain ⟨L, hreach, hclosed, hrest, hend⟩ := ih hjs (closeSlot t h j)
        refine ⟨L, (closeSlot_reaches hfree).trans hreach, fun j' hj' => ?_, fun j' hj' => ?_,
          fun token wins => ?_⟩
        · rcases List.mem_cons.mp hj' with rfl | hj'
          · rw [hrest j' hj, hclose, wins_setWin]
            simp [ClWin.zero]
          · exact hclosed j' hj'
        · have hne : j ≠ j' := fun heq => hj' (heq ▸ List.mem_cons_self)
          rw [hrest j' fun hmem => hj' (List.mem_cons_of_mem _ hmem)]
          exact closeSlot_wins_ne t h hne
        · rw [hend, List.foldl_cons, hclose, foldl_destroySlot_setWin h _ hj, ledger_setWin]
          simp [Ledger.setTable, Ledger.setWin]

theorem destroyTable_reaches (t : Transport) (h : Holder) :
    Ledger.system.Reaches (LedgerOp.By h) (t.ledger foreign)
      (((destroyTable t h).ledger foreign).setTable h 0 fun _ => .zero) := by
  obtain ⟨L, hreach, hclosed, -, hend⟩ :=
    foldl_destroySlot_reaches foreign h (List.nodup_finRange winMax) t
  have hvacant : L.enabled (.vacate h) := fun j => hclosed j (List.mem_finRange j)
  exact hreach.trans (.single (e := .vacate h) rfl hvacant (hend 0 fun _ => .zero))

/-! ## Requests -/

theorem onCreateWindow_ledger {i : Fin clMaxClients} (m : ClCreateWindow)
    (hL : (t.ledger foreign).Inv) (htoken : (t.clients i).token ≠ 0) :
    ((onCreateWindow t i m).ledger foreign = t.ledger foreign ∧
        ∀ j, ¬ CreateAccepted t i m j) ∨
      ∃ j, CreateAccepted t i m j ∧
        (t.ledger foreign).enabled (.create (.client i) j m t.sw t.sh) ∧
        (onCreateWindow t i m).ledger foreign =
          (t.ledger foreign).next (.create (.client i) j m t.sw t.sh) := by
  have hnext : t.stack.nextId ≠ 0 := Nat.pos_iff_ne_zero.mp hL.stack.nextPos
  rcases onCreateWindow_cases t i m with ⟨heq, hno⟩ | ⟨j, hacc, heq⟩
  · exact .inl ⟨by rw [heq], hno⟩
  · refine .inr ⟨j, hacc, ⟨htoken, winAlloc_eq_some hacc.slot, hacc.room, ?_⟩, ?_⟩
    · exact fun hwid j' => (winFind_eq_none hwid).mp hacc.fresh j'
    · rw [heq, if_neg hnext, ledger_adoptWindow]

theorem occupied_of_winFind {i : Fin clMaxClients} {wid : Nat} {j : Fin winMax}
    (h : winFind (t.clients i) wid = some j) : (t.wins (.client i) j).clientWid ≠ 0 := by
  obtain ⟨hwid, heq⟩ := winFind_eq_some h
  exact fun hzero => hwid (heq.symm.trans hzero)

theorem onSetTitle_reaches (t : Transport) (i : Fin clMaxClients) (m : ClSetTitle) :
    Ledger.system.Reaches (LedgerOp.By (.client i)) (t.ledger foreign)
      ((onSetTitle t i m).ledger foreign) := by
  rcases onSetTitle_cases t i m with heq | ⟨j, title, hj, heq⟩
  · rw [heq]
    exact .refl _ _
  · rw [heq]
    exact .single (e := .retitle (.client i) j title) rfl (occupied_of_winFind hj) rfl

theorem onSetGeometry_reaches (t : Transport) (i : Fin clMaxClients) (m : ClSetGeometry) :
    Ledger.system.Reaches (LedgerOp.By (.client i)) (t.ledger foreign)
      ((onSetGeometry t i m).ledger foreign) := by
  rcases onSetGeometry_cases t i m with heq | ⟨j, hj, heq⟩
  · rw [heq]
    exact .refl _ _
  · rw [heq]
    exact .single (e := .place (.client i) j m.x m.y (int32 m.w) (int32 m.h)) rfl
      (occupied_of_winFind hj) rfl

theorem onDestroyWindow_reaches (t : Transport) (i : Fin clMaxClients) (m : ClDestroyWindow) :
    Ledger.system.Reaches (LedgerOp.By (.client i)) (t.ledger foreign)
      ((onDestroyWindow t i m).ledger foreign) := by
  rcases onDestroyWindow_cases t i m with heq | ⟨j, hj, heq⟩
  · rw [heq]
    exact .refl _ _
  · rw [heq]
    exact closeSlot_reaches (occupied_of_winFind hj)

/-- The kernel maps a buffer where nothing of ours is mapped. -/
def Kernel.Fresh (k : Kernel) (t : Transport) : Prop :=
  ∀ base ∈ k.mmap, base ∉ t.os.maps.map Prod.fst

instance (k : Kernel) (t : Transport) : Decidable (k.Fresh t) :=
  inferInstanceAs (Decidable (∀ base ∈ k.mmap, base ∉ t.os.maps.map Prod.fst))

theorem onCommit_reaches {i : Fin clMaxClients} (m : ClCommit) (fds : List Int) {k : Kernel}
    (hL : (t.ledger foreign).Slots) (hk : k.Fresh t) :
    Ledger.system.Reaches (LedgerOp.By (.client i)) (t.ledger foreign)
      ((onCommit t i m fds k).ledger foreign) := by
  rcases onCommit_cases t i m fds k with ⟨closed, heq⟩ | ⟨closed, j, base, hacc, hmmap, heq⟩
  · rw [heq]
    exact .refl _ _
  · rw [heq]
    exact attachBuffer_reaches hL (occupied_of_winFind hacc.slot) (hk base hmmap) closed

theorem ledger_onSetCursor (t : Transport) (m : ClSetCursor) (fds : List Int) (k : Kernel) :
    (onSetCursor t m fds k).ledger foreign = t.ledger foreign := by
  unfold onSetCursor
  dsimp only
  split
  · rw [ledger_closeFds]
    rfl
  · split
    · rw [ledger_closeFds]
    · cases k.mmap with
      | none => rw [ledger_closeFds]
      | some base =>
          -- what was mapped for the copy is unmapped again
          unfold Transport.ledger
          simp only [Os.munmap, maps_closeFds, Os.map, List.erase_cons_head]
          rfl

/-! ## Sessions -/

theorem ledger_granted (t : Transport) (i : Fin clMaxClients) :
    (granted t i).ledger foreign = (t.ledger foreign).next (.grant (.client i)) := by
  have hwins : Function.update t.wins (.client i) (t.clients i).wins = t.wins :=
    Function.update_eq_self _ _
  rw [granted, ledger_setClient]
  simp only [Ledger.setTable, Ledger.next, Transport.ledger]
  exact congrArg (fun wins => Ledger.mk _ _ wins _ _ _ _ _) hwins

theorem ledger_reclaimed (t : Transport) (i k : Fin clMaxClients) :
    (reclaimed t i k).ledger foreign =
      (t.ledger foreign).next (.transfer (.orphan k) (.client i)) := by
  rw [reclaimed, ledger_setOrphan, ledger_setClient]
  rfl

theorem wins_reclaimed (t : Transport) (i k : Fin clMaxClients) :
    (reclaimed t i k).wins (.client i) = (t.orphans k).wins := by
  simp [reclaimed, Transport.wins, Transport.setOrphan, Transport.setClient]

theorem tableCount_eq_zero {wins : WinTable} (h : tableCount wins = 0) (j : Fin winMax) :
    (wins j).clientWid = 0 := by
  have hnone := List.countP_eq_zero.mp h j (List.mem_finRange j)
  simpa using hnone

def HelloOp (t : Transport) (i : Fin clMaxClients) (token : Nat) (op : LedgerOp) : Prop :=
  op = .grant (.client i) ∨
    ∃ k, token ≠ 0 ∧ (t.orphans k).token = token ∧ op = .transfer (.orphan k) (.client i)

theorem acceptHello_reaches {i : Fin clMaxClients} (d : Datagram)
    (hL : (t.ledger foreign).Slots) (htoken : (t.clients i).token = 0) :
    Ledger.system.Reaches (HelloOp t i (helloToken d)) (t.ledger foreign)
      ((acceptHello t i d).ledger foreign) := by
  obtain ⟨u, hu, heq⟩ := acceptHello_cases t i d
  have hend : (acceptHello t i d).ledger foreign = u.ledger foreign := by
    rw [heq, ledger_closeFds]
    rfl
  rw [hend]
  have htransfer (k : Fin clMaxClients) (hknown : helloToken d ≠ 0)
      (hheld : (t.orphans k).token = helloToken d) :
      Ledger.system.Reaches (HelloOp t i (helloToken d)) (t.ledger foreign)
        ((reclaimed t i k).ledger foreign) :=
    .single (.inr ⟨k, hknown, hheld, rfl⟩) ⟨fun hzero => hknown (hheld.symm.trans hzero), htoken⟩
      (ledger_reclaimed t i k).symm
  cases hu with
  | fresh unknown =>
      have hfree : (t.ledger foreign).enabled (.grant (.client i)) := hL.vacant htoken
      exact .single (.inl rfl) hfree (ledger_granted t i).symm
  | reclaim k known held windows => exact htransfer k known held
  | empty k known held windows =>
      refine (htransfer k known held).trans
        (.single (.inl rfl) (fun j => ?_) (ledger_granted _ i).symm)
      change ((reclaimed t i k).wins (.client i) j).clientWid = 0
      rw [wins_reclaimed]
      exact tableCount_eq_zero windows j

theorem ledger_clearClient (t : Transport) (i : Fin clMaxClients) (fd fd' : Int) :
    (Transport.setClient { t with os := t.os.close fd } i (.zero fd')).ledger foreign =
      (t.ledger foreign).setTable (.client i) 0 fun _ => .zero := by
  rw [ledger_setClient]
  rfl

theorem clientDrop_reaches (foreign : List Nat) (t : Transport) (i : Fin clMaxClients) (now : Int) :
    (∃ k, parkingSlot t i = some k ∧
        Ledger.system.Reaches (· = .transfer (.client i) (.orphan k)) (t.ledger foreign)
          ((clientDrop t i now).ledger foreign)) ∨
      parkingSlot t i = none ∧
        Ledger.system.Reaches (LedgerOp.By (.client i)) (t.ledger foreign)
          ((clientDrop t i now).ledger foreign) := by
  unfold clientDrop
  cases hpark : parkingSlot t i with
  | none =>
      refine .inr ⟨rfl, ?_⟩
      dsimp only
      rw [ledger_clearClient]
      exact destroyTable_reaches t (.client i)
  | some k =>
      obtain ⟨htoken, -, hfree⟩ := parkingSlot_eq_some hpark
      refine .inl ⟨k, rfl, ?_⟩
      dsimp only
      rw [ledger_clearClient, ledger_setOrphan]
      exact .single rfl ⟨htoken, hfree⟩ rfl

theorem orphanDestroy_reaches (foreign : List Nat) (t : Transport) (k : Fin clMaxClients) :
    Ledger.system.Reaches (LedgerOp.By (.orphan k)) (t.ledger foreign)
      ((orphanDestroy t k).ledger foreign) := by
  rw [orphanDestroy, ledger_setOrphan]
  exact destroyTable_reaches t (.orphan k)

theorem transportAddClient_reaches {P : LedgerOp → Prop} (fd : Int) (epollOk : Bool)
    (hL : (t.ledger foreign).Slots) (hP : ∀ i, P (.vacate (.client i)))
    (hfree : ∀ i, (t.clients i).fd = -1 → (t.clients i).token = 0) :
    Ledger.system.Reaches P (t.ledger foreign)
      ((transportAddClient t fd epollOk).ledger foreign) := by
  unfold transportAddClient
  cases hfind : clientByFd t (-1) with
  | none => exact .refl _ _
  | some i =>
      have hfd : (t.clients i).fd = -1 := by simpa using firstIndex_eq_some hfind
      have hvacant : (t.ledger foreign).enabled (.vacate (.client i)) :=
        hL.vacant (hfree i hfd)
      refine .single (hP i) hvacant ?_
      cases epollOk with
      | true =>
          simp only [if_true, ledger_setClient]
          rfl
      | false =>
          simp only [Bool.false_eq_true, if_false, ledger_clearClient]
          rfl

/-! ## Datagrams -/

structure Creates (t : Transport) (i : Fin clMaxClients) (d : Datagram) (j : Fin winMax) :
    Prop where
  ready : (t.clients i).hello = true
  type : d.buf.u32 0 = clCreateWindowType
  full : ClCreateWindow.size ≤ d.n
  accepted : CreateAccepted t i (.read d.buf) j

theorem Creates.not_refusable {i : Fin clMaxClients} {d : Datagram} {j : Fin winMax}
    (h : Creates t i d j) : ¬ Refusable t i d :=
  Native.not_refusable h.ready h.type h.full (by decide)

/-- A datagram creates a window, or shakes hands, or only works on the client's own entries. -/
theorem dispatch_reaches {i : Fin clMaxClients} (d : Datagram) {k : Kernel} (dirty : Bool)
    (hL : (t.ledger foreign).Inv) (hk : k.Fresh t)
    (htoken : (t.clients i).hello = true → (t.clients i).token ≠ 0) :
    (Ledger.system.Reaches (LedgerOp.By (.client i)) (t.ledger foreign)
        ((dispatch t i d k dirty).t.ledger foreign) ∧ ∀ j, ¬ Creates t i d j) ∨
      (∃ j, Creates t i d j ∧
        (t.ledger foreign).enabled (.create (.client i) j (.read d.buf) t.sw t.sh) ∧
        (dispatch t i d k dirty).t.ledger foreign =
          (t.ledger foreign).next (.create (.client i) j (.read d.buf) t.sw t.sh)) ∨
      (t.clients i).hello = false ∧ d.buf.u32 0 = clHelloType ∧
        (dispatch t i d k dirty).t = acceptHello t i d := by
  have hpath := dispatch_path t i d k dirty
  generalize dispatch t i d k dirty = r at hpath ⊢
  have htype {type : Nat} (h : d.buf.u32 0 = type) (hne : type ≠ clCreateWindowType)
      (j : Fin winMax) : ¬ Creates t i d j := fun hc => hne (h.symm.trans hc.type)
  cases hpath with
  | reject why =>
      rw [rejected, ledger_closeFds]
      exact .inl ⟨.refl _ _, fun j hc => hc.not_refusable why⟩
  | hello fresh type full accepted => exact .inr (.inr ⟨fresh, type, rfl⟩)
  | createWindow ready type full =>
      rw [ledger_closeFds]
      rcases onCreateWindow_ledger (.read d.buf) hL (htoken ready) with
        ⟨heq, hno⟩ | ⟨j, hacc, hen, heq⟩
      · rw [heq]
        exact .inl ⟨.refl _ _, fun j hc => hno j hc.accepted⟩
      · exact .inr (.inl ⟨j, ⟨ready, type, full, hacc⟩, hen, heq⟩)
  | setTitle ready type full =>
      rw [ledger_closeFds]
      exact .inl ⟨onSetTitle_reaches t i _, htype type (by decide)⟩
  | commit ready type full =>
      exact .inl ⟨onCommit_reaches _ _ hL.slots hk, htype type (by decide)⟩
  | destroyWindow ready type full =>
      rw [ledger_closeFds]
      exact .inl ⟨onDestroyWindow_reaches t i _, htype type (by decide)⟩
  | setGeometry ready type full =>
      rw [ledger_closeFds]
      exact .inl ⟨onSetGeometry_reaches t i _, htype type (by decide)⟩
  | setCursor ready type full =>
      rw [ledger_onSetCursor]
      exact .inl ⟨.refl _ _, htype type (by decide)⟩
  | ignore ready type =>
      rw [ledger_closeFds]
      refine .inl ⟨.refl _ _, fun j hc => type ?_⟩
      rw [hc.type]
      decide

end CrystallineLattice.Native
