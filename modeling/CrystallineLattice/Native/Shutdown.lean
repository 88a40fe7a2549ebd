import CrystallineLattice.Foundation.Accounts
import CrystallineLattice.Native.Accounting
import CrystallineLattice.Native.Descriptors
import CrystallineLattice.Native.Isolation
import CrystallineLattice.Native.Watch
import Mathlib.Algebra.BigOperators.Fin

/-!
# The end of the transport

`transport_destroy` drops every connection, reaps every orphan and closes its own
descriptors.  Over the whole life of the transport, what it was handed is here
compared with what it has given back by then.
-/

namespace CrystallineLattice.Native

open CrystallineLattice.Foundation
open CrystallineLattice.Stack

/-- The transport's own descriptors, -1 where there is none. -/
structure Endpoint where
  listenFd : Int
  epollFd : Int

def closeOpen (t : Transport) (fd : Int) : Transport :=
  if 0 ≤ fd then { t with os := t.os.close fd } else t

def dropConnected (now : Fin clMaxClients → Int) (t : Transport) (i : Fin clMaxClients) :
    Transport :=
  if 0 ≤ (t.clients i).fd then clientDrop t i (now i) else t

def reapParked (t : Transport) (k : Fin clMaxClients) : Transport :=
  if (t.orphans k).token ≠ 0 then orphanDestroy t k else t

/-- `now i` is the time at which client `i` is dropped. -/
def transportDestroy (t : Transport) (ep : Endpoint) (now : Fin clMaxClients → Int) : Transport :=
  let t := (List.finRange clMaxClients).foldl (dropConnected now) t
  let t := (List.finRange clMaxClients).foldl reapParked t
  closeOpen (closeOpen t ep.listenFd) ep.epollFd

/-! ## What is held -/

def openFd (fd : Int) : Multiset Int := if 0 ≤ fd then {fd} else 0

def Transport.known (t : Transport) : Multiset Int :=
  ∑ i, openFd (t.clients i).fd + t.os.closed

section Known

variable {t u : Transport} {i : Fin clMaxClients}

theorem openFd_of_neg {fd : Int} (h : fd < 0) : openFd fd = 0 := if_neg (by omega)

theorem openFd_of_nonneg {fd : Int} (h : 0 ≤ fd) : openFd fd = {fd} := if_pos h

theorem sum_openFd (hothers : ∀ i', i' ≠ i → (u.clients i').fd = (t.clients i').fd) :
    ∑ i', openFd (u.clients i').fd + openFd (t.clients i).fd =
      ∑ i', openFd (t.clients i').fd + openFd (u.clients i).fd := by
  have hrest : ∑ i' ∈ Finset.univ.erase i, openFd (u.clients i').fd =
      ∑ i' ∈ Finset.univ.erase i, openFd (t.clients i').fd :=
    Finset.sum_congr rfl fun i' hi' => by rw [hothers i' (Finset.ne_of_mem_erase hi')]
  rw [← Finset.sum_erase_add _ _ (Finset.mem_univ i), hrest,
    ← Finset.sum_erase_add (f := fun i' => openFd (t.clients i').fd) _ (Finset.mem_univ i)]
  abel

theorem known_of_eq (hclients : ∀ i, (u.clients i).fd = (t.clients i).fd)
    (hclosed : u.os.closed = t.os.closed) : u.known = t.known := by
  unfold Transport.known
  rw [hclosed]
  simp only [hclients]

theorem closed_destroyTable (t : Transport) (h : Holder) :
    (destroyTable t h).os.closed = t.os.closed :=
  destroyTable_rule (P := fun u => u.os.closed = t.os.closed)
    (fun u j hu => (closed_winDropBuffer u h j).trans hu) (fun _ _ hu => hu) rfl

theorem closed_orphanDestroy (t : Transport) (k : Fin clMaxClients) :
    (orphanDestroy t k).os.closed = t.os.closed := by
  have hdestroy := closed_destroyTable t (.orphan k)
  unfold orphanDestroy
  generalize destroyTable t (.orphan k) = u at hdestroy ⊢
  exact hdestroy

theorem closed_clientDrop (t : Transport) (i : Fin clMaxClients) (now : Int) :
    (clientDrop t i now).os.closed = t.os.closed ++ [(t.clients i).fd] := by
  unfold clientDrop
  cases parkingSlot t i with
  | none =>
      have hdestroy := closed_destroyTable t (.client i)
      dsimp only
      generalize destroyTable t (.client i) = u at hdestroy ⊢
      show u.os.closed ++ [_] = _
      rw [hdestroy]
  | some k => rfl

theorem known_clientDrop (hopen : 0 ≤ (t.clients i).fd) (now : Int) :
    (clientDrop t i now).known = t.known := by
  obtain ⟨hothers, hself, -, -⟩ := clientDrop_frame t i now
  have hsum := sum_openFd (t := t) (u := clientDrop t i now) (i := i)
    fun i' hne => congrArg ClClient.fd (hothers i' hne)
  rw [hself, openFd_of_nonneg hopen, openFd_of_neg (by decide), add_zero] at hsum
  unfold Transport.known
  rw [closed_clientDrop, ← Multiset.coe_add, Multiset.coe_singleton, ← hsum]
  abel

end Known

/-! ## Giving up -/

/-- No window is entered, and the other users of the stack do nothing. -/
abbrev Releasing : LedgerOp → Prop := World.Routine (.expire 0)

structure Gives (t u : Transport) : Prop where
  ledger : ∀ foreign, Ledger.system.Reaches Releasing (t.ledger foreign) (u.ledger foreign)
  session : Session t → Session u
  known : u.known = t.known
  named : ∀ h id, u.Names h id → ∃ h', t.Names h' id
  agree : ∀ q : Nat → Bool, (∀ h id, t.Names h id → q id = false) → t.stack.Agree q u.stack

namespace Gives

variable {t u v : Transport}

theorem refl (t : Transport) : Gives t t :=
  ⟨fun _ => .refl _ _, id, rfl, fun h _ hnames => ⟨h, hnames⟩, fun q _ => .refl q _⟩

theorem trans (h : Gives t u) (h' : Gives u v) : Gives t v where
  ledger foreign := (h.ledger foreign).trans (h'.ledger foreign)
  session ht := h'.session (h.session ht)
  known := h'.known.trans h.known
  named k id hnames := by
    obtain ⟨k', hk'⟩ := h'.named k id hnames
    exact h.named k' id hk'
  agree q hq := (h.agree q hq).trans (h'.agree q fun k id hnames => by
    obtain ⟨k', hk'⟩ := h.named k id hnames
    exact hq k' id hk')

theorem clientDrop {i : Fin clMaxClients} (hopen : 0 ≤ (t.clients i).fd) (now : Int) :
    Gives t (clientDrop t i now) where
  ledger foreign := World.drop_reaches _ t i now foreign
  session ht := ht.clientDrop i now
  known := known_clientDrop hopen now
  named h id hnames := by
    obtain ⟨hothers, hself, horphans, -⟩ := clientDrop_frame t i now
    obtain ⟨j, hwid, hid⟩ := hnames
    cases h with
    | client i' =>
        by_cases hi : i' = i
        · exact (hwid (by rw [Transport.wins, hi, hself]; rfl)).elim
        · have hsame : (Native.clientDrop t i now).wins (.client i') = t.wins (.client i') :=
            congrArg ClClient.wins (hothers i' hi)
          rw [hsame] at hwid hid
          exact ⟨.client i', j, hwid, hid⟩
    | orphan k =>
        have hkept := congrArg ClOrphan.wins (horphans k)
        split at hkept
        · have hmoved : (Native.clientDrop t i now).wins (.orphan k) = t.wins (.client i) := hkept
          rw [hmoved] at hwid hid
          exact ⟨.client i, j, hwid, hid⟩
        · have hsame : (Native.clientDrop t i now).wins (.orphan k) = t.wins (.orphan k) := hkept
          rw [hsame] at hwid hid
          exact ⟨.orphan k, j, hwid, hid⟩
  agree q hq := clientDrop_agree t i now (hq (.client i))

theorem orphanDestroy (t : Transport) (k : Fin clMaxClients) : Gives t (orphanDestroy t k) where
  ledger foreign := (orphanDestroy_reaches foreign t k).mono fun _ => World.routine_of_by
  session ht := by
    have hclients := (orphanDestroy_frame t k).1
    exact ⟨by rw [hclients]; exact ht.closed, by rw [hclients]; exact ht.ready⟩
  known := known_of_eq (fun i => by rw [(orphanDestroy_frame t k).1]) (closed_orphanDestroy t k)
  named h id hnames := by
    obtain ⟨hclients, horphans, -⟩ := orphanDestroy_frame t k
    obtain ⟨j, hwid, hid⟩ := hnames
    cases h with
    | client i =>
        have hsame : (Native.orphanDestroy t k).wins (.client i) = t.wins (.client i) :=
          congrArg ClClient.wins (congrFun hclients i)
        rw [hsame] at hwid hid
        exact ⟨.client i, j, hwid, hid⟩
    | orphan k' =>
        by_cases hk : k' = k
        · exact (hwid (by rw [Transport.wins, horphans, if_pos hk]; rfl)).elim
        · have hsame : (Native.orphanDestroy t k).wins (.orphan k') = t.wins (.orphan k') := by
            rw [Transport.wins, Transport.wins, horphans, if_neg hk]
          rw [hsame] at hwid hid
          exact ⟨.orphan k', j, hwid, hid⟩
  agree q hq := orphanDestroy_agree t k (hq (.orphan k))

theorem dropConnected (now : Fin clMaxClients → Int) (t : Transport) (i : Fin clMaxClients) :
    Gives t (dropConnected now t i) := by
  unfold Native.dropConnected
  split
  · exact .clientDrop ‹_› (now i)
  · exact .refl t

theorem reapParked (t : Transport) (k : Fin clMaxClients) : Gives t (reapParked t k) := by
  unfold Native.reapParked
  split
  · exact .orphanDestroy t k
  · exact .refl t

theorem foldl {f : Transport → Fin clMaxClients → Transport} (hf : ∀ t i, Gives t (f t i))
    (is : List (Fin clMaxClients)) (t : Transport) : Gives t (is.foldl f t) :=
  List.foldlRecOn (motive := Gives t) is f (.refl t) fun u hu i _ => hu.trans (hf u i)

theorem created (h : Gives t u) : u.history.created = t.history.created :=
  (h.ledger []).keeps (I := fun L => L.created = t.history.created)
    (fun L op hL _ hop => by
      cases op with
      | create h j m sw sh => exact (show False from hop).elim
      | _ => exact hL) rfl

end Gives

theorem settled_of_foldl {σ ι : Type} {f : σ → ι → σ} {D : σ → ι → Prop}
    (hdone : ∀ s i, D (f s i) i) (hkept : ∀ s i i', D s i' → D (f s i) i') (is : List ι) (s : σ) :
    ∀ i ∈ is, D (is.foldl f s) i := by
  have hstays (is : List ι) : ∀ s i, D s i → D (is.foldl f s) i := by
    induction is with
    | nil => exact fun _ _ h => h
    | cons i is ih => exact fun s i' h => ih (f s i) i' (hkept s i i' h)
  induction is generalizing s with
  | nil => exact fun _ hi => by cases hi
  | cons i is ih =>
      intro i' hi'
      rcases List.mem_cons.mp hi' with rfl | hi'
      · exact hstays is (f s i') i' (hdone s i')
      · exact ih (f s i) i' hi'

theorem emptied (t : Transport) (now : Fin clMaxClients → Int) :
    let u := (List.finRange clMaxClients).foldl reapParked
      ((List.finRange clMaxClients).foldl (dropConnected now) t)
    Gives t u ∧ (∀ i, (u.clients i).fd < 0) ∧ ∀ k, (u.orphans k).token = 0 := by
  have hdropped := settled_of_foldl (f := dropConnected now) (D := fun t i => (t.clients i).fd < 0)
    (fun t i => ?_) (fun t i i' hi' => ?_) (List.finRange clMaxClients) t
  · have hreaped := settled_of_foldl (f := reapParked) (D := fun t k => (t.orphans k).token = 0)
      (fun t k => ?_) (fun t k k' hk' => ?_) (List.finRange clMaxClients)
      ((List.finRange clMaxClients).foldl (dropConnected now) t)
    · refine ⟨(Gives.foldl (.dropConnected now) _ t).trans (.foldl .reapParked _ _), fun i => ?_,
        fun k => hreaped k (List.mem_finRange k)⟩
      refine List.foldlRecOn (motive := fun u : Transport => (u.clients i).fd < 0) _ _
        (hdropped i (List.mem_finRange i)) fun u hu k _ => ?_
      unfold reapParked
      split
      · rwa [(orphanDestroy_frame u k).1]
      · exact hu
    · unfold reapParked
      split
      · rw [(orphanDestroy_frame t k).2.1, if_pos rfl]
        rfl
      · exact not_not.mp ‹_›
    · unfold reapParked
      split
      · rw [(orphanDestroy_frame t k).2.1]
        split
        · rfl
        · exact hk'
      · exact hk'
  · unfold dropConnected
    split
    · rw [(clientDrop_frame t i (now i)).2.1]
      decide
    · omega
  · unfold dropConnected
    split
    · rcases Watch.clientDrop_fd t i (now i) i' with hfd | hfd <;> omega
    · exact hi'

/-! ## The descriptors of a run -/

def Event.received : Event → Multiset Int
  | .addClient fd _ => {fd}
  | .datagram _ d _ _ => d.fds
  | _ => 0

instance (t : Transport) (i : Fin clMaxClients) (d : Datagram) :
    Decidable (LeaksDescriptor t i d) :=
  inferInstanceAs (Decidable (_ = true ∧ _ = clCommitType ∧ ClCommit.size ≤ _ ∧ _ = 0 ∧ _ = 2))

/-- The second descriptor of a `COMMIT` that does not declare a fence. -/
def World.leaked (W : World) : Event → Multiset Int
  | .datagram i d _ _ => if LeaksDescriptor W.t i d then (d.fds.drop 1 : List Int) else 0
  | _ => 0

/-- A datagram brings at most `CL_MAX_FDS` descriptors. -/
def Event.FewFds : Event → Prop
  | .datagram _ d _ _ => d.fds.length ≤ clMaxFds
  | _ => True

theorem dispatch_fd (t : Transport) (i : Fin clMaxClients) (d : Datagram) (k : Kernel)
    (dirty : Bool) (i' : Fin clMaxClients) :
    ((dispatch t i d k dirty).t.clients i').fd = (t.clients i').fd := by
  rcases dispatch_frame t i d k dirty with htable | ⟨-, -, -, hhello⟩
  · exact (htable.session i').1
  · obtain ⟨u, hu, hclients, -⟩ := acceptHello_frame t i d
    obtain ⟨hothers, -, hfd, -⟩ := hu.frame
    rw [← hclients, ← hhello] at hothers hfd
    by_cases hi : i' = i
    · rw [hi]
      exact hfd
    · rw [hothers i' hi]

theorem closed_dispatch {t : Transport} {i : Fin clMaxClients} {d : Datagram}
    (hfds : d.fds.length ≤ clMaxFds) (k : Kernel) (dirty : Bool) :
    (t.os.closed : Multiset Int) + d.fds = (dispatch t i d k dirty).t.os.closed +
      if LeaksDescriptor t i d then ((d.fds.drop 1 : List Int) : Multiset Int) else 0 := by
  rcases dispatch_closes_or_commit t i d k dirty with ⟨⟨closed, heq, hperm⟩, hno⟩ |
    ⟨hready, htype, hfull, heq⟩
  · rw [heq, if_neg hno, add_zero, ← Multiset.coe_add, Multiset.coe_eq_coe.mpr hperm]
  · have hleaks : LeaksDescriptor t i d ↔ UndeclaredFence (.read d.buf) d.fds :=
      ⟨fun h => h.2.2.2, fun h => ⟨hready, htype, hfull, h⟩⟩
    rw [heq, closed_onCommit, ← Multiset.coe_add]
    unfold UndeclaredFence at hleaks
    unfold consumeFence
    match hd : d.fds, hfds with
    | [], _ => simp [hleaks, hd]
    | [fd], _ => simp [hleaks, hd]
    | [fd, fence], _ =>
        by_cases hfence : (ClCommit.read d.buf).buffer.hasFence = 0
        · simp only [hleaks, hfence, hd, ne_eq, not_true_eq_false, if_false, if_true,
            List.length_cons, List.length_nil, and_self, List.take_succ_cons, List.take_zero,
            List.drop_succ_cons, List.drop_zero]
          exact (add_assoc (t.os.closed : Multiset Int) {fd} {fence}).symm
        · simp only [hleaks, hfence, hd, ne_eq, not_false_eq_true, if_true, false_and, if_false,
            List.take_succ_cons, List.take_zero, Os.close, add_zero]
          rw [← Multiset.coe_add, add_assoc]
          exact congrArg _ (add_comm ({fd} : Multiset Int) {fence})
    | _ :: _ :: _ :: _, h => simp [clMaxFds] at h

theorem known_clientDatagram {t : Transport} {i : Fin clMaxClients} (hopen : 0 ≤ (t.clients i).fd)
    {d : Datagram} (hfds : d.fds.length ≤ clMaxFds) (k : Kernel) (now : Int) (dirty : Bool) :
    t.known + d.fds = (clientDatagram t i d k now dirty).t.known +
      if LeaksDescriptor t i d then ((d.fds.drop 1 : List Int) : Multiset Int) else 0 := by
  rcases clientDatagram_cases t i d k now dirty with heq | ⟨why, heq⟩
  · have hclosed := closed_dispatch (t := t) (i := i) hfds k dirty
    rw [heq]
    unfold Transport.known
    simp only [dispatch_fd]
    rw [add_assoc, hclosed, add_assoc]
  · have hno : ¬ LeaksDescriptor t i d := fun hleak =>
      not_refusable hleak.1 hleak.2.1 hleak.2.2.1 (by decide) why
    have hopen' : 0 ≤ ((closeFds t d.fds).clients i).fd := hopen
    rw [heq, if_neg hno, add_zero, known_clientDrop hopen']
    unfold Transport.known
    rw [closed_closeFds, ← Multiset.coe_add, ← add_assoc]
    rfl

theorem known_addClient (t : Transport) {fd : Int} (hfd : 0 ≤ fd) (epollOk : Bool) :
    t.known + {fd} = (transportAddClient t fd epollOk).known := by
  unfold transportAddClient
  cases hfind : clientByFd t (-1) with
  | none =>
      unfold Transport.known
      rw [add_assoc]
      rfl
  | some i =>
      have hfree : (t.clients i).fd = -1 := by simpa using firstIndex_eq_some hfind
      have hsum (c : ClClient) := sum_openFd (t := t) (u := t.setClient i c) (i := i)
        fun i' hne => by simp [Transport.setClient, hne]
      simp only [hfree, openFd_of_neg (show (-1 : Int) < 0 by decide), add_zero] at hsum
      cases epollOk with
      | true =>
          have hnew := hsum (.zero fd)
          rw [show ((t.setClient i (.zero fd)).clients i).fd = fd by
            simp [Transport.setClient, ClClient.zero], openFd_of_nonneg hfd] at hnew
          dsimp only
          rw [if_pos rfl]
          unfold Transport.known
          rw [hnew, add_right_comm]
          rfl
      | false =>
          have hnew := hsum (.zero (-1))
          rw [show ((t.setClient i (.zero (-1))).clients i).fd = -1 by
            simp [Transport.setClient, ClClient.zero], openFd_of_neg (by decide), add_zero] at hnew
          dsimp only
          rw [if_neg Bool.false_ne_true]
          unfold Transport.known
          rw [add_assoc]
          exact congrArg (· + _) hnew.symm

theorem World.known_next {W : World} {e : Event} (hen : W.enabled e) (hfew : e.FewFds) :
    W.t.known + e.received = (W.next e).t.known + W.leaked e := by
  cases e with
  | addClient fd epollOk => exact (known_addClient W.t hen epollOk).trans (add_zero _).symm
  | datagram i d k now => exact known_clientDatagram hen.1 hfew k now false
  | hangup i now =>
      simp only [World.next, Event.received, World.leaked, add_zero]
      exact (known_clientDrop hen now).symm
  | expire now =>
      simp only [World.next, Event.received, World.leaked, add_zero]
      exact (orphansExpire_rule (P := fun u => u.known = W.t.known)
        (fun u k hu _ _ => (Gives.orphanDestroy u k).known.trans hu) rfl).symm
  | updateFocus focusId =>
      simp only [World.next, Event.received, World.leaked, add_zero]
      refine (known_of_eq (fun i => ?_) (closed_notifyFocus W.t focusId)).symm
      exact congrArg (fun c => ClClient.fd (c i)) (notifyFocus_clients W.t focusId)
  | other op => rfl

theorem World.known_exec {W : World} {es : List Event} (hrun : World.system.Legal W es)
    (hfew : ∀ e ∈ es, e.FewFds) :
    W.t.known + World.system.total (fun _ => Event.received) W es =
      (World.system.exec W es).t.known + World.system.total World.leaked W es := by
  have hstep (W : World) (e : Event) (h : World.system.enabled W e ∧ e.FewFds) :
      W.t.known + e.received = (World.system.next W e).t.known + W.leaked e :=
    known_next h.1 h.2
  generalize Transport.known = known at hstep ⊢
  exact System.balanced hstep (System.each_and hrun (System.each_of_mem _ hfew))

/-! ## The end -/

section Empty

variable {t : Transport}

theorem known_of_empty (hfds : ∀ i, (t.clients i).fd < 0) : t.known = t.os.closed := by
  unfold Transport.known
  rw [Finset.sum_eq_zero fun i _ => openFd_of_neg (hfds i), zero_add]

theorem vacant_of_empty (ht : Session t) (hfds : ∀ i, (t.clients i).fd < 0)
    (horphans : ∀ k, (t.orphans k).token = 0) (h : Holder) : t.token h = 0 := by
  cases h with
  | client i => exact ht.fresh (ht.closed i (hfds i))
  | orphan k => exact horphans k

theorem maps_of_vacant {foreign : List Nat} (hslots : (t.ledger foreign).Slots)
    (hvacant : ∀ h, t.token h = 0) : t.os.maps = [] := by
  refine List.eq_nil_iff_forall_not_mem.mpr fun ⟨base, len⟩ hmem => ?_
  obtain ⟨h, j, hbuf, -⟩ := hslots.mapping.mapped.mp hmem
  rw [hslots.mapping.free (hslots.vacant (hvacant h) j)] at hbuf
  cases hbuf

theorem known_closeOpen (t : Transport) (fd : Int) :
    ((closeOpen t fd).os.closed : Multiset Int) = t.os.closed + openFd fd := by
  unfold closeOpen openFd
  split
  · rfl
  · exact (add_zero _).symm

theorem closeOpen_rest (t : Transport) (fd : Int) : (closeOpen t fd).os.maps = t.os.maps ∧
    (closeOpen t fd).stack = t.stack ∧ (closeOpen t fd).history = t.history := by
  unfold closeOpen
  split <;> exact ⟨rfl, rfl, rfl⟩

end Empty

/--
At the end of every run: the descriptors that were closed are those that the
transport was given, less the undeclared second descriptors of commits; no
mapping is left; the windows that no slot names are as they were; and if no
client asked for the window id 0, no window of a client is left.
-/
theorem transport_destroy_releases (sw sh : Int) (ep : Endpoint) (es : List Event)
    (hrun : World.system.Legal (.start sw sh) es) (hfew : ∀ e ∈ es, e.FewFds)
    (hwithin : (World.system.exec (.start sw sh) es).Within) (now : Fin clMaxClients → Int) :
    let W := World.system.exec (.start sw sh) es
    let t := transportDestroy W.t ep now
    t.os.closed + World.system.total World.leaked (.start sw sh) es =
        openFd ep.listenFd + openFd ep.epollFd +
          World.system.total (fun _ => Event.received) (.start sw sh) es ∧
      t.os.maps = [] ∧
      (∀ q : Nat → Bool, (∀ h id, W.t.Names h id → q id = false) → W.t.stack.Agree q t.stack) ∧
      (World.system.Each World.NamesWindow (.start sw sh) es →
        ∀ p ∈ t.history.created, p.1 ∉ t.stack.ids) := by
  intro W t
  have hW : W.Inv := (World.start_inv sw sh).run hrun hwithin
  obtain ⟨hgives, hfds, horphans⟩ := emptied W.t now
  have ht : t = closeOpen (closeOpen ((List.finRange clMaxClients).foldl reapParked
      ((List.finRange clMaxClients).foldl (dropConnected now) W.t)) ep.listenFd) ep.epollFd := rfl
  generalize (List.finRange clMaxClients).foldl reapParked
    ((List.finRange clMaxClients).foldl (dropConnected now) W.t) = u at hgives hfds horphans ht
  clear_value t
  obtain ⟨hmaps, hstack, hhistory⟩ := closeOpen_rest (closeOpen u ep.listenFd) ep.epollFd
  obtain ⟨hmaps', hstack', hhistory'⟩ := closeOpen_rest u ep.listenFd
  rw [← ht] at hmaps hstack hhistory
  have hvacant := vacant_of_empty (hgives.session hW.session) hfds horphans
  have hslots := World.slots_reaches hW.sound.slots (hgives.ledger W.foreign)
  refine ⟨?_, (hmaps.trans hmaps').trans (maps_of_vacant hslots hvacant), fun q hq => ?_,
    fun hnames p hp hlive => ?_⟩
  · have hbalance := World.known_exec hrun hfew
    have hstart : (World.start sw sh).t.known = 0 :=
      known_of_empty fun _ => show (-1 : Int) < 0 by decide
    rw [hstart, zero_add, ← hgives.known, known_of_empty hfds] at hbalance
    rw [ht, known_closeOpen, known_closeOpen, hbalance]
    abel
  · rw [hstack, hstack']
    exact hgives.agree q hq
  · rw [hhistory, hhistory'] at hp
    rw [hstack, hstack'] at hlive
    have hheld : W.ledger.Held :=
      (System.invariant (I := fun W => W.Inv ∧ W.ledger.Held)
        (fun _ _ hI h => ⟨hI.1.step h.1.1 h.1.2, hI.1.held_step hI.2 h.1.1 h.1.2 h.2⟩)
        (System.each_and (System.each_below (fun _ _ _ h => h.mono) hrun hwithin) hnames)
        ⟨World.start_inv sw sh, fun p hp => by cases hp⟩).2
    have hbound : (u.ledger W.foreign).Within := by
      show u.history.created.length + W.foreign.length < 4294967295
      rw [hgives.created]
      exact hwithin
    have hleft := hheld.reaches hW.ledger (hgives.ledger W.foreign) (fun op hop => ?_) hbound
    · obtain ⟨h, j, howns, -⟩ := hleft p hp hlive
      exact howns.1 (hslots.vacant (hvacant h) j)
    · cases op with
      | create h j m sw sh => exact (show False from hop).elim
      | _ => trivial

theorem transport_destroy_releases_panelRun :
    let W := World.system.exec (.start 1920 1080) panelRun
    let t := transportDestroy W.t ⟨5, 4⟩ fun _ => 9000
    t.os.closed + World.system.total World.leaked (.start 1920 1080) panelRun =
        openFd 5 + openFd 4 +
          World.system.total (fun _ => Event.received) (.start 1920 1080) panelRun ∧
      t.os.maps = [] ∧
      (∀ q : Nat → Bool, (∀ h id, W.t.Names h id → q id = false) → W.t.stack.Agree q t.stack) ∧
      (World.system.Each World.NamesWindow (.start 1920 1080) panelRun →
        ∀ p ∈ t.history.created, p.1 ∉ t.stack.ids) :=
  transport_destroy_releases 1920 1080 ⟨5, 4⟩ panelRun panelRun_legal
    (by simp [panelRun, Event.FewFds, Datagram.ofWords, clMaxFds]) (by decide) fun _ => 9000

end CrystallineLattice.Native
