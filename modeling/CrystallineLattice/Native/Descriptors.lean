import CrystallineLattice.Native.Requests

/-!
# What becomes of the passed descriptors

Every path through `dispatch` closes the descriptors that came with the
datagram, exactly once each, except one: a `COMMIT` that brings two descriptors
and does not declare a fence leaves the second one open.
-/

namespace CrystallineLattice.Native

open CrystallineLattice.Stack

/-! ## Helpers close nothing -/

theorem closed_closeFds (t : Transport) (fds : List Int) :
    (closeFds t fds).os.closed = t.os.closed ++ fds := by
  have hfold : ∀ os : Os, (fds.foldl Os.close os).closed = os.closed ++ fds := by
    induction fds with
    | nil => simp
    | cons fd fds ih =>
        intro os
        rw [List.foldl_cons, ih]
        simp [Os.close]
  exact hfold t.os

@[simp] theorem closed_munmap (os : Os) (p : Ptr) (len : Nat) :
    (os.munmap p len).closed = os.closed := by
  cases p <;> rfl

@[simp] theorem closed_winDropBuffer (t : Transport) (h : Holder) (j : Fin winMax) :
    (winDropBuffer t h j).os.closed = t.os.closed := by
  unfold winDropBuffer
  by_cases hnull : (t.wins h j).buf = .null <;> simp [hnull]

@[simp] theorem closed_sendFocus (t : Transport) (id : Nat) (focused : Bool) :
    (sendFocus t id focused).os.closed = t.os.closed := by
  unfold sendFocus
  cases findByServerId t id <;> rfl

@[simp] theorem closed_notifyFocus (t : Transport) (id : Nat) :
    (notifyFocus t id).os.closed = t.os.closed := by
  unfold notifyFocus
  by_cases h : id = t.focusedServerId <;> simp [h]

@[simp] theorem closed_sendConfigure (t : Transport) (fd : Int) (wid id : Nat) :
    (sendConfigure t fd wid id).os.closed = t.os.closed := by
  unfold sendConfigure
  cases windowById t.stack id <;> rfl

@[simp] theorem closed_clientReclaim (t : Transport) (i : Fin clMaxClients) (token : Nat) :
    (clientReclaim t i token).1.os.closed = t.os.closed := by
  unfold clientReclaim
  by_cases h : token = 0
  · simp [h]
  · cases orphanByToken t token <;>
      simp [h, Transport.setClient, Transport.setOrphan]

/-! ## Handlers that do not own the descriptors -/

@[simp] theorem closed_adoptWindow (t : Transport) (i : Fin clMaxClients) (j : Fin winMax)
    (wid : Nat) (role : WinRole) (id : Nat) :
    (adoptWindow t i j wid role id).os.closed = t.os.closed := by
  unfold adoptWindow
  by_cases h : role = .normal <;> simp [h]

theorem closed_onCreateWindow (t : Transport) (i : Fin clMaxClients) (m : ClCreateWindow) :
    (onCreateWindow t i m).os.closed = t.os.closed := by
  rcases onCreateWindow_cases t i m with ⟨h, -⟩ | ⟨j, -, h⟩
  · rw [h]
  · rw [h]
    split
    · rfl
    · rw [closed_adoptWindow]

theorem closed_onSetTitle (t : Transport) (i : Fin clMaxClients) (m : ClSetTitle) :
    (onSetTitle t i m).os.closed = t.os.closed := by
  rcases onSetTitle_cases t i m with h | ⟨j, title, -, h⟩ <;> rw [h]

theorem closed_onDestroyWindow (t : Transport) (i : Fin clMaxClients) (m : ClDestroyWindow) :
    (onDestroyWindow t i m).os.closed = t.os.closed := by
  rcases onDestroyWindow_cases t i m with h | ⟨j, -, h⟩
  · rw [h]
  · rw [h]
    simp [closeSlot]

theorem closed_onSetGeometry (t : Transport) (i : Fin clMaxClients) (m : ClSetGeometry) :
    (onSetGeometry t i m).os.closed = t.os.closed := by
  rcases onSetGeometry_cases t i m with h | ⟨j, -, h⟩ <;> rw [h]

theorem closed_acceptHello (t : Transport) (i : Fin clMaxClients) (d : Datagram) :
    (acceptHello t i d).os.closed = t.os.closed ++ d.fds := by
  unfold acceptHello
  rw [closed_closeFds]
  simp only [sendWelcome, clSend, Os.send]
  split <;> simp [assignToken, Transport.setClient]

/-! ## Handlers that own them -/

theorem closed_onSetCursor (t : Transport) (m : ClSetCursor) (fds : List Int) (k : Kernel) :
    (onSetCursor t m fds k).os.closed = t.os.closed ++ fds := by
  unfold onSetCursor
  dsimp only
  split
  · rw [closed_closeFds]
  · split
    · rw [closed_closeFds]
    · cases k.mmap with
      | none => rw [closed_closeFds]
      | some base =>
          simp only [closed_munmap, closed_closeFds]
          rfl

@[simp] theorem closed_attachBuffer (t : Transport) (h : Holder) (j : Fin winMax)
    (b : ClBuffer) (base : Nat) : (attachBuffer t h j b base).os.closed = t.os.closed := by
  simp [attachBuffer]

theorem closed_onCommit (t : Transport) (i : Fin clMaxClients) (m : ClCommit)
    (fds : List Int) (k : Kernel) :
    (onCommit t i m fds k).os.closed =
      (consumeFence t m.buffer fds).1.os.closed ++
        (consumeFence t m.buffer fds).2.take 1 := by
  obtain ⟨left, hleft⟩ : ∃ left, consumeFence t m.buffer fds = left := ⟨_, rfl⟩
  obtain ⟨t', rest⟩ := left
  simp only [onCommit, hleft]
  cases rest with
  | nil => simp
  | cons bufFd rest =>
      dsimp only
      cases commitTarget t' i m with
      | none => simp [Os.close]
      | some j =>
          cases k.mmap with
          | none => simp [Os.close]
          | some base => simp [Os.close, Os.map]

/-- A commit that brings a second descriptor which it does not declare as a fence. -/
def UndeclaredFence (m : ClCommit) (fds : List Int) : Prop :=
  m.buffer.hasFence = 0 ∧ fds.length = 2

theorem onCommit_closes_iff (t : Transport) (i : Fin clMaxClients) (m : ClCommit)
    {fds : List Int} (hfds : fds.length ≤ clMaxFds) (k : Kernel) :
    (∃ closed, (onCommit t i m fds k).os.closed = t.os.closed ++ closed ∧
      closed.Perm fds) ↔ ¬ UndeclaredFence m fds := by
  rw [closed_onCommit]
  unfold UndeclaredFence consumeFence
  match fds, hfds with
  | [], _ => simp
  | [fd], _ => simp
  | [fd, fence], _ =>
      by_cases hfence : m.buffer.hasFence = 0
      · simp only [hfence, ne_eq, not_true_eq_false, if_false, List.take_succ_cons,
          List.take_zero, List.append_cancel_left_eq, exists_eq_left', List.length_cons,
          List.length_nil, true_and, iff_false]
        intro hperm
        simpa using hperm.length_eq
      · have hswap : [fence, fd].Perm [fd, fence] := List.Perm.swap fd fence []
        simp only [hfence, ne_eq, not_false_eq_true, if_true, Os.close, List.take_succ_cons,
          List.take_zero, List.append_assoc, List.append_cancel_left_eq, exists_eq_left',
          false_and, iff_true]
        exact hswap

/-! ## Dispatch -/

/-- The datagram is a full-size `COMMIT` of a handshaken client with an undeclared descriptor. -/
def LeaksDescriptor (t : Transport) (i : Fin clMaxClients) (d : Datagram) : Prop :=
  (t.clients i).hello = true ∧ d.buf.u32 0 = clCommitType ∧ ClCommit.size ≤ d.n ∧
    UndeclaredFence (.read d.buf) d.fds

/-- Each passed descriptor has been closed, once. -/
def ClosesAll (t t' : Transport) (fds : List Int) : Prop :=
  ∃ closed, t'.os.closed = t.os.closed ++ closed ∧ closed.Perm fds

theorem ClosesAll.of_eq {t t' : Transport} {fds : List Int}
    (h : t'.os.closed = t.os.closed ++ fds) : ClosesAll t t' fds :=
  ⟨fds, h, List.Perm.refl _⟩

theorem ClosesAll.closeFds {t t' : Transport} (h : t'.os.closed = t.os.closed)
    (fds : List Int) : ClosesAll t (closeFds t' fds) fds :=
  .of_eq (by rw [closed_closeFds, h])

/-- What `dispatch` closes on each path; only a `COMMIT` depends on what it declares. -/
theorem dispatch_closes_or_commit (t : Transport) (i : Fin clMaxClients) (d : Datagram)
    (k : Kernel) (dirty : Bool) :
    (ClosesAll t (dispatch t i d k dirty).t d.fds ∧ ¬ LeaksDescriptor t i d) ∨
      ((t.clients i).hello = true ∧ d.buf.u32 0 = clCommitType ∧ ClCommit.size ≤ d.n ∧
        (dispatch t i d k dirty).t = onCommit t i (.read d.buf) d.fds k) := by
  have hpath := dispatch_path t i d k dirty
  generalize dispatch t i d k dirty = r at hpath ⊢
  have htype {type : Nat} (h : d.buf.u32 0 = type) (hne : type ≠ clCommitType) :
      ¬ LeaksDescriptor t i d := fun hleak => hne (h.symm.trans hleak.2.1)
  cases hpath with
  | reject why =>
      refine .inl ⟨.closeFds rfl d.fds, fun hleak => ?_⟩
      exact not_refusable hleak.1 hleak.2.1 hleak.2.2.1 (by decide) why
  | hello fresh type full accepted =>
      exact .inl ⟨.of_eq (closed_acceptHello t i d), htype type (by decide)⟩
  | createWindow ready type full =>
      exact .inl ⟨.closeFds (closed_onCreateWindow t i _) d.fds, htype type (by decide)⟩
  | setTitle ready type full =>
      exact .inl ⟨.closeFds (closed_onSetTitle t i _) d.fds, htype type (by decide)⟩
  | commit ready type full => exact .inr ⟨ready, type, full, rfl⟩
  | destroyWindow ready type full =>
      exact .inl ⟨.closeFds (closed_onDestroyWindow t i _) d.fds, htype type (by decide)⟩
  | setGeometry ready type full =>
      exact .inl ⟨.closeFds (closed_onSetGeometry t i _) d.fds, htype type (by decide)⟩
  | setCursor ready type full =>
      exact .inl ⟨.of_eq (closed_onSetCursor t _ d.fds k), htype type (by decide)⟩
  | ignore ready type =>
      refine .inl ⟨.closeFds rfl d.fds, fun hleak => type ?_⟩
      rw [hleak.2.1]
      decide

/--
For every client state, datagram and list of at most `CL_MAX_FDS` descriptors,
`dispatch` closes exactly the descriptors it was given, once each, if and only
if the datagram is not a commit with an undeclared second descriptor.
-/
theorem dispatch_closes_descriptors_iff (t : Transport) (i : Fin clMaxClients) (d : Datagram)
    (k : Kernel) (dirty : Bool) (hfds : d.fds.length ≤ clMaxFds) :
    ClosesAll t (dispatch t i d k dirty).t d.fds ↔ ¬ LeaksDescriptor t i d := by
  rcases dispatch_closes_or_commit t i d k dirty with ⟨hcloses, hno⟩ | ⟨hhello, htype, hfull, h⟩
  · exact iff_of_true hcloses hno
  · rw [h, ClosesAll, onCommit_closes_iff t i _ hfds k]
    simp [LeaksDescriptor, hhello, htype, hfull]

def handshaken : Transport :=
  (transportCreate windowStackInit 1920 1080).setClient 0
    { fd := 7, hello := true, token := 1, wins := fun _ => .zero }

def commitDatagram (hasFence : Nat) (fds : List Int) : Datagram :=
  .ofWords [clCommitType, 1, clBufShm, 4, 4, 16, clFormatXrgb8888, 0, 0, 0, hasFence, 0] fds

theorem dispatch_closes_descriptors_iff_declared_fence :
    let d := commitDatagram 1 [10, 11]
    ClosesAll handshaken (dispatch handshaken 0 d ⟨none, fun _ => 0⟩ false).t d.fds ↔
      ¬ LeaksDescriptor handshaken 0 d :=
  dispatch_closes_descriptors_iff _ _ _ _ _ (by decide)

/-- The second descriptor of a `COMMIT` without a fence is never closed. -/
theorem dispatch_leaks_undeclared_fence :
    let d := commitDatagram 0 [10, 11]
    d.fds.length ≤ clMaxFds ∧
      ¬ ClosesAll handshaken (dispatch handshaken 0 d ⟨none, fun _ => 0⟩ false).t d.fds := by
  refine ⟨by decide, ?_⟩
  have hclosed :
      (dispatch handshaken 0 (commitDatagram 0 [10, 11]) ⟨none, fun _ => 0⟩ false).t.os.closed =
        [10] := by decide
  rintro ⟨closed, h, hperm⟩
  rw [hclosed] at h
  have hlen := congrArg List.length h
  have hfds : closed.length = 2 := hperm.length_eq
  simp [hfds] at hlen

end CrystallineLattice.Native
