import CrystallineLattice.Native.Descriptors
import Mathlib.Data.List.Induction

/-!
# Receiving descriptors

`cl_recv` takes one datagram from the socket, and with it the descriptors that the
kernel has installed in the process.  They must not get lost: the caller gets
them, or they are closed here.
-/

namespace CrystallineLattice.Native

def solSocket : Nat := 1
def scmRights : Nat := 1

def cmsgLen (len : Nat) : Nat := 16 + len

/-- A control message; `data` is its data as descriptors. -/
structure ControlMessage where
  level : Nat
  type : Nat
  len : Nat
  data : List Int
  deriving DecidableEq, Repr

/-- What the last `recvmsg` reports, the one that no signal interrupts. -/
structure RecvMsg where
  n : Int
  controls : List ControlMessage
  truncated : Bool
  deriving DecidableEq, Repr

/-- What `cl_recv` leaves: its result, `*nfds`, the array `fds`, and what was closed. -/
structure RecvResult where
  n : Int
  nfds : Nat
  fds : Option (List Int)
  closed : List Int
  deriving DecidableEq, Repr

/-- One control message: the number of descriptors so far, and the array. -/
def takeControl (s : Nat × Option (List Int)) (c : ControlMessage) : Nat × Option (List Int) :=
  if c.level = solSocket ∧ c.type = scmRights then
    let got := (c.len - cmsgLen 0) / 4
    let got := if clMaxFds < got then clMaxFds else got
    (got, s.2.map fun fds => c.data.take got ++ fds.drop got)
  else s

/-- `fds` is the caller's array, unless it is null. -/
def clRecv (m : RecvMsg) (fds : Option (List Int)) : RecvResult :=
  if m.n ≤ 0 then ⟨m.n, 0, fds, []⟩
  else
    let (got, fds) := m.controls.foldl takeControl (0, fds)
    if m.truncated then ⟨m.n, 0, fds, (fds.map (List.take got)).getD []⟩
    else ⟨m.n, got, fds, []⟩

def RecvResult.handed (r : RecvResult) : List Int := (r.fds.getD []).take r.nfds

def RecvMsg.installed (m : RecvMsg) : List Int := m.controls.flatMap ControlMessage.data

def rightsMessage (fds : List Int) : ControlMessage :=
  ⟨solSocket, scmRights, cmsgLen (4 * fds.length), fds⟩

/-- What the kernel can report: at most one `SCM_RIGHTS` message, of new descriptors. -/
structure RecvMsg.Reported (m : RecvMsg) : Prop where
  controls : m.controls = [] ∨ ∃ fds, m.controls = [rightsMessage fds]
  room : m.installed.length ≤ clMaxFds
  distinct : m.installed.Nodup
  failed : m.n < 0 → m.controls = []

/-- Every descriptor goes to the caller or is closed, once. -/
structure KeepsDescriptors (m : RecvMsg) (r : RecvResult) : Prop where
  once : ∀ fd ∈ m.installed, r.handed.count fd = 1 ∧ r.closed.count fd = 0 ∨
    r.handed.count fd = 0 ∧ r.closed.count fd = 1
  bound : r.nfds ≤ clMaxFds

/-! ## The control messages -/

theorem clMaxFds_cap (got : Nat) : (if clMaxFds < got then clMaxFds else got) ≤ clMaxFds := by
  split <;> omega

theorem foldl_takeControl_le (controls : List ControlMessage) (fds : Option (List Int)) :
    (controls.foldl takeControl (0, fds)).1 ≤ clMaxFds := by
  induction controls using List.reverseRecOn with
  | nil => exact Nat.zero_le _
  | append_singleton controls c ih =>
      rw [List.foldl_append, List.foldl_cons, List.foldl_nil, takeControl]
      split
      · exact clMaxFds_cap _
      · exact ih

theorem clRecv_nfds_le (m : RecvMsg) (fds : Option (List Int)) :
    (clRecv m fds).nfds ≤ clMaxFds := by
  unfold clRecv
  dsimp only
  split
  · exact Nat.zero_le _
  · split
    · exact Nat.zero_le _
    · exact foldl_takeControl_le m.controls fds

theorem clRecv_handed_length (m : RecvMsg) (fds : Option (List Int)) :
    (clRecv m fds).handed.length ≤ clMaxFds := by
  rw [RecvResult.handed, List.length_take]
  exact (Nat.min_le_left _ _).trans (clRecv_nfds_le m fds)

theorem takeControl_rights {installed : List Int} (hroom : installed.length ≤ clMaxFds)
    (fds : List Int) :
    takeControl (0, some fds) (rightsMessage installed) =
      (installed.length, some (installed ++ fds.drop installed.length)) := by
  have hgot : (cmsgLen (4 * installed.length) - cmsgLen 0) / 4 = installed.length := by
    unfold cmsgLen
    omega
  unfold takeControl rightsMessage
  dsimp only
  rw [if_pos ⟨rfl, rfl⟩, hgot, if_neg (by omega), Option.map_some,
    List.take_of_length_le (le_refl _)]

theorem clRecv_of_pos {m : RecvMsg} (hm : m.Reported) (hn : 0 < m.n) (fds : List Int) :
    (clRecv m (some fds)).handed = (if m.truncated then [] else m.installed) ∧
      (clRecv m (some fds)).closed = if m.truncated then m.installed else [] := by
  have hroom := hm.room
  unfold clRecv RecvResult.handed
  rw [if_neg (by omega)]
  rcases hm.controls with hnone | ⟨installed, hrights⟩
  · simp only [RecvMsg.installed, hnone, List.foldl_nil, List.flatMap_nil]
    cases m.truncated <;> simp
  · have hinstalled : m.installed = installed := by
      simp [RecvMsg.installed, hrights, rightsMessage]
    rw [hinstalled] at hroom ⊢
    rw [hrights, List.foldl_cons, List.foldl_nil, takeControl_rights hroom]
    cases m.truncated <;> simp

theorem clRecv_of_not_pos {m : RecvMsg} (hn : m.n ≤ 0) (fds : List Int) :
    (clRecv m (some fds)).handed = [] ∧ (clRecv m (some fds)).closed = [] := by
  rw [clRecv, if_pos hn]
  exact ⟨by simp [RecvResult.handed], rfl⟩

/-! ## What is kept -/

/--
No descriptor gets lost, unless it comes with an empty datagram: for that
`cl_recv` returns before it looks at the control messages.
-/
theorem clRecv_keeps_iff {m : RecvMsg} (hm : m.Reported) (fds : List Int) :
    KeepsDescriptors m (clRecv m (some fds)) ↔ m.n ≠ 0 ∨ m.installed = [] := by
  constructor
  · intro hkeeps
    by_contra hlost
    push Not at hlost
    obtain ⟨hzero, hsome⟩ := hlost
    obtain ⟨fd, hfd⟩ := List.exists_mem_of_ne_nil _ hsome
    obtain ⟨hhanded, hclosed⟩ := clRecv_of_not_pos hzero.le fds
    have honce := hkeeps.once fd hfd
    simp [hhanded, hclosed] at honce
  · intro hcond
    refine ⟨?_, clRecv_nfds_le m (some fds)⟩
    intro fd hfd
    have hone := List.count_eq_one_of_mem hm.distinct hfd
    have hpos : 0 < m.n := by
      by_contra hnot
      have hnone : m.installed = [] := by
        rcases hcond with hnonzero | hnone
        · rw [RecvMsg.installed, hm.failed (by omega), List.flatMap_nil]
        · exact hnone
      rw [hnone] at hfd
      cases hfd
    obtain ⟨hhanded, hclosed⟩ := clRecv_of_pos hm hpos fds
    rw [hhanded, hclosed]
    cases m.truncated with
    | true => exact .inr ⟨by simp, by simpa using hone⟩
    | false => exact .inl ⟨by simpa using hone, by simp⟩

def withDescriptor (n : Int) : RecvMsg := ⟨n, [rightsMessage [7]], false⟩

theorem withDescriptor_reported {n : Int} (hn : 0 ≤ n) : (withDescriptor n).Reported where
  controls := .inr ⟨[7], rfl⟩
  room := by
    show (1 : Nat) ≤ 2
    decide
  distinct := by
    show [(7 : Int)].Nodup
    decide
  failed h := absurd h (by simpa [withDescriptor] using hn)

theorem clRecv_keeps_iff_withDescriptor :
    KeepsDescriptors (withDescriptor 20) (clRecv (withDescriptor 20) (some [0, 0])) ↔
      (withDescriptor 20).n ≠ 0 ∨ (withDescriptor 20).installed = [] :=
  clRecv_keeps_iff (withDescriptor_reported (by decide)) [0, 0]

theorem empty_datagram_loses_descriptor :
    (withDescriptor 0).Reported ∧
      ¬ KeepsDescriptors (withDescriptor 0) (clRecv (withDescriptor 0) (some [0, 0])) := by
  refine ⟨withDescriptor_reported (by decide), ?_⟩
  intro hkeeps
  have honce := hkeeps.once 7 (by decide)
  revert honce
  decide

end CrystallineLattice.Native
