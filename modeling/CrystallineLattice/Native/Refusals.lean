import CrystallineLattice.Native.Invariant

/-!
# Refused requests

A request that the server refuses closes its descriptors and does nothing else.  A
`COMMIT` that passes all checks gives up the window's previous frame, and only
then; no check comes after that.
-/

namespace CrystallineLattice.Native

open CrystallineLattice.Foundation
open CrystallineLattice.Stack

/-- Nothing but the list of closed descriptors differs. -/
def OnlyCloses (t u : Transport) : Prop :=
  ∃ closed, u = { t with os := { t.os with closed := closed } }

/-- The window id is in use, the client's table is full, or the stack is full. -/
def CreateRefused (t : Transport) (i : Fin clMaxClients) (m : ClCreateWindow) : Prop :=
  (winFind (t.clients i) m.wid).isSome = true ∨ winAlloc (t.clients i) = none ∨
    winMax ≤ t.stack.count

def CommitRefused (t : Transport) (i : Fin clMaxClients) (m : ClCommit) (fds : List Int)
    (k : Kernel) : Prop :=
  fds = [] ∨ winFind (t.clients i) m.wid = none ∨
    (∃ j, winFind (t.clients i) m.wid = some j ∧
      windowById t.stack ((t.clients i).wins j).serverId = none) ∨
    m.buffer.kind ≠ clBufShm ∨ m.buffer.format ≠ clFormatXrgb8888 ∨ m.buffer.stride = 0 ∨
    m.buffer.height = 0 ∨ k.mmap = none

/-- A shape is sent that is not between 1 and `CL_CURSOR_MAX` wide and high, or cannot be mapped. -/
def CursorRefused (m : ClSetCursor) (fds : List Int) (k : Kernel) : Prop :=
  m.hide = 0 ∧ fds ≠ [] ∧
    (¬ (1 ≤ m.width ∧ m.width ≤ clCursorMax) ∨ ¬ (1 ≤ m.height ∧ m.height ≤ clCursorMax) ∨
      k.mmap = none)

/-- The server refuses the request, by its type. -/
def Refusal (t : Transport) (i : Fin clMaxClients) (d : Datagram) (k : Kernel) : Prop :=
  let c := t.clients i
  let type := d.buf.u32 0
  if type = clCreateWindowType then CreateRefused t i (.read d.buf)
  else if type = clSetTitleType then winFind c (ClSetTitle.read d.buf).wid = none
  else if type = clCommitType then CommitRefused t i (.read d.buf) d.fds k
  else if type = clDestroyWindowType then winFind c (ClDestroyWindow.read d.buf).wid = none
  else if type = clSetGeometryType then winFind c (ClSetGeometry.read d.buf).wid = none
  else if type = clSetCursorType then CursorRefused (.read d.buf) d.fds k
  else False

structure FullRequest (t : Transport) (i : Fin clMaxClients) (d : Datagram) : Prop where
  ready : (t.clients i).hello = true
  type : d.buf.u32 0 ∈ requestTypes
  full : needed (d.buf.u32 0) ≤ d.n

structure CommitTaken (t : Transport) (i : Fin clMaxClients) (d : Datagram) (k : Kernel)
    (j : Fin winMax) (base : Nat) : Prop where
  type : d.buf.u32 0 = clCommitType
  accepted : CommitAccepted t i (.read d.buf) j
  descriptor : d.fds ≠ []
  mapped : k.mmap = some base

variable {t u : Transport} {i : Fin clMaxClients} {k : Kernel}

/-! ## What refusing does -/

namespace OnlyCloses

theorem refl (t : Transport) : OnlyCloses t t := ⟨t.os.closed, rfl⟩

theorem of_eq (h : u = t) : OnlyCloses t u := h ▸ refl t

theorem closeFds (h : OnlyCloses t u) (fds : List Int) : OnlyCloses t (closeFds u fds) := by
  obtain ⟨closed, rfl⟩ := h
  induction fds generalizing closed with
  | nil => exact ⟨closed, rfl⟩
  | cons fd fds ih => exact ih (closed ++ [fd])

theorem onCreateWindow {m : ClCreateWindow} (h : CreateRefused t i m) :
    OnlyCloses t (onCreateWindow t i m) := by
  obtain ⟨heq, -⟩ | ⟨j, haccepted, -⟩ := onCreateWindow_cases t i m
  · exact .of_eq heq
  · rcases h with hused | hfull | hfull
    · rw [haccepted.fresh] at hused
      cases hused
    · rw [haccepted.slot] at hfull
      cases hfull
    · exact absurd haccepted.room (Nat.not_lt_of_le hfull)

theorem onCommit {m : ClCommit} {fds : List Int} (h : CommitRefused t i m fds k) :
    OnlyCloses t (onCommit t i m fds k) := by
  obtain hdone | ⟨closed, j, base, haccepted, hbase, -⟩ := onCommit_cases t i m fds k
  · exact hdone
  · obtain ⟨win, hwin⟩ := haccepted.window
    rcases h with rfl | hunknown | ⟨j', hj', hgone⟩ | hkind | hformat | hstride | hheight | hmap
    · exact .refl t
    · rw [haccepted.slot] at hunknown
      cases hunknown
    · rw [haccepted.slot, Option.some.injEq] at hj'
      rw [← hj', hwin] at hgone
      cases hgone
    · exact absurd haccepted.shm hkind
    · exact absurd haccepted.format hformat
    · exact absurd hstride haccepted.stride
    · exact absurd hheight haccepted.height
    · rw [hbase] at hmap
      cases hmap

/-- The width and the height come from 32-bit fields, so their sign is the only other danger. -/
theorem onSetCursor {m : ClSetCursor} {fds : List Int} (hw : m.width < 4294967296)
    (hh : m.height < 4294967296) (h : CursorRefused m fds k) :
    OnlyCloses t (onSetCursor t m fds k) := by
  obtain ⟨hshow, hshape, hwhy⟩ := h
  unfold Native.onSetCursor
  dsimp only
  rw [if_neg (by simp [hshow, hshape])]
  split
  · exact (refl t).closeFds fds
  · rename_i hsize
    unfold int32 clCursorMax at *
    rcases hwhy with hwide | hhigh | hmap
    · omega
    · omega
    · rw [hmap]
      exact (refl t).closeFds fds

end OnlyCloses

theorem FullRequest.not_refusable {d : Datagram} (h : FullRequest t i d) : ¬ Refusable t i d := by
  refine Native.not_refusable h.ready rfl h.full ?_
  have htype := h.type
  simp only [requestTypes, List.mem_cons, List.not_mem_nil, or_false] at htype
  rcases htype with heq | heq | heq | heq | heq | heq <;> rw [heq] <;> decide

theorem FullRequest.stays {d : Datagram} (h : FullRequest t i d) (k : Kernel) (now : Int)
    (dirty : Bool) :
    clientDatagram t i d k now dirty = dispatch t i d k dirty ∧
      (dispatch t i d k dirty).ok = true := by
  have hstays : clientDatagram t i d k now dirty = dispatch t i d k dirty :=
    (clientDatagram_cases t i d k now dirty).resolve_right fun hdropped =>
      h.not_refusable hdropped.1
  refine ⟨hstays, ?_⟩
  have hpath := dispatch_path t i d k dirty
  generalize dispatch t i d k dirty = r at hpath ⊢
  cases hpath with
  | reject why => exact absurd why h.not_refusable
  | _ => rfl

theorem dispatch_onlyCloses {d : Datagram} (h : FullRequest t i d) (hrefused : Refusal t i d k)
    (dirty : Bool) : OnlyCloses t (dispatch t i d k dirty).t := by
  have hpath := dispatch_path t i d k dirty
  generalize dispatch t i d k dirty = r at hpath ⊢
  unfold Refusal at hrefused
  dsimp only at hrefused
  cases hpath with
  | reject why => exact absurd why h.not_refusable
  | hello fresh type full accepted => exact absurd (h.ready.symm.trans fresh) (by decide)
  | createWindow ready type full =>
      rw [if_pos type] at hrefused
      exact (OnlyCloses.onCreateWindow hrefused).closeFds d.fds
  | setTitle ready type full =>
      rw [type, if_neg (by decide), if_pos rfl] at hrefused
      have hsame : onSetTitle t i (.read d.buf) = t := by
        unfold onSetTitle
        rw [hrefused]
      exact (OnlyCloses.of_eq hsame).closeFds d.fds
  | commit ready type full =>
      rw [type, if_neg (by decide), if_neg (by decide), if_pos rfl] at hrefused
      exact .onCommit hrefused
  | destroyWindow ready type full =>
      rw [type, if_neg (by decide), if_neg (by decide), if_neg (by decide), if_pos rfl] at hrefused
      have hsame : onDestroyWindow t i (.read d.buf) = t := by
        unfold onDestroyWindow
        rw [hrefused]
      exact (OnlyCloses.of_eq hsame).closeFds d.fds
  | setGeometry ready type full =>
      rw [type, if_neg (by decide), if_neg (by decide), if_neg (by decide), if_neg (by decide),
        if_pos rfl] at hrefused
      have hsame : onSetGeometry t i (.read d.buf) = t := by
        unfold onSetGeometry
        rw [hrefused]
      exact (OnlyCloses.of_eq hsame).closeFds d.fds
  | setCursor ready type full =>
      rw [type, if_neg (by decide), if_neg (by decide), if_neg (by decide), if_neg (by decide),
        if_neg (by decide), if_pos rfl] at hrefused
      exact .onSetCursor (Bytes.u32_lt d.buf 4) (Bytes.u32_lt d.buf 8) hrefused
  | ignore ready type => exact absurd h.type type

/-! ## What a frame replaces -/

/-- The mapping that a frame takes the place of, if there is one, is unmapped, and no other. -/
def Replaces (maps maps' : List (Nat × Nat)) (slot : ClWin) (new : Nat × Nat) : Prop :=
  slot.buf = .null ∧ maps' = new :: maps ∨
    ∃ prev, slot.buf = .mapping prev ∧ (prev, slot.bufLen) ∈ maps ∧
      maps' = new :: maps.erase (prev, slot.bufLen) ∧ prev ∉ maps'.map Prod.fst

theorem not_mapped_after_erase {maps : List (Nat × Nat)} {base len : Nat}
    (honce : (maps.map Prod.fst).Nodup) (hmem : (base, len) ∈ maps) :
    base ∉ (maps.erase (base, len)).map Prod.fst := by
  intro hleft
  obtain ⟨⟨base', len'⟩, hin, hbase⟩ := List.mem_map.mp hleft
  have hother := (honce.of_map.mem_erase_iff).mp hin
  have hsame : (base', len') = (base, len) :=
    List.inj_on_of_nodup_map honce hother.2 hmem hbase
  exact hother.1 hsame

theorem winDropBuffer_replaces {foreign : List Nat} {h : Holder} {j : Fin winMax}
    (hL : (t.ledger foreign).Slots) {base : Nat} (len : Nat)
    (hfresh : base ∉ t.os.maps.map Prod.fst) :
    Replaces t.os.maps ((base, len) :: (winDropBuffer t h j).os.maps) (t.wins h j)
      (base, len) := by
  cases hbuf : (t.wins h j).buf with
  | null =>
      rw [winDropBuffer_null hbuf]
      exact .inl ⟨hbuf, rfl⟩
  | block address => exact (hL.mapping.heap hbuf).elim
  | mapping prev =>
      have hmem : (prev, (t.wins h j).bufLen) ∈ t.os.maps :=
        hL.mapping.mapped.mpr ⟨h, j, hbuf, rfl⟩
      have hmaps : (winDropBuffer t h j).os.maps =
          t.os.maps.erase (prev, (t.wins h j).bufLen) := by
        unfold winDropBuffer
        dsimp only
        rw [hbuf, if_neg (by simp), os_setWin]
        rfl
      have hne : prev ≠ base := by
        rintro rfl
        exact hfresh (List.mem_map_of_mem (f := Prod.fst) hmem)
      refine .inr ⟨prev, hbuf, hmem, by rw [hmaps], ?_⟩
      rw [List.map_cons, hmaps, List.mem_cons, not_or]
      exact ⟨hne, not_mapped_after_erase hL.mapping.once hmem⟩

theorem onCommit_replaces {foreign : List Nat} {m : ClCommit} {fds : List Int} {j : Fin winMax}
    {base : Nat} (hL : (t.ledger foreign).Slots) (hfds : fds ≠ [])
    (haccepted : CommitAccepted t i m j) (hbase : k.mmap = some base) (hk : k.Fresh t) :
    Replaces t.os.maps (onCommit t i m fds k).os.maps ((t.clients i).wins j)
      (base, m.buffer.stride * m.buffer.height) := by
  have hfresh := hk base hbase
  obtain ⟨fd, fds, rfl⟩ := List.exists_cons_of_ne_nil hfds
  obtain ⟨closed, rest, hleft⟩ := consumeFence_left t m.buffer fd fds
  have htarget : commitTarget { t with os := { t.os with closed := closed } } i m = some j :=
    (commitTarget_eq_some (t := t)).mpr haccepted
  have hmaps : (onCommit t i m (fd :: fds) k).os.maps =
      (base, m.buffer.stride * m.buffer.height) :: (winDropBuffer t (.client i) j).os.maps := by
    unfold onCommit
    dsimp only
    rw [hleft]
    dsimp only
    rw [htarget, hbase]
    unfold attachBuffer
    dsimp only
    rw [os_setWin]
    exact congrArg (fun u => u.os.maps)
      (winDropBuffer_map (h := .client i) (j := j) (closed ++ [fd]) hL hfresh)
  rw [hmaps]
  exact winDropBuffer_replaces (h := .client i) hL _ hfresh

theorem dispatch_commit {d : Datagram} (h : FullRequest t i d) (htype : d.buf.u32 0 = clCommitType)
    (dirty : Bool) : (dispatch t i d k dirty).t = onCommit t i (.read d.buf) d.fds k := by
  have hpath := dispatch_path t i d k dirty
  generalize dispatch t i d k dirty = r at hpath ⊢
  have hother {type : Nat} (heq : d.buf.u32 0 = type) (hne : type ≠ clCommitType) : False :=
    hne (heq.symm.trans htype)
  cases hpath with
  | reject why => exact absurd why h.not_refusable
  | hello fresh type full accepted => exact absurd (h.ready.symm.trans fresh) (by decide)
  | createWindow ready type full => exact (hother type (by decide)).elim
  | setTitle ready type full => exact (hother type (by decide)).elim
  | commit ready type full => rfl
  | destroyWindow ready type full => exact (hother type (by decide)).elim
  | setGeometry ready type full => exact (hother type (by decide)).elim
  | setCursor ready type full => exact (hother type (by decide)).elim
  | ignore ready type => exact absurd h.type type

/--
In every state that the transport can reach, and for every full-size request of a
client that has shaken hands: if the server refuses it, only descriptors are closed
and the client stays connected.  A `COMMIT` that passes all checks maps its buffer
and unmaps the window's previous one, if there is one, and no other.
-/
theorem refused_request_changes_nothing (sw sh : Int) (es : List Event)
    (hrun : World.system.Legal (.start sw sh) es) {d : Datagram} {now : Int}
    (hen : (World.system.exec (.start sw sh) es).enabled (.datagram i d k now))
    (hfull : FullRequest (World.system.exec (.start sw sh) es).t i d) (dirty : Bool) :
    let t := (World.system.exec (.start sw sh) es).t
    let r := clientDatagram t i d k now dirty
    r.ok = true ∧ (Refusal t i d k → OnlyCloses t r.t) ∧
      ∀ j base, CommitTaken t i d k j base →
        let b := (ClCommit.read d.buf).buffer
        Replaces t.os.maps r.t.os.maps ((t.clients i).wins j) (base, b.stride * b.height) := by
  have hsound := (World.start_inv sw sh).sound.run hrun
  generalize World.system.exec (.start sw sh) es = W at hen hfull hsound
  obtain ⟨hsame, hok⟩ := hfull.stays k now dirty
  dsimp only
  rw [hsame]
  refine ⟨hok, fun hrefused => dispatch_onlyCloses hfull hrefused dirty, fun j base htaken => ?_⟩
  rw [dispatch_commit hfull htaken.type dirty]
  exact onCommit_replaces hsound.slots htaken.descriptor htaken.accepted htaken.mapped hen.2

/-- A panel whose taskbar shows a frame sends another one in a format that is not known. -/
def wrongFormat : Datagram :=
  .ofWords [clCommitType, 3, clBufShm, 4, 4, 16, 7, 0, 0, 0, 0, 0] [13]

theorem refused_request_changes_nothing_panelRun :
    let t := (World.system.exec (.start 1920 1080) (panelRun.take 5)).t
    let r := clientDatagram t 0 wrongFormat ⟨some 8192, fun _ => 0⟩ 40 false
    r.ok = true ∧ OnlyCloses t r.t := by
  have hfd : (0 : Int) ≤ 7 := by decide
  have hlegal : World.system.Legal (.start 1920 1080) (panelRun.take 5) :=
    ⟨hfd, ⟨by decide, by decide⟩, trivial, ⟨by decide, by decide⟩,
      ⟨by decide, by decide⟩, trivial⟩
  obtain ⟨hok, hrefused, -⟩ := refused_request_changes_nothing 1920 1080 (panelRun.take 5) hlegal
    (i := 0) (d := wrongFormat) (k := ⟨some 8192, fun _ => 0⟩)
    ⟨by decide, by decide⟩ ⟨by decide, by decide, by decide⟩ false
  refine ⟨hok, hrefused ?_⟩
  unfold Refusal
  dsimp only
  rw [if_neg (by decide), if_neg (by decide), if_pos (by decide)]
  have hformat : (ClCommit.read wrongFormat.buf).buffer.format ≠ clFormatXrgb8888 := by decide
  exact .inr (.inr (.inr (.inr (.inl hformat))))

end CrystallineLattice.Native
