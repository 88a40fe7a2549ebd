import CrystallineLattice.Native.Model
import CrystallineLattice.Stack.Invariant

/-!
# What a request can do

The table searches, and then each handler with its early exits named once: the
later files split on these statements and do not unfold the handlers.
-/

namespace CrystallineLattice.Native

open CrystallineLattice.Foundation
open CrystallineLattice.Stack

/-! ## Searches -/

theorem firstIndex_eq_some {n : Nat} {p : Fin n → Bool} {k : Fin n}
    (h : firstIndex p = some k) : p k = true :=
  List.find?_some h

theorem firstIndex_eq_none {n : Nat} {p : Fin n → Bool} :
    firstIndex p = none ↔ ∀ k, p k = false := by
  simp [firstIndex]

theorem winFind_eq_some {c : ClClient} {wid : Nat} {j : Fin winMax}
    (h : winFind c wid = some j) : wid ≠ 0 ∧ (c.wins j).clientWid = wid := by
  unfold winFind at h
  split at h
  · cases h
  · rename_i hwid
    exact ⟨hwid, by simpa using firstIndex_eq_some h⟩

theorem winFind_eq_none {c : ClClient} {wid : Nat} (hwid : wid ≠ 0) :
    winFind c wid = none ↔ ∀ j, (c.wins j).clientWid ≠ wid := by
  simp [winFind, hwid, firstIndex_eq_none]

theorem winAlloc_eq_some {c : ClClient} {j : Fin winMax} (h : winAlloc c = some j) :
    (c.wins j).clientWid = 0 := by
  simpa using firstIndex_eq_some h

theorem parkingSlot_eq_some {t : Transport} {i k : Fin clMaxClients}
    (h : parkingSlot t i = some k) :
    (t.clients i).token ≠ 0 ∧ isShellClient t i = true ∧ (t.orphans k).token = 0 := by
  unfold parkingSlot at h
  split at h
  · rename_i hshell
    exact ⟨hshell.2.1, hshell.2.2, by simpa using firstIndex_eq_some h⟩
  · cases h

/-! ## Writes to a slot -/

@[simp] theorem os_setWin (t : Transport) (h : Holder) (j : Fin winMax) (w : ClWin) :
    (t.setWin h j w).os = t.os := by
  cases h <;> rfl

@[simp] theorem stack_setWin (t : Transport) (h : Holder) (j : Fin winMax) (w : ClWin) :
    (t.setWin h j w).stack = t.stack := by
  cases h <;> rfl

/-! ## Handlers -/

def requestedWindow (s : WindowStack) (m : ClCreateWindow) : WindowStack × Nat :=
  windowCreate s (roleFromWire m.role) m.x m.y (if m.w ≠ 0 then int32 m.w else 320)
    (if m.h ≠ 0 then int32 m.h else 240) 0x00202020 (cString "client")

structure CreateAccepted (t : Transport) (i : Fin clMaxClients) (m : ClCreateWindow)
    (j : Fin winMax) : Prop where
  fresh : winFind (t.clients i) m.wid = none
  slot : winAlloc (t.clients i) = some j
  room : t.stack.count < winMax

/-- The second case of the conclusion has a wrapped id counter, which reachable states exclude. -/
theorem onCreateWindow_cases (t : Transport) (i : Fin clMaxClients) (m : ClCreateWindow) :
    (onCreateWindow t i m = t ∧ ∀ j, ¬ CreateAccepted t i m j) ∨
      ∃ j, CreateAccepted t i m j ∧
        onCreateWindow t i m =
          if t.stack.nextId = 0 then { t with stack := (requestedWindow t.stack m).1 }
          else
            adoptWindow { t with stack := (requestedWindow t.stack m).1 } i j m.wid
              (roleFromWire m.role) t.stack.nextId := by
  unfold onCreateWindow
  dsimp only
  cases hdup : winFind (t.clients i) m.wid with
  | some j => exact .inl ⟨by simp, fun _ h => by simpa [hdup] using h.fresh⟩
  | none =>
      cases hslot : winAlloc (t.clients i) with
      | none => exact .inl ⟨by simp, fun _ h => by simpa [hslot] using h.slot⟩
      | some j =>
          simp only [Option.isSome_none, Bool.false_eq_true, if_false]
          rcases windowCreate_cases t.stack (roleFromWire m.role) m.x m.y
            (if m.w ≠ 0 then int32 m.w else 320) (if m.h ≠ 0 then int32 m.h else 240)
            0x00202020 (cString "client") with ⟨heq, hfull⟩ | ⟨hroom, heq⟩
          · refine .inl ⟨by simp only [heq, if_true], fun _ h => ?_⟩
            exact Nat.lt_irrefl _ (Nat.lt_of_lt_of_le h.room hfull)
          · refine .inr ⟨j, ⟨hdup, hslot, hroom⟩, ?_⟩
            simp only [requestedWindow, heq]

theorem onSetTitle_cases (t : Transport) (i : Fin clMaxClients) (m : ClSetTitle) :
    onSetTitle t i m = t ∨
      ∃ j title, winFind (t.clients i) m.wid = some j ∧
        onSetTitle t i m =
          { t with
            stack := t.stack.writeById ((t.clients i).wins j).serverId fun win =>
              { win with title := title } } := by
  unfold onSetTitle
  cases winFind (t.clients i) m.wid with
  | none => exact .inl rfl
  | some j => exact .inr ⟨j, _, rfl, rfl⟩

theorem onSetGeometry_cases (t : Transport) (i : Fin clMaxClients) (m : ClSetGeometry) :
    onSetGeometry t i m = t ∨
      ∃ j, winFind (t.clients i) m.wid = some j ∧
        onSetGeometry t i m =
          { t with
            stack := windowSetGeometry t.stack ((t.clients i).wins j).serverId m.x m.y
              (int32 m.w) (int32 m.h) } := by
  unfold onSetGeometry
  cases winFind (t.clients i) m.wid with
  | none => exact .inl rfl
  | some j =>
      dsimp only
      split
      · exact .inl rfl
      · exact .inr ⟨j, rfl, rfl⟩

def closeSlot (t : Transport) (h : Holder) (j : Fin winMax) : Transport :=
  let t := winDropBuffer t h j
  { t with stack := windowDestroy t.stack (t.wins h j).serverId }.setWin h j .zero

theorem onDestroyWindow_cases (t : Transport) (i : Fin clMaxClients) (m : ClDestroyWindow) :
    onDestroyWindow t i m = t ∨
      ∃ j, winFind (t.clients i) m.wid = some j ∧
        onDestroyWindow t i m = closeSlot t (.client i) j := by
  unfold onDestroyWindow
  cases winFind (t.clients i) m.wid with
  | none => exact .inl rfl
  | some j => exact .inr ⟨j, rfl, rfl⟩

/-- The checks that `on_commit` makes before it maps the buffer. -/
structure CommitAccepted (t : Transport) (i : Fin clMaxClients) (m : ClCommit)
    (j : Fin winMax) : Prop where
  slot : winFind (t.clients i) m.wid = some j
  shm : m.buffer.kind = clBufShm
  window : ∃ win, windowById t.stack ((t.clients i).wins j).serverId = some win
  format : m.buffer.format = clFormatXrgb8888
  stride : m.buffer.stride ≠ 0
  height : m.buffer.height ≠ 0

theorem commitTarget_eq_some {t : Transport} {i : Fin clMaxClients} {m : ClCommit}
    {j : Fin winMax} : commitTarget t i m = some j ↔ CommitAccepted t i m j := by
  unfold commitTarget
  cases hfind : winFind (t.clients i) m.wid with
  | none =>
      constructor
      · intro h
        cases h
      · intro h
        simpa [hfind] using h.slot
  | some k =>
      dsimp only
      constructor
      · intro h
        split at h
        · cases h
        · rename_i hchecks
          obtain rfl : k = j := by simpa using h
          push Not at hchecks
          obtain ⟨hkind, hwin, hformat, hstride, hheight⟩ := hchecks
          exact ⟨hfind, hkind, Option.ne_none_iff_exists'.mp hwin, hformat, hstride, hheight⟩
      · intro h
        obtain rfl : k = j := by simpa [hfind] using h.slot
        obtain ⟨win, hwin⟩ := h.window
        simp [h.shm, hwin, h.format, h.stride, h.height]

theorem consumeFence_left (t : Transport) (b : ClBuffer) (fd : Int) (fds : List Int) :
    ∃ closed rest, consumeFence t b (fd :: fds) =
      ({ t with os := { t.os with closed := closed } }, fd :: rest) := by
  unfold consumeFence
  split
  · rename_i first fence rest heq
    obtain ⟨rfl, -⟩ := List.cons.inj heq
    split
    · exact ⟨_, [], rfl⟩
    · exact ⟨t.os.closed, fds, rfl⟩
  · exact ⟨t.os.closed, fds, rfl⟩

theorem onCommit_cases (t : Transport) (i : Fin clMaxClients) (m : ClCommit) (fds : List Int)
    (k : Kernel) :
    (∃ closed, onCommit t i m fds k = { t with os := { t.os with closed := closed } }) ∨
      ∃ closed j base, CommitAccepted t i m j ∧ k.mmap = some base ∧
        onCommit t i m fds k =
          attachBuffer
            { t with
              os := { t.os.map base (m.buffer.stride * m.buffer.height) with closed := closed } }
            (.client i) j m.buffer base := by
  obtain ⟨⟨t', rest⟩, hleft⟩ : ∃ left, consumeFence t m.buffer fds = left := ⟨_, rfl⟩
  obtain ⟨closed, rfl⟩ : ∃ closed, t' = { t with os := { t.os with closed := closed } } := by
    have hfst : t' = (consumeFence t m.buffer fds).1 := by rw [hleft]
    rw [hfst]
    unfold consumeFence
    split
    · split
      · exact ⟨_, rfl⟩
      · exact ⟨t.os.closed, rfl⟩
    · exact ⟨t.os.closed, rfl⟩
  simp only [onCommit, hleft]
  cases rest with
  | nil => exact .inl ⟨closed, rfl⟩
  | cons bufFd rest =>
      dsimp only
      have htarget : commitTarget { t with os := { t.os with closed := closed } } i m =
          commitTarget t i m := rfl
      rw [htarget]
      cases hj : commitTarget t i m with
      | none => exact .inl ⟨_, rfl⟩
      | some j =>
          cases hk : k.mmap with
          | none => exact .inl ⟨_, rfl⟩
          | some base => exact .inr ⟨_, j, base, commitTarget_eq_some.mp hj, rfl, rfl⟩

/-! ## The handshake -/

def granted (t : Transport) (i : Fin clMaxClients) : Transport :=
  { t with
    nextToken := tokenAfter t.nextToken
    history := { t.history with issued := t.history.issued ++ [tokenAfter t.nextToken] } }.setClient
      i { t.clients i with hello := true, token := tokenAfter t.nextToken }

def reclaimed (t : Transport) (i k : Fin clMaxClients) : Transport :=
  (t.setClient i
    { t.clients i with
      hello := true
      wins := (t.orphans k).wins
      token := (t.orphans k).token }).setOrphan k .zero

@[simp] theorem clients_setClient_self (t : Transport) (i : Fin clMaxClients) (c : ClClient) :
    (t.setClient i c).clients i = c := by
  simp [Transport.setClient]

/-- The transport that an accepted `CL_HELLO` leads to, before the welcome is sent. -/
inductive HelloOutcome (t : Transport) (i : Fin clMaxClients) (token : Nat) : Transport → Prop
  | fresh (unknown : token = 0 ∨ ∀ k, (t.orphans k).token ≠ token) :
      HelloOutcome t i token (granted t i)
  | reclaim (k : Fin clMaxClients) (known : token ≠ 0) (held : (t.orphans k).token = token)
      (windows : tableCount (t.orphans k).wins ≠ 0) :
      HelloOutcome t i token (reclaimed t i k)
  | empty (k : Fin clMaxClients) (known : token ≠ 0) (held : (t.orphans k).token = token)
      (windows : tableCount (t.orphans k).wins = 0) :
      HelloOutcome t i token (granted (reclaimed t i k) i)

theorem acceptHello_cases (t : Transport) (i : Fin clMaxClients) (d : Datagram) :
    ∃ u, HelloOutcome t i (helloToken d) u ∧
      acceptHello t i d =
        closeFds (sendWelcome u (u.clients i).fd (u.clients i).token) d.fds := by
  generalize htoken : helloToken d = token
  obtain ⟨c, hc⟩ : ∃ c, c = { t.clients i with hello := true } := ⟨_, rfl⟩
  have hwelcome (u : Transport) (n : Nat)
      (hreclaim : clientReclaim (t.setClient i c) i token = (u, n)) :
      ∃ v, acceptHello t i d =
          closeFds (sendWelcome v (v.clients i).fd (v.clients i).token) d.fds ∧
        v = if n = 0 then
            (assignToken u).1.setClient i
              { (assignToken u).1.clients i with token := (assignToken u).2 }
          else u := by
    refine ⟨_, ?_, rfl⟩
    simp only [acceptHello, htoken, ← hc, hreclaim]
  have hfresh (hnothing : clientReclaim (t.setClient i c) i token = (t.setClient i c, 0))
      (unknown : token = 0 ∨ ∀ k, (t.orphans k).token ≠ token) :
      ∃ u, HelloOutcome t i token u ∧ acceptHello t i d =
        closeFds (sendWelcome u (u.clients i).fd (u.clients i).token) d.fds := by
    obtain ⟨v, heq, hv⟩ := hwelcome (t.setClient i c) 0 hnothing
    refine ⟨v, ?_, heq⟩
    have hgranted : v = granted t i := by
      rw [hv, hc]
      simp [granted, assignToken, Transport.setClient]
    rw [hgranted]
    exact .fresh unknown
  by_cases hzero : token = 0
  · exact hfresh (by simp [clientReclaim, hzero]) (.inl hzero)
  · have hsame : orphanByToken (t.setClient i c) token = orphanByToken t token := rfl
    cases hfind : orphanByToken t token with
    | none =>
        refine hfresh (by simp [clientReclaim, hzero, hsame, hfind]) (.inr fun k => ?_)
        simpa using firstIndex_eq_none.mp hfind k
    | some k =>
        have hheld : (t.orphans k).token = token := by simpa using firstIndex_eq_some hfind
        obtain ⟨v, heq, hv⟩ := hwelcome (reclaimed t i k) (tableCount (t.orphans k).wins) (by
          rw [clientReclaim, if_neg hzero, hsame, hfind]
          simp [hc, reclaimed, hheld, Transport.setClient, Transport.setOrphan])
        refine ⟨v, ?_, heq⟩
        by_cases hcount : tableCount (t.orphans k).wins = 0
        · have hgranted : v = granted (reclaimed t i k) i := by
            rw [hv, if_pos hcount]
            simp [granted, reclaimed, assignToken, Transport.setClient, Transport.setOrphan]
          rw [hgranted]
          exact .empty k hzero hheld hcount
        · rw [hv, if_neg hcount]
          exact .reclaim k hzero hheld hcount

/-! ## Dispatch -/

def requestTypes : List Nat :=
  [clCreateWindowType, clSetTitleType, clCommitType, clDestroyWindowType, clSetGeometryType,
    clSetCursorType]

/-- The size that `NEED` asks for, by message type. -/
def needed (type : Nat) : Nat :=
  if type = clCreateWindowType then ClCreateWindow.size
  else if type = clSetTitleType then ClSetTitle.size
  else if type = clCommitType then ClCommit.size
  else if type = clDestroyWindowType then ClDestroyWindow.size
  else if type = clSetGeometryType then ClSetGeometry.size
  else if type = clSetCursorType then ClSetCursor.size
  else 0

/-- What every datagram that `dispatch` rejects has in common. -/
def Refusable (t : Transport) (i : Fin clMaxClients) (d : Datagram) : Prop :=
  d.n < 4 ∨ (t.clients i).hello = false ∨ d.n < needed (d.buf.u32 0)

theorem not_refusable {t : Transport} {i : Fin clMaxClients} {d : Datagram} {type : Nat}
    (hhello : (t.clients i).hello = true) (htype : d.buf.u32 0 = type)
    (hfull : needed type ≤ d.n) (hlong : 4 ≤ needed type) : ¬ Refusable t i d := by
  rintro (hshort | hfresh | hshort)
  · omega
  · simp [hhello] at hfresh
  · rw [htype] at hshort
    omega

/-- The paths through `dispatch`, with the checks that lead to each. -/
inductive DispatchPath (t : Transport) (i : Fin clMaxClients) (d : Datagram) (k : Kernel)
    (dirty : Bool) : Dispatched → Prop where
  | reject (why : Refusable t i d) : DispatchPath t i d k dirty (rejected t d dirty)
  | hello (fresh : (t.clients i).hello = false) (type : d.buf.u32 0 = clHelloType)
      (full : ClHello.tokenOffset ≤ d.n) (accepted : helloAccepted (.read d.buf) = true) :
      DispatchPath t i d k dirty ⟨acceptHello t i d, true, true⟩
  | createWindow (ready : (t.clients i).hello = true)
      (type : d.buf.u32 0 = clCreateWindowType) (full : ClCreateWindow.size ≤ d.n) :
      DispatchPath t i d k dirty ⟨closeFds (onCreateWindow t i (.read d.buf)) d.fds, true, true⟩
  | setTitle (ready : (t.clients i).hello = true) (type : d.buf.u32 0 = clSetTitleType)
      (full : ClSetTitle.size ≤ d.n) :
      DispatchPath t i d k dirty ⟨closeFds (onSetTitle t i (.read d.buf)) d.fds, true, dirty⟩
  | commit (ready : (t.clients i).hello = true) (type : d.buf.u32 0 = clCommitType)
      (full : ClCommit.size ≤ d.n) :
      DispatchPath t i d k dirty ⟨onCommit t i (.read d.buf) d.fds k, true, true⟩
  | destroyWindow (ready : (t.clients i).hello = true)
      (type : d.buf.u32 0 = clDestroyWindowType) (full : ClDestroyWindow.size ≤ d.n) :
      DispatchPath t i d k dirty ⟨closeFds (onDestroyWindow t i (.read d.buf)) d.fds, true, true⟩
  | setGeometry (ready : (t.clients i).hello = true)
      (type : d.buf.u32 0 = clSetGeometryType) (full : ClSetGeometry.size ≤ d.n) :
      DispatchPath t i d k dirty ⟨closeFds (onSetGeometry t i (.read d.buf)) d.fds, true, true⟩
  | setCursor (ready : (t.clients i).hello = true) (type : d.buf.u32 0 = clSetCursorType)
      (full : ClSetCursor.size ≤ d.n) :
      DispatchPath t i d k dirty ⟨onSetCursor t (.read d.buf) d.fds k, true, true⟩
  | ignore (ready : (t.clients i).hello = true) (type : d.buf.u32 0 ∉ requestTypes) :
      DispatchPath t i d k dirty ⟨closeFds t d.fds, true, dirty⟩

private theorem dispatchHello_path (t : Transport) (i : Fin clMaxClients) (d : Datagram)
    (k : Kernel) (dirty : Bool) (hhello : (t.clients i).hello = false) :
    DispatchPath t i d k dirty (dispatchHello t i d dirty) := by
  have hreject : DispatchPath t i d k dirty (rejected t d dirty) := .reject (.inr (.inl hhello))
  unfold dispatchHello
  split
  · exact hreject
  · rename_i htype
    split
    · exact hreject
    · rename_i hfull
      split
      · rename_i haccepted
        exact .hello hhello (not_not.mp htype) (Nat.le_of_not_lt hfull) haccepted
      · exact hreject

private theorem dispatchRequest_path (t : Transport) (i : Fin clMaxClients) (d : Datagram)
    (k : Kernel) (dirty : Bool) (hhello : (t.clients i).hello = true) :
    DispatchPath t i d k dirty (dispatchRequest t i d k dirty) := by
  have hshort {type : Nat} (htype : d.buf.u32 0 = type) (h : d.n < needed type) :
      DispatchPath t i d k dirty (rejected t d dirty) := .reject (.inr (.inr (htype ▸ h)))
  unfold dispatchRequest
  dsimp only
  split
  · rename_i htype
    split
    · exact hshort htype ‹_›
    · exact .createWindow hhello htype (Nat.le_of_not_lt ‹_›)
  · split
    · rename_i htype
      split
      · exact hshort htype ‹_›
      · exact .setTitle hhello htype (Nat.le_of_not_lt ‹_›)
    · split
      · rename_i htype
        split
        · exact hshort htype ‹_›
        · exact .commit hhello htype (Nat.le_of_not_lt ‹_›)
      · split
        · rename_i htype
          split
          · exact hshort htype ‹_›
          · exact .destroyWindow hhello htype (Nat.le_of_not_lt ‹_›)
        · split
          · rename_i htype
            split
            · exact hshort htype ‹_›
            · exact .setGeometry hhello htype (Nat.le_of_not_lt ‹_›)
          · split
            · rename_i htype
              split
              · exact hshort htype ‹_›
              · exact .setCursor hhello htype (Nat.le_of_not_lt ‹_›)
            · exact .ignore hhello (by simp [requestTypes, *])

theorem dispatch_path (t : Transport) (i : Fin clMaxClients) (d : Datagram) (k : Kernel)
    (dirty : Bool) : DispatchPath t i d k dirty (dispatch t i d k dirty) := by
  unfold dispatch
  split
  · exact .reject (.inl ‹_›)
  · cases hhello : (t.clients i).hello with
    | false => exact dispatchHello_path t i d k dirty hhello
    | true => exact dispatchRequest_path t i d k dirty hhello

/-- A client is dropped for a datagram that `dispatch` rejected, and for no other. -/
theorem clientDatagram_cases (t : Transport) (i : Fin clMaxClients) (d : Datagram) (k : Kernel)
    (now : Int) (dirty : Bool) :
    clientDatagram t i d k now dirty = dispatch t i d k dirty ∨
      Refusable t i d ∧
        (clientDatagram t i d k now dirty).t = clientDrop (closeFds t d.fds) i now := by
  have hpath := dispatch_path t i d k dirty
  unfold clientDatagram
  generalize dispatch t i d k dirty = r at hpath ⊢
  cases hpath with
  | reject why => exact .inr ⟨why, rfl⟩
  | _ => exact .inl rfl

end CrystallineLattice.Native
