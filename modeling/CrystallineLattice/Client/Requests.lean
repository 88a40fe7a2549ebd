import CrystallineLattice.Client.Model
import CrystallineLattice.Native.Conversation
import CrystallineLattice.Native.Cursor
import CrystallineLattice.Native.Isolation

/-!
# What the server makes of the test client's requests

A table of one window follows the three requests of the client.  The window opens,
unless the stack is full; it gets its title, and it shows the buffer if the buffer
can be mapped.
-/

namespace CrystallineLattice.Client

open CrystallineLattice.Foundation
open CrystallineLattice.Stack
open CrystallineLattice.Native

def firstSlot : Fin winMax := ⟨0, by decide⟩

inductive Holding where
  | unasked
  | refused
  | opened (w : Window)

namespace Holding

def table : Holding → WinTable
  | .opened w =>
      Function.update (fun _ => .zero) firstSlot ⟨wid, w.id, w.buf, (w.bufStride * w.bufH).toNat⟩
  | _ => fun _ => .zero

end Holding

def blank (id : Nat) : Window :=
  { newWindow id .normal 0 0 0 0 0x00202020 (cString "client") with appDecorated := true }

def titled (id : Nat) : Window := { blank id with title := clientTitle }

def shown (id : Nat) : Option Nat → Window
  | none => titled id
  | some base =>
      { titled id with buf := .mapping base, bufW := winW, bufH := winH, bufStride := stride }

/-- What the client has after a request; `base` is where its buffer was mapped. -/
def Holding.after (s : WindowStack) (base : Option Nat) (type : Nat) : Holding → Holding
  | .unasked =>
      if type = clCreateWindowType then
        if winMax ≤ s.count then .refused else .opened (blank s.nextId)
      else .unasked
  | .refused => .refused
  | .opened w =>
      if type = clSetTitleType then .opened (titled w.id)
      else if type = clCommitType then .opened (shown w.id base)
      else .opened w

/-- The server has exactly this for connection `i`. -/
structure Has (t : Transport) (i : Fin clMaxClients) (H : Holding) : Prop where
  wins : (t.clients i).wins = H.table
  window : ∀ w, H = .opened w → (windowById t.stack w.id).map Window.content = some w

variable {t u : Transport} {i : Fin clMaxClients} {H : Holding}

theorem Has.free (h : Has t i .unasked) (n : Nat) (hn : n ≠ 0) :
    winFind (t.clients i) n = none ∧ winAlloc (t.clients i) = some firstSlot := by
  constructor
  · refine (winFind_eq_none hn).mpr fun j => ?_
    rw [h.wins]
    exact hn.symm
  · unfold winAlloc
    rw [h.wins]
    decide

theorem Has.found {w : Window} (h : Has t i (.opened w)) :
    winFind (t.clients i) wid = some firstSlot ∧
      (t.clients i).wins firstSlot = ⟨wid, w.id, w.buf, (w.bufStride * w.bufH).toNat⟩ := by
  have hslot : (t.clients i).wins firstSlot =
      ⟨wid, w.id, w.buf, (w.bufStride * w.bufH).toNat⟩ := by
    rw [h.wins, Holding.table, Function.update_self]
  refine ⟨?_, hslot⟩
  unfold winFind
  rw [if_neg (by decide), h.wins]
  rfl

theorem Has.names {w : Window} (h : Has t i (.opened w)) : t.Names (.client i) w.id := by
  have hslot : t.wins (.client i) firstSlot =
      ⟨wid, w.id, w.buf, (w.bufStride * w.bufH).toNat⟩ := h.found.2
  refine ⟨firstSlot, ?_, ?_⟩
  · rw [hslot]
    exact Nat.one_ne_zero
  · rw [hslot]

theorem Has.keep (h : Has t i H) (hclient : u.clients i = t.clients i)
    (hcontent : ∀ id, t.Names (.client i) id →
      (windowById u.stack id).map Window.content = (windowById t.stack id).map Window.content) :
    Has u i H where
  wins := by rw [hclient, h.wins]
  window w hw := by
    subst hw
    rw [hcontent _ h.names, h.window w rfl]

/-! ## Content -/

theorem content_writeById {s : WindowStack} {id : Nat} {f g : Window → Window} {w : Window}
    (hid : ∀ v, (f v).id = v.id) (hcontent : ∀ v, (f v).content = g v.content)
    (h : (windowById s id).map Window.content = some w) :
    (windowById (s.writeById id f) id).map Window.content = some (g w) := by
  obtain ⟨v, hv, rfl⟩ := Option.map_eq_some_iff.mp h
  rw [windowById_writeById s hid, if_pos rfl, hv]
  simp [hcontent]

theorem content_stackWithNew {s : WindowStack} (hs : s.WellFormed) (hroom : s.count < winMax)
    (hwrap : s.nextId + 1 < 4294967296) {m : ClCreateWindow} (hrole : roleFromWire m.role = .normal)
    (sw sh : Int) :
    (windowById (Ledger.stackWithNew s m sw sh) s.nextId).map Window.content =
      some (blank s.nextId) := by
  have hkeep : ∀ v : Window, ({ v with appDecorated := true } : Window).id = v.id := fun _ => rfl
  have hfresh : s.nextId ∉ s.ids := fun hmem => Nat.lt_irrefl _ (hs.below _ hmem)
  rcases windowCreate_cases s (roleFromWire m.role) m.x m.y
    (if m.w ≠ 0 then int32 m.w else 320) (if m.h ≠ 0 then int32 m.h else 240)
    0x00202020 (cString "client") with ⟨-, hfull⟩ | ⟨-, heq⟩
  · exact (Nat.lt_irrefl _ (Nat.lt_of_lt_of_le hroom hfull)).elim
  · generalize hwin : newWindow s.nextId (roleFromWire m.role) m.x m.y
      (if m.w ≠ 0 then int32 m.w else 320) (if m.h ≠ 0 then int32 m.h else 240)
      0x00202020 (cString "client") = win at heq
    have hid : win.id = s.nextId := by
      rw [← hwin]
      rfl
    have hplain : win.content = newWindow s.nextId .normal 0 0 0 0 0x00202020
        (cString "client") := by
      rw [← hwin, hrole]
      rfl
    have hdecorated := (hs.append hroom hwrap hid).writeById s.nextId hkeep
    have hpolicy := Ledger.applyRolePolicy_rearranges hdecorated.nodup (roleFromWire m.role)
      s.nextId sw sh
    have hnone : KeyedList.lookup Window.id s.nextId s.windows = none :=
      KeyedList.lookup_eq_none_iff.mpr hfresh
    rw [Ledger.stackWithNew, requestedWindow, heq, hpolicy.content]
    refine content_writeById (g := fun v => { v with appDecorated := true }) hkeep
      (fun _ => rfl) ?_
    rw [windowById_eq_lookup, KeyedList.lookup_append, hnone, ← hplain]
    simp [KeyedList.lookup, hid]

/-! ## The requests -/

theorem onCreateWindow_has {foreign : List Nat} (h : Has t i .unasked) (hL : (t.ledger foreign).Inv)
    (htoken : (t.clients i).token ≠ 0)
    (hwrap : t.stack.count < winMax → t.stack.nextId + 1 < 4294967296) :
    Has (onCreateWindow t i (.read createWindow.buf)) i
      (Holding.unasked.after t.stack none clCreateWindowType) := by
  obtain ⟨hfresh, hslot⟩ := h.free wid Nat.one_ne_zero
  rcases onCreateWindow_ledger (.read createWindow.buf) hL htoken with
    ⟨heq, hno⟩ | ⟨j, hacc, -, heq⟩
  · have hfull : winMax ≤ t.stack.count := by
      by_contra hroom
      exact hno firstSlot ⟨hfresh, hslot, Nat.lt_of_not_le hroom⟩
    have hwins := congrFun (congrArg Ledger.wins heq) (.client i)
    rw [Holding.after, if_pos rfl, if_pos hfull]
    exact ⟨hwins.trans h.wins, fun w hw => by cases hw⟩
  · have hj : j = firstSlot := Option.some.inj (hacc.slot.symm.trans hslot)
    subst hj
    have hstack : (onCreateWindow t i (.read createWindow.buf)).stack =
        Ledger.stackWithNew t.stack (.read createWindow.buf) t.sw t.sh :=
      congrArg Ledger.stack heq
    rw [Holding.after, if_pos rfl, if_neg (Nat.not_le_of_lt hacc.room)]
    refine ⟨funext fun j => ?_, fun w hw => ?_⟩
    · have hwins := congrFun (congrFun (congrArg Ledger.wins heq) (.client i)) j
      refine hwins.trans ((Ledger.setWin_wins _ _ _ _ _ _).trans ?_)
      have hold (j : Fin winMax) : (t.ledger foreign).wins (.client i) j = .zero :=
        congrFun h.wins j
      by_cases hj : j = firstSlot
      · subst hj
        rw [if_pos ⟨rfl, rfl⟩, Holding.table, Function.update_self]
        dsimp only
        rw [hold]
        rfl
      · rw [if_neg fun hsame => hj hsame.2, Holding.table, Function.update_of_ne hj]
        exact hold j
    · cases hw
      rw [hstack]
      exact content_stackWithNew hL.stack hacc.room (hwrap hacc.room) rfl _ _

theorem onSetTitle_has {id : Nat} (h : Has t i (.opened (blank id))) :
    Has (onSetTitle t i (.read setTitle.buf)) i (.opened (titled id)) := by
  obtain ⟨hfind, hslot⟩ := h.found
  have htitle : titleBytes (((ClSetTitle.read setTitle.buf).title.take
      (clTitleMax - 1)).takeWhile (· ≠ 0)) = clientTitle := by
    decide +kernel
  unfold onSetTitle
  rw [show (ClSetTitle.read setTitle.buf).wid = wid by decide, hfind]
  dsimp only
  rw [htitle, hslot]
  refine ⟨h.wins, fun w hw => ?_⟩
  cases hw
  exact content_writeById (f := fun win => { win with title := clientTitle })
    (g := fun win => { win with title := clientTitle }) (fun _ => rfl) (fun _ => rfl)
    (h.window _ rfl)

def buffer : ClBuffer := ⟨clBufShm, winW, winH, stride, clFormatXrgb8888, 0⟩

theorem attachBuffer_has {id : Nat} (h : Has t i (.opened (titled id))) (base : Nat) :
    Has (attachBuffer t (.client i) firstSlot buffer base) i (.opened (shown id (some base))) := by
  have hslot : t.wins (.client i) firstSlot = ⟨wid, id, .null, 0⟩ := h.found.2
  have hdrop : winDropBuffer t (.client i) firstSlot = t := by
    unfold winDropBuffer
    rw [hslot]
    rfl
  have hw : int32 buffer.width = winW := by decide
  have hh : int32 buffer.height = winH := by decide
  have hs : int32 buffer.stride = stride := by decide
  unfold attachBuffer
  rw [hdrop]
  dsimp only
  rw [hslot, hw, hh, hs]
  refine ⟨?_, fun w hw => ?_⟩
  · simp only [Transport.setWin, Transport.setClient, Function.update_self, h.wins, Holding.table,
      Function.update_idem]
    rfl
  · cases hw
    rw [stack_setWin]
    exact content_writeById (w := titled id)
      (g := fun win => { win with
        buf := .mapping base
        bufW := winW
        bufH := winH
        bufStride := stride }) (fun _ => rfl) (fun _ => rfl) (h.window _ rfl)

theorem consumeFence_none {b : ClBuffer} (hfence : b.hasFence = 0) (fds : List Int) :
    consumeFence t b fds = (t, fds) := by
  unfold consumeFence
  split
  · rw [if_neg (not_not.mpr hfence)]
  · rfl

theorem onCommit_has {id : Nat} (h : Has t i (.opened (titled id))) (bfd : Int) (fds : List Int)
    (k : Kernel) :
    Has (onCommit t i (.read (commit bfd).buf) fds k) i
      (.opened (shown id (if fds = [] then none else k.mmap))) := by
  obtain ⟨hfind, hslot⟩ := h.found
  have hread : ClCommit.read (commit bfd).buf =
      ⟨wid, buffer⟩ := by
    show ClCommit.read (commit 0).buf = _
    rfl
  have hfence : (ClCommit.read (commit bfd).buf).buffer.hasFence = 0 := by rw [hread]; rfl
  obtain ⟨win, hwin, -⟩ := Option.map_eq_some_iff.mp (h.window _ rfl)
  have htarget : commitTarget t i (.read (commit bfd).buf) = some firstSlot := by
    refine commitTarget_eq_some.mpr ?_
    rw [hread]
    exact ⟨hfind, rfl, ⟨win, by rw [hslot, hwin]⟩, rfl, by decide, by decide⟩
  unfold onCommit
  dsimp only
  rw [consumeFence_none hfence, htarget]
  cases fds with
  | nil => exact h
  | cons fd rest =>
      cases k.mmap with
      | none => exact ⟨h.wins, h.window⟩
      | some base =>
          rw [hread]
          exact attachBuffer_has
            (t := { t with os := (t.os.map base (buffer.stride * buffer.height)).close fd })
            ⟨h.wins, h.window⟩ base

/-! ## Through the dispatcher -/

theorem clientDatagram_hello (hopen : 0 ≤ (t.clients i).fd) (hfresh : (t.clients i).hello = false)
    (h : Has t i .unasked) (fds : List Int) (k : Kernel) (now : Int) :
    let u := (clientDatagram t i { hello with fds := fds } k now false).t
    (u.clients i).hello = true ∧ (u.clients i).fd = (t.clients i).fd ∧ Has u i .unasked := by
  have htype : hello.buf.u32 0 = clHelloType := by decide
  have haccepted : helloAccepted (ClHello.read hello.buf) = true := by decide
  have hlong : ¬ hello.n < 4 := by decide
  have hfull : ¬ hello.n < ClHello.tokenOffset := by decide
  have heq : (clientDatagram t i { hello with fds := fds } k now false).t =
      acceptHello t i { hello with fds := fds } := by
    simp [clientDatagram, dispatch, dispatchHello, hfresh, htype, haccepted, hlong, hfull]
  have hgreets := acceptHello_greets t { hello with fds := fds } hopen hfresh
  have hwins := (acceptHello_wins t i { hello with fds := fds }).trans (if_pos rfl)
  dsimp only
  rw [heq]
  exact ⟨hgreets.ready, hgreets.fd, hwins.trans h.wins, fun w hw => by cases hw⟩

theorem clientDatagram_createWindow (hready : (t.clients i).hello = true) (fds : List Int)
    (k : Kernel) (now : Int) :
    (clientDatagram t i { createWindow with fds := fds } k now false).t =
      closeFds (onCreateWindow t i (.read createWindow.buf)) fds := by
  unfold clientDatagram dispatch
  rw [hready]
  rfl

theorem clientDatagram_setTitle (hready : (t.clients i).hello = true) (fds : List Int)
    (k : Kernel) (now : Int) :
    (clientDatagram t i { setTitle with fds := fds } k now false).t =
      closeFds (onSetTitle t i (.read setTitle.buf)) fds := by
  unfold clientDatagram dispatch
  rw [hready]
  rfl

theorem clientDatagram_commit (hready : (t.clients i).hello = true) (bfd : Int) (fds : List Int)
    (k : Kernel) (now : Int) :
    (clientDatagram t i { commit bfd with fds := fds } k now false).t =
      onCommit t i (.read (commit bfd).buf) fds k := by
  unfold clientDatagram dispatch
  rw [hready]
  rfl

/-! ## Stages -/

/-- What the client has while these requests are left. -/
inductive Stage : List Datagram → Holding → Prop
  | asking (bfd : Int) : Stage (requests bfd) .unasked
  | titling (bfd : Int) {H : Holding} (got : H = .refused ∨ ∃ id, H = .opened (blank id)) :
      Stage [setTitle, commit bfd] H
  | showing (bfd : Int) {H : Holding} (got : H = .refused ∨ ∃ id, H = .opened (titled id)) :
      Stage [commit bfd] H
  | done {H : Holding} (got : H = .refused ∨ ∃ id base, H = .opened (shown id base)) : Stage [] H

theorem Stage.normal {P : List Datagram} (hstage : Stage P H) {w : Window} (hw : H = .opened w) :
    w.role = .normal := by
  cases hstage with
  | asking bfd => cases hw
  | titling bfd got =>
      rcases got with rfl | ⟨id, rfl⟩ <;> cases hw
      rfl
  | showing bfd got =>
      rcases got with rfl | ⟨id, rfl⟩ <;> cases hw
      rfl
  | done got =>
      rcases got with rfl | ⟨id, base, rfl⟩ <;> cases hw
      cases base <;> rfl

theorem Has.occupied (h : Has t i H) {j : Fin winMax}
    (hocc : ((t.clients i).wins j).clientWid ≠ 0) :
    ∃ w v, H = .opened w ∧ windowById t.stack ((t.clients i).wins j).serverId = some v ∧
      v.content = w := by
  rw [h.wins] at hocc ⊢
  cases H with
  | unasked => exact (hocc rfl).elim
  | refused => exact (hocc rfl).elim
  | opened w =>
      obtain ⟨v, hv, hcontent⟩ := Option.map_eq_some_iff.mp (h.window w rfl)
      by_cases hj : j = firstSlot
      · subst hj
        refine ⟨w, v, rfl, ?_, hcontent⟩
        rw [Holding.table, Function.update_self, hv]
      · rw [Holding.table, Function.update_of_ne hj] at hocc
        exact (hocc rfl).elim

theorem Has.not_parked (h : Has t i H) (hnormal : ∀ w, H = .opened w → w.role = .normal) :
    parkingSlot t i = none := by
  have hshell : isShellClient t i = false := by
    refine List.any_eq_false.mpr fun j _ hj => ?_
    obtain ⟨hocc, hwin⟩ := Bool.and_eq_true_iff.mp hj
    obtain ⟨w, v, hw, hv, hcontent⟩ := h.occupied (of_decide_eq_true hocc)
    have hrole : v.role = .normal := by
      rw [← hnormal w hw, ← hcontent]
      rfl
    rw [hv, Option.any_some, isShellWindow, hrole] at hwin
    cases hwin
  unfold parkingSlot
  rw [if_neg]
  rintro ⟨-, -, htrue⟩
  rw [hshell] at htrue
  cases htrue

theorem Has.closeFds (h : Has t i H) (fds : List Int) : Has (closeFds t fds) i H :=
  ⟨h.wins, h.window⟩

theorem Has.refused (h : Has t i .refused) : winFind (t.clients i) wid = none := by
  refine (winFind_eq_none Nat.one_ne_zero).mpr fun j => ?_
  rw [h.wins]
  exact Nat.zero_ne_one

theorem onSetTitle_refused (h : Has t i .refused) :
    Has (onSetTitle t i (.read setTitle.buf)) i .refused := by
  unfold onSetTitle
  rw [show (ClSetTitle.read setTitle.buf).wid = wid by decide, h.refused]
  exact h

theorem onCommit_refused (h : Has t i .refused) (bfd : Int) (fds : List Int) (k : Kernel) :
    Has (onCommit t i (.read (commit bfd).buf) fds k) i .refused := by
  rcases onCommit_cases t i (.read (commit bfd).buf) fds k with
    ⟨closed, heq⟩ | ⟨closed, j, base, haccepted, -⟩
  · rw [heq]
    exact ⟨h.wins, h.window⟩
  · have hfind : winFind (t.clients i) wid = some j := haccepted.slot
    cases h.refused.symm.trans hfind

theorem createWindow_wrap {W : World} (hW : W.Inv) (hready : (W.t.clients i).hello = true)
    (h : Has W.t i .unasked) {fds : List Int} {k : Kernel} {now : Int}
    (hen : W.enabled (.datagram i { createWindow with fds := fds } k now))
    (hwithin : (W.next (.datagram i { createWindow with fds := fds } k now)).Within)
    (hroom : W.t.stack.count < winMax) : W.t.stack.nextId + 1 < 4294967296 := by
  obtain ⟨hfresh, hslot⟩ := h.free wid Nat.one_ne_zero
  rcases World.datagram_ledger hW hen with ⟨-, hno⟩ | ⟨j, -, -, heq⟩
  · have htype : createWindow.buf.u32 0 = clCreateWindowType := by decide
    have hlong : ClCreateWindow.size ≤ createWindow.n := by decide
    exact (hno firstSlot ⟨hready, htype, hlong, hfresh, hslot, hroom⟩).elim
  · rw [World.Within, heq] at hwithin
    exact hW.ledger.wrap_of_create hwithin

theorem Stage.not_refusable {d : Datagram} {P : List Datagram} (hstage : Stage (d :: P) H)
    (hready : (t.clients i).hello = true) (fds : List Int) :
    ¬ Refusable t i { d with fds := fds } := by
  cases hstage with
  | asking bfd =>
      have htype : createWindow.buf.u32 0 = clCreateWindowType := by decide
      have hfull : needed clCreateWindowType ≤ createWindow.n := by decide
      exact Native.not_refusable hready htype hfull (by decide)
  | titling bfd got =>
      have htype : setTitle.buf.u32 0 = clSetTitleType := by decide
      have hfull : needed clSetTitleType ≤ setTitle.n := by decide
      exact Native.not_refusable hready htype hfull (by decide)
  | showing bfd got =>
      have htype : (commit bfd).buf.u32 0 = clCommitType := by
        show (commit 0).buf.u32 0 = clCommitType
        decide
      refine Native.not_refusable hready htype ?_ (by decide)
      show needed clCommitType ≤ (commit 0).n
      decide

/-- Each request that is delivered takes the client to the next stage. -/
theorem Stage.deliver {W : World} (hW : W.Inv) {d : Datagram} {P : List Datagram}
    (hstage : Stage (d :: P) H) (hready : (W.t.clients i).hello = true) (h : Has W.t i H)
    {fds : List Int} {k : Kernel} {now : Int}
    (hen : W.enabled (.datagram i { d with fds := fds } k now))
    (hwithin : (W.next (.datagram i { d with fds := fds } k now)).Within) :
    let H' := H.after W.t.stack (if fds = [] then none else k.mmap) (d.buf.u32 0)
    Stage P H' ∧ Has (W.next (.datagram i { d with fds := fds } k now)).t i H' := by
  dsimp only
  simp only [World.next]
  cases hstage with
  | asking bfd =>
      have htype : createWindow.buf.u32 0 = clCreateWindowType := by decide
      have hcreated := onCreateWindow_has h hW.ledger ((hW.session.ready i).mp hready)
        (createWindow_wrap hW hready h hen hwithin)
      rw [clientDatagram_createWindow hready, htype]
      refine ⟨.titling bfd ?_, hcreated.closeFds fds⟩
      rw [Holding.after, if_pos rfl]
      split
      · exact .inl rfl
      · exact .inr ⟨_, rfl⟩
  | titling bfd got =>
      have htype : setTitle.buf.u32 0 = clSetTitleType := by decide
      rw [clientDatagram_setTitle hready, htype]
      rcases got with rfl | ⟨id, rfl⟩
      · exact ⟨.showing bfd (.inl rfl), (onSetTitle_refused h).closeFds fds⟩
      · exact ⟨.showing bfd (.inr ⟨id, rfl⟩), (onSetTitle_has h).closeFds fds⟩
  | showing bfd got =>
      have htype : (commit bfd).buf.u32 0 = clCommitType := by
        show (commit 0).buf.u32 0 = clCommitType
        decide
      rw [clientDatagram_commit hready, htype]
      rcases got with rfl | ⟨id, rfl⟩
      · exact ⟨.done (.inl rfl), onCommit_refused h bfd fds k⟩
      · exact ⟨.done (.inr ⟨id, _, rfl⟩), onCommit_has h bfd fds k⟩

end CrystallineLattice.Client
