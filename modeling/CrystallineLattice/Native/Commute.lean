import CrystallineLattice.Native.Isolation
import CrystallineLattice.Native.Invariant
import CrystallineLattice.Stack.Edits

/-!
# Requests of different clients commute

A `SET_TITLE`, `COMMIT`, `SET_GEOMETRY` or `DESTROY_WINDOW` works on one slot of
its client's table and on the window that the slot names.  Which slot and what is
done there can be read off the client's record and the request, so it is the same
before and after another client's request.
-/

namespace CrystallineLattice.Native

open CrystallineLattice.Foundation
open CrystallineLattice.Stack

/-- A slot of the client's table, what is stored there, and the edit of the slot's window. -/
structure SlotWork where
  j : Fin winMax
  slot : ClWin
  edit : WindowEdit

def ClClient.setSlot (c : ClClient) (j : Fin winMax) (slot : ClWin) : ClClient :=
  { c with wins := Function.update c.wins j slot }

def titled (m : ClSetTitle) (win : Window) : Window :=
  { win with title := titleBytes ((m.title.take (clTitleMax - 1)).takeWhile (· ≠ 0)) }

def titleWork (c : ClClient) (m : ClSetTitle) : Option SlotWork :=
  (winFind c m.wid).map fun j => ⟨j, c.wins j, .rewrite (titled m) fun _ => rfl⟩

def destroyWork (c : ClClient) (m : ClDestroyWindow) : Option SlotWork :=
  (winFind c m.wid).map fun j => ⟨j, .zero, .destroy⟩

def placed (m : ClSetGeometry) (win : Window) : Window :=
  if win.role = .desktop then win
  else
    { win with
      x := m.x
      y := m.y
      w := if 0 < int32 m.w then int32 m.w else win.w
      h := if 0 < int32 m.h then int32 m.h else win.h }

theorem placed_id (m : ClSetGeometry) (win : Window) : (placed m win).id = win.id := by
  unfold placed
  split <;> rfl

def geometryWork (c : ClClient) (m : ClSetGeometry) : Option SlotWork :=
  (winFind c m.wid).map fun j => ⟨j, c.wins j, .rewrite (placed m) (placed_id m)⟩

/-- The slot that a `COMMIT` is for, if its buffer passes the checks. -/
def commitSlot (c : ClClient) (m : ClCommit) : Option (Fin winMax) :=
  (winFind c m.wid).filter fun _ => m.buffer.kind = clBufShm ∧
    m.buffer.format = clFormatXrgb8888 ∧ m.buffer.stride ≠ 0 ∧ m.buffer.height ≠ 0

def attached (b : ClBuffer) (base : Nat) (win : Window) : Window :=
  { win with
    buf := .mapping base
    bufW := int32 b.width
    bufH := int32 b.height
    bufStride := int32 b.stride }

def attachWork (c : ClClient) (b : ClBuffer) (j : Fin winMax) (base : Nat) : SlotWork :=
  ⟨j, { c.wins j with buf := .mapping base, bufLen := b.stride * b.height },
    .rewrite (attached b base) fun _ => rfl⟩

def commitWork (c : ClClient) (m : ClCommit) (fds : List Int) (k : Kernel) : Option SlotWork :=
  if fds = [] then none
  else (commitSlot c m).bind fun j => k.mmap.map fun base => attachWork c m.buffer j base

def requestWork (c : ClClient) (d : Datagram) (k : Kernel) : Option SlotWork :=
  let type := d.buf.u32 0
  if type = clSetTitleType then titleWork c (.read d.buf)
  else if type = clCommitType then commitWork c (.read d.buf) d.fds k
  else if type = clDestroyWindowType then destroyWork c (.read d.buf)
  else geometryWork c (.read d.buf)

/-! ## Carrying the work out -/

def workStack (c : ClClient) (work : Option SlotWork) (s : WindowStack) : WindowStack :=
  work.elim s fun a => a.edit.apply s (c.wins a.j).serverId

def workClients (i : Fin clMaxClients) (c : ClClient) (work : Option SlotWork)
    (clients : Fin clMaxClients → ClClient) : Fin clMaxClients → ClClient :=
  work.elim clients fun a => Function.update clients i (c.setSlot a.j a.slot)

/-- The step from `t` to `u` is the work of client `i`. -/
structure Carries (i : Fin clMaxClients) (work : Option SlotWork) (t u : Transport) : Prop where
  stack : u.stack = workStack (t.clients i) work t.stack
  clients : u.clients = workClients i (t.clients i) work t.clients
  history : u.history = t.history

section Carries

variable {t u : Transport} {i : Fin clMaxClients}

theorem Carries.none (hstack : u.stack = t.stack) (hclients : u.clients = t.clients)
    (hhistory : u.history = t.history) : Carries i .none t u := ⟨hstack, hclients, hhistory⟩

theorem Carries.rewrite {j : Fin winMax} {f : Window → Window} (hf : ∀ w, (f w).id = w.id)
    (hstack : u.stack = t.stack.writeById ((t.clients i).wins j).serverId f)
    (hclients : u.clients = t.clients) (hhistory : u.history = t.history) :
    Carries i (some ⟨j, (t.clients i).wins j, .rewrite f hf⟩) t u := by
  refine ⟨hstack, ?_, hhistory⟩
  simp [workClients, ClClient.setSlot, hclients]

theorem Carries.closeFds {work : Option SlotWork} (h : Carries i work t u) (fds : List Int) :
    Carries i work t (closeFds u fds) := ⟨h.stack, h.clients, h.history⟩

theorem winDropBuffer_stack (t : Transport) (h : Holder) (j : Fin winMax) :
    (winDropBuffer t h j).stack = t.stack ∨
      (winDropBuffer t h j).stack =
        t.stack.writeById (t.wins h j).serverId fun win => { win with buf := .null } := by
  unfold winDropBuffer
  dsimp only
  split
  · exact .inl rfl
  · exact .inr (by simp)

theorem winDropBuffer_clients (t : Transport) (i : Fin clMaxClients) (j : Fin winMax) (w : ClWin) :
    ((winDropBuffer t (.client i) j).setWin (.client i) j w).clients =
      Function.update t.clients i ((t.clients i).setSlot j w) := by
  unfold winDropBuffer
  dsimp only
  split
  · rfl
  · simp [Transport.setWin, Transport.setClient, ClClient.setSlot]

theorem onSetTitle_carries (t : Transport) (i : Fin clMaxClients) (m : ClSetTitle) :
    Carries i (titleWork (t.clients i) m) t (onSetTitle t i m) := by
  unfold onSetTitle titleWork
  cases winFind (t.clients i) m.wid with
  | none => exact .none rfl rfl rfl
  | some j => exact .rewrite (f := titled m) (fun _ => rfl) rfl rfl rfl

theorem onDestroyWindow_carries (t : Transport) (i : Fin clMaxClients) (m : ClDestroyWindow) :
    Carries i (destroyWork (t.clients i) m) t (onDestroyWindow t i m) := by
  unfold onDestroyWindow destroyWork
  cases winFind (t.clients i) m.wid with
  | none => exact .none rfl rfl rfl
  | some j =>
      have hid := (winDropBuffer_slot t (.client i) j).2.1
      have hhistory := (OnlyTable.winDropBuffer t (.client i) j).history
      refine ⟨?_, winDropBuffer_clients t i j .zero, ?_⟩
      · rw [stack_setWin]
        dsimp only
        rw [hid]
        rcases winDropBuffer_stack t (.client i) j with heq | heq
        · rw [heq]
          rfl
        · rw [heq]
          exact windowDestroy_rewritten _ _ fun _ => rfl
      · unfold winDropBuffer
        dsimp only
        split <;> rfl

theorem onSetGeometry_carries (t : Transport) (i : Fin clMaxClients) (m : ClSetGeometry) :
    Carries i (geometryWork (t.clients i) m) t (onSetGeometry t i m) := by
  unfold onSetGeometry geometryWork
  cases winFind (t.clients i) m.wid with
  | none => exact .none rfl rfl rfl
  | some j =>
      dsimp only
      generalize hid : ((t.clients i).wins j).serverId = id
      have hwrite : t.stack.writeById id (placed m) =
          if (windowById t.stack id).any (fun w => w.role = .desktop) then t.stack
          else windowSetGeometry t.stack id m.x m.y (int32 m.w) (int32 m.h) := by
        unfold windowSetGeometry WindowStack.writeById
        split
        · rename_i hdesktop
          have hkeep : KeyedList.update Window.id id (placed m) t.stack.windows =
              KeyedList.update Window.id id (fun w => w) t.stack.windows :=
            KeyedList.update_congr fun w hw => by
              rw [windowById_eq_lookup, hw] at hdesktop
              exact if_pos (by simpa using hdesktop)
          rw [hkeep, KeyedList.update_self]
        · rename_i hother
          congr 1
          refine KeyedList.update_congr fun w hw => ?_
          rw [windowById_eq_lookup, hw] at hother
          exact if_neg (by simpa using hother)
      split
      · rename_i hdesktop
        rw [if_pos hdesktop] at hwrite
        refine .rewrite (placed_id m) ?_ rfl rfl
        rw [hid]
        exact hwrite.symm
      · rename_i hdesktop
        rw [if_neg hdesktop] at hwrite
        refine .rewrite (placed_id m) ?_ rfl rfl
        rw [hid]
        exact hwrite.symm

theorem commitTarget_eq {m : ClCommit}
    (hwindows : ∀ j, winFind (t.clients i) m.wid = some j →
      windowById t.stack ((t.clients i).wins j).serverId ≠ none) :
    commitTarget t i m = commitSlot (t.clients i) m := by
  unfold commitTarget commitSlot
  cases hfind : winFind (t.clients i) m.wid with
  | none => rfl
  | some j =>
      have hwindow := hwindows j hfind
      simp only [Option.filter, hwindow, false_or]
      grind

theorem attachBuffer_carries (t : Transport) (i : Fin clMaxClients) (j : Fin winMax) (b : ClBuffer)
    (base : Nat) :
    Carries i (some (attachWork (t.clients i) b j base)) t
      (attachBuffer t (.client i) j b base) := by
  obtain ⟨hwid, hid, -⟩ := winDropBuffer_slot t (.client i) j
  have hnull (w : Window) : ({ w with buf := .null } : Window).id = w.id := rfl
  have hslot : { (winDropBuffer t (.client i) j).wins (.client i) j with
      buf := .mapping base, bufLen := b.stride * b.height } =
        { (t.clients i).wins j with buf := .mapping base, bufLen := b.stride * b.height } := by
    rw [ClWin.mk.injEq]
    exact ⟨hwid, hid, rfl, rfl⟩
  unfold attachBuffer
  dsimp only
  refine ⟨?_, ?_, ?_⟩
  · show ((winDropBuffer t (.client i) j).setWin _ _ _).stack.writeById _ (attached b base) = _
    rw [stack_setWin, hid]
    rcases winDropBuffer_stack t (.client i) j with heq | heq
    · rw [heq]
      rfl
    · rw [heq, writeById_writeById _ _ hnull]
      rfl
  · rw [hslot]
    exact winDropBuffer_clients t i j _
  · unfold winDropBuffer
    dsimp only
    split <;> rfl

theorem onCommit_carries {m : ClCommit} (fds : List Int) (k : Kernel)
    (hwindows : ∀ j, winFind (t.clients i) m.wid = some j →
      windowById t.stack ((t.clients i).wins j).serverId ≠ none) :
    Carries i (commitWork (t.clients i) m fds k) t (onCommit t i m fds k) := by
  cases fds with
  | nil => exact .none rfl rfl rfl
  | cons fd fds =>
      obtain ⟨closed, rest, hleft⟩ := consumeFence_left t m.buffer fd fds
      have htarget : commitTarget { t with os := { t.os with closed := closed } } i m =
          commitSlot (t.clients i) m := commitTarget_eq hwindows
      simp only [onCommit, hleft, htarget, commitWork, List.cons_ne_nil, if_false]
      cases commitSlot (t.clients i) m with
      | none => exact .none rfl rfl rfl
      | some j =>
          cases k.mmap with
          | none => exact .none rfl rfl rfl
          | some base =>
              have hattach (os : Os) :=
                attachBuffer_carries { t with os := os } i j m.buffer base
              exact ⟨(hattach _).stack, (hattach _).clients, (hattach _).history⟩

/-- A full-size request of a handshaken client that works on one of its slots. -/
structure LocalRequest (t : Transport) (i : Fin clMaxClients) (d : Datagram) : Prop where
  ready : (t.clients i).hello = true
  type : d.buf.u32 0 ∈ [clSetTitleType, clCommitType, clSetGeometryType, clDestroyWindowType]
  full : needed (d.buf.u32 0) ≤ d.n

theorem LocalRequest.not_refusable {d : Datagram} (h : LocalRequest t i d) :
    ¬ Refusable t i d := by
  refine Native.not_refusable h.ready rfl h.full ?_
  have htype := h.type
  simp only [List.mem_cons, List.not_mem_nil, or_false] at htype
  rcases htype with heq | heq | heq | heq <;> rw [heq] <;> decide

theorem clientDatagram_carries {d : Datagram} (h : LocalRequest t i d) (k : Kernel) (now : Int)
    (dirty : Bool)
    (hwindows : ∀ j, ((t.clients i).wins j).clientWid ≠ 0 →
      windowById t.stack ((t.clients i).wins j).serverId ≠ none) :
    Carries i (requestWork (t.clients i) d k) t (clientDatagram t i d k now dirty).t := by
  rcases clientDatagram_cases t i d k now dirty with heq | ⟨hrefuse, -⟩
  · rw [heq]
    have htype := h.type
    have hpath := dispatch_path t i d k dirty
    generalize dispatch t i d k dirty = r at hpath ⊢
    unfold requestWork
    dsimp only
    cases hpath with
    | reject why => exact (h.not_refusable why).elim
    | hello fresh type full accepted => exact absurd (h.ready.symm.trans fresh) (by decide)
    | createWindow ready type full =>
        rw [type] at htype
        exact absurd htype (by decide)
    | setTitle ready type full =>
        rw [if_pos type]
        exact (onSetTitle_carries t i _).closeFds d.fds
    | commit ready type full =>
        rw [if_neg (by rw [type]; decide), if_pos type]
        exact onCommit_carries d.fds k fun j hj => hwindows j (occupied_of_winFind hj)
    | destroyWindow ready type full =>
        rw [if_neg (by rw [type]; decide), if_neg (by rw [type]; decide), if_pos type]
        exact (onDestroyWindow_carries t i _).closeFds d.fds
    | setGeometry ready type full =>
        rw [if_neg (by rw [type]; decide), if_neg (by rw [type]; decide),
          if_neg (by rw [type]; decide)]
        exact (onSetGeometry_carries t i _).closeFds d.fds
    | setCursor ready type full =>
        rw [type] at htype
        exact absurd htype (by decide)
    | ignore ready type =>
        refine (type ?_).elim
        simp only [List.mem_cons, List.not_mem_nil, or_false] at htype
        rcases htype with heq | heq | heq | heq <;> rw [heq] <;> decide
  · exact (h.not_refusable hrefuse).elim

theorem occupied_of_requestWork {c : ClClient} {d : Datagram} {k : Kernel} {a : SlotWork}
    (h : requestWork c d k = some a) : (c.wins a.j).clientWid ≠ 0 := by
  have hfound {wid : Nat} {j : Fin winMax} (hj : winFind c wid = some j) :
      (c.wins j).clientWid ≠ 0 := by
    obtain ⟨hwid, heq⟩ := winFind_eq_some hj
    rwa [heq]
  unfold requestWork at h
  dsimp only at h
  split at h
  · obtain ⟨j, hj, rfl⟩ := Option.map_eq_some_iff.mp h
    exact hfound hj
  · split at h
    · unfold commitWork at h
      split at h
      · cases h
      · obtain ⟨j, hj, hmap⟩ := Option.bind_eq_some_iff.mp h
        obtain ⟨base, -, rfl⟩ := Option.map_eq_some_iff.mp hmap
        exact hfound (Option.filter_eq_some_iff.mp hj).1
    · split at h
      · obtain ⟨j, hj, rfl⟩ := Option.map_eq_some_iff.mp h
        exact hfound hj
      · obtain ⟨j, hj, rfl⟩ := Option.map_eq_some_iff.mp h
        exact hfound hj

end Carries

/-! ## Two clients -/

namespace World

variable {W : World} {i i' : Fin clMaxClients} {d d' : Datagram} {k k' : Kernel} {now now' : Int}

theorem Inv.windows (hW : W.Inv) (i : Fin clMaxClients) (j : Fin winMax)
    (hocc : ((W.t.clients i).wins j).clientWid ≠ 0) :
    windowById W.t.stack ((W.t.clients i).wins j).serverId ≠ none := by
  obtain ⟨w, hw, -⟩ := hW.ledger.linked (h := .client i) hocc
  exact fun hnone => by
    have hfound : windowById W.t.stack ((W.t.clients i).wins j).serverId = some w := hw
    rw [hnone] at hfound
    cases hfound

theorem Inv.carries (hW : W.Inv) (h : LocalRequest W.t i d) (k : Kernel) (now : Int) :
    Carries i (requestWork (W.t.clients i) d k) W.t (W.next (.datagram i d k now)).t :=
  clientDatagram_carries h k now false (hW.windows i)

/-- The works of a request of client `i` and then of one of client `i'`. -/
structure Handled (W V : World) (i i' : Fin clMaxClients) (work work' : Option SlotWork) :
    Prop where
  inv : V.Inv
  stack : V.t.stack =
    workStack (W.t.clients i') work' (workStack (W.t.clients i) work W.t.stack)
  clients : V.t.clients =
    workClients i' (W.t.clients i') work' (workClients i (W.t.clients i) work W.t.clients)
  orphans : V.t.orphans = W.t.orphans

theorem datagram_orphans {i : Fin clMaxClients} {d : Datagram} (h : LocalRequest W.t i d)
    (k : Kernel) (now : Int) : (W.next (.datagram i d k now)).t.orphans = W.t.orphans := by
  funext o
  simp only [World.next]
  rcases clientDatagram_cases W.t i d k now false with heq | ⟨hrefuse, -⟩
  · rw [heq]
    rcases dispatch_frame W.t i d k false with htable | ⟨hfresh, -⟩
    · exact htable.orphan o (by simp)
    · exact absurd (h.ready.symm.trans hfresh) (by decide)
  · exact (h.not_refusable hrefuse).elim

theorem Inv.handled (hW : W.Inv) (hwithin : W.Within) (hne : i ≠ i') (h : LocalRequest W.t i d)
    (h' : LocalRequest W.t i' d')
    (hrun : system.Legal W [.datagram i d k now, .datagram i' d' k' now']) :
    Handled W (system.exec W [.datagram i d k now, .datagram i' d' k' now']) i i'
      (requestWork (W.t.clients i) d k) (requestWork (W.t.clients i') d' k') := by
  obtain ⟨hen, hen', -⟩ := hrun
  have hbound {V : World} {i : Fin clMaxClients} {d : Datagram} {k : Kernel} {now : Int}
      {work : Option SlotWork} (hV : V.Within)
      (hcarries : Carries i work V.t (V.next (.datagram i d k now)).t) :
      (V.next (.datagram i d k now)).Within := by
    show (V.next (.datagram i d k now)).t.history.created.length + V.foreign.length < 4294967295
    rw [hcarries.history]
    exact hV
  have hfirst := hW.carries h k now
  have hU := hW.step (e := .datagram i d k now) hen (hbound hwithin hfirst)
  have hsame : (W.next (.datagram i d k now)).t.clients i' = W.t.clients i' := by
    rw [hfirst.clients]
    unfold workClients
    cases requestWork (W.t.clients i) d k with
    | none => rfl
    | some a => exact Function.update_of_ne hne.symm _ _
  have hlocal : LocalRequest (W.next (.datagram i d k now)).t i' d' :=
    ⟨by rw [hsame]; exact h'.ready, h'.type, h'.full⟩
  have hsecond := hU.carries hlocal k' now'
  have hV := hU.step (e := .datagram i' d' k' now') hen'
    (hbound (hbound hwithin hfirst) hsecond)
  have hstack := hsecond.stack
  have hclients := hsecond.clients
  rw [hsame, hfirst.stack] at hstack
  rw [hsame, hfirst.clients] at hclients
  exact ⟨hV, hstack, hclients,
    (datagram_orphans hlocal k' now').trans (datagram_orphans h k now)⟩

theorem workClients_comm (hne : i ≠ i') {c c' : ClClient} {work work' : Option SlotWork}
    {clients : Fin clMaxClients → ClClient} :
    workClients i c work (workClients i' c' work' clients) =
      workClients i' c' work' (workClients i c work clients) := by
  cases work with
  | none => rfl
  | some a =>
      cases work' with
      | none => rfl
      | some a' => exact Function.update_comm hne.symm _ _ _

theorem Inv.workStack_comm (hW : W.Inv) (hne : i ≠ i') :
    workStack (W.t.clients i) (requestWork (W.t.clients i) d k)
        (workStack (W.t.clients i') (requestWork (W.t.clients i') d' k') W.t.stack) =
      workStack (W.t.clients i') (requestWork (W.t.clients i') d' k')
        (workStack (W.t.clients i) (requestWork (W.t.clients i) d k) W.t.stack) := by
  cases hwork : requestWork (W.t.clients i) d k with
  | none => rfl
  | some a =>
      cases hwork' : requestWork (W.t.clients i') d' k' with
      | none => rfl
      | some a' =>
          have hocc := occupied_of_requestWork hwork
          have hocc' := occupied_of_requestWork hwork'
          refine WindowEdit.apply_comm hW.ledger.stack.nodup (fun heq => ?_)
            (hW.ledger.linked (h := .client i) hocc).mem_ids
            (hW.ledger.linked (h := .client i') hocc').mem_ids a.edit a'.edit
          have hnamed : (W.ledger.wins (.client i) a.j).clientWid ≠ 0 := hocc
          have hnamed' : (W.ledger.wins (.client i') a'.j).clientWid ≠ 0 := hocc'
          obtain ⟨hholder, -⟩ := hW.ledger.naming.owner hnamed hnamed' heq
          exact hne (Holder.client.inj hholder)

/-- A mapping is live if a slot holds it, so the tables say which are. -/
theorem Inv.mem_maps (hW : W.Inv) {V : World} (hV : V.Inv) (hclients : V.t.clients = W.t.clients)
    (horphans : V.t.orphans = W.t.orphans) (m : Nat × Nat) :
    m ∈ V.t.os.maps ↔ m ∈ W.t.os.maps := by
  have hwins : V.t.wins = W.t.wins := by
    funext h
    cases h with
    | client i => exact congrArg (fun c => (c i).wins) hclients
    | orphan k => exact congrArg (fun o => (o k).wins) horphans
  obtain ⟨base, len⟩ := m
  have hmapped : (base, len) ∈ V.t.os.maps ↔
      ∃ h j, (V.t.wins h j).buf = .mapping base ∧ (V.t.wins h j).bufLen = len :=
    hV.ledger.mapping.mapped
  rw [hwins] at hmapped
  exact hmapped.trans hW.ledger.mapping.mapped.symm

end World

structure SameOutcome (t u : Transport) : Prop where
  stack : u.stack = t.stack
  clients : u.clients = t.clients
  maps : ∀ m, m ∈ u.os.maps ↔ m ∈ t.os.maps

/--
In every state that is reached before `2^32 - 1` windows are created, two such
requests of different clients have the same outcome in either order.
-/
theorem requests_commute (sw sh : Int) (es : List Event) (i i' : Fin clMaxClients)
    (d d' : Datagram) (k k' : Kernel) (now now' : Int)
    (hrun : World.system.Legal (.start sw sh) es)
    (hwithin : (World.system.exec (.start sw sh) es).Within) (hne : i ≠ i')
    (h : LocalRequest (World.system.exec (.start sw sh) es).t i d)
    (h' : LocalRequest (World.system.exec (.start sw sh) es).t i' d')
    (hfirst : World.system.Legal (World.system.exec (.start sw sh) es)
      [.datagram i d k now, .datagram i' d' k' now'])
    (hsecond : World.system.Legal (World.system.exec (.start sw sh) es)
      [.datagram i' d' k' now', .datagram i d k now]) :
    SameOutcome
      (World.system.exec (.start sw sh) (es ++ [.datagram i d k now, .datagram i' d' k' now'])).t
      (World.system.exec (.start sw sh)
        (es ++ [.datagram i' d' k' now', .datagram i d k now])).t := by
  have hW := (World.start_inv sw sh).run hrun hwithin
  rw [System.exec_append, System.exec_append]
  generalize World.system.exec (World.start sw sh) es = W at hwithin h h' hfirst hsecond hW
  have hone := hW.handled hwithin hne h h' hfirst
  have htwo := hW.handled hwithin hne.symm h' h hsecond
  have hclients := htwo.clients
  have hstack := htwo.stack
  have htables := hclients.trans ((World.workClients_comm hne).trans hone.clients.symm)
  have hstacks := hstack.trans ((hW.workStack_comm hne).trans hone.stack.symm)
  exact ⟨hstacks, htables,
    hone.inv.mem_maps htwo.inv htables (htwo.orphans.trans hone.orphans.symm)⟩

/-- A panel shows a taskbar, and a second client opens a window, which takes the focus. -/
def twoWindows : List Event :=
  twoClients ++ [.datagram 1 (.ofWords [clCreateWindowType, 3, 0, 9, 9, 400, 300] [])
    ⟨none, fun _ => 0⟩ 40]

theorem twoWindows_legal : World.system.Legal (.start 1920 1080) twoWindows :=
  (System.legal_append _ _ _).mpr
    ⟨twoClients_legal, ⟨by decide, by decide⟩, trivial⟩

theorem requests_commute_twoWindows :
    SameOutcome
      (World.system.exec (.start 1920 1080) (twoWindows ++
        [.datagram 0 (.ofWords [clDestroyWindowType, 3] []) ⟨none, fun _ => 0⟩ 50,
          .datagram 1 (.ofWords [clDestroyWindowType, 3] []) ⟨none, fun _ => 0⟩ 60])).t
      (World.system.exec (.start 1920 1080) (twoWindows ++
        [.datagram 1 (.ofWords [clDestroyWindowType, 3] []) ⟨none, fun _ => 0⟩ 60,
          .datagram 0 (.ofWords [clDestroyWindowType, 3] []) ⟨none, fun _ => 0⟩ 50])).t := by
  refine requests_commute 1920 1080 twoWindows 0 1 _ _ _ _ 50 60 twoWindows_legal (by decide)
    (by decide) ⟨by decide, by decide, by decide⟩ ⟨by decide, by decide, by decide⟩ ?_ ?_
  · exact ⟨⟨by decide, by decide⟩, ⟨by decide, by decide⟩, trivial⟩
  · exact ⟨⟨by decide, by decide⟩, ⟨by decide, by decide⟩, trivial⟩

end CrystallineLattice.Native
