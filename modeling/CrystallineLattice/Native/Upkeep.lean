import CrystallineLattice.Native.Commute
import CrystallineLattice.Stack.Placement

/-!
# What a native client does to the stack

Apart from `CREATE_WINDOW`, `SET_GEOMETRY` and `SET_CURSOR`, whatever a native
client does destroys windows and redraws them.  A relation that allows this much
holds across every other event.
-/

namespace CrystallineLattice.Native

open CrystallineLattice.Foundation
open CrystallineLattice.Stack

structure Unseen (t u : Transport) : Prop where
  stack : u.stack = t.stack
  cursor : u.cursor = t.cursor
  sw : u.sw = t.sw
  sh : u.sh = t.sh

namespace Unseen

variable {t u v : Transport}

theorem trans (h : Unseen t u) (h' : Unseen u v) : Unseen t v :=
  ⟨h'.stack.trans h.stack, h'.cursor.trans h.cursor, h'.sw.trans h.sw, h'.sh.trans h.sh⟩

theorem sendConfigure (t : Transport) (fd : Int) (wid id : Nat) :
    Unseen t (sendConfigure t fd wid id) := by
  unfold Native.sendConfigure
  cases windowById t.stack id <;> exact ⟨rfl, rfl, rfl, rfl⟩

theorem notifyFocus (t : Transport) (id : Nat) : Unseen t (notifyFocus t id) := by
  have hsend (t : Transport) (id : Nat) (focused : Bool) :
      Unseen t (sendFocus t id focused) := by
    unfold sendFocus
    cases findByServerId t id <;> exact ⟨rfl, rfl, rfl, rfl⟩
  unfold Native.notifyFocus
  split
  · exact ⟨rfl, rfl, rfl, rfl⟩
  · refine (hsend t t.focusedServerId false).trans (trans ?_ (hsend _ id true))
    exact ⟨rfl, rfl, rfl, rfl⟩

theorem adoptWindow (t : Transport) (i : Fin clMaxClients) (j : Fin winMax)
    (m : ClCreateWindow) :
    Unseen { t with stack := Ledger.stackWithNew t.stack m t.sw t.sh }
      (adoptWindow { t with stack := (requestedWindow t.stack m).1 } i j m.wid
        (roleFromWire m.role) t.stack.nextId) := by
  unfold Native.adoptWindow
  dsimp only
  split
  · refine (trans ?_ (sendConfigure _ _ _ _)).trans (notifyFocus _ _)
    exact ⟨rfl, rfl, rfl, rfl⟩
  · refine trans ?_ (sendConfigure _ _ _ _)
    exact ⟨rfl, rfl, rfl, rfl⟩

theorem transportAddClient (t : Transport) (fd : Int) (epollOk : Bool) :
    Unseen t (transportAddClient t fd epollOk) := by
  unfold Native.transportAddClient
  cases clientByFd t (-1) with
  | none => exact ⟨rfl, rfl, rfl, rfl⟩
  | some i => cases epollOk <;> exact ⟨rfl, rfl, rfl, rfl⟩

theorem acceptHello (t : Transport) (i : Fin clMaxClients) (d : Datagram) :
    Unseen t (acceptHello t i d) := by
  obtain ⟨u, hu, heq⟩ := acceptHello_cases t i d
  rw [heq]
  cases hu <;> exact ⟨rfl, rfl, rfl, rfl⟩

end Unseen

/-! ## Relations that hold across all but three requests -/

/-- `R` allows the destruction of windows and redrawing them where they are. -/
structure Upkeep (R : Transport → Transport → Prop) : Prop where
  trans : ∀ {t u v}, R t u → R u v → R t v
  still : ∀ {t u : Transport}, Unseen t u → R t u
  destroy : ∀ (t : Transport) (id : Nat), R t { t with stack := windowDestroy t.stack id }
  redraw : ∀ (t : Transport) (id : Nat) {f : Window → Window},
    (∀ w, (f w).place = w.place) → R t { t with stack := t.stack.writeById id f }

namespace Upkeep

variable {R : Transport → Transport → Prop} {t u : Transport}

theorem refl (hR : Upkeep R) (t : Transport) : R t t := hR.still ⟨rfl, rfl, rfl, rfl⟩

theorem setWin (hR : Upkeep R) (h : R t u) (k : Holder) (j : Fin winMax) (w : ClWin) :
    R t (u.setWin k j w) := by
  refine hR.trans h ?_
  cases k <;> exact hR.still ⟨rfl, rfl, rfl, rfl⟩

theorem winDropBuffer (hR : Upkeep R) (t : Transport) (h : Holder) (j : Fin winMax) :
    R t (winDropBuffer t h j) := by
  unfold Native.winDropBuffer
  dsimp only
  split
  · exact hR.refl t
  · have hnull := hR.redraw t (t.wins h j).serverId (f := fun win => { win with buf := .null })
      fun _ => rfl
    refine hR.setWin (hR.trans hnull ?_) h j _
    exact hR.still ⟨rfl, rfl, rfl, rfl⟩

theorem closeSlot (hR : Upkeep R) (t : Transport) (h : Holder) (j : Fin winMax) :
    R t (closeSlot t h j) :=
  hR.setWin (hR.trans (hR.winDropBuffer t h j) (hR.destroy _ _)) h j .zero

theorem attachBuffer (hR : Upkeep R) (t : Transport) (h : Holder) (j : Fin winMax)
    (b : ClBuffer) (base : Nat) : R t (attachBuffer t h j b base) :=
  hR.trans (hR.setWin (hR.winDropBuffer t h j) h j _) (hR.redraw _ _ fun _ => rfl)

theorem destroyTable (hR : Upkeep R) (t : Transport) (h : Holder) : R t (destroyTable t h) :=
  destroyTable_rule (P := R t) (fun u j hu => hR.trans hu (hR.winDropBuffer u h j))
    (fun u id hu => hR.trans hu (hR.destroy u id)) (hR.refl t)

theorem onSetTitle (hR : Upkeep R) (t : Transport) (i : Fin clMaxClients) (m : ClSetTitle) :
    R t (onSetTitle t i m) := by
  rcases onSetTitle_cases t i m with heq | ⟨j, title, -, heq⟩
  · rw [heq]
    exact hR.refl t
  · rw [heq]
    exact hR.redraw t _ fun _ => rfl

theorem onCommit (hR : Upkeep R) (t : Transport) (i : Fin clMaxClients) (m : ClCommit)
    (fds : List Int) (k : Kernel) : R t (onCommit t i m fds k) := by
  rcases onCommit_cases t i m fds k with ⟨closed, heq⟩ | ⟨closed, j, base, -, -, heq⟩
  · rw [heq]
    exact hR.still ⟨rfl, rfl, rfl, rfl⟩
  · rw [heq]
    refine hR.trans ?_ (hR.attachBuffer _ (.client i) j m.buffer base)
    exact hR.still ⟨rfl, rfl, rfl, rfl⟩

theorem onDestroyWindow (hR : Upkeep R) (t : Transport) (i : Fin clMaxClients)
    (m : ClDestroyWindow) : R t (onDestroyWindow t i m) := by
  rcases onDestroyWindow_cases t i m with heq | ⟨j, -, heq⟩
  · rw [heq]
    exact hR.refl t
  · rw [heq]
    exact hR.closeSlot t (.client i) j

theorem clientDrop (hR : Upkeep R) (t : Transport) (i : Fin clMaxClients) (now : Int) :
    R t (clientDrop t i now) := by
  unfold Native.clientDrop
  cases parkingSlot t i with
  | none =>
      have hdestroy := hR.destroyTable t (.client i)
      dsimp only
      generalize Native.destroyTable t (.client i) = u at hdestroy ⊢
      exact hR.trans hdestroy (hR.still ⟨rfl, rfl, rfl, rfl⟩)
  | some k => exact hR.still ⟨rfl, rfl, rfl, rfl⟩

theorem orphanDestroy (hR : Upkeep R) (t : Transport) (k : Fin clMaxClients) :
    R t (orphanDestroy t k) := by
  have hdestroy := hR.destroyTable t (.orphan k)
  unfold Native.orphanDestroy
  generalize Native.destroyTable t (.orphan k) = u at hdestroy ⊢
  exact hR.trans hdestroy (hR.still ⟨rfl, rfl, rfl, rfl⟩)

theorem orphansExpire (hR : Upkeep R) (t : Transport) (now : Int) :
    R t (orphansExpire t now).1 :=
  orphansExpire_rule (P := R t) (fun u k hu _ _ => hR.trans hu (hR.orphanDestroy u k)) (hR.refl t)

end Upkeep

/-! ## The three requests -/

structure Places (t : Transport) (i : Fin clMaxClients) (d : Datagram) (j : Fin winMax) :
    Prop where
  ready : (t.clients i).hello = true
  type : d.buf.u32 0 = clSetGeometryType
  full : ClSetGeometry.size ≤ d.n
  slot : winFind (t.clients i) (ClSetGeometry.read d.buf).wid = some j

structure AsksCursor (t : Transport) (i : Fin clMaxClients) (d : Datagram) : Prop where
  ready : (t.clients i).hello = true
  type : d.buf.u32 0 = clSetCursorType
  full : ClSetCursor.size ≤ d.n

theorem onSetCursor_eq (t : Transport) (m : ClSetCursor) (fds : List Int) (k : Kernel) :
    ∃ os cursor, onSetCursor t m fds k = { t with os := os, cursor := cursor } := by
  unfold onSetCursor
  dsimp only
  split
  · exact ⟨_, _, rfl⟩
  · split
    · exact ⟨_, _, rfl⟩
    · cases k.mmap <;> exact ⟨_, _, rfl⟩

inductive ScenePath (R : Transport → Transport → Prop) (t : Transport) (i : Fin clMaxClients)
    (d : Datagram) (k : Kernel) (u : Transport) : Prop where
  | upkeep (kept : R t u) (uncreated : ∀ j, ¬ Creates t i d j) (unplaced : ∀ j, ¬ Places t i d j)
      (unasked : ¬ AsksCursor t i d)
  | creates (j : Fin winMax) (request : Creates t i d j)
      (result : t.stack.nextId ≠ 0 →
        Unseen { t with stack := Ledger.stackWithNew t.stack (.read d.buf) t.sw t.sh } u)
      (cursor : u.cursor = t.cursor)
  | places (j : Fin winMax) (request : Places t i d j)
      (result : Unseen { t with
        stack := t.stack.writeById ((t.clients i).wins j).serverId (placed (.read d.buf)) } u)
  | cursor (request : AsksCursor t i d) (result : u = onSetCursor t (.read d.buf) d.fds k)

theorem onCreateWindow_unseen (t : Transport) (i : Fin clMaxClients) (m : ClCreateWindow) :
    (onCreateWindow t i m = t ∧ ∀ j, ¬ CreateAccepted t i m j) ∨
      ∃ j, CreateAccepted t i m j ∧ (onCreateWindow t i m).cursor = t.cursor ∧
        (t.stack.nextId ≠ 0 →
          Unseen { t with stack := Ledger.stackWithNew t.stack m t.sw t.sh }
            (onCreateWindow t i m)) := by
  rcases onCreateWindow_cases t i m with h | ⟨j, haccepted, heq⟩
  · exact .inl h
  · have hadopt := Unseen.adoptWindow t i j m
    rw [heq]
    refine .inr ⟨j, haccepted, ?_, fun hnext => ?_⟩
    · split
      · rfl
      · exact hadopt.cursor
    · rw [if_neg hnext]
      exact hadopt

theorem onSetGeometry_unseen (t : Transport) (i : Fin clMaxClients) (m : ClSetGeometry) :
    (onSetGeometry t i m = t ∧ winFind (t.clients i) m.wid = none) ∨
      ∃ j, winFind (t.clients i) m.wid = some j ∧
        Unseen
          { t with stack := t.stack.writeById ((t.clients i).wins j).serverId (placed m) }
          (onSetGeometry t i m) := by
  have hstack := (onSetGeometry_carries t i m).stack
  have hscreen : (onSetGeometry t i m).cursor = t.cursor ∧ (onSetGeometry t i m).sw = t.sw ∧
      (onSetGeometry t i m).sh = t.sh := by
    rcases onSetGeometry_cases t i m with heq | ⟨j, -, heq⟩ <;> rw [heq] <;> exact ⟨rfl, rfl, rfl⟩
  unfold geometryWork at hstack
  cases hfind : winFind (t.clients i) m.wid with
  | none =>
      refine .inl ⟨?_, rfl⟩
      rw [onSetGeometry, hfind]
  | some j =>
      rw [hfind] at hstack
      exact .inr ⟨j, rfl, hstack, hscreen.1, hscreen.2.1, hscreen.2.2⟩

namespace Upkeep

variable {R : Transport → Transport → Prop}

theorem dispatch (hR : Upkeep R) (t : Transport) (i : Fin clMaxClients) (d : Datagram)
    (k : Kernel) (dirty : Bool) :
    ScenePath R t i d k (dispatch t i d k dirty).t := by
  have hclosed (t : Transport) (fds : List Int) : Unseen t (closeFds t fds) :=
    ⟨rfl, rfl, rfl, rfl⟩
  have hquiet {u : Transport} (h : R t u) (hcreate : d.buf.u32 0 ≠ clCreateWindowType)
      (hplace : d.buf.u32 0 ≠ clSetGeometryType) (hcursor : d.buf.u32 0 ≠ clSetCursorType) :
      ScenePath R t i d k u :=
    .upkeep h (fun _ hc => hcreate hc.type) (fun _ hp => hplace hp.type) fun ha => hcursor ha.type
  have hpath := dispatch_path t i d k dirty
  generalize Native.dispatch t i d k dirty = r at hpath ⊢
  cases hpath with
  | reject why =>
      refine .upkeep (hR.still (hclosed t _)) (fun j hc => hc.not_refusable why)
        (fun j hp => ?_) fun ha => ?_
      · exact not_refusable hp.ready hp.type hp.full (by decide) why
      · exact not_refusable ha.ready ha.type ha.full (by decide) why
  | hello fresh type full accepted =>
      refine hquiet (hR.still (.acceptHello t i d)) ?_ ?_ ?_ <;> rw [type] <;> decide
  | createWindow ready type full =>
      rcases onCreateWindow_unseen t i (.read d.buf) with
        ⟨heq, hno⟩ | ⟨j, haccepted, hcursor, h⟩
      · rw [heq]
        refine .upkeep (hR.still (hclosed t _)) (fun j hc => hno j hc.accepted) (fun j hp => ?_)
          fun ha => ?_
        · exact absurd (type.symm.trans hp.type) (by decide)
        · exact absurd (type.symm.trans ha.type) (by decide)
      · exact .creates j ⟨ready, type, full, haccepted⟩
          (fun hnext => (h hnext).trans (hclosed _ _)) hcursor
  | setTitle ready type full =>
      have h := hR.trans (hR.onSetTitle t i (.read d.buf)) (hR.still (hclosed _ d.fds))
      refine hquiet h ?_ ?_ ?_ <;> rw [type] <;> decide
  | commit ready type full =>
      refine hquiet (hR.onCommit t i _ _ _) ?_ ?_ ?_ <;> rw [type] <;> decide
  | destroyWindow ready type full =>
      have h := hR.trans (hR.onDestroyWindow t i (.read d.buf)) (hR.still (hclosed _ d.fds))
      refine hquiet h ?_ ?_ ?_ <;> rw [type] <;> decide
  | setGeometry ready type full =>
      rcases onSetGeometry_unseen t i (.read d.buf) with ⟨heq, hnone⟩ | ⟨j, hslot, h⟩
      · rw [heq]
        refine .upkeep (hR.still (hclosed t _)) (fun j hc => ?_) (fun j hp => ?_) fun ha => ?_
        · exact absurd (type.symm.trans hc.type) (by decide)
        · cases hnone.symm.trans hp.slot
        · exact absurd (type.symm.trans ha.type) (by decide)
      · exact .places j ⟨ready, type, full, hslot⟩ (h.trans (hclosed _ _))
  | setCursor ready type full => exact .cursor ⟨ready, type, full⟩ rfl
  | ignore ready type =>
      refine hquiet (hR.still (hclosed t _)) ?_ ?_ ?_ <;> intro heq <;> rw [heq] at type <;>
        exact type (by decide)

theorem clientDatagram (hR : Upkeep R) (t : Transport) (i : Fin clMaxClients) (d : Datagram)
    (k : Kernel) (now : Int) (dirty : Bool) :
    ScenePath R t i d k (clientDatagram t i d k now dirty).t := by
  rcases clientDatagram_cases t i d k now dirty with heq | ⟨hrefuse, heq⟩
  · rw [heq]
    exact hR.dispatch t i d k dirty
  · have hclosed : R t (closeFds t d.fds) := hR.still ⟨rfl, rfl, rfl, rfl⟩
    rw [heq]
    refine .upkeep ?_ (fun j hc => hc.not_refusable hrefuse) (fun j hp => ?_) fun ha => ?_
    · exact hR.trans hclosed (hR.clientDrop (closeFds t d.fds) i now)
    · exact not_refusable hp.ready hp.type hp.full (by decide) hrefuse
    · exact not_refusable ha.ready ha.type ha.full (by decide) hrefuse

end Upkeep

namespace World

variable {R : Transport → Transport → Prop}

theorem upkeep_next (hR : Upkeep R) (W : World) {e : Event} (hours : ∀ op, e ≠ .other op)
    (hquiet : ∀ i d k now, e ≠ .datagram i d k now) : R W.t (W.next e).t := by
  cases e with
  | addClient fd epollOk => exact hR.still (.transportAddClient W.t fd epollOk)
  | datagram i d k now => exact (hquiet i d k now rfl).elim
  | hangup i now =>
      simp only [World.next]
      exact hR.clientDrop W.t i now
  | expire now =>
      simp only [World.next]
      exact hR.orphansExpire W.t now
  | updateFocus focusId => exact hR.still (.notifyFocus W.t focusId)
  | other op => exact (hours op rfl).elim

end World

end CrystallineLattice.Native
