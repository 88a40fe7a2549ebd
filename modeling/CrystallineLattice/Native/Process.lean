import CrystallineLattice.Native.World

/-!
# The transport's share of an iteration

`transport_process` reaps what is due, then works off the events that `epoll_wait`
reported, in their order.  What the kernel answers to the calls made for an event
is part of the event: the accepted connections, the datagrams queued on a client's
socket, the clock.  The queue of a socket ends with `EAGAIN`, unless it ends with
the loss of the client.
-/

namespace CrystallineLattice.Native

open CrystallineLattice.Foundation
open CrystallineLattice.Stack

/-- What `cl_recv` returns; the clock is the one that is read if the client is dropped. -/
inductive Received where
  | datagram (d : Datagram) (k : Kernel) (now : Int)
  | failed (now : Int)
  | shutdown (now : Int)

inductive EpollEvent where
  | listen (accepted : List (Int × Bool))
  | client (fd : Int) (lost readable : Bool) (queue : List Received) (now : Int)

def acceptPending (t : Transport) (accepted : List (Int × Bool)) : Transport :=
  accepted.foldl (fun t a => transportAddClient t a.1 a.2) t

def clientReadable (t : Transport) (i : Fin clMaxClients) :
    List Received → Bool → Transport × Bool
  | [], dirty => (t, dirty)
  | .failed now :: _, _ => (clientDrop t i now, true)
  | .shutdown now :: _, _ => (clientDrop t i now, true)
  | .datagram d k now :: queue, dirty =>
      let r := clientDatagram t i d k now dirty
      if r.ok then clientReadable r.t i queue r.dirty else (r.t, r.dirty)

def processEvent (acc : Transport × Bool) : EpollEvent → Transport × Bool
  | .listen accepted => (acceptPending acc.1 accepted, acc.2)
  | .client fd lost readable queue now =>
      match clientByFd acc.1 fd with
      | none => acc
      | some i =>
          if lost then (clientDrop acc.1 i now, true)
          else if readable then clientReadable acc.1 i queue acc.2
          else acc

def transportProcess (t : Transport) (now : Int) (evs : List EpollEvent) : Transport × Bool :=
  evs.foldl processEvent (orphansExpire t now)

/-! ## The events of a call -/

/-- The steps of `client_readable` as events of the transport's world. -/
def readLog (t : Transport) (i : Fin clMaxClients) : List Received → List Event
  | [] => []
  | .failed now :: _ => [.hangup i now]
  | .shutdown now :: _ => [.hangup i now]
  | .datagram d k now :: queue =>
      let r := clientDatagram t i d k now false
      .datagram i d k now :: if r.ok then readLog r.t i queue else []

def eventLog (t : Transport) : EpollEvent → List Event
  | .listen accepted => accepted.map fun a => .addClient a.1 a.2
  | .client fd lost readable queue now =>
      match clientByFd t fd with
      | none => []
      | some i => if lost then [.hangup i now] else if readable then readLog t i queue else []

def eventsLog (t : Transport) : List EpollEvent → List Event
  | [] => []
  | e :: evs => eventLog t e ++ eventsLog (processEvent (t, false) e).1 evs

/-- What a call of `transport_process` does, as events of the transport's world. -/
def processLog (t : Transport) (now : Int) (evs : List EpollEvent) : List Event :=
  .expire now :: eventsLog (orphansExpire t now).1 evs

theorem dispatch_dirty (t : Transport) (i : Fin clMaxClients) (d : Datagram) (k : Kernel)
    (dirty : Bool) :
    (dispatch t i d k dirty).t = (dispatch t i d k false).t ∧
      (dispatch t i d k dirty).ok = (dispatch t i d k false).ok ∧
      (dispatch t i d k dirty).dirty = (dirty || (dispatch t i d k false).dirty) := by
  unfold dispatch
  split
  · simp [rejected]
  · split
    · unfold dispatchRequest
      dsimp only
      split_ifs <;> simp [rejected]
    · unfold dispatchHello
      split_ifs <;> simp [rejected]

theorem clientDatagram_dirty (t : Transport) (i : Fin clMaxClients) (d : Datagram) (k : Kernel)
    (now : Int) (dirty : Bool) :
    (clientDatagram t i d k now dirty).t = (clientDatagram t i d k now false).t ∧
      (clientDatagram t i d k now dirty).ok = (clientDatagram t i d k now false).ok ∧
      (clientDatagram t i d k now dirty).dirty =
        (dirty || (clientDatagram t i d k now false).dirty) := by
  obtain ⟨ht, hok, hdirty⟩ := dispatch_dirty t i d k dirty
  unfold clientDatagram
  dsimp only
  rw [hok]
  split
  · exact ⟨ht, hok, hdirty⟩
  · rw [ht]
    simp

theorem clientReadable_dirty (t : Transport) (i : Fin clMaxClients) (queue : List Received)
    (dirty : Bool) :
    clientReadable t i queue dirty =
      ((clientReadable t i queue false).1, dirty || (clientReadable t i queue false).2) := by
  induction queue generalizing t dirty with
  | nil => simp [clientReadable]
  | cons r queue ih =>
      cases r with
      | failed now => simp [clientReadable]
      | shutdown now => simp [clientReadable]
      | datagram d k now =>
          obtain ⟨ht, hok, hdirty⟩ := clientDatagram_dirty t i d k now dirty
          simp only [clientReadable]
          rw [ht, hok, hdirty]
          split
          · rw [ih _ (dirty || _), ih _ (clientDatagram t i d k now false).dirty, Bool.or_assoc]
          · rfl

theorem processEvent_dirty (t : Transport) (dirty : Bool) (e : EpollEvent) :
    processEvent (t, dirty) e =
      ((processEvent (t, false) e).1, dirty || (processEvent (t, false) e).2) := by
  cases e with
  | listen accepted => simp [processEvent]
  | client fd lost readable queue now =>
      unfold processEvent
      dsimp only
      cases clientByFd t fd with
      | none => simp
      | some i =>
          dsimp only
          split
          · simp
          · split
            · exact clientReadable_dirty t i queue dirty
            · simp

theorem exec_acceptPending (W : World) (accepted : List (Int × Bool)) :
    World.system.exec W (accepted.map fun a => .addClient a.1 a.2) =
      { W with t := acceptPending W.t accepted } := by
  induction accepted generalizing W with
  | nil => rfl
  | cons a accepted ih => exact ih (W.next (.addClient a.1 a.2))

theorem exec_readLog (W : World) (i : Fin clMaxClients) (queue : List Received) :
    World.system.exec W (readLog W.t i queue) =
      { W with t := (clientReadable W.t i queue false).1 } := by
  induction queue generalizing W with
  | nil => rfl
  | cons r queue ih =>
      cases r with
      | failed now => rfl
      | shutdown now => rfl
      | datagram d k now =>
          simp only [readLog, clientReadable, System.exec_cons]
          split
          · rw [clientReadable_dirty]
            exact ih (W.next (.datagram i d k now))
          · rfl

theorem exec_eventLog (W : World) (e : EpollEvent) :
    World.system.exec W (eventLog W.t e) = { W with t := (processEvent (W.t, false) e).1 } := by
  cases e with
  | listen accepted => exact exec_acceptPending W accepted
  | client fd lost readable queue now =>
      unfold eventLog processEvent
      dsimp only
      cases clientByFd W.t fd with
      | none => rfl
      | some i =>
          dsimp only
          split
          · rfl
          · split
            · exact exec_readLog W i queue
            · rfl

theorem foldl_processEvent (t : Transport) (dirty : Bool) (evs : List EpollEvent) :
    (evs.foldl processEvent (t, dirty)).1 = (evs.foldl processEvent (t, false)).1 := by
  induction evs generalizing t dirty with
  | nil => rfl
  | cons e evs ih =>
      simp only [List.foldl_cons]
      rw [processEvent_dirty t dirty e, ih, processEvent_dirty t false e, ih _ (false || _)]

theorem exec_eventsLog (W : World) (evs : List EpollEvent) :
    World.system.exec W (eventsLog W.t evs) =
      { W with t := (evs.foldl processEvent (W.t, false)).1 } := by
  induction evs generalizing W with
  | nil => rfl
  | cons e evs ih =>
      simp only [eventsLog, System.exec_append, exec_eventLog, List.foldl_cons]
      have hrest := ih { W with t := (processEvent (W.t, false) e).1 }
      rw [hrest, ← foldl_processEvent _ (processEvent (W.t, false) e).2 evs]

/-- A call of `transport_process` is the run of the world that its log says. -/
theorem exec_processLog (W : World) (now : Int) (evs : List EpollEvent) :
    World.system.exec W (processLog W.t now evs) =
      { W with t := (transportProcess W.t now evs).1 } := by
  obtain ⟨r, hr⟩ : ∃ r, orphansExpire W.t now = r := ⟨_, rfl⟩
  have hexpired : World.system.next W (.expire now) = { W with t := r.1 } := by
    simp only [World.system, World.next, hr]
  have hevents := exec_eventsLog { W with t := r.1 } evs
  simp only [processLog, transportProcess, System.exec_cons, hexpired, hr]
  rw [hevents, ← foldl_processEvent _ r.2]

end CrystallineLattice.Native
