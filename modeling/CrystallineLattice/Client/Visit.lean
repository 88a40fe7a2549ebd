import CrystallineLattice.Client.Requests
import CrystallineLattice.Server.Bystander
import CrystallineLattice.Server.Conversations

/-!
# A visit of the test client

The client and the server run side by side, and the server works for everyone else
meanwhile.  Datagrams wait in one queue and messages in another.  The client's sends
wait for room and fail only when the server has closed its end.  The server's do not
wait: messages for which there is no room are lost, but an empty queue takes one.
-/

namespace CrystallineLattice.Client

open CrystallineLattice.Foundation
open CrystallineLattice.Stack
open CrystallineLattice.Native
open CrystallineLattice.Server

/-! ## The parties -/

inductive Link where
  | backlog
  | seated (i : Fin clMaxClients)
  | refused
  | ended
  deriving DecidableEq

def Link.isOpen : Link → Bool
  | .backlog => true
  | .seated _ => true
  | .refused => false
  | .ended => false

structure Visit where
  run : ServerRun
  pc : Pc
  link : Link
  /-- The datagrams that the server has not received. -/
  up : List Datagram
  /-- The messages that the client has not received. -/
  down : List Message
  holding : Holding

inductive VisitEvent where
  /-- The server does anything but serve this client; `got` is what it sends to it. -/
  | server (e : ServerEvent) (got : List Message)
  | accept (fd : Int) (epollOk : Bool)
  /-- The server receives the client's next datagram, with the descriptors `fds`. -/
  | deliver (fds : List Int) (k : Kernel) (now : Int) (got : List Message)
  | hangup (now : Int)
  | receive (bfd : Option Int)
  | send
  | quit

def Pc.sends : Pc → List Datagram
  | .sending d _ => [d]
  | _ => []

namespace Visit

def start (X : ServerRun) : Visit := ⟨X, .awaitWelcome, .backlog, [hello], [], .unasked⟩

def next (C : Visit) : VisitEvent → Visit
  | .server e got => { C with run := C.run.next e, down := C.down ++ got }
  | .accept fd epollOk =>
      let X := C.run.next (.transport (.addClient fd epollOk))
      { C with
        run := X
        link :=
          match clientByFd X.world.t fd with
          | some i => .seated i
          | none => .refused }
  | .deliver fds k now got =>
      match C.link, C.up with
      | .seated i, d :: up =>
          let X := C.run.next (.transport (.datagram i { d with fds := fds } k now))
          { C with
            run := X
            link := if (X.world.t.clients i).fd < 0 then .ended else .seated i
            up := up
            down := C.down ++ got
            holding := C.holding.after C.run.world.t.stack (if fds = [] then none else k.mmap)
              (d.buf.u32 0) }
      | _, _ => C
  | .hangup now =>
      match C.link with
      | .seated i => { C with run := C.run.next (.transport (.hangup i now)), link := .ended }
      | _ => C
  | .receive bfd => { C with pc := C.pc.received C.down.head? bfd, down := C.down.tail }
  | .send =>
      { C with
        pc := C.pc.sent C.link.isOpen
        up := if C.link.isOpen then C.up ++ C.pc.sends else C.up }
  | .quit => { C with pc := .exited }

structure Gets (C : Visit) (i : Fin clMaxClients) (Y : ServerRun) (got : List Message) : Prop where
  sent : got.Sublist (news C.run.world.t Y.world.t (C.run.world.t.clients i).fd)
  first : C.down = [] →
    got.head? = (news C.run.world.t Y.world.t (C.run.world.t.clients i).fd).head?

instance (C : Visit) (i : Fin clMaxClients) (Y : ServerRun) (got : List Message) :
    Decidable (C.Gets i Y got) :=
  decidable_of_iff
    (got.Sublist (news C.run.world.t Y.world.t (C.run.world.t.clients i).fd) ∧
      (C.down = [] →
        got.head? = (news C.run.world.t Y.world.t (C.run.world.t.clients i).fd).head?))
    ⟨fun h => ⟨h.1, h.2⟩, fun h => ⟨h.sent, h.first⟩⟩

def enabled (C : Visit) : VisitEvent → Prop
  | .server e got =>
      C.run.enabled e ∧ C.run.NewFd e ∧
        match C.link with
        | .seated i => ¬ e.About i ∧ C.Gets i (C.run.next e) got
        | _ => got = []
  | .accept fd epollOk =>
      C.link = .backlog ∧ C.run.enabled (.transport (.addClient fd epollOk)) ∧
        C.run.NewFd (.transport (.addClient fd epollOk))
  | .deliver fds k now got =>
      ∃ i d up, C.link = .seated i ∧ C.up = d :: up ∧ fds.length ≤ d.fds.length ∧
        C.run.enabled (.transport (.datagram i { d with fds := fds } k now)) ∧
        C.Gets i (C.run.next (.transport (.datagram i { d with fds := fds } k now))) got
  | .hangup now =>
      ∃ i, C.link = .seated i ∧ C.pc.Done ∧ C.run.enabled (.transport (.hangup i now))
  | .receive _ =>
      (C.pc = .awaitWelcome ∨ C.pc = .serving) ∧ (C.down ≠ [] ∨ C.link.isOpen = false)
  | .send => ∃ d todo, C.pc = .sending d todo
  | .quit => ¬ C.pc.Done

def system : System Visit VisitEvent := ⟨enabled, next⟩

end Visit

/-! ## Progress -/

def Pc.unsent : Pc → Option (List Datagram)
  | .sending d todo => some (d :: todo)
  | .serving => some []
  | _ => none

/-- How far the client has come with a server that has its handshake or has not. -/
inductive Progress : Bool → Pc → List Datagram → Holding → Prop
  | greeting {pc : Pc} (waits : pc = .awaitWelcome ∨ pc = .exited) :
      Progress false pc [hello] .unasked
  | welcomed {pc : Pc} (waits : pc = .awaitWelcome ∨ pc = .exited) : Progress true pc [] .unasked
  | asking {pc : Pc} {up P : List Datagram} {H : Holding} (stage : Stage P H)
      (left : pc = .exited ∧ up <+: P ∨ ∃ l, pc.unsent = some l ∧ up ++ l = P) :
      Progress true pc up H

theorem Progress.deliver {W : World} (hW : W.Inv) {i : Fin clMaxClients} {pc : Pc} {d : Datagram}
    {up : List Datagram} {H : Holding}
    (hprogress : Progress (W.t.clients i).hello pc (d :: up) H) (h : Has W.t i H) {fds : List Int}
    {k : Kernel} {now : Int} (hen : W.enabled (.datagram i { d with fds := fds } k now))
    (hwithin : (W.next (.datagram i { d with fds := fds } k now)).Within) :
    let u := (W.next (.datagram i { d with fds := fds } k now)).t
    let H' := H.after W.t.stack (if fds = [] then none else k.mmap) (d.buf.u32 0)
    0 ≤ (u.clients i).fd ∧ Has u i H' ∧ Progress (u.clients i).hello pc up H' := by
  generalize hhello : (W.t.clients i).hello = hello at hprogress
  cases hprogress with
  | greeting waits =>
      obtain ⟨hready, hfd, hunasked⟩ := clientDatagram_hello hen.1 hhello h fds k now
      have htype : Client.hello.buf.u32 0 ≠ clCreateWindowType := by decide
      dsimp only
      rw [Holding.after, if_neg htype]
      simp only [World.next]
      rw [hready, hfd]
      exact ⟨hen.1, hunasked, .welcomed waits⟩
  | @asking _ _ P _ stage left =>
      -- the datagram is the first of those that were not delivered
      obtain ⟨P', rfl, hleft⟩ : ∃ P', P = d :: P' ∧
          (pc = .exited ∧ up <+: P' ∨ ∃ l, pc.unsent = some l ∧ up ++ l = P') := by
        rcases left with ⟨hpc, hprefix⟩ | ⟨l, hl, hleft⟩
        · cases P with
          | nil => cases List.prefix_nil.mp hprefix
          | cons d' P' =>
              obtain ⟨rfl, hrest⟩ := List.cons_prefix_cons.mp hprefix
              exact ⟨P', rfl, .inl ⟨hpc, hrest⟩⟩
        · exact ⟨up ++ l, hleft.symm, .inr ⟨l, hl, rfl⟩⟩
      obtain ⟨hstage, hhas⟩ := stage.deliver hW hhello h hen hwithin
      rcases World.next_client hen hen.1 hhello with ⟨⟨-, hrefuse⟩, -⟩ | ⟨-, hfd, hready⟩
      · exact (stage.not_refusable hhello fds hrefuse).elim
      · dsimp only
        rw [hready, hfd]
        exact ⟨hen.1, hhas, .asking hstage hleft⟩

theorem Progress.exited {ready : Bool} {pc : Pc} {up : List Datagram} {H : Holding}
    (h : Progress ready pc up H) (hdone : pc.Done) : pc = .exited := by
  have hwaits (waits : pc = .awaitWelcome ∨ pc = .exited) : pc = .exited :=
    waits.resolve_left fun hpc => by
      rw [hpc] at hdone
      exact hdone
  cases h with
  | greeting waits => exact hwaits waits
  | welcomed waits => exact hwaits waits
  | asking stage left =>
      rcases left with ⟨hpc, -⟩ | ⟨l, hl, -⟩
      · exact hpc
      · cases pc with
        | sending d todo => exact hdone.elim
        | serving => exact hdone.elim
        | _ => cases hl

section Progress

variable {ready : Bool} {up : List Datagram} {H : Holding}

theorem Progress.welcome (h : Progress true .awaitWelcome up H) (w ht token : Nat)
    (bfd : Option Int) :
    let pc := Pc.received .awaitWelcome (some (.welcome clMagic clVersion w ht token)) bfd
    pc ≠ .awaitWelcome ∧ Progress true pc up H := by
  have hfailed : Pc.received .awaitWelcome (some (.welcome clMagic clVersion w ht token)) none =
      .exited := rfl
  have hreceived (bfd : Int) :
      Pc.received .awaitWelcome (some (.welcome clMagic clVersion w ht token)) (some bfd) =
        .sending createWindow [setTitle, commit bfd] := rfl
  dsimp only
  cases h with
  | welcomed waits =>
      cases bfd with
      | none =>
          rw [hfailed]
          exact ⟨Pc.noConfusion, .welcomed (.inr rfl)⟩
      | some bfd =>
          rw [hreceived]
          exact ⟨Pc.noConfusion, .asking (.asking bfd) (.inr ⟨_, rfl, rfl⟩)⟩
  | asking stage left => rcases left with ⟨hpc, -⟩ | ⟨l, hl, -⟩ <;> contradiction

theorem Progress.serving (h : Progress ready .serving up H) (m : Message) (bfd : Option Int) :
    Progress ready (Pc.received .serving (some m) bfd) up H := by
  cases h with
  | greeting waits => rcases waits with hpc | hpc <;> cases hpc
  | welcomed waits => rcases waits with hpc | hpc <;> cases hpc
  | asking stage left =>
      rcases left with ⟨hpc, -⟩ | ⟨l, hl, hleft⟩
      · cases hpc
      · show Progress true (if Message.type m = clCloseType then .exited else .serving) up H
        split
        · exact .asking stage (.inl ⟨rfl, ⟨l, hleft⟩⟩)
        · exact .asking stage (.inr ⟨l, hl, hleft⟩)

theorem Progress.send {d : Datagram} {todo : List Datagram}
    (h : Progress ready (.sending d todo) up H) :
    Progress ready (Pc.sent (.sending d todo) true) (up ++ [d]) H := by
  cases h with
  | greeting waits => rcases waits with hpc | hpc <;> cases hpc
  | welcomed waits => rcases waits with hpc | hpc <;> cases hpc
  | asking stage left =>
      rcases left with ⟨hpc, -⟩ | ⟨l, hl, hleft⟩
      · cases hpc
      · obtain rfl : d :: todo = l := Option.some.inj hl
        refine .asking stage (.inr ⟨todo, ?_, by rw [← hleft, List.append_assoc]; rfl⟩)
        cases todo <;> rfl

theorem Progress.answered (h : Progress ready .serving [] H) :
    H = .refused ∨ ∃ id base, H = .opened (shown id base) := by
  cases h with
  | welcomed waits => rcases waits with hpc | hpc <;> cases hpc
  | asking stage left =>
      rcases left with ⟨hpc, -⟩ | ⟨l, hl, hleft⟩
      · cases hpc
      · obtain rfl : [] = l := Option.some.inj hl
        cases hleft
        cases stage with
        | done got => exact got

theorem Progress.normal {pc : Pc} (h : Progress ready pc up H) {w : Window}
    (hw : H = .opened w) : w.role = .normal := by
  cases h with
  | greeting waits => cases hw
  | welcomed waits => cases hw
  | asking stage left => exact stage.normal hw

theorem Progress.quit {pc : Pc} (h : Progress ready pc up H) : Progress ready .exited up H := by
  cases h with
  | greeting waits => exact .greeting (.inr rfl)
  | welcomed waits => exact .welcomed (.inr rfl)
  | asking stage left =>
      refine .asking stage (.inl ⟨rfl, ?_⟩)
      rcases left with ⟨-, hprefix⟩ | ⟨l, -, hleft⟩
      · exact hprefix
      · exact ⟨l, hleft⟩

end Progress

/-- What waits for the client begins as a conversation of its connection does. -/
def Begins (t : Transport) (i : Fin clMaxClients) (down : List Message) : Prop :=
  ∃ l, Conforms t i l ∧ down.head? = l.head?

theorem Begins.welcome {t : Transport} {i : Fin clMaxClients} {m : Message} {down : List Message}
    (h : Begins t i (m :: down)) :
    (t.clients i).hello = true ∧ ∃ w ht token, m = .welcome clMagic clVersion w ht token := by
  obtain ⟨l, hconforms, hhead⟩ := h
  unfold Conforms at hconforms
  split at hconforms
  · rename_i hready
    obtain ⟨w, ht, rest, rfl, -⟩ := hconforms
    exact ⟨hready, w, ht, _, Option.some.inj hhead⟩
  · rw [hconforms] at hhead
    cases hhead

namespace Visit

inductive Standing (C : Visit) : Prop
  | backlog (link : C.link = .backlog) (up : C.up = [hello]) (down : C.down = [])
      (holding : C.holding = .unasked) (waits : C.pc = .awaitWelcome ∨ C.pc = .exited)
  | seated {i : Fin clMaxClients} (link : C.link = .seated i)
      (isOpen : 0 ≤ (C.run.world.t.clients i).fd) (has : Has C.run.world.t i C.holding)
      (begins : C.pc = .awaitWelcome → Begins C.run.world.t i C.down)
      (progress : Progress (C.run.world.t.clients i).hello C.pc C.up C.holding)
  | refused (link : C.link = .refused) (down : C.down = [])
      (waits : C.pc = .awaitWelcome ∨ C.pc.Done)
  | ended (link : C.link = .ended) (pc : C.pc = .exited)

structure Inv (C : Visit) : Prop where
  run : C.run.Inv
  fds : Watch.OwnFds C.run.world.t
  standing : C.Standing

def Within (C : Visit) : Prop := C.run.Within

instance (C : Visit) : Decidable C.Within := inferInstanceAs (Decidable C.run.Within)

variable {C : Visit}

theorem start_inv (S : Setup) : (start S.start).Inv where
  run := S.start_inv
  fds i i' hopen := by simp [start, Setup.start, transportCreate, ClClient.zero] at hopen
  standing := .backlog rfl rfl rfl rfl (.inl rfl)

/-! ## The server's steps -/

theorem begins_next (hC : C.Inv) {e : ServerEvent} (hen : C.run.enabled e) (hnew : C.run.NewFd e)
    {i : Fin clMaxClients} (hopen : 0 ≤ (C.run.world.t.clients i).fd)
    (hstill : 0 ≤ ((C.run.next e).world.t.clients i).fd) {got : List Message}
    (hgets : C.Gets i (C.run.next e) got) (hbegins : Begins C.run.world.t i C.down) :
    Begins (C.run.next e).world.t i (C.down ++ got) := by
  obtain ⟨l, hconforms, hhead⟩ := hbegins
  obtain ⟨hturn, hfds⟩ := ServerRun.turn_next hC.run hen hnew hC.fds
  refine ⟨_, hturn.conforms hC.fds hfds hstill fun _ => hconforms, ?_⟩
  rw [Native.listen, if_neg (not_lt.mpr hopen), List.head?_append, List.head?_append, hhead]
  cases hdown : C.down with
  | nil =>
      rw [hdown] at hhead
      rw [← hhead, hgets.first hdown]
  | cons m rest =>
      rw [hdown] at hhead
      rw [← hhead]
      rfl

theorem standing_server (hC : C.Inv) {e : ServerEvent} {got : List Message}
    (hen : C.enabled (.server e got)) (hwithin : (C.next (.server e got)).Within) :
    (C.next (.server e got)).Standing := by
  obtain ⟨hen, hnew, hgets⟩ := hen
  cases hC.standing with
  | backlog link up down holding waits =>
      rw [link] at hgets
      refine .backlog link up ?_ holding waits
      show C.down ++ got = []
      rw [down, hgets]
      rfl
  | @seated i link isOpen has begins progress =>
      rw [link] at hgets
      obtain ⟨hother, hgets⟩ := hgets
      have hpreserves := ServerRun.preserves_next hC.run hen hwithin isOpen hother
      have hopen : 0 ≤ ((C.run.next e).world.t.clients i).fd := by
        rw [hpreserves.client]
        exact isOpen
      refine .seated link hopen (has.keep hpreserves.client (hpreserves.content hC.run))
        (fun hpc => begins_next hC hen hnew isOpen hopen hgets (begins hpc)) ?_
      show Progress ((C.run.next e).world.t.clients i).hello C.pc C.up C.holding
      rw [hpreserves.client]
      exact progress
  | refused link down waits =>
      rw [link] at hgets
      refine .refused link ?_ waits
      show C.down ++ got = []
      rw [down, hgets]
      rfl
  | ended link pc => exact .ended link pc

theorem accepted_fresh {t : Transport} {fd : Int} {epollOk : Bool} (hfd : 0 ≤ fd)
    (hnew : ∀ i, (t.clients i).fd ≠ fd) {i : Fin clMaxClients}
    (hi : clientByFd (transportAddClient t fd epollOk) fd = some i) :
    (transportAddClient t fd epollOk).clients i = .zero fd := by
  have hfound : ((transportAddClient t fd epollOk).clients i).fd = fd := by
    simpa using firstIndex_eq_some hi
  unfold transportAddClient at hfound ⊢
  cases hslot : clientByFd t (-1) with
  | none =>
      rw [hslot] at hfound
      exact (hnew i hfound).elim
  | some i' =>
      rw [hslot] at hfound
      by_cases hi' : i = i'
      · subst hi'
        cases epollOk with
        | true => simp
        | false =>
            have hlost : (-1 : Int) = fd := by simpa [ClClient.zero] using hfound
            omega
      · have hother : (t.clients i).fd = fd := by
          cases epollOk <;> simpa [Transport.setClient, hi'] using hfound
        exact (hnew i hother).elim

theorem standing_accept (hC : C.Inv) {fd : Int} {epollOk : Bool}
    (hen : C.enabled (.accept fd epollOk)) : (C.next (.accept fd epollOk)).Standing := by
  obtain ⟨hlink, hen, hnew⟩ := hen
  cases hC.standing with
  | backlog link up down holding waits =>
      cases hslot : clientByFd (C.run.next (.transport (.addClient fd epollOk))).world.t fd with
      | none =>
          refine .refused ?_ down (waits.imp_right fun hpc => ?_)
          · simp only [Visit.next, hslot]
          · show C.pc.Done
            rw [hpc]
            trivial
      | some i =>
          have hfresh : (C.run.next (.transport (.addClient fd epollOk))).world.t.clients i =
              .zero fd := accepted_fresh hen.2.2 hnew hslot
          refine .seated (i := i) ?_ ?_ ⟨?_, fun w hw => ?_⟩ (fun _ => ⟨[], ?_, ?_⟩) ?_
          · simp only [Visit.next, hslot]
          · show 0 ≤ ((C.run.next (.transport (.addClient fd epollOk))).world.t.clients i).fd
            rw [hfresh]
            exact hen.2.2
          · show ((C.run.next (.transport (.addClient fd epollOk))).world.t.clients i).wins =
              C.holding.table
            rw [hfresh, holding]
            rfl
          · have hunasked : C.holding = .opened w := hw
            cases holding.symm.trans hunasked
          · show Conforms (C.run.next (.transport (.addClient fd epollOk))).world.t i []
            rw [Conforms, hfresh]
            rfl
          · show C.down.head? = none
            rw [down]
            rfl
          · show Progress
              ((C.run.next (.transport (.addClient fd epollOk))).world.t.clients i).hello
              C.pc C.up C.holding
            rw [hfresh, up, holding]
            exact .greeting waits
  | seated link => cases hlink.symm.trans link
  | refused link => cases hlink.symm.trans link
  | ended link => cases hlink.symm.trans link

theorem standing_deliver (hC : C.Inv) {fds : List Int} {k : Kernel} {now : Int}
    {got : List Message} (hen : C.enabled (.deliver fds k now got))
    (hwithin : (C.next (.deliver fds k now got)).Within) :
    (∃ i, (C.next (.deliver fds k now got)).link = .seated i) ∧
      (C.next (.deliver fds k now got)).Standing := by
  obtain ⟨i, d, up, hlink, hup, -, hen, hgets⟩ := hen
  cases hC.standing with
  | backlog link => cases hlink.symm.trans link
  | refused link => cases hlink.symm.trans link
  | ended link => cases hlink.symm.trans link
  | @seated i' link isOpen has begins progress =>
      obtain rfl : i = i' := Link.seated.inj (hlink.symm.trans link)
      rw [hup] at progress
      simp only [Visit.next, hlink, hup] at hwithin ⊢
      obtain ⟨hstill, hhas, hprogress⟩ :=
        progress.deliver hC.run.coherent.world has hen.2.2 hwithin
      have hopen := not_lt.mpr hstill
      refine ⟨⟨i, if_neg hopen⟩, .seated (if_neg hopen) hstill hhas (fun hpc => ?_) hprogress⟩
      exact begins_next hC hen trivial isOpen hstill hgets (begins hpc)

theorem standing_hangup (hC : C.Inv) {now : Int} (hen : C.enabled (.hangup now)) :
    (C.next (.hangup now)).Standing := by
  obtain ⟨i, hlink, hdone, -⟩ := hen
  cases hC.standing with
  | backlog link => cases hlink.symm.trans link
  | refused link => cases hlink.symm.trans link
  | ended link => cases hlink.symm.trans link
  | seated link isOpen has begins progress =>
      simp only [Visit.next, hlink]
      exact .ended rfl (progress.exited hdone)

/-! ## The client's steps -/

theorem standing_receive (hC : C.Inv) {bfd : Option Int} (hen : C.enabled (.receive bfd)) :
    (C.next (.receive bfd)).Standing := by
  obtain ⟨hpc, hcan⟩ := hen
  cases hC.standing with
  | backlog link up down =>
      rw [down, link] at hcan
      rcases hcan with h | h
      · exact (h rfl).elim
      · cases h
  | seated link isOpen has begins progress =>
      rw [link] at hcan
      have hsome := hcan.resolve_right (by simp [Link.isOpen])
      obtain ⟨m, rest, hdown⟩ := List.exists_cons_of_ne_nil hsome
      simp only [Visit.next, hdown, List.head?_cons]
      rcases hpc with hpc | hpc
      · rw [hdown] at begins
        obtain ⟨hready, w, ht, token, rfl⟩ := (begins hpc).welcome
        rw [hready, hpc] at progress
        obtain ⟨hleaves, hprogress⟩ := progress.welcome w ht token bfd
        rw [hpc]
        refine .seated link isOpen has (fun hawait => (hleaves hawait).elim) ?_
        dsimp only
        rw [hready]
        exact hprogress
      · rw [hpc] at progress ⊢
        refine .seated link isOpen has (fun hawait => ?_) (progress.serving m bfd)
        have hawait : (if Message.type m = clCloseType then Pc.exited else .serving) =
            .awaitWelcome := hawait
        split at hawait <;> cases hawait
  | refused link down waits =>
      have hpc : C.pc = .awaitWelcome := by
        rcases hpc with hpc | hserving
        · exact hpc
        · rcases waits with hpc | hdone
          · exact hpc
          · rw [hserving] at hdone
            exact hdone.elim
      refine .refused link ?_ (.inr ?_)
      · show C.down.tail = []
        rw [down]
        rfl
      · show (C.pc.received C.down.head? bfd).Done
        rw [down, hpc]
        trivial
  | ended link pc =>
      rcases hpc with hpc | hpc <;> cases pc.symm.trans hpc

theorem standing_send (hC : C.Inv) (hen : C.enabled .send) : (C.next .send).Standing := by
  obtain ⟨d, todo, hpc⟩ := hen
  have hwaits (waits : C.pc = .awaitWelcome ∨ C.pc.Done) : False := by
    rcases waits with hawait | hdone
    · cases hpc.symm.trans hawait
    · rw [hpc] at hdone
      exact hdone
  cases hC.standing with
  | backlog link up down holding waits =>
      rcases waits with hawait | hexited
      · cases hpc.symm.trans hawait
      · cases hpc.symm.trans hexited
  | seated link isOpen has begins progress =>
      simp only [Visit.next, link, hpc, Pc.sends, Link.isOpen]
      rw [hpc] at progress
      refine .seated rfl isOpen has (fun hawait => ?_) progress.send
      cases todo <;> cases hawait
  | refused link down waits => exact (hwaits waits).elim
  | ended link hexited => cases hpc.symm.trans hexited

theorem standing_quit (hC : C.Inv) : (C.next .quit).Standing := by
  cases hC.standing with
  | backlog link up down holding waits => exact .backlog link up down holding (.inr rfl)
  | seated link isOpen has begins progress =>
      exact .seated link isOpen has (fun hawait => nomatch hawait) progress.quit
  | refused link down waits => exact .refused link down (.inr trivial)
  | ended link hexited => exact .ended link rfl

theorem standing_next (hC : C.Inv) {e : VisitEvent} (hen : C.enabled e)
    (hwithin : (C.next e).Within) : (C.next e).Standing := by
  cases e with
  | server e got => exact standing_server hC hen hwithin
  | accept fd epollOk => exact standing_accept hC hen
  | deliver fds k now got => exact (standing_deliver hC hen hwithin).2
  | hangup now => exact standing_hangup hC hen
  | receive bfd => exact standing_receive hC hen
  | send => exact standing_send hC hen
  | quit => exact standing_quit hC

/-! ## Steps -/

theorem next_run {e : VisitEvent} (hen : C.enabled e) :
    (C.next e).run = C.run ∨
      ∃ e', C.run.enabled e' ∧ C.run.NewFd e' ∧ (C.next e).run = C.run.next e' := by
  cases e with
  | server e got => exact .inr ⟨e, hen.1, hen.2.1, rfl⟩
  | accept fd epollOk => exact .inr ⟨_, hen.2.1, hen.2.2, rfl⟩
  | deliver fds k now got =>
      obtain ⟨i, d, up, hlink, hup, -, hen, -⟩ := hen
      refine .inr ⟨_, hen, trivial, ?_⟩
      simp only [Visit.next, hlink, hup]
  | hangup now =>
      obtain ⟨i, hlink, -, hen⟩ := hen
      refine .inr ⟨_, hen, trivial, ?_⟩
      simp only [Visit.next, hlink]
  | _ => exact .inl rfl

theorem Within.mono {e : VisitEvent} (hen : C.enabled e) (h : (C.next e).Within) : C.Within := by
  unfold Within at h ⊢
  rcases next_run hen with hrun | ⟨e', hen', -, hrun⟩
  · rwa [hrun] at h
  · rw [hrun] at h
    exact h.mono hen'

theorem Inv.step (hC : C.Inv) {e : VisitEvent} (hen : C.enabled e) (hwithin : (C.next e).Within) :
    (C.next e).Inv := by
  have hserver : (C.next e).run.Inv ∧ Watch.OwnFds (C.next e).run.world.t := by
    unfold Within at hwithin
    rcases next_run hen with hrun | ⟨e', hen', hnew, hrun⟩
    · rw [hrun]
      exact ⟨hC.run, hC.fds⟩
    · rw [hrun] at hwithin ⊢
      exact ⟨hC.run.step hen' hwithin, (ServerRun.turn_next hC.run hen' hnew hC.fds).2⟩
  exact ⟨hserver.1, hserver.2, standing_next hC hen hwithin⟩

/-! ## What the client gets -/

/--
The client fails only if it is refused a connection, and the server never ends it.
While it is connected the server has exactly what it asked for.  Once its requests
are delivered it has its window with the title and the buffer, if that could be
mapped, or it was refused a window.
-/
structure Served (C : Visit) : Prop where
  failed : C.pc = .handshakeFailed → C.link = .refused
  kept : C.link = .ended → C.pc = .exited
  seated : ∀ i, C.link = .seated i →
    0 ≤ (C.run.world.t.clients i).fd ∧ Has C.run.world.t i C.holding
  answered : C.pc = .serving → C.up = [] → (∃ i, C.link = .seated i) ∧
    (C.holding = .refused ∨ ∃ id base, C.holding = .opened (shown id base) ∧
      ∀ address ∈ base, (address, stride * winH) ∈ C.run.world.t.os.maps)

/-- When the connection ends, the client's window and its mapping are gone. -/
def Tidies (C : Visit) (e : VisitEvent) : Prop :=
  C.link ≠ .ended → (C.next e).link = .ended → ∀ w, C.holding = .opened w →
    w.id ∉ (C.next e).run.stack.ids ∧
      ∀ base len, w.buf = .mapping base → (base, len) ∉ (C.next e).run.world.t.os.maps

theorem mapped_of_opened (hC : C.Inv) {i : Fin clMaxClients} {id address : Nat}
    (hhas : Has C.run.world.t i (.opened (shown id (some address)))) :
    (address, stride * winH) ∈ C.run.world.t.os.maps := by
  have hslot : C.run.world.ledger.wins (.client i) firstSlot =
      ⟨wid, id, .mapping address, stride * winH⟩ := hhas.found.2
  refine hC.run.coherent.world.ledger.mapping.mapped.mpr ⟨.client i, firstSlot, ?_, ?_⟩
  · rw [hslot]
  · rw [hslot]

theorem Inv.served (hC : C.Inv) : C.Served := by
  have hwaits {pc : Pc} (waits : pc = .awaitWelcome ∨ pc = .exited) :
      pc ≠ .handshakeFailed ∧ pc ≠ .serving := by
    rcases waits with rfl | rfl <;> exact ⟨Pc.noConfusion, Pc.noConfusion⟩
  cases hC.standing with
  | backlog link up down holding waits =>
      refine ⟨fun hpc => ((hwaits waits).1 hpc).elim, fun hlink => ?_, fun i hlink => ?_,
        fun hpc => ((hwaits waits).2 hpc).elim⟩
      · cases link.symm.trans hlink
      · cases link.symm.trans hlink
  | @seated i link isOpen has begins progress =>
      refine ⟨fun hpc => ?_, fun hlink => ?_, fun i' hlink => ?_, fun hpc hup => ⟨⟨i, link⟩, ?_⟩⟩
      · have hexited := progress.exited (by rw [hpc]; trivial)
        cases hpc.symm.trans hexited
      · cases link.symm.trans hlink
      · obtain rfl : i = i' := Link.seated.inj (link.symm.trans hlink)
        exact ⟨isOpen, has⟩
      · rw [hpc, hup] at progress
        rcases progress.answered with hrefused | ⟨id, base, hopened⟩
        · exact .inl hrefused
        · refine .inr ⟨id, base, hopened, fun address haddress => ?_⟩
          obtain rfl := Option.mem_def.mp haddress
          rw [hopened] at has
          exact mapped_of_opened hC has
  | refused link down waits =>
      refine ⟨fun _ => link, fun hlink => ?_, fun i hlink => ?_, fun hpc => ?_⟩
      · cases link.symm.trans hlink
      · cases link.symm.trans hlink
      · rcases waits with hawait | hdone
        · cases hpc.symm.trans hawait
        · rw [hpc] at hdone
          exact hdone.elim
  | ended link hexited =>
      refine ⟨fun hpc => ?_, fun _ => hexited, fun i hlink => ?_, fun hpc => ?_⟩
      · cases hpc.symm.trans hexited
      · cases link.symm.trans hlink
      · cases hpc.symm.trans hexited

theorem tidies_hangup (hC : C.Inv) {now : Int} (hen : C.enabled (.hangup now))
    (hwithin : (C.next (.hangup now)).Within) : C.Tidies (.hangup now) := by
  obtain ⟨i, hlink, -, hen⟩ := hen
  rintro - - w hw
  simp only [Visit.next, hlink] at hwithin ⊢
  cases hC.standing with
  | backlog link => cases hlink.symm.trans link
  | refused link => cases hlink.symm.trans link
  | ended link => cases hlink.symm.trans link
  | seated link isOpen has begins progress =>
      obtain rfl := Link.seated.inj (hlink.symm.trans link)
      have hworld := hC.run.coherent.world
      have hpark := has.not_parked fun _ => progress.normal
      rw [hw] at has
      have hclosed := hworld.hangup_closes hen.2.2 hwithin hpark has.names
      refine ⟨hclosed, fun base len hbuf => ?_⟩
      have hslot : ((C.run.world.t.clients i).wins firstSlot).buf = .mapping base := by
        rw [has.found.2]
        exact hbuf
      exact hworld.hangup_unmaps hen.2.2 hwithin hpark hslot len

theorem Inv.tidies (hC : C.Inv) {e : VisitEvent} (hen : C.enabled e)
    (hwithin : (C.next e).Within) : C.Tidies e := by
  cases e with
  | hangup now => exact tidies_hangup hC hen hwithin
  | accept fd epollOk =>
      intro _ hended
      have hended :
          (match clientByFd (C.run.next (.transport (.addClient fd epollOk))).world.t fd with
            | some i => Link.seated i
            | none => .refused) = .ended := hended
      split at hended <;> cases hended
  | deliver fds k now got =>
      intro _ hended
      obtain ⟨i, hseated⟩ := (standing_deliver hC hen hwithin).1
      cases hseated.symm.trans hended
  | _ => exact fun hlink hended => (hlink hended).elim

end Visit

theorem Visit.enabled_seated {C : Visit} {i : Fin clMaxClients} (hlink : C.link = .seated i)
    {e : ServerEvent} {got : List Message} (hen : C.run.enabled e) (hnew : C.run.NewFd e)
    (hother : ¬ e.About i) (hgets : C.Gets i (C.run.next e) got) :
    C.enabled (.server e got) := by
  unfold enabled
  rw [hlink]
  exact ⟨hen, hnew, hother, hgets⟩

/-- The client gets its window and its buffer is mapped; it does not hear of a new resolution. -/
def visitRun : List VisitEvent :=
  [.server (.seat true) [], .server (.idle 0 false) [], .server (.frame ⟨true, true⟩) [],
    .server .pass [], .accept 7 true,
    .deliver [] ⟨none, fun _ => 0⟩ 10 [.welcome clMagic 2 1920 1080 1], .receive (some 9), .send,
    .deliver [] ⟨none, fun _ => 0⟩ 20 [.configure 1 240 180 480 320, .focus 1 true], .send, .send,
    .deliver [] ⟨none, fun _ => 0⟩ 30 [], .deliver [11] ⟨some 4096, fun _ => 0⟩ 40 [],
    .server .pass [], .server .pass [],
    .server (.control 1280 720 0 ⟨⟨some monitor, some 8⟩, newBuffer⟩) [], .server .pass [],
    .server (.hotplug false) [], .server .tail [], .server (.seat true) [],
    .server (.idle 40 false) [], .server (.frame ⟨true, true⟩) [], .server .pass [],
    .receive none, .quit, .hangup 50]

theorem visitRun_legal : Visit.system.Legal (.start plainSetup.start) visitRun := by
  have hnew : ∀ i : Fin clMaxClients, (plainSetup.start.world.t.clients i).fd ≠ 7 := by decide
  have hfd : (0 : Int) ≤ 7 := by decide
  refine ⟨⟨⟨rfl, rfl⟩, trivial, rfl⟩, ⟨rfl, trivial, rfl⟩, ⟨rfl, trivial, rfl⟩,
    ⟨.inl rfl, trivial, rfl⟩, ⟨rfl, ⟨rfl, trivial, hfd⟩, hnew⟩,
    ⟨0, hello, [], by decide +kernel, rfl, by decide, ⟨rfl, trivial, by decide +kernel,
      by decide +kernel⟩, by decide +kernel⟩,
    ⟨.inl rfl, .inl (by decide +kernel)⟩, ⟨_, _, rfl⟩,
    ⟨0, createWindow, [], by decide +kernel, rfl, by decide, ⟨rfl, trivial, by decide +kernel,
      by decide +kernel⟩, by decide +kernel⟩,
    ⟨_, _, rfl⟩, ⟨_, _, rfl⟩,
    ⟨0, setTitle, [commit 9], by decide +kernel, rfl, by decide, ⟨rfl, trivial, by decide +kernel,
      by decide +kernel⟩, by decide +kernel⟩,
    ⟨0, commit 9, [], by decide +kernel, rfl, by decide, ⟨rfl, trivial, by decide +kernel,
      by decide +kernel⟩, by decide +kernel⟩,
    Visit.enabled_seated (i := 0) (by decide +kernel) (.inr (.inl rfl)) trivial id
      (by decide +kernel),
    Visit.enabled_seated (i := 0) (by decide +kernel) (.inr (.inr (.inl rfl))) trivial id
      (by decide +kernel),
    Visit.enabled_seated (i := 0) (by decide +kernel) rfl trivial id (by decide +kernel),
    Visit.enabled_seated (i := 0) (by decide +kernel) (.inr (.inr (.inr rfl))) trivial id
      (by decide +kernel),
    Visit.enabled_seated (i := 0) (by decide +kernel) rfl trivial id (by decide +kernel),
    Visit.enabled_seated (i := 0) (by decide +kernel) rfl trivial id (by decide +kernel),
    Visit.enabled_seated (i := 0) (by decide +kernel) ⟨rfl, rfl⟩ trivial id (by decide +kernel),
    Visit.enabled_seated (i := 0) (by decide +kernel) rfl trivial id (by decide +kernel),
    Visit.enabled_seated (i := 0) (by decide +kernel) rfl trivial id (by decide +kernel),
    Visit.enabled_seated (i := 0) (by decide +kernel) (.inl rfl) trivial id (by decide +kernel),
    ⟨.inr rfl, .inl (by decide +kernel)⟩, fun h => h,
    ⟨0, by decide +kernel, trivial, rfl, trivial, ?_⟩, trivial⟩
  -- the connection is still open
  change (0 : Int) ≤ _
  decide +kernel

end CrystallineLattice.Client
