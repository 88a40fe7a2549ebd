import CrystallineLattice.Control.Model
import CrystallineLattice.Foundation.Runs
import Mathlib.Data.List.Nodup

/-!
# Callers and the server, interleaved

Each caller connects, sends one request and takes its response; the server calls
`control_process` any number of times.  The steps of all of them interleave in
any order.  How many connections the kernel queues is left open.
-/

namespace CrystallineLattice.Control

open CrystallineLattice.Foundation
open CrystallineLattice.Platform

structure Conn where
  sent : Option Request
  /-- What the kernel holds for the server to receive. -/
  queued : Option Request
  /-- `recv` was called on the connection. -/
  polled : Bool
  received : Option Request
  responses : List Response
  /-- How many responses the caller has taken. -/
  taken : Nat
  closed : Bool

def Conn.new : Conn := ⟨none, none, false, none, [], 0, false⟩

/-- Where the server is: outside `control_process`, or at a call in its loop. -/
inductive Pc where
  | outside
  | accept
  | recv (c : Nat)
  | respond (c : Nat)
  | close (c : Nat)
  deriving DecidableEq, Repr

structure Calls (υ : Type*) where
  user : υ
  conns : Nat → Conn
  /-- Connections are numbered in the order in which they are made. -/
  opened : Nat
  backlog : List Nat
  pc : Pc

inductive Step (κ : Type*) where
  | connect
  | send (c : Nat) (d : Request)
  | take (c : Nat)
  | call
  | accept
  | recv
  | respond (conn : Option Connector) (answers : κ)
  | close

namespace Calls

variable {υ κ : Type*} (user : User υ κ)

def setConn (X : Calls υ) (c : Nat) (conn : Conn) : Calls υ :=
  { X with conns := Function.update X.conns c conn }

def start (u : υ) : Calls υ := ⟨u, fun _ => .new, 0, [], .outside⟩

def enabled (X : Calls υ) : Step κ → Prop
  | .connect => True
  | .send c _ => c < X.opened ∧ (X.conns c).sent = none
  | .take c => (X.conns c).taken < (X.conns c).responses.length
  | .call => X.pc = .outside
  | .accept => X.pc = .accept
  | .recv => ∃ c, X.pc = .recv c
  | .respond .. => ∃ c, X.pc = .respond c
  | .close => ∃ c, X.pc = .close c

def next (X : Calls υ) : Step κ → Calls υ
  | .connect => { X with opened := X.opened + 1, backlog := X.backlog ++ [X.opened] }
  | .send c d =>
      -- on a closed connection nothing arrives
      X.setConn c { X.conns c with
        sent := some d
        queued := if (X.conns c).closed then none else some d }
  | .take c => X.setConn c { X.conns c with taken := (X.conns c).taken + 1 }
  | .call => { X with pc := .accept }
  | .accept =>
      match X.backlog with
      | [] => { X with pc := .outside }
      | c :: rest => { X with backlog := rest, pc := .recv c }
  | .recv =>
      match X.pc with
      | .recv c =>
          { X with pc := .respond c }.setConn c { X.conns c with
            polled := true
            received := (X.conns c).queued
            queued := none }
      | _ => X
  | .respond conn answers =>
      match X.pc with
      | .respond c =>
          let r := Control.respond user X.user conn answers (X.conns c).received
          { X with user := r.1, pc := .close c }.setConn c { X.conns c with
            responses := (X.conns c).responses ++ r.2.toList }
      | _ => X
  | .close =>
      match X.pc with
      | .close c => { X with pc := .accept }.setConn c { X.conns c with closed := true }
      | _ => X

def system : System (Calls υ) (Step κ) := ⟨enabled, next user⟩

/--
The server closes no connection on which a well-formed request was sent before
it has received the request and sent one response.
-/
def Answered (X : Calls υ) : Prop :=
  ∀ c d, (X.conns c).sent = some d → d.WellFormed → (X.conns c).closed = true →
    (X.conns c).received = some d ∧ (X.conns c).responses.length = 1

/-- A well-formed request is sent before the server calls `recv` on the connection. -/
def InTime (X : Calls υ) : Step κ → Prop
  | .send c d => d.WellFormed → (X.conns c).polled = false
  | _ => True

def InHand (pc : Pc) (c : Nat) : Prop := pc = .respond c ∨ pc = .close c

/-! ## Where a connection can be -/

/-- What the server's position says about connection `c`. -/
structure Progress (pc : Pc) (c : Nat) (conn : Conn) : Prop where
  /-- Before `recv`, what was sent is queued, and nothing happened yet. -/
  fresh : conn.polled = false → conn.queued = conn.sent ∧ conn.responses = [] ∧
    conn.closed = false ∧ conn.received = none
  genuine : ∀ d, conn.received = some d → conn.sent = some d
  polled : InHand pc c → conn.polled = true
  held : conn.polled = true → (conn.closed = false ↔ InHand pc c)
  silent : pc = .respond c → conn.responses = []
  answered : conn.polled = true → pc ≠ .respond c → ∀ d, conn.received = some d →
    d.WellFormed → conn.responses.length = 1

/-- The connections that wait to be accepted, and the one that `recv` comes to, are fresh. -/
structure Inv (X : Calls υ) : Prop where
  progress : ∀ c, Progress X.pc c (X.conns c)
  opened : ∀ c, (X.conns c).polled = true ∨ X.pc = .recv c → c < X.opened
  backlog : ∀ c ∈ X.backlog, c < X.opened ∧ (X.conns c).polled = false ∧ X.pc ≠ .recv c
  nodup : X.backlog.Nodup
  next : ∀ c, X.pc = .recv c → (X.conns c).polled = false

theorem start_inv (u : υ) : (start u).Inv where
  progress c := {
    fresh := fun _ => ⟨rfl, rfl, rfl, rfl⟩
    genuine := fun d h => by cases h
    polled := fun h => by rcases h with h | h <;> cases h
    held := fun h => by cases h
    silent := fun h => by cases h
    answered := fun h => by cases h }
  opened c h := by rcases h with h | h <;> cases h
  backlog c h := by cases h
  nodup := List.nodup_nil
  next c h := by cases h

variable {X : Calls υ}

@[simp] theorem setConn_conns (X : Calls υ) (c : Nat) (conn : Conn) (c' : Nat) :
    (X.setConn c conn).conns c' = if c' = c then conn else X.conns c' := by
  simp [setConn, Function.update_apply]

theorem Progress.away {pc pc' : Pc} {c : Nat} {conn : Conn} (h : Progress pc c conn)
    (hpc : ¬ InHand pc c) (hpc' : ¬ InHand pc' c) : Progress pc' c conn where
  fresh := h.fresh
  genuine := h.genuine
  polled hhand := (hpc' hhand).elim
  held hpolled := (h.held hpolled).trans (iff_of_false hpc hpc')
  silent heq := (hpc' (.inl heq)).elim
  answered hpolled _ := h.answered hpolled fun heq => hpc (.inl heq)

theorem Progress.send {pc : Pc} {c : Nat} {conn : Conn} (h : Progress pc c conn)
    (hunsent : conn.sent = none) (d : Request) :
    Progress pc c
      { conn with sent := some d, queued := if conn.closed then none else some d } where
  fresh hpolled := by
    obtain ⟨-, hresponses, hclosed, hreceived⟩ := h.fresh hpolled
    exact ⟨by simp [hclosed], hresponses, hclosed, hreceived⟩
  genuine d' hreceived := by
    have hsent := h.genuine d' hreceived
    rw [hunsent] at hsent
    cases hsent
  polled := h.polled
  held := h.held
  silent := h.silent
  answered := h.answered

theorem Progress.recv {c : Nat} {conn : Conn} (h : Progress (.recv c) c conn)
    (hfresh : conn.polled = false) :
    Progress (.respond c) c
      { conn with polled := true, received := conn.queued, queued := none } := by
  obtain ⟨hqueued, hresponses, hclosed, -⟩ := h.fresh hfresh
  exact {
    fresh := fun hpolled => by cases hpolled
    genuine := fun d hreceived => hqueued ▸ hreceived
    polled := fun _ => rfl
    held := fun _ => iff_of_true hclosed (.inl rfl)
    silent := fun _ => hresponses
    answered := fun _ hne => (hne rfl).elim }

theorem Progress.respond {c : Nat} {conn : Conn} (h : Progress (.respond c) c conn)
    {response : Option Response}
    (hresponse : ∀ d, conn.received = some d → d.WellFormed → ∃ r, response = some r) :
    Progress (.close c) c { conn with responses := conn.responses ++ response.toList } where
  fresh hpolled := by
    rw [h.polled (.inl rfl)] at hpolled
    cases hpolled
  genuine := h.genuine
  polled _ := h.polled (.inl rfl)
  held _ := iff_of_true ((h.held (h.polled (.inl rfl))).mpr (.inl rfl)) (.inr rfl)
  silent heq := by cases heq
  answered _ _ d hreceived hd := by
    obtain ⟨r, hr⟩ := hresponse d hreceived hd
    simp [h.silent rfl, hr]

theorem Progress.close {c : Nat} {conn : Conn} (h : Progress (.close c) c conn) :
    Progress .accept c { conn with closed := true } where
  fresh hpolled := by
    rw [h.polled (.inr rfl)] at hpolled
    cases hpolled
  genuine := h.genuine
  polled hhand := by rcases hhand with heq | heq <;> cases heq
  held _ := by simp [InHand]
  silent heq := by cases heq
  answered _ _ := h.answered (h.polled (.inr rfl)) (by simp)

/-! ## Steps -/

theorem Inv.caller (hX : X.Inv) {c : Nat} {conn : Conn} (hpolled : conn.polled = (X.conns c).polled)
    (hconn : Progress X.pc c conn) : (X.setConn c conn).Inv := by
  have hsame (c' : Nat) : ((X.setConn c conn).conns c').polled = (X.conns c').polled := by
    rw [setConn_conns]
    split
    · rename_i heq
      rw [heq, hpolled]
    · rfl
  refine ⟨fun c' => ?_, fun c' h => ?_, fun c' hc' => ?_, hX.nodup, fun c' hc' => ?_⟩
  · rw [setConn_conns]
    split
    · rename_i heq
      exact heq ▸ hconn
    · exact hX.progress c'
  · rw [hsame] at h
    exact hX.opened c' h
  · rw [hsame]
    exact hX.backlog c' hc'
  · rw [hsame]
    exact hX.next c' hc'

theorem Inv.server (hX : X.Inv) {c : Nat} {conn : Conn} {pc : Pc} {u : υ}
    (hopen : c < X.opened) (hwaiting : c ∉ X.backlog)
    (hconn : Progress pc c conn) (hrecv : ∀ c', pc ≠ .recv c')
    (haway : ∀ c', c' ≠ c → ¬ InHand X.pc c' ∧ ¬ InHand pc c') :
    ({ X with user := u, pc := pc }.setConn c conn).Inv := by
  refine ⟨fun c' => ?_, fun c' h => ?_, fun c' hc' => ?_, hX.nodup,
    fun c' hc' => (hrecv c' hc').elim⟩
  · rw [setConn_conns]
    split
    · rename_i heq
      exact heq ▸ hconn
    · rename_i hne
      exact (hX.progress c').away (haway c' hne).1 (haway c' hne).2
  · rw [setConn_conns] at h
    rcases h with h | h
    · split at h
      · rename_i heq
        exact heq ▸ hopen
      · exact hX.opened c' (.inl h)
    · exact (hrecv c' h).elim
  · obtain ⟨hopened, hfresh, -⟩ := hX.backlog c' hc'
    have hne : c' ≠ c := fun heq => hwaiting (heq ▸ hc')
    refine ⟨hopened, ?_, hrecv c'⟩
    rw [setConn_conns, if_neg hne]
    exact hfresh

theorem not_inHand {pc : Pc} {c : Nat} (hrespond : pc ≠ .respond c) (hclose : pc ≠ .close c) :
    ¬ InHand pc c := by
  rintro (h | h)
  · exact hrespond h
  · exact hclose h

theorem Inv.inHand (hX : X.Inv) {c : Nat} (h : InHand X.pc c) :
    c < X.opened ∧ c ∉ X.backlog := by
  have hpolled := (hX.progress c).polled h
  refine ⟨hX.opened c (.inl hpolled), fun hmem => ?_⟩
  have hfresh := (hX.backlog c hmem).2.1
  rw [hpolled] at hfresh
  cases hfresh

theorem Inv.step (hX : X.Inv) {e : Step κ} (hen : X.enabled e) : (X.next user e).Inv := by
  cases e with
  | connect =>
      refine ⟨hX.progress, fun c h => Nat.lt_succ_of_lt (hX.opened c h), fun c hc => ?_, ?_,
        hX.next⟩
      · have hnew : ¬ ((X.conns X.opened).polled = true ∨ X.pc = .recv X.opened) :=
          fun h => Nat.lt_irrefl _ (hX.opened _ h)
        rcases List.mem_append.mp hc with hc | hc
        · obtain ⟨hopened, hrest⟩ := hX.backlog c hc
          exact ⟨Nat.lt_succ_of_lt hopened, hrest⟩
        · rw [List.mem_singleton.mp hc]
          exact ⟨Nat.lt_succ_self _, Bool.eq_false_iff.mpr fun h => hnew (.inl h),
            fun h => hnew (.inr h)⟩
      · refine List.nodup_append.mpr
          ⟨hX.nodup, List.nodup_singleton X.opened, fun c hc c' hc' => ?_⟩
        rw [List.mem_singleton.mp hc']
        exact Nat.ne_of_lt (hX.backlog c hc).1
  | send c d => exact hX.caller rfl ((hX.progress c).send hen.2 d)
  | take c =>
      exact hX.caller rfl
        ⟨(hX.progress c).fresh, (hX.progress c).genuine, (hX.progress c).polled,
          (hX.progress c).held, (hX.progress c).silent, (hX.progress c).answered⟩
  | call =>
      have hpc : X.pc = .outside := hen
      refine ⟨fun c => (hX.progress c).away ?_ ?_, fun c h => hX.opened c ?_, fun c hc => ?_,
        hX.nodup, fun c hc => by cases hc⟩
      · exact not_inHand (by simp [hpc]) (by simp [hpc])
      · exact not_inHand (by simp [Calls.next]) (by simp [Calls.next])
      · exact h.imp_right fun h => by cases h
      · obtain ⟨hopened, hfresh, -⟩ := hX.backlog c hc
        exact ⟨hopened, hfresh, by simp [Calls.next]⟩
  | accept =>
      have hpc : X.pc = .accept := hen
      have hidle (c : Nat) : ¬ InHand X.pc c := not_inHand (by simp [hpc]) (by simp [hpc])
      cases hback : X.backlog with
      | nil =>
          simp only [Calls.next, hback]
          refine ⟨fun c => (hX.progress c).away (hidle c) ?_, fun c h => hX.opened c ?_,
            fun c hc => ?_, List.nodup_nil, fun c hc => by cases hc⟩
          · exact not_inHand (by simp) (by simp)
          · exact h.imp_right fun h => by cases h
          · cases hc
      | cons c rest =>
          simp only [Calls.next, hback]
          have hnodup := hX.nodup
          rw [hback] at hnodup
          obtain ⟨hnot, hrest⟩ := List.nodup_cons.mp hnodup
          have hwait (c' : Nat) (hc' : c' ∈ c :: rest) := hX.backlog c' (hback ▸ hc')
          obtain ⟨hopened, hfresh, -⟩ := hwait c List.mem_cons_self
          refine ⟨fun c' => (hX.progress c').away (hidle c') ?_, fun c' h => ?_, fun c' hc' => ?_,
            hrest, fun c' hc' => ?_⟩
          · exact not_inHand (by simp) (by simp)
          · rcases h with h | h
            · exact hX.opened c' (.inl h)
            · cases h
              exact hopened
          · obtain ⟨hopened', hfresh', -⟩ := hwait c' (List.mem_cons_of_mem _ hc')
            refine ⟨hopened', hfresh', fun heq => hnot ?_⟩
            cases heq
            exact hc'
          · cases hc'
            exact hfresh
  | recv =>
      obtain ⟨c, hpc⟩ := hen
      have hfresh := hX.next c hpc
      have hconn := hX.progress c
      rw [hpc] at hconn
      simp only [Calls.next, hpc]
      refine hX.server (u := X.user) (hX.opened c (.inr hpc)) (fun hc => ?_)
        (hconn.recv hfresh) (by simp) fun c' hne => ⟨?_, ?_⟩
      · exact (hX.backlog c hc).2.2 hpc
      · exact not_inHand (by simp [hpc]) (by simp [hpc])
      · exact not_inHand (by simpa using hne.symm) (by simp)
  | respond conn answers =>
      obtain ⟨c, hpc⟩ := hen
      obtain ⟨hopened, hwaiting⟩ := hX.inHand (.inl hpc)
      have hconn := hX.progress c
      rw [hpc] at hconn
      simp only [Calls.next, hpc]
      refine hX.server hopened hwaiting (hconn.respond fun d hd hwell => ?_) (by simp)
        fun c' hne => ⟨?_, ?_⟩
      · rw [hd]
        exact hwell.respond user X.user conn answers
      · exact not_inHand (by simpa [hpc] using hne.symm) (by simp [hpc])
      · exact not_inHand (by simp) (by simpa using hne.symm)
  | close =>
      obtain ⟨c, hpc⟩ := hen
      obtain ⟨hopened, hwaiting⟩ := hX.inHand (.inr hpc)
      have hconn := hX.progress c
      rw [hpc] at hconn
      simp only [Calls.next, hpc]
      refine hX.server (u := X.user) hopened hwaiting hconn.close (by simp)
        fun c' hne => ⟨?_, ?_⟩
      · exact not_inHand (by simp [hpc]) (by simpa [hpc] using hne.symm)
      · exact not_inHand (by simp) (by simp)

/-! ## Requests in time -/

/-- Every well-formed request on a connection that `recv` was called on was received. -/
def Timely (X : Calls υ) : Prop :=
  ∀ c d, (X.conns c).sent = some d → d.WellFormed → (X.conns c).polled = true →
    (X.conns c).received = some d

theorem Timely.answered (hT : X.Timely) (hX : X.Inv) : X.Answered := by
  intro c d hsent hd hclosed
  have hpolled : (X.conns c).polled = true := by
    by_contra hfresh
    have := ((hX.progress c).fresh (Bool.eq_false_iff.mpr hfresh)).2.2.1
    rw [hclosed] at this
    cases this
  have hreceived := hT c d hsent hd hpolled
  refine ⟨hreceived, (hX.progress c).answered hpolled (fun hpc => ?_) d hreceived hd⟩
  have hopen := ((hX.progress c).held hpolled).mpr (.inl hpc)
  rw [hclosed] at hopen
  cases hopen

theorem Timely.step (hT : X.Timely) (hX : X.Inv) {e : Step κ} (hen : X.enabled e)
    (hin : X.InTime e) : (X.next user e).Timely := by
  have hkept {X' : Calls υ} {c : Nat} {conn : Conn} (hconns : X'.conns = X.conns)
      (hconn : ∀ d, conn.sent = some d → d.WellFormed → conn.polled = true →
        conn.received = some d) : (X'.setConn c conn).Timely := by
    intro c' d hsent hd hpolled
    rw [setConn_conns] at hsent hpolled ⊢
    split at hsent
    · rename_i heq
      rw [if_pos heq] at hpolled ⊢
      exact hconn d hsent hd hpolled
    · rename_i hne
      rw [if_neg hne] at hpolled ⊢
      rw [hconns] at hsent hpolled ⊢
      exact hT c' d hsent hd hpolled
  cases e with
  | connect => exact hT
  | send c d =>
      refine hkept rfl fun d' hsent hd hpolled => ?_
      cases hsent
      have hfresh := hin hd
      rw [hpolled] at hfresh
      cases hfresh
  | take c => exact hkept rfl fun d => hT c d
  | call => exact hT
  | accept => cases hback : X.backlog <;> simp only [Calls.next, hback] <;> exact hT
  | recv =>
      obtain ⟨c, hpc⟩ := hen
      simp only [Calls.next, hpc]
      refine hkept rfl fun d hsent _ _ => ?_
      exact ((hX.progress c).fresh (hX.next c hpc)).1.trans hsent
  | respond conn answers =>
      obtain ⟨c, hpc⟩ := hen
      simp only [Calls.next, hpc]
      exact hkept rfl fun d => hT c d
  | close =>
      obtain ⟨c, hpc⟩ := hen
      simp only [Calls.next, hpc]
      exact hkept rfl fun d => hT c d

/-- A well-formed request came after `recv` had found nothing on its connection. -/
def Missed (X : Calls υ) (c : Nat) : Prop :=
  (X.conns c).polled = true ∧ (X.conns c).received = none ∧
    ∃ d, (X.conns c).sent = some d ∧ d.WellFormed

theorem Missed.step {c : Nat} (hM : X.Missed c) (hX : X.Inv) {e : Step κ}
    (hen : X.enabled e) : (X.next user e).Missed c := by
  have hkept {X' : Calls υ} {c' : Nat} {conn : Conn} (hconns : X'.conns = X.conns)
      (hconn : c' = c → conn.polled = (X.conns c).polled ∧
        conn.received = (X.conns c).received ∧ conn.sent = (X.conns c).sent) :
      (X'.setConn c' conn).Missed c := by
    unfold Missed
    rw [setConn_conns]
    split
    · rename_i heq
      obtain ⟨hpolled, hreceived, hsent⟩ := hconn heq.symm
      rw [hpolled, hreceived, hsent]
      exact hM
    · rw [hconns]
      exact hM
  cases e with
  | connect => exact hM
  | send c' d =>
      refine hkept rfl fun heq => ?_
      obtain ⟨-, -, d', hsent, -⟩ := hM
      have hunsent := hen.2
      rw [heq, hsent] at hunsent
      cases hunsent
  | take c' => exact hkept rfl fun heq => by simp [heq]
  | call => exact hM
  | accept => cases hback : X.backlog <;> simp only [Calls.next, hback] <;> exact hM
  | recv =>
      obtain ⟨c', hpc⟩ := hen
      simp only [Calls.next, hpc]
      refine hkept rfl fun heq => ?_
      have hfresh := hX.next c' hpc
      rw [heq, hM.1] at hfresh
      cases hfresh
  | respond conn answers =>
      obtain ⟨c', hpc⟩ := hen
      simp only [Calls.next, hpc]
      exact hkept rfl fun heq => by simp [heq]
  | close =>
      obtain ⟨c', hpc⟩ := hen
      simp only [Calls.next, hpc]
      exact hkept rfl fun heq => by simp [heq]

theorem Missed.not_answered {c : Nat} (hM : X.Missed c) (hX : X.Inv)
    (hdone : ¬ InHand X.pc c) : ¬ X.Answered := by
  obtain ⟨hpolled, hreceived, d, hsent, hd⟩ := hM
  intro hA
  have hclosed : (X.conns c).closed = true := by
    by_contra hopen
    exact hdone (((hX.progress c).held hpolled).mp (Bool.eq_false_iff.mpr hopen))
  have := (hA c d hsent hd hclosed).1
  rw [hreceived] at this
  cases this

theorem missed_of_late (hX : X.Inv) {e : Step κ} (hen : X.enabled e) (hlate : ¬ X.InTime e) :
    ∃ c, (X.next user e).Missed c := by
  cases e with
  | send c d =>
      obtain ⟨hd, hpolled⟩ := Classical.not_imp.mp hlate
      have hpolled : (X.conns c).polled = true := by simpa using hpolled
      have hreceived : (X.conns c).received = none := by
        by_contra hne
        obtain ⟨d', hd'⟩ := Option.ne_none_iff_exists'.mp hne
        have := (hX.progress c).genuine d' hd'
        rw [hen.2] at this
        cases this
      refine ⟨c, ?_⟩
      simp [Missed, Calls.next, hpolled, hreceived, hd]
  | _ => exact (hlate trivial).elim

theorem in_time_of_answered {es : List (Step κ)} (hX : X.Inv)
    (hrun : (system user).Legal X es)
    (hdone : ∀ c, ¬ InHand ((system user).exec X es).pc c)
    (hA : (system user).Along Answered X es) : (system user).Each InTime X es := by
  induction es generalizing X with
  | nil => trivial
  | cons e es ih =>
      obtain ⟨hen, hrest⟩ := hrun
      have hnext : (X.next user e).Inv := hX.step user hen
      by_cases hin : X.InTime e
      · exact ⟨hin, ih hnext hrest hdone hA.2⟩
      · obtain ⟨c, hM⟩ := missed_of_late user hX hen hin
        have hend := System.invariant (I := fun X => X.Inv ∧ X.Missed c)
          (fun X e h hen => ⟨h.1.step user hen, h.2.step user h.1 hen⟩) hrest ⟨hnext, hM⟩
        exact (hend.2.not_answered hend.1 (hdone c) (System.along_last hA.2)).elim

end Calls

/--
In every interleaving in which each well-formed request is sent before the
server calls `recv` on its connection, every such request is answered before the
connection is closed.  In one that ends with no connection in hand, all of them
are answered only if all of them were sent in time.
-/
theorem answered_iff_in_time {υ κ : Type*} (user : User υ κ) (u : υ) (es : List (Step κ))
    (hrun : (Calls.system user).Legal (.start u) es) :
    ((Calls.system user).Each Calls.InTime (.start u) es →
        (Calls.system user).Along Calls.Answered (.start u) es) ∧
      ((∀ c, ¬ Calls.InHand ((Calls.system user).exec (.start u) es).pc c) →
        (Calls.system user).Along Calls.Answered (.start u) es →
          (Calls.system user).Each Calls.InTime (.start u) es) := by
  have hstart : (Calls.start u).Timely := fun c d hsent => by cases hsent
  refine ⟨fun hin => ?_, fun hdone => Calls.in_time_of_answered user (Calls.start_inv u) hrun hdone⟩
  exact System.along_of_each (I := fun X => X.Inv ∧ X.Timely) (fun X h => h.2.answered h.1)
    (fun X e h hstep => ⟨h.1.step user hstep.1, h.2.step user h.1 hstep.1 hstep.2⟩)
    (System.each_and hrun hin) ⟨Calls.start_inv u, hstart⟩

def fixedUser : User Kms Unit where
  kms := id
  applyMode := some fun k _ _ _ _ => (k, false)

def fixedKms : Kms := ⟨1, 2, 3, ⟨148500, 1920, 2200, 1080, 1125, 60, 0, drmModeTypePreferred⟩, 7⟩

def outputsRequest : Request :=
  ⟨GlctlRequest.size, Native.Bytes.ofWords [glctlGetOutputs, glctlMagic]⟩

theorem outputsRequest_wellFormed : outputsRequest.WellFormed :=
  ⟨rfl, by decide, .inl (by decide)⟩

def answeredRun : List (Step Unit) :=
  [.connect, .send 0 outputsRequest, .call, .accept, .recv, .respond none (), .close, .take 0]

theorem answeredRun_legal : (Calls.system fixedUser).Legal (.start fixedKms) answeredRun :=
  ⟨trivial, ⟨by decide, rfl⟩, rfl, rfl, ⟨0, rfl⟩, ⟨0, rfl⟩, ⟨0, rfl⟩,
    (show 0 < 1 by decide), trivial⟩

theorem answered_iff_in_time_answeredRun :
    ((Calls.system fixedUser).Each Calls.InTime (.start fixedKms) answeredRun →
        (Calls.system fixedUser).Along Calls.Answered (.start fixedKms) answeredRun) ∧
      ((∀ c, ¬ Calls.InHand ((Calls.system fixedUser).exec (.start fixedKms) answeredRun).pc c) →
        (Calls.system fixedUser).Along Calls.Answered (.start fixedKms) answeredRun →
          (Calls.system fixedUser).Each Calls.InTime (.start fixedKms) answeredRun) :=
  answered_iff_in_time fixedUser fixedKms answeredRun answeredRun_legal

/-- The server accepts the connection and finds nothing on it, then the caller sends. -/
def hastyRun : List (Step Unit) :=
  [.connect, .call, .accept, .recv, .send 0 outputsRequest, .respond none (), .close]

/-- The request of `hastyRun` arrives before the connection is closed, and is never received. -/
theorem hasty_close_unanswered :
    (Calls.system fixedUser).Legal (.start fixedKms) hastyRun ∧
      ¬ (Calls.system fixedUser).Along Calls.Answered (.start fixedKms) hastyRun := by
  refine ⟨⟨trivial, rfl, rfl, ⟨0, rfl⟩, ⟨by decide, rfl⟩, ⟨0, rfl⟩, ⟨0, rfl⟩, trivial⟩,
    fun hA => ?_⟩
  have hreceived := (System.along_last hA 0 outputsRequest rfl outputsRequest_wellFormed rfl).1
  cases hreceived

end CrystallineLattice.Control
