import CrystallineLattice.Server.Iteration
import CrystallineLattice.Server.Routing

/-!
# The grace period in the server's loop

Reaping is part of `transport_process`, and that is only called when the
transport's descriptor is ready.  So an orphan goes when it is due if, and only if,
a native client or a new connection happens to make the descriptor ready.
-/

namespace CrystallineLattice.Server

open CrystallineLattice.Foundation
open CrystallineLattice.Stack
open CrystallineLattice.Native
open CrystallineLattice.Wayland
open CrystallineLattice.Manager

structure SameTables (t t' : Transport) : Prop where
  clients : t'.clients = t.clients
  orphans : t'.orphans = t.orphans

namespace SameTables

variable {t t' t'' : Transport}

theorem refl (t : Transport) : SameTables t t := ⟨rfl, rfl⟩

theorem trans (h : SameTables t t') (h' : SameTables t' t'') : SameTables t t'' :=
  ⟨h'.clients.trans h.clients, h'.orphans.trans h.orphans⟩

theorem wins (h : SameTables t t') : t'.wins = t.wins := by
  funext holder
  cases holder with
  | client i => exact congrArg (fun c => (c i).wins) h.clients
  | orphan k => exact congrArg (fun o => (o k).wins) h.orphans

theorem clSend (t : Transport) (fd : Int) (m : Message) : SameTables t (clSend t fd m) :=
  ⟨rfl, rfl⟩

theorem pointerInput (t : Transport) (cursorX cursorY : Int) (kind : ClInputKind) (code : Nat)
    (pressed : Bool) : SameTables t (pointerInput t cursorX cursorY kind code pressed) := by
  unfold Native.pointerInput
  split
  · exact refl t
  · split
    · exact refl t
    · exact clSend t _ _

theorem transportKeyboardKey (t : Transport) (focusId keysym : Nat) (pressed : Bool) :
    SameTables t (transportKeyboardKey t focusId keysym pressed) := by
  unfold Native.transportKeyboardKey
  split
  · exact refl t
  · exact clSend t _ _

theorem transportNotifyGeometry (t : Transport) (id : Nat) :
    SameTables t (transportNotifyGeometry t id) := by
  unfold Native.transportNotifyGeometry
  split
  · exact refl t
  · split
    · exact refl t
    · exact clSend t _ _

theorem transportUpdateFocus (t : Transport) (id : Nat) :
    SameTables t (transportUpdateFocus t id) := by
  have hsend (u : Transport) (id : Nat) (focused : Bool) :
      SameTables u (sendFocus u id focused) := by
    unfold sendFocus
    split
    · exact refl u
    · exact clSend u _ _
  have hfocused (u : Transport) : SameTables u { u with focusedServerId := id } := ⟨rfl, rfl⟩
  unfold Native.transportUpdateFocus notifyFocus
  split
  · exact refl t
  · exact ((hsend t _ _).trans (hfocused _)).trans (hsend _ _ _)

theorem transportBroadcastScreen (t : Transport) (w h : Int) :
    SameTables t (transportBroadcastScreen t w h) := by
  refine List.foldlRecOn (motive := fun u => SameTables t u) _ _ ⟨rfl, rfl⟩ ?_
  intro u hu i _
  refine hu.trans ?_
  unfold sendScreen
  split
  · exact clSend u _ _
  · exact refl u

theorem routeKey (X : ServerRun) (keysym keycode : Nat) (pressed : Bool) :
    SameTables X.world.t (routeKey X keysym keycode pressed).world.t :=
  transportKeyboardKey X.world.t _ _ _

theorem onKey (X : ServerRun) (keysym keycode : Nat) (pressed altDown : Bool) :
    SameTables X.world.t (onKey X keysym keycode pressed altDown).world.t := by
  have htracked : (trackModifiers X keycode pressed).world = X.world := by
    unfold trackModifiers
    split
    · rfl
    · split <;> rfl
  rw [← htracked]
  unfold Server.onKey
  generalize trackModifiers X keycode pressed = Y
  dsimp only
  split
  · exact refl _
  · split
    · exact refl _
    · split
      · exact ⟨rfl, rfl⟩
      · exact (show SameTables Y.world.t (Y.setWm _).world.t from ⟨rfl, rfl⟩).trans
          (routeKey _ keysym keycode pressed)

theorem onInput (X : ServerRun) (ev : InputEvent) :
    SameTables X.world.t (onInput X ev).world.t := by
  cases ev with
  | motion dx dy =>
      exact (show SameTables X.world.t (X.setWm _).world.t from ⟨rfl, rfl⟩).trans
        (pointerInput _ _ _ _ _ _)
  | motionAbs ax ay =>
      exact (show SameTables X.world.t (X.setWm _).world.t from ⟨rfl, rfl⟩).trans
        (pointerInput _ _ _ _ _ _)
  | button button pressed =>
      exact (show SameTables X.world.t (X.setWm _).world.t from ⟨rfl, rfl⟩).trans
        (pointerInput _ _ _ _ _ _)
  | key keysym keycode pressed altDown =>
      exact onKey { X with activity := true } keysym keycode pressed altDown

theorem atTail (X : ServerRun) : SameTables X.world.t X.atTail.world.t := by
  refine (transportUpdateFocus X.world.t X.stack.focusId).trans ?_
  unfold ServerRun.atTail ServerRun.notifyReconfigured
  dsimp only
  split
  · exact transportNotifyGeometry _ _
  · exact refl _

theorem announceMode (X : ServerRun) (nw nh : Int) :
    SameTables X.world.t (announceMode X nw nh).world.t := by
  have hresized : SameTables X.world.t (X.setWm (resizeScreen X.wm nw nh)).world.t := ⟨rfl, rfl⟩
  exact hresized.trans (transportBroadcastScreen _ nw nh)

theorem applyModeCb (X : ServerRun) (a : ApplyAnswers) (w h refresh : Int) :
    SameTables X.world.t (applyModeCb X a w h refresh).1.world.t := by
  rcases applyModeCb_cases X a w h refresh with
    ⟨-, heq⟩ | ⟨newmode, blob, drm, fb, -, -, ⟨-, heq⟩ | ⟨-, -, heq⟩⟩
  · rw [heq]
    exact ⟨rfl, rfl⟩
  · rw [heq]
    exact ⟨rfl, rfl⟩
  · rw [heq]
    exact announceMode { X with
      drm := drm, kms := { X.kms with mode := newmode, modeBlob := blob }, fb := fb } w h

theorem next (X : ServerRun) {e : ServerEvent} (h : ∀ e', e ≠ .transport e') :
    SameTables X.world.t (X.next e).world.t := by
  cases e with
  | seat active =>
      simp only [ServerRun.next, ServerRun.advance, ServerRun.atSeat]
      split
      · exact refl _
      · split <;> exact refl _
  | idle now committed =>
      have hwake : (X.wake now).world = X.world := by
        unfold ServerRun.wake
        split
        · dsimp only
          split <;> rfl
        · rfl
      simp only [ServerRun.next, ServerRun.advance, ServerRun.atIdle]
      rw [← hwake]
      split <;> exact refl _
  | frame answers =>
      simp only [ServerRun.next, ServerRun.advance, ServerRun.atFrame]
      split <;> exact refl _
  | input raw => exact onInput X _
  | transport e => exact (h e rfl).elim
  | wayland e => cases e <;> exact ⟨rfl, rfl⟩
  | control w h' refresh a => exact applyModeCb X a w h' refresh
  | hotplug changed => cases changed <;> exact refl _
  | tail => exact atTail X
  | pass => exact refl _

theorem exec {es : List ServerEvent} (h : ∀ e ∈ es, ∀ e', e ≠ .transport e') (X : ServerRun) :
    SameTables X.world.t (ServerRun.system.exec X es).world.t := by
  induction es generalizing X with
  | nil => exact refl _
  | cons e es ih =>
      exact (next X (h e List.mem_cons_self)).trans
        (ih (fun e' he' => h e' (List.mem_cons_of_mem _ he')) (X.next e))

end SameTables

/-! ## Windows that were held -/

theorem ServerRun.Inv.next_roles {X : ServerRun} (hX : X.Inv) {e : ServerEvent}
    (hen : X.enabled e) (hwithin : (X.next e).Within) : KeepsRoles X.stack (X.next e).stack := by
  cases e with
  | control w h refresh a =>
      show KeepsRoles X.stack (Server.applyModeCb X a w h refresh).1.stack
      rcases applyModeCb_keeps X a w h refresh with hkeeps | ⟨Y, newmode, -, hkeeps, heq⟩
      · exact (hkeeps.tidies hX).roles
      · rw [heq]
        refine (hkeeps.tidies hX).roles.trans ?_
        have hstack : (announceMode Y w h).stack = coverDesktops Y.stack w h := by
          rw [show Y.stack = Y.wm.stack from Y.wmStack.symm]
          exact (SameBooks.transportBroadcastScreen _ w h).stack
        rw [hstack]
        exact coverDesktops_roles Y.stack w h
  | _ => exact ((Keeps.next hen (fun _ _ _ _ => by simp) hwithin).tidies hX).roles

theorem ServerRun.Inv.settled_step {X : ServerRun} (hX : X.Inv) {id : Nat}
    (h : X.world.ledger.Settled id) {e : ServerEvent} (hen : X.enabled e)
    (hwithin : (X.next e).Within) : (X.next e).world.ledger.Settled id := by
  by_cases htransport : ∃ e', e = .transport e'
  · obtain ⟨e', rfl⟩ := htransport
    exact hX.coherent.world.settled_step h hen.2.2 hwithin
  · have hwins : (X.next e).world.t.wins = X.world.t.wins :=
      (SameTables.next X fun e' heq => htransport ⟨e', heq⟩).wins
    rcases h with ⟨holder, j, ho⟩ | ⟨hgone, hbelow⟩
    · refine .inl ⟨holder, j, ?_⟩
      show ((X.next e).world.t.wins holder j).clientWid ≠ 0 ∧
        ((X.next e).world.t.wins holder j).serverId = id
      rw [hwins]
      exact ho
    · obtain ⟨hnext, hrole⟩ := hX.next_roles hen hwithin
      refine .inr ⟨fun hmem => hgone ?_, Nat.lt_of_lt_of_le hbelow hnext⟩
      obtain ⟨w', hw', rfl⟩ := List.mem_map.mp hmem
      obtain ⟨w, hw, hid, -⟩ := hrole w' hw' hbelow
      exact List.mem_map.mpr ⟨w, hw, hid⟩

/-! ## The loop -/

def heldUntil (t : Transport) (id : Nat) : Option Int :=
  (firstIndex fun k => decide (t.Names (.orphan k) id)).map fun k => (t.orphans k).deadlineMs

/--
The loop between two iterations: the state, the last reading of the clock, and
for each window the deadline of the orphan that held it last, if no client has
reclaimed it since.
-/
structure LoopRun where
  run : ServerRun
  clock : Int
  lastHeld : Nat → Option Int

namespace LoopRun

def next (L : LoopRun) (it : Iteration) : LoopRun :=
  let X := ServerRun.system.exec L.run (it.events L.run)
  { run := X
    clock := (it.clocks L.run).getLastD L.clock
    lastHeld := fun id =>
      if ∃ i, X.world.t.Names (.client i) id then none
      else (heldUntil X.world.t id).or (L.lastHeld id) }

/-- The loop is still running, and the clock does not go back. -/
def enabled (L : LoopRun) (it : Iteration) : Prop :=
  ServerRun.system.Legal L.run (it.events L.run) ∧
    (L.clock :: it.clocks L.run).Pairwise (· ≤ ·)

def system : System LoopRun Iteration := ⟨enabled, next⟩

def start (S : Setup) : LoopRun := ⟨S.start, S.now, fun _ => none⟩

/-- No orphan is left that is due, and no window that such an orphan held last. -/
structure Reaped (L : LoopRun) (now : Int) : Prop where
  slots : L.run.world.t.NoneDue now
  windows : ∀ id deadline, L.lastHeld id = some deadline → deadline ≤ now →
    id ∉ L.run.stack.ids

/-- If an orphan is due at the start of the iteration, the transport's descriptor is ready. -/
def Served (L : LoopRun) (it : Iteration) : Prop :=
  L.run.world.t.NoneDue it.now ∨ it.transport.isSome = true

structure Inv (L : LoopRun) : Prop where
  run : L.run.Inv
  held : ∀ id deadline, L.lastHeld id = some deadline → L.run.world.ledger.Settled id

/-! ## Iterations -/

theorem before_apart (it : Iteration) : ∀ e ∈ it.before, ∀ e', e ≠ .transport e' := by
  intro e he e' heq
  subst heq
  simp [Iteration.before] at he

theorem after_apart (it : Iteration) : ∀ e ∈ it.after, ∀ e', e ≠ .transport e' := by
  intro e he e' heq
  subst heq
  simp [Iteration.after] at he

theorem noneDue_congr {t t' : Transport} (h : SameTables t t') (time : Int) :
    t'.NoneDue time ↔ t.NoneDue time := by
  unfold Transport.NoneDue
  rw [h.orphans]

theorem exec_noneDue {W : World} {time : Int} {es : List Native.Event}
    (hW : W.t.NoneDue time) (hclock : ∀ e ∈ es, ∀ now ∈ e.clock, time ≤ now) :
    (World.system.exec W es).t.NoneDue time := by
  induction es generalizing W with
  | nil => exact hW
  | cons e es ih =>
      exact ih (World.next_noneDue hW (hclock e List.mem_cons_self))
        fun e' he' => hclock e' (List.mem_cons_of_mem _ he')

/-- A call of `transport_process` leaves no orphan that was due when it was made. -/
theorem exec_processLog_noneDue (W : World) {time now : Int} {evs : List EpollEvent}
    (hclock : ∀ e ∈ processLog W.t now evs, ∀ now' ∈ e.clock, time ≤ now') :
    (World.system.exec W (processLog W.t now evs)).t.NoneDue time := by
  unfold processLog at hclock ⊢
  have hnow : time ≤ now := hclock (.expire now) List.mem_cons_self now rfl
  have hreaped := orphansExpire_noneDue W.t hnow
  generalize hr : orphansExpire W.t now = r at hclock hreaped ⊢
  have hexpired : World.system.next W (.expire now) = { W with t := r.1 } := by
    simp only [World.system, World.next, hr]
  rw [System.exec_cons, hexpired]
  exact exec_noneDue hreaped fun e he => hclock e (List.mem_cons_of_mem _ he)

variable {L : LoopRun} {it : Iteration}

theorem log_clock (hen : L.enabled it) {e : Native.Event} (he : e ∈ it.log (it.found L.run))
    {now : Int} (hnow : now ∈ e.clock) : it.now ≤ now := by
  have hsorted := (List.pairwise_cons.mp (List.pairwise_cons.mp hen.2).2).1
  exact hsorted now (List.mem_filterMap.mpr ⟨e, he, hnow⟩)

theorem noneDue_next_iff (hen : L.enabled it) :
    (L.next it).run.world.t.NoneDue it.now ↔ L.Served it := by
  have hbefore := SameTables.exec (before_apart it) L.run
  have hclock (e : Native.Event) (he : e ∈ it.log (it.found L.run)) (now : Int)
      (hnow : now ∈ e.clock) := log_clock hen he hnow
  unfold next Iteration.events
  simp only [System.exec_append]
  rw [noneDue_congr (SameTables.exec (after_apart it) _), exec_transport]
  unfold Iteration.found at hclock ⊢
  generalize ServerRun.system.exec L.run it.before = Y at hbefore hclock ⊢
  unfold Served Iteration.log at *
  cases htransport : it.transport with
  | none =>
      simp only [System.exec_nil, Option.isSome_none, Bool.false_eq_true, or_false]
      exact noneDue_congr hbefore it.now
  | some call =>
      simp only [htransport] at hclock
      simp only [Option.isSome_some, or_true, iff_true]
      exact exec_processLog_noneDue Y.world hclock

theorem within_start (hen : L.enabled it) (hwithin : (L.next it).run.Within) : L.run.Within :=
  System.bound_at_start (S := ServerRun.system) (B := ServerRun.Within)
    (fun _ _ hen h => ServerRun.Within.mono hen h) hen.1 hwithin

theorem heldUntil_eq_some {t : Transport} {id : Nat} {deadline : Int}
    (h : heldUntil t id = some deadline) :
    ∃ k, t.Names (.orphan k) id ∧ (t.orphans k).deadlineMs = deadline := by
  obtain ⟨k, hk, hdeadline⟩ := Option.map_eq_some_iff.mp h
  exact ⟨k, of_decide_eq_true (firstIndex_eq_some hk), hdeadline⟩

theorem heldUntil_eq_none {t : Transport} {id : Nat} (h : heldUntil t id = none)
    (k : Fin clMaxClients) : ¬ t.Names (.orphan k) id :=
  of_decide_eq_false (firstIndex_eq_none.mp (Option.map_eq_none_iff.mp h) k)

theorem lastHeld_cases {id : Nat} {deadline : Int} (h : (L.next it).lastHeld id = some deadline) :
    (∀ i, ¬ (L.next it).run.world.t.Names (.client i) id) ∧
      ((∃ k, (L.next it).run.world.t.Names (.orphan k) id ∧
          ((L.next it).run.world.t.orphans k).deadlineMs = deadline) ∨
        (∀ k, ¬ (L.next it).run.world.t.Names (.orphan k) id) ∧
          L.lastHeld id = some deadline) := by
  unfold next at h ⊢
  dsimp only at h ⊢
  generalize (ServerRun.system.exec L.run (it.events L.run)).world.t = t at h ⊢
  split at h
  · cases h
  · rename_i hclient
    refine ⟨fun i hi => hclient ⟨i, hi⟩, ?_⟩
    cases hheld : heldUntil t id with
    | some d =>
        rw [hheld] at h
        obtain rfl : d = deadline := by simpa using h
        exact .inl (heldUntil_eq_some hheld)
    | none =>
        rw [hheld] at h
        exact .inr ⟨heldUntil_eq_none hheld, by simpa using h⟩

theorem Inv.step (hL : L.Inv) (hen : L.enabled it) (hwithin : (L.next it).run.Within) :
    (L.next it).Inv := by
  refine ⟨hL.run.run hen.1 hwithin, fun id deadline h => ?_⟩
  obtain ⟨-, ⟨k, ⟨j, hj⟩, -⟩ | ⟨-, hbefore⟩⟩ := lastHeld_cases h
  · exact .inl ⟨.orphan k, j, hj⟩
  · have hstart := hL.held id deadline hbefore
    exact (System.invariant_below (S := ServerRun.system)
      (I := fun X => X.Inv ∧ X.world.ledger.Settled id) (B := ServerRun.Within)
      (fun _ _ hen h => ServerRun.Within.mono hen h)
      (fun _ _ hX hen h => ⟨hX.1.step hen h, hX.1.settled_step hX.2 hen h⟩)
      hen.1 ⟨hL.run, hstart⟩ hwithin).2

theorem reaped_iff_noneDue (hL : L.Inv) (hen : L.enabled it)
    (hwithin : (L.next it).run.Within) :
    (L.next it).Reaped it.now ↔ (L.next it).run.world.t.NoneDue it.now := by
  refine ⟨fun h => h.slots, fun hnone => ⟨hnone, fun id deadline h hdue hmem => ?_⟩⟩
  have hnext := hL.step hen hwithin
  obtain ⟨hclients, ⟨k, ⟨j, hocc, -⟩, hdeadline⟩ | ⟨horphans, -⟩⟩ := lastHeld_cases h
  · have hledger := hnext.run.coherent.world.ledger
    have htoken : ((L.next it).run.world.t.orphans k).token ≠ 0 := fun hzero =>
      hocc (hledger.naming.vacant (h := .orphan k) hzero j)
    have hlater := hnone k htoken
    omega
  · rcases hnext.held id deadline h with ⟨holder, j, ho⟩ | ⟨hgone, -⟩
    · cases holder with
      | client i => exact hclients i ⟨j, ho⟩
      | orphan k => exact horphans k ⟨j, ho⟩
    · exact hgone hmem

theorem start_inv (S : Setup) : (start S).Inv := ⟨S.start_inv, fun _ _ h => by cases h⟩

end LoopRun

/--
In a run of the server's loop in which fewer than `2^32 - 1` windows are created,
every iteration reaps the orphans that were due when it started if and only if the
transport's descriptor is ready in each iteration that starts with an orphan due.
-/
theorem reaped_iff_served (S : Setup) (its : List Iteration)
    (hrun : LoopRun.system.Legal (.start S) its)
    (hwithin : (LoopRun.system.exec (.start S) its).run.Within) :
    LoopRun.system.Each (fun L it => (L.next it).Reaped it.now) (.start S) its ↔
      LoopRun.system.Each LoopRun.Served (.start S) its := by
  have hmono (L : LoopRun) (it : Iteration) (hen : LoopRun.system.enabled L it)
      (h : (LoopRun.system.next L it).run.Within) : L.run.Within :=
    LoopRun.within_start (show L.enabled it from hen) h
  have hkeep (L : LoopRun) (it : Iteration) (hL : L.Inv)
      (he : LoopRun.system.enabled L it ∧ (LoopRun.system.next L it).run.Within) :
      (LoopRun.system.next L it).Inv :=
    hL.step (show L.enabled it from he.1) he.2
  have hiff (L : LoopRun) (it : Iteration) (hL : L.Inv)
      (he : LoopRun.system.enabled L it ∧ (LoopRun.system.next L it).run.Within) :
      (L.next it).Reaped it.now ↔ L.Served it :=
    (LoopRun.reaped_iff_noneDue hL (show L.enabled it from he.1) he.2).trans
      (LoopRun.noneDue_next_iff he.1)
  have hbelow := System.each_below (S := LoopRun.system) (B := fun L : LoopRun => L.run.Within)
    hmono hrun hwithin
  exact System.each_congr (I := LoopRun.Inv) hkeep hiff hbelow (LoopRun.start_inv S)

def quiet (now : Int) : Iteration where
  active := true
  now := now
  committed := false
  answers := ⟨true, true⟩
  input := []
  transport := none
  wayland := []
  control := []
  hotplug := false

/-- A panel opens a taskbar and crashes; after the grace period no descriptor is ready. -/
def crashedPanel : List Iteration :=
  [{ quiet 0 with transport := some (0, [.listen [(7, true)]]) },
    { quiet 10 with
      transport := some (10, [.client 7 false true
        [.datagram (.ofWords [clHelloType, clMagic, 2, 1, 0] []) ⟨none, fun _ => 0⟩ 10,
          .datagram (.ofWords [clCreateWindowType, 3, clRoleTaskbar, 0, 1040, 1920, 40] [])
            ⟨none, fun _ => 0⟩ 10] 10]) },
    { quiet 20 with transport := some (20, [.client 7 true true [] 20]) },
    quiet 6000]

set_option maxRecDepth 4000 in
theorem crashedPanel_legal : LoopRun.system.Legal (.start plainSetup) crashedPanel := by
  have hfd : (0 : Int) ≤ 7 := by decide
  refine ⟨⟨?_, by decide +kernel⟩, ⟨?_, by decide +kernel⟩, ⟨?_, by decide +kernel⟩,
    ⟨?_, by decide +kernel⟩, trivial⟩
  · exact ⟨⟨rfl, rfl⟩, rfl, rfl, .inl rfl, ⟨rfl, trivial, trivial⟩, ⟨rfl, trivial, hfd⟩,
      .inr (.inl rfl), .inr (.inr (.inl rfl)), .inr (.inr (.inr rfl)), rfl, rfl, trivial⟩
  · exact ⟨⟨rfl, rfl⟩, rfl, rfl, .inl rfl, ⟨rfl, trivial, trivial⟩,
      ⟨rfl, trivial, by decide +kernel, by decide +kernel⟩,
      ⟨rfl, trivial, by decide +kernel, by decide +kernel⟩,
      .inr (.inl rfl), .inr (.inr (.inl rfl)), .inr (.inr (.inr rfl)), rfl, rfl, trivial⟩
  · exact ⟨⟨rfl, rfl⟩, rfl, rfl, .inl rfl, ⟨rfl, trivial, trivial⟩,
      ⟨rfl, trivial, by show (0 : Int) ≤ _; decide +kernel⟩,
      .inr (.inl rfl), .inr (.inr (.inl rfl)), .inr (.inr (.inr rfl)), rfl, rfl, trivial⟩
  · exact ⟨⟨rfl, rfl⟩, rfl, rfl, .inl rfl,
      .inr (.inl rfl), .inr (.inr (.inl rfl)), .inr (.inr (.inr rfl)), rfl, rfl, trivial⟩

theorem reaped_iff_served_crashedPanel :
    LoopRun.system.Each (fun L it => (L.next it).Reaped it.now) (.start plainSetup) crashedPanel ↔
      LoopRun.system.Each LoopRun.Served (.start plainSetup) crashedPanel :=
  reaped_iff_served plainSetup crashedPanel crashedPanel_legal (by decide +kernel)

/-- The crashed panel's taskbar is still there. -/
theorem crashedPanel_not_reaped :
    LoopRun.system.Legal (.start plainSetup) crashedPanel ∧
      (LoopRun.system.exec (.start plainSetup) crashedPanel).run.Within ∧
      ¬ LoopRun.system.Each (fun L it => (L.next it).Reaped it.now) (.start plainSetup)
        crashedPanel := by
  refine ⟨crashedPanel_legal, by decide +kernel, fun h => ?_⟩
  have hlast := h.2.2.2.1.slots
  revert hlast
  decide +kernel

end CrystallineLattice.Server
