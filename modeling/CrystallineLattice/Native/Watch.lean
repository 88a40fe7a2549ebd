import CrystallineLattice.Native.Focus

/-!
# What the owners of windows heard

A watched run of the transport remembers, for every slot, how many messages had
been sent when the connection came to own the slot's present window.  What the
connection heard about the window is what it was sent after these.
-/

namespace CrystallineLattice.Native

open CrystallineLattice.Foundation
open CrystallineLattice.Stack

structure Watch where
  world : World
  since : Fin clMaxClients → Fin winMax → Nat

namespace Watch

def start (sw sh : Int) : Watch := ⟨.start sw sh, fun _ _ => 0⟩

def holding (X : Watch) (i : Fin clMaxClients) (j : Fin winMax) : Option Holding :=
  X.world.t.holding i j

def next (X : Watch) (e : Event) : Watch where
  world := X.world.next e
  since i j :=
    if (X.world.next e).t.holding i j = X.holding i j then X.since i j
    else X.world.t.os.sent.length

/-- A new connection has a descriptor that no open connection has. -/
def NewFd (X : Watch) : Event → Prop
  | .addClient fd _ => ∀ i, (X.world.t.clients i).fd ≠ fd
  | _ => True

instance (X : Watch) (e : Event) : Decidable (X.NewFd e) := by
  cases e <;> unfold NewFd <;> infer_instance

def enabled (X : Watch) (e : Event) : Prop := X.world.enabled e ∧ X.NewFd e

def system : System Watch Event := ⟨enabled, next⟩

/-- The `CL_FOCUS` messages about `h` that its owner was sent since it owns it, oldest first. -/
def heard (X : Watch) (i : Fin clMaxClients) (j : Fin winMax) (h : Holding) : List Bool :=
  (X.world.t.os.sent.drop (X.since i j)).filterMap h.hears

/-- Connection `i` owns `h` through slot `j`, and last heard about it that it has the focus. -/
def Believes (X : Watch) (i : Fin clMaxClients) (j : Fin winMax) (h : Holding) : Prop :=
  X.holding i j = some h ∧ (X.heard i j h).getLast? = some true

/-! ## Connections -/

def OwnFds (t : Transport) : Prop :=
  ∀ i i', 0 ≤ (t.clients i).fd → (t.clients i).fd = (t.clients i').fd → i = i'

theorem OwnFds.of_lost {t u : Transport} (ht : OwnFds t)
    (hu : ∀ i, (u.clients i).fd = (t.clients i).fd ∨ (u.clients i).fd < 0) : OwnFds u := by
  intro i i' hopen heq
  have hi := (hu i).resolve_right (by omega)
  have hi' := (hu i').resolve_right (by omega)
  rw [hi] at hopen heq
  exact ht i i' hopen (heq.trans hi')

theorem OwnFds.addClient {t : Transport} (ht : OwnFds t) {fd : Int}
    (hfresh : ∀ i, (t.clients i).fd ≠ fd) (epollOk : Bool) :
    OwnFds (transportAddClient t fd epollOk) := by
  unfold transportAddClient
  cases clientByFd t (-1) with
  | none => exact ht
  | some i =>
      cases epollOk with
      | false =>
          refine ht.of_lost fun i' => ?_
          by_cases hi : i' = i
          · exact .inr (by simp [hi, Transport.setClient, ClClient.zero])
          · exact .inl (by simp [hi, Transport.setClient])
      | true =>
          intro i₁ i₂ hopen heq
          have hfd (i' : Fin clMaxClients) : ((t.setClient i (.zero fd)).clients i').fd =
              if i' = i then fd else (t.clients i').fd := by
            by_cases hi : i' = i <;> simp [hi, Transport.setClient, ClClient.zero]
          simp only [if_true, hfd] at hopen heq
          by_cases h₁ : i₁ = i
          · by_cases h₂ : i₂ = i
            · exact h₁.trans h₂.symm
            · rw [if_pos h₁, if_neg h₂] at heq
              exact (hfresh i₂ heq.symm).elim
          · by_cases h₂ : i₂ = i
            · rw [if_neg h₁, if_pos h₂] at heq
              exact (hfresh i₁ heq).elim
            · rw [if_neg h₁] at hopen heq
              rw [if_neg h₂] at heq
              exact ht i₁ i₂ hopen heq

theorem clientDrop_fd (t : Transport) (i : Fin clMaxClients) (now : Int) (i' : Fin clMaxClients) :
    ((clientDrop t i now).clients i').fd = (t.clients i').fd ∨
      ((clientDrop t i now).clients i').fd < 0 := by
  obtain ⟨hothers, hself, -, -⟩ := clientDrop_frame t i now
  by_cases hi : i' = i
  · rw [hi, hself]
    exact .inr (by decide)
  · exact .inl (congrArg ClClient.fd (hothers i' hi))

theorem clientDatagram_fd (t : Transport) (i : Fin clMaxClients) (d : Datagram) (k : Kernel)
    (now : Int) (i' : Fin clMaxClients) :
    ((clientDatagram t i d k now false).t.clients i').fd = (t.clients i').fd ∨
      ((clientDatagram t i d k now false).t.clients i').fd < 0 := by
  rcases clientDatagram_cases t i d k now false with heq | ⟨-, heq⟩
  · rw [heq]
    refine .inl ?_
    rcases dispatch_frame t i d k false with htable | ⟨-, -, -, hhello⟩
    · exact (htable.session i').1
    · obtain ⟨u, hu, hclients, -⟩ := acceptHello_frame t i d
      obtain ⟨hothers, -, hfd, -⟩ := hu.frame
      rw [← hclients] at hothers hfd
      rw [hhello]
      by_cases hi : i' = i
      · rw [hi]
        exact hfd
      · rw [hothers i' hi]
  · rw [heq]
    exact clientDrop_fd (closeFds t d.fds) i now i'

theorem OwnFds.next {W : World} (h : OwnFds W.t) {e : Event}
    (hnew : ∀ fd epollOk, e = .addClient fd epollOk → ∀ i, (W.t.clients i).fd ≠ fd) :
    OwnFds (W.next e).t := by
  cases e with
  | addClient fd epollOk => exact h.addClient (hnew fd epollOk rfl) epollOk
  | datagram i d k now => exact h.of_lost (clientDatagram_fd W.t i d k now)
  | hangup i now => exact h.of_lost (clientDrop_fd W.t i now)
  | expire now =>
      simp only [World.next]
      exact h.of_lost fun i => .inl (by rw [orphansExpire_clients])
  | updateFocus f =>
      exact h.of_lost fun i => .inl (by rw [← notifyFocus_clients W.t f]; rfl)
  | other op => exact h

theorem OwnFds.distinct {W : World} (hfds : OwnFds W.t) (hW : W.Inv) : Distinct W.t where
  owner i j i' j' h h' hheld hheld' heq := by
    obtain ⟨⟨-, hwid⟩, rfl⟩ := holding_eq_some.mp hheld
    obtain ⟨⟨-, hwid'⟩, rfl⟩ := holding_eq_some.mp hheld'
    have howner : Holder.client i = .client i' ∧ j = j' := hW.ledger.naming.owner hwid hwid' heq
    exact ⟨Holder.client.inj howner.1, howner.2⟩
  address i j i' j' h h' hheld hheld' hfd heq := by
    obtain ⟨⟨hopen, hwid⟩, rfl⟩ := holding_eq_some.mp hheld
    obtain ⟨-, rfl⟩ := holding_eq_some.mp hheld'
    obtain rfl := hfds i i' hopen hfd
    exact ⟨rfl, hW.ledger.naming.distinct (h := .client i) hwid heq⟩
  nonzero i j h hheld := by
    obtain ⟨⟨-, hwid⟩, rfl⟩ := holding_eq_some.mp hheld
    have hlinked := hW.ledger.linked (h := .client i) hwid
    exact hW.ledger.stack.nonzero _ hlinked.mem_ids

/-! ## The invariant -/

structure Inv (X : Watch) : Prop where
  world : X.world.Inv
  fds : OwnFds X.world.t
  since : ∀ i j, X.since i j ≤ X.world.t.os.sent.length

def Within (X : Watch) : Prop := X.world.Within

instance (X : Watch) : Decidable X.Within := inferInstanceAs (Decidable X.world.Within)

theorem Within.mono {X : Watch} {e : Event} (h : (X.next e).Within) : X.Within :=
  World.Within.mono (e := e) h

theorem Within.updateFocus {X : Watch} (h : X.Within) (f : Nat) :
    (X.next (.updateFocus f)).Within := by
  have hledger : (X.world.next (.updateFocus f)).ledger = X.world.ledger :=
    ledger_notifyFocus X.world.t f
  unfold Within World.Within next
  dsimp only
  rw [hledger]
  exact h

theorem start_inv (sw sh : Int) : (start sw sh).Inv where
  world := World.start_inv sw sh
  fds i i' hopen := by simp [start, World.start, transportCreate, ClClient.zero] at hopen
  since _ _ := Nat.le_refl _

theorem Inv.distinct {X : Watch} (hX : X.Inv) : Distinct X.world.t := hX.fds.distinct hX.world

theorem Inv.step {X : Watch} (hX : X.Inv) {e : Event} (hen : X.enabled e)
    (hwithin : (X.next e).Within) : (X.next e).Inv where
  world := hX.world.step hen.1 hwithin
  fds := hX.fds.next fun fd epollOk heq => by
    have hnew := hen.2
    rw [heq] at hnew
    exact hnew
  since i j := by
    obtain ⟨v, f, htells⟩ := next_tells hX.world e
    obtain ⟨l, hl, -⟩ := htells.silent.sent
    have hgrows : X.world.t.os.sent.length ≤ (X.world.next e).t.os.sent.length := by
      rw [htells.sent]
      by_cases hf : f = v.focusedServerId
      · rw [hf, notifyFocus_self, hl]
        simp
      · rw [notifyFocus_eq hf, hl]
        simp
    have := hX.since i j
    simp only [next]
    split <;> omega

theorem Inv.heard_next {X : Watch} (hX : X.Inv) {e : Event} (hen : X.enabled e)
    (hwithin : (X.next e).Within) {i : Fin clMaxClients} {j : Fin winMax} {h : Holding}
    (hheld : (X.next e).holding i j = some h) :
    (X.holding i j = some h ∨ Gains X.world e i j h) ∧
      (X.next e).heard i j h = (if X.holding i j = some h then X.heard i j h else []) ++
        transition X.world.t.focusedServerId (X.next e).world.t.focusedServerId h.id := by
  obtain ⟨v, f, htells⟩ := next_tells hX.world e
  have hD : Distinct v := (hX.step hen hwithin).distinct.of_clients htells.clients.symm
  have hv : v.holding i j = some h := by
    unfold Transport.holding
    rw [← htells.clients]
    exact hheld
  obtain ⟨l, hl, hheard⟩ := hD.hears_notifyFocus hv f
  obtain ⟨quiet, hquiet, hsilent⟩ := htells.silent.sent
  refine ⟨htells.holding i j h hv, ?_⟩
  have hsent : (X.world.next e).t.os.sent = X.world.t.os.sent ++ (quiet ++ l) := by
    rw [htells.sent, hl, hquiet, List.append_assoc]
  have hadded : (quiet ++ l).filterMap h.hears =
      transition X.world.t.focusedServerId f h.id := by
    rw [List.filterMap_append, h.hears_silence hsilent, List.nil_append, hheard,
      htells.silent.focused]
  have hfocused : (X.next e).world.t.focusedServerId = f := htells.focused
  rw [hfocused, ← hadded]
  unfold heard
  have hworld : (X.next e).world.t.os.sent = (X.world.next e).t.os.sent := rfl
  rw [hworld, hsent]
  by_cases hkept : X.holding i j = some h
  · have hsince : (X.next e).since i j = X.since i j := if_pos (hheld.trans hkept.symm)
    rw [if_pos hkept, hsince, List.drop_append_of_le_length (hX.since i j),
      List.filterMap_append]
  · have hsince : (X.next e).since i j = X.world.t.os.sent.length :=
      if_neg fun heq => hkept (heq.symm.trans hheld)
    rw [if_neg hkept, hsince, List.drop_left, List.nil_append]

end Watch

/-! ## At most one window believes to be focused -/

theorem transition_self (old id : Nat) : transition old old id = [] := if_pos rfl

/-- Whoever heard last that it has the focus is the window that the change leads to. -/
theorem believes_transition {l : List Bool} {old new id : Nat}
    (h : l.getLast? = some true → id = old)
    (hlast : (l ++ transition old new id).getLast? = some true) : id = new := by
  unfold transition at hlast
  by_cases hsame : new = old
  · rw [if_pos hsame, List.append_nil] at hlast
    exact (h hlast).trans hsame.symm
  · by_cases hnew : id = new
    · exact hnew
    · by_cases hold : id = old
      · rw [if_neg hsame, if_pos hold, if_neg hnew] at hlast
        simp at hlast
      · simp only [hsame, hnew, hold, if_false, List.append_nil] at hlast
        exact (hold (h hlast)).elim

namespace Watch

/-- Only the window that the transport remembers can believe to be focused. -/
def Faithful (X : Watch) : Prop :=
  ∀ i j h, X.Believes i j h → h.id = X.world.t.focusedServerId

theorem Faithful.step {X : Watch} (hF : X.Faithful) (hX : X.Inv) {e : Event}
    (hen : X.enabled e) (hwithin : (X.next e).Within) : (X.next e).Faithful := by
  rintro i j h ⟨hheld, hlast⟩
  rw [(hX.heard_next hen hwithin hheld).2] at hlast
  refine believes_transition (fun hbefore => ?_) hlast
  by_cases hkept : X.holding i j = some h
  · rw [if_pos hkept] at hbefore
    exact hF i j h ⟨hkept, hbefore⟩
  · rw [if_neg hkept] at hbefore
    cases hbefore

theorem Inv.run {X : Watch} (hX : X.Inv) (hF : X.Faithful) {es : List Event}
    (hrun : system.Legal X es) (hwithin : (system.exec X es).Within) :
    (system.exec X es).Inv ∧ (system.exec X es).Faithful :=
  System.invariant_below (I := fun X => X.Inv ∧ X.Faithful) (B := Within)
    (fun _ _ _ h => h.mono)
    (fun _ _ hI hen h => ⟨hI.1.step hen h, hI.2.step hI.1 hen h⟩) hrun ⟨hX, hF⟩ hwithin

end Watch

/--
In every state that a run of the transport reaches, in which fewer than
`2^32 - 1` windows are created, at most one connection and window it owns heard
last that the window has the focus, and it is the window that the transport
remembers.
-/
theorem at_most_one_believes (sw sh : Int) (es : List Event)
    (hrun : Watch.system.Legal (.start sw sh) es)
    (hwithin : (Watch.system.exec (.start sw sh) es).Within) :
    (∀ i j h i' j' h', (Watch.system.exec (.start sw sh) es).Believes i j h →
        (Watch.system.exec (.start sw sh) es).Believes i' j' h' → i = i' ∧ j = j') ∧
      ∀ i j h, (Watch.system.exec (.start sw sh) es).Believes i j h →
        h.id = (Watch.system.exec (.start sw sh) es).world.t.focusedServerId := by
  have hstart : (Watch.start sw sh).Faithful := by
    rintro i j h ⟨-, hlast⟩
    simp [Watch.heard, Watch.start, World.start, transportCreate] at hlast
  obtain ⟨hinv, hfaithful⟩ := (Watch.start_inv sw sh).run hstart hrun hwithin
  refine ⟨fun i j h i' j' h' hb hb' => ?_, hfaithful⟩
  exact hinv.distinct.owner i j i' j' h h' hb.1 hb'.1
    ((hfaithful i j h hb).trans (hfaithful i' j' h' hb').symm)

/-- Two clients with a normal window each; the first loses the focus, the second is lost. -/
def focusRun : List Event :=
  [.addClient 7 true,
    .datagram 0 (.ofWords [clHelloType, clMagic, 2, 1, 0] []) ⟨none, fun _ => 0⟩ 10,
    .datagram 0 (.ofWords [clCreateWindowType, 3, 0, 5, 5, 300, 200] []) ⟨none, fun _ => 0⟩ 20,
    .addClient 8 true,
    .datagram 1 (.ofWords [clHelloType, clMagic, 2, 1, 0] []) ⟨none, fun _ => 0⟩ 30,
    .datagram 1 (.ofWords [clCreateWindowType, 3, 0, 9, 9, 300, 200] []) ⟨none, fun _ => 0⟩ 40,
    .updateFocus 1,
    .hangup 1 50]

theorem focusRun_legal : Watch.system.Legal (.start 1920 1080) focusRun := by
  have h7 : (0 : Int) ≤ 7 := by decide
  have h8 : (0 : Int) ≤ 8 := by decide
  have hconnected :
      0 ≤ ((Watch.system.exec (.start 1920 1080) (focusRun.take 7)).world.t.clients 1).fd := by
    decide +kernel
  exact ⟨⟨h7, by decide +kernel⟩, ⟨⟨by decide +kernel, by decide +kernel⟩, trivial⟩,
    ⟨⟨by decide +kernel, by decide +kernel⟩, trivial⟩, ⟨h8, by decide +kernel⟩,
    ⟨⟨by decide +kernel, by decide +kernel⟩, trivial⟩,
    ⟨⟨by decide +kernel, by decide +kernel⟩, trivial⟩, ⟨trivial, trivial⟩,
    ⟨hconnected, trivial⟩, trivial⟩

theorem at_most_one_believes_focusRun :
    (∀ i j h i' j' h', (Watch.system.exec (.start 1920 1080) focusRun).Believes i j h →
        (Watch.system.exec (.start 1920 1080) focusRun).Believes i' j' h' → i = i' ∧ j = j') ∧
      ∀ i j h, (Watch.system.exec (.start 1920 1080) focusRun).Believes i j h →
        h.id = (Watch.system.exec (.start 1920 1080) focusRun).world.t.focusedServerId :=
  at_most_one_believes 1920 1080 focusRun focusRun_legal (by decide +kernel)

/-! ## What the owners hear is true -/

theorem alternates_transition {l : List Bool} {old new id : Nat} (halt : Alternates true l)
    (h : l.getLast? = some true ↔ id = old) :
    Alternates true (l ++ transition old new id) ∧
      ((l ++ transition old new id).getLast? = some true ↔ id = new) := by
  unfold transition
  by_cases hsame : new = old
  · rw [if_pos hsame, List.append_nil, hsame]
    exact ⟨halt, h⟩
  · rw [if_neg hsame]
    by_cases hold : id = old
    · have hnew : id ≠ new := fun heq => hsame (heq.symm.trans hold)
      rw [if_pos hold, if_neg hnew, List.append_nil]
      refine ⟨halt.append ?_, by simp [hnew]⟩
      rw [h.mpr hold]
      rfl
    · rw [if_neg hold, List.nil_append]
      by_cases hnew : id = new
      · rw [if_pos hnew]
        refine ⟨halt.append ?_, by simp [hnew]⟩
        cases hlast : l.getLast? with
        | none => rfl
        | some b =>
            cases b with
            | false => rfl
            | true => exact (hold (h.mp hlast)).elim
      · rw [if_neg hnew, List.append_nil]
        exact ⟨halt, iff_of_false (fun hlast => hold (h.mp hlast)) hnew⟩

namespace Watch

/--
The owners heard gained, lost, gained, ..., and an update of the focus to `f`
leaves exactly the owner of `f` with gained.
-/
structure Truthful (X : Watch) : Prop where
  alternates : ∀ i j h, X.holding i j = some h → Alternates true (X.heard i j h)
  told : ∀ f i j h, (X.next (.updateFocus f)).holding i j = some h →
    (((X.next (.updateFocus f)).heard i j h).getLast? = some true ↔ h.id = f)

/-- No connection comes to own the window that the transport remembers as focused. -/
def GainsUnfocused (X : Watch) (e : Event) : Prop :=
  ∀ i j h, Gains X.world e i j h → h.id ≠ X.world.t.focusedServerId

/-- The owners heard gained, lost, gained, ..., and the focused one heard gained last. -/
def Exact (X : Watch) : Prop :=
  ∀ i j h, X.holding i j = some h → Alternates true (X.heard i j h) ∧
    ((X.heard i j h).getLast? = some true ↔ h.id = X.world.t.focusedServerId)

theorem Exact.step {X : Watch} (hE : X.Exact) (hX : X.Inv) {e : Event} (hen : X.enabled e)
    (hwithin : (X.next e).Within) (hgains : X.GainsUnfocused e) : (X.next e).Exact := by
  intro i j h hheld
  obtain ⟨horigin, hheard⟩ := hX.heard_next hen hwithin hheld
  rw [hheard]
  by_cases hkept : X.holding i j = some h
  · rw [if_pos hkept]
    exact alternates_transition (hE i j h hkept).1 (hE i j h hkept).2
  · rw [if_neg hkept]
    have hnew : h.id ≠ X.world.t.focusedServerId := hgains i j h (horigin.resolve_left hkept)
    exact alternates_transition trivial (iff_of_false (by simp) hnew)

theorem Exact.truthful {X : Watch} (hE : X.Exact) (hX : X.Inv) (hwithin : X.Within) :
    X.Truthful where
  alternates i j h hheld := (hE i j h hheld).1
  told f i j h hheld := by
    have hquiet : X.GainsUnfocused (.updateFocus f) := fun i j h hgains => by cases hgains
    have hnext := (hE.step hX (e := .updateFocus f) ⟨trivial, trivial⟩
      (hwithin.updateFocus f) hquiet) i j h hheld
    rw [hnext.2]
    exact Eq.congr_right (notifyFocus_focused X.world.t f)

theorem Inv.untold {X : Watch} (hX : X.Inv) {e : Event} (hen : X.enabled e)
    (hwithin : (X.next e).Within) (hgains : ¬ X.GainsUnfocused e) : ¬ (X.next e).Truthful := by
  intro htruth
  unfold GainsUnfocused at hgains
  push Not at hgains
  obtain ⟨i, j, h, hgain, hid⟩ := hgains
  obtain ⟨hheld, hbefore⟩ := hgain.holds hX.world hen.1
  have hnext := hX.step hen hwithin
  have hfree : X.holding i j = none := hbefore
  have hheard := (hX.heard_next hen hwithin hheld).2
  rw [hfree, if_neg (by simp), List.nil_append, hid] at hheard
  by_cases hsame : (X.next e).world.t.focusedServerId = X.world.t.focusedServerId
  · -- the focus stayed, so an update to the same window finds nothing to tell
    rw [hsame, transition_self] at hheard
    have hupdate : (X.next e).enabled (.updateFocus h.id) := ⟨trivial, trivial⟩
    have hheld' : ((X.next e).next (.updateFocus h.id)).holding i j = some h := by
      unfold holding Transport.holding
      rw [show ((X.next e).next (.updateFocus h.id)).world.t.clients =
        (X.next e).world.t.clients from notifyFocus_clients _ _]
      exact hheld
    have hfocused : ((X.next e).next (.updateFocus h.id)).world.t.focusedServerId = h.id :=
      notifyFocus_focused _ _
    have hheard' := (hnext.heard_next hupdate (hwithin.updateFocus h.id) hheld').2
    rw [hfocused, hsame, ← hid, transition_self, List.append_nil, hheard, ite_self] at hheard'
    have htold := (htruth.told h.id i j h hheld').mpr rfl
    rw [hheard'] at htold
    cases htold
  · -- the focus went elsewhere, so the first it hears is lost
    have halt := htruth.alternates i j h hheld
    rw [hheard, transition, if_neg hsame, if_pos rfl] at halt
    exact absurd halt.1 (by decide)

end Watch

/--
In a run in which fewer than `2^32 - 1` windows are created, what the owners of
windows hear is true in every state if and only if no connection ever comes to
own the window that the transport remembers as focused.
-/
theorem focus_truthful_iff (sw sh : Int) (es : List Event)
    (hrun : Watch.system.Legal (.start sw sh) es)
    (hwithin : (Watch.system.exec (.start sw sh) es).Within) :
    Watch.system.Along Watch.Truthful (.start sw sh) es ↔
      Watch.system.Each Watch.GainsUnfocused (.start sw sh) es := by
  have hbelow := System.each_below (B := Watch.Within) (fun _ _ _ h => h.mono) hrun hwithin
  have hstart : (Watch.start sw sh).Within := System.bound_at_start (fun _ _ _ h => h.mono)
    hrun hwithin
  refine System.along_iff_each (I := fun X => (X.Inv ∧ X.Within) ∧ X.Exact)
    (fun X hX => hX.2.truthful hX.1.1 hX.1.2)
    (fun X e hX he hgains => ⟨⟨hX.1.1.step he.1 he.2, he.2⟩,
      hX.2.step hX.1.1 he.1 he.2 hgains⟩)
    (fun X e hX he hgains => hX.1.1.untold he.1 he.2 hgains) hbelow
    ⟨⟨Watch.start_inv sw sh, hstart⟩, fun i j h hheld => ?_⟩
  simp [Watch.holding, Transport.holding, Watch.start, World.start, transportCreate,
    ClClient.zero] at hheld

theorem focus_truthful_iff_focusRun :
    Watch.system.Along Watch.Truthful (.start 1920 1080) focusRun ↔
      Watch.system.Each Watch.GainsUnfocused (.start 1920 1080) focusRun :=
  focus_truthful_iff 1920 1080 focusRun focusRun_legal (by decide +kernel)

/-- A shell with the focused window is lost, comes back, and the focus is updated to its window. -/
def returnRun : List Event :=
  [.addClient 7 true,
    .datagram 0 (.ofWords [clHelloType, clMagic, 2, 1, 0] []) ⟨none, fun _ => 0⟩ 10,
    .datagram 0 (.ofWords [clCreateWindowType, 3, clRoleTaskbar, 0, 1040, 1920, 40] [])
      ⟨none, fun _ => 0⟩ 20,
    .datagram 0 (.ofWords [clCreateWindowType, 4, 0, 5, 5, 300, 200] []) ⟨none, fun _ => 0⟩ 30,
    .hangup 0 40,
    .addClient 8 true,
    .datagram 0 (.ofWords [clHelloType, clMagic, 2, 1, 1] []) ⟨none, fun _ => 0⟩ 50,
    .updateFocus 2]

theorem returnRun_legal : Watch.system.Legal (.start 1920 1080) returnRun := by
  have h7 : (0 : Int) ≤ 7 := by decide
  have h8 : (0 : Int) ≤ 8 := by decide
  have hconnected :
      0 ≤ ((Watch.system.exec (.start 1920 1080) (returnRun.take 4)).world.t.clients 0).fd := by
    decide +kernel
  exact ⟨⟨h7, by decide +kernel⟩, ⟨⟨by decide +kernel, by decide +kernel⟩, trivial⟩,
    ⟨⟨by decide +kernel, by decide +kernel⟩, trivial⟩,
    ⟨⟨by decide +kernel, by decide +kernel⟩, trivial⟩, ⟨hconnected, trivial⟩,
    ⟨h8, by decide +kernel⟩, ⟨⟨by decide +kernel, by decide +kernel⟩, trivial⟩,
    ⟨trivial, trivial⟩, trivial⟩

/-- The shell of `returnRun` owns the focused window again, and was told nothing about it. -/
theorem returned_owner_untold :
    let X := Watch.system.exec (.start 1920 1080) returnRun
    let j : Fin winMax := ⟨1, by decide⟩
    Watch.system.Legal (.start 1920 1080) returnRun ∧ X.Within ∧
      X.world.t.focusedServerId = 2 ∧ X.holding 0 j = some ⟨8, 4, 2⟩ ∧
      X.heard 0 j ⟨8, 4, 2⟩ = [] ∧
      ¬ Watch.system.Along Watch.Truthful (.start 1920 1080) returnRun := by
  intro X j
  refine ⟨returnRun_legal, by decide +kernel, by decide +kernel, by decide +kernel,
    by decide +kernel, fun halong => ?_⟩
  have htruth : X.Truthful := System.along_last halong
  have hheld : (X.next (.updateFocus 2)).holding 0 j = some ⟨8, 4, 2⟩ := by decide +kernel
  have hsilent : (X.next (.updateFocus 2)).heard 0 j ⟨8, 4, 2⟩ = [] := by decide +kernel
  have htold := (htruth.told 2 0 j _ hheld).mpr rfl
  rw [hsilent] at htold
  cases htold

end CrystallineLattice.Native
