import CrystallineLattice.Native.Accounting
import CrystallineLattice.Native.Isolation
import CrystallineLattice.Native.Process

/-!
# The grace period

An orphan is due when its deadline has passed.  Reaping leaves no orphan that is
due, and clients that are lost later become orphans with later deadlines.  A window
that a slot named stays named until it is destroyed, and its id is not used again.
-/

namespace CrystallineLattice.Native

open CrystallineLattice.Foundation
open CrystallineLattice.Stack

/-! ## Named or gone -/

namespace Ledger

variable {L : Ledger} {id : Nat}

theorem Inv.old_ids (hL : L.Inv) {op : LedgerOp} (hen : L.enabled op)
    (hwithin : (L.next op).Within) :
    L.stack.nextId ≤ (L.next op).stack.nextId ∧
      (id ∈ (L.next op).stack.ids → id < L.stack.nextId → id ∈ L.stack.ids) := by
  have hsame {s : WindowStack} (hs : Rearranges L.stack s) :
      L.stack.nextId ≤ s.nextId ∧ (id ∈ s.ids → id < L.stack.nextId → id ∈ L.stack.ids) :=
    ⟨Nat.le_of_eq hs.nextId.symm, fun hmem _ => hs.mem_ids.mp hmem⟩
  have hwrite (id' : Nat) {f : Window → Window} (hf : ∀ w, (f w).id = w.id) :
      L.stack.nextId ≤ (L.stack.writeById id' f).nextId ∧
        (id ∈ (L.stack.writeById id' f).ids → id < L.stack.nextId → id ∈ L.stack.ids) :=
    ⟨Nat.le_refl _, fun hmem _ => writeById_ids L.stack hf ▸ hmem⟩
  have hdestroy (id' : Nat) : L.stack.nextId ≤ (windowDestroy L.stack id').nextId ∧
      (id ∈ (windowDestroy L.stack id').ids → id < L.stack.nextId → id ∈ L.stack.ids) :=
    ⟨Nat.le_of_eq (windowDestroy_nextId _ _).symm,
      fun hmem _ => ((mem_windowDestroy_ids hL.stack.nodup).mp hmem).2⟩
  cases op with
  | create h j m sw sh =>
      obtain ⟨-, -, hroom, -⟩ := hen
      obtain ⟨-, hnext, hids, -⟩ :=
        stackWithNew_spec hL.stack hroom (hL.wrap_of_create hwithin) m sw sh
      have hle : L.stack.nextId ≤ (stackWithNew L.stack m sw sh).nextId := by omega
      refine ⟨hle, fun hmem hold => ?_⟩
      rcases (hids id).mp hmem with hmem | rfl
      · exact hmem
      · exact (Nat.lt_irrefl _ hold).elim
  | retitle h j title => exact hwrite (L.wins h j).serverId fun _ => rfl
  | place h j x y w ht => exact hsame (windowSetGeometry_rearranges _ _ x y w ht)
  | unmap h j => exact hwrite (L.wins h j).serverId fun _ => rfl
  | attach h j b base => exact hwrite (L.wins h j).serverId fun _ => rfl
  | close h j => exact hdestroy (L.wins h j).serverId
  | other op =>
      cases op with
      | edit id' f => exact hwrite id' hen.1
      | call op =>
          rcases StackHistory.next_cases (r := ⟨L.stack, L.foreign, []⟩) hL.stack op with
            ⟨hs, -⟩ | ⟨hroom, win, hwin, -, hs, hreturned⟩ | ⟨id', rfl, hs, -⟩
          · exact hsame hs
          · simp only [next, otherNext, hs]
            have hbound : L.created.length + (StackHistory.next ⟨L.stack, L.foreign, []⟩
                op).returned.length < 4294967295 := hwithin
            rw [hreturned, List.length_append, List.length_singleton] at hbound
            dsimp only at hbound hs ⊢
            have hcounted := hL.counting.counted
            have hnext : uint32 ((L.stack.nextId : Int) + 1) = L.stack.nextId + 1 := by
              simpa using uint32_of_lt (show L.stack.nextId + 1 < 4294967296 by omega)
            refine ⟨by omega, fun hmem hold => ?_⟩
            have hcases : id ∈ L.stack.ids ∨ id = L.stack.nextId := by
              simpa [WindowStack.ids, hwin] using hmem
            rcases hcases with hmem | rfl
            · exact hmem
            · exact (Nat.lt_irrefl _ hold).elim
          · simp only [next, otherNext, hs]
            exact hdestroy id'
  | _ => exact ⟨Nat.le_refl _, fun hmem _ => hmem⟩

/-- A slot names the window, or the window is gone for good. -/
def Settled (L : Ledger) (id : Nat) : Prop :=
  (∃ h j, L.Owns h j id) ∨ (id ∉ L.stack.ids ∧ id < L.stack.nextId)

theorem owns_next (hL : L.Inv) {op : LedgerOp} (hen : L.enabled op)
    {h : Holder} {j : Fin winMax} (ho : L.Owns h j id) :
    (∃ h' j', (L.next op).Owns h' j' id) ∨ id ∉ (L.next op).stack.ids := by
  cases op with
  | transfer src dst =>
      have hvacant : L.enabled (.vacate dst) := hL.naming.vacant hen.2
      have hne : h ≠ dst := by
        rintro rfl
        exact ho.1 (hvacant j)
      refine .inl ⟨Equiv.swap src dst h, j, ?_⟩
      rw [transfer_eq hen]
      unfold Owns
      simp only [Equiv.swap_apply_self, next, setTable_wins, if_neg hne]
      exact ho
  | create h' j' m sw sh =>
      refine .inl ⟨h, j, ?_⟩
      have hother : ¬ (h = h' ∧ j = j') := by
        rintro ⟨rfl, rfl⟩
        exact ho.1 hen.2.1
      have heq : (L.next (.create h' j' m sw sh)).wins h j = L.wins h j :=
        setWin_wins_ne _ _ hother
      unfold Owns
      rw [heq]
      exact ho
  | unmap h' j' =>
      exact .inl ⟨h, j, owns_setWin (w := { L.wins h' j' with buf := .null, bufLen := 0 })
        rfl rfl ho⟩
  | attach h' j' b base =>
      exact .inl ⟨h, j, owns_setWin
        (w := { L.wins h' j' with buf := .mapping base, bufLen := b.stride * b.height })
        rfl rfl ho⟩
  | close h' j' =>
      by_cases hself : h = h' ∧ j = j'
      · obtain ⟨rfl, rfl⟩ := hself
        refine .inr fun hmem => ?_
        exact ((mem_windowDestroy_ids hL.stack.nodup).mp hmem).1 ho.2.symm
      · refine .inl ⟨h, j, ?_⟩
        have heq : (L.next (.close h' j')).wins h j = L.wins h j := setWin_wins_ne _ _ hself
        unfold Owns
        rw [heq]
        exact ho
  | vacate h' =>
      have hne : h ≠ h' := by
        rintro rfl
        exact ho.1 (hen j)
      refine .inl ⟨h, j, ?_⟩
      unfold Owns
      simp only [next, setTable_wins, if_neg hne]
      exact ho
  | _ => exact .inl ⟨h, j, ho⟩

theorem Settled.step (h : L.Settled id) (hL : L.Inv) {op : LedgerOp} (hen : L.enabled op)
    (hwithin : (L.next op).Within) : (L.next op).Settled id := by
  obtain ⟨hnext, hold⟩ : L.stack.nextId ≤ (L.next op).stack.nextId ∧
      (id ∈ (L.next op).stack.ids → id < L.stack.nextId → id ∈ L.stack.ids) :=
    hL.old_ids hen hwithin
  rcases h with ⟨h, j, ho⟩ | ⟨hgone, hbelow⟩
  · rcases owns_next hL hen ho with howns | hgone
    · exact .inl howns
    · have hbelow := hL.stack.below id (ho.2 ▸ (hL.linked ho.1).mem_ids)
      exact .inr ⟨hgone, Nat.lt_of_lt_of_le hbelow hnext⟩
  · exact .inr ⟨fun hmem => hgone (hold hmem hbelow), Nat.lt_of_lt_of_le hbelow hnext⟩

end Ledger

theorem World.Inv.settled_step {W : World} (hW : W.Inv) {id : Nat} (h : W.ledger.Settled id)
    {e : Event} (hen : W.enabled e) (hwithin : (W.next e).Within) :
    (W.next e).ledger.Settled id :=
  ((World.refines W e hW hen).keeps_below (I := fun M => M.Settled id ∧ M.Inv)
    (B := Ledger.Within) (fun _ _ h => h.mono)
    (fun _ _ hM hen _ hB => ⟨hM.1.step hM.2 hen hB, hM.2.step hen hB⟩) ⟨h, hW.ledger⟩ hwithin).1

/-! ## Deadlines -/

def Transport.NoneDue (t : Transport) (time : Int) : Prop :=
  ∀ k, (t.orphans k).token ≠ 0 → time < (t.orphans k).deadlineMs

instance (t : Transport) (time : Int) : Decidable (t.NoneDue time) :=
  inferInstanceAs (Decidable (∀ k : Fin clMaxClients,
    (t.orphans k).token ≠ 0 → time < (t.orphans k).deadlineMs))

def Event.clock : Event → Option Int
  | .datagram _ _ _ now => some now
  | .hangup _ now => some now
  | .expire now => some now
  | _ => none

section NoneDue

variable {t u : Transport} {time : Int}

theorem Transport.NoneDue.parked (ht : t.NoneDue time)
    (h : ∀ k, (u.orphans k).token ≠ 0 → (u.orphans k).token = (t.orphans k).token ∧
      (u.orphans k).deadlineMs = (t.orphans k).deadlineMs) : u.NoneDue time := by
  intro k htoken
  obtain ⟨hsame, hdeadline⟩ := h k htoken
  rw [hdeadline]
  exact ht k (hsame ▸ htoken)

theorem Transport.NoneDue.onlyTable (ht : t.NoneDue time) {h : Holder} (hu : OnlyTable h t u) :
    u.NoneDue time :=
  ht.parked fun k _ => hu.parked k

theorem Transport.NoneDue.clientDrop (ht : t.NoneDue time) (i : Fin clMaxClients) {now : Int}
    (hnow : time ≤ now) : (clientDrop t i now).NoneDue time := by
  obtain ⟨-, -, horphans, -⟩ := clientDrop_frame t i now
  intro k htoken
  rw [horphans] at htoken ⊢
  split
  · show time < now + clReconnectGraceMs
    unfold clReconnectGraceMs
    omega
  · rename_i hother
    rw [if_neg hother] at htoken
    exact ht k htoken

theorem Transport.NoneDue.clientDatagram (ht : t.NoneDue time) (i : Fin clMaxClients)
    (d : Datagram) (k : Kernel) {now : Int} (dirty : Bool) (hnow : time ≤ now) :
    (clientDatagram t i d k now dirty).t.NoneDue time := by
  rcases clientDatagram_cases t i d k now dirty with heq | ⟨-, heq⟩
  · rw [heq]
    rcases dispatch_frame t i d k dirty with htable | ⟨-, -, -, hhello⟩
    · exact ht.onlyTable htable
    · obtain ⟨u, hu, -, horphans, -, -⟩ := acceptHello_frame t i d
      rw [hhello]
      refine ht.parked fun k htoken => ?_
      rw [horphans] at htoken ⊢
      rcases hu.frame.2.1 k with hsame | ⟨-, -, hzero, -⟩
      · rw [hsame]
        exact ⟨rfl, rfl⟩
      · rw [hzero] at htoken
        exact (htoken rfl).elim
  · rw [heq]
    have hclosed : OnlyTable (.client i) t (closeFds t d.fds) := .same rfl rfl rfl
    exact (ht.onlyTable hclosed).clientDrop i hnow

theorem orphanDestroy_parked (t : Transport) (k k' : Fin clMaxClients)
    (htoken : ((orphanDestroy t k).orphans k').token ≠ 0) :
    k' ≠ k ∧ (orphanDestroy t k).orphans k' = t.orphans k' := by
  have horphans := (orphanDestroy_frame t k).2.1 k'
  rw [horphans] at htoken ⊢
  split
  · rename_i heq
    rw [if_pos heq] at htoken
    exact (htoken rfl).elim
  · rename_i hne
    exact ⟨hne, rfl⟩

theorem foldl_expireSlot_due (now : Int) (ks : List (Fin clMaxClients)) (acc : Transport × Bool)
    (k : Fin clMaxClients)
    (hk : k ∈ ks ∨ ((acc.1.orphans k).token ≠ 0 → now < (acc.1.orphans k).deadlineMs))
    (htoken : ((ks.foldl (expireSlot now) acc).1.orphans k).token ≠ 0) :
    now < ((ks.foldl (expireSlot now) acc).1.orphans k).deadlineMs := by
  induction ks generalizing acc with
  | nil => exact hk.resolve_left List.not_mem_nil htoken
  | cons k' ks ih =>
      rw [List.foldl_cons] at htoken ⊢
      refine ih (expireSlot now acc k') ?_ htoken
      rcases hk with hk | hk
      · rcases List.mem_cons.mp hk with rfl | hk
        · refine .inr fun hleft => ?_
          unfold expireSlot at hleft ⊢
          split
          · rename_i hdue
            rw [if_pos hdue] at hleft
            exact ((orphanDestroy_parked acc.1 k k hleft).1 rfl).elim
          · rename_i hdue
            rw [if_neg hdue] at hleft
            by_contra hlate
            exact hdue ⟨hleft, not_lt.mp hlate⟩
        · exact .inl hk
      · refine .inr fun hleft => ?_
        rcases expireSlot_cases now acc k' with heq | ⟨-, -, heq⟩
        · rw [heq] at hleft ⊢
          exact hk hleft
        · rw [heq] at hleft ⊢
          have hsame := (orphanDestroy_parked acc.1 k' k hleft).2
          dsimp only at hleft ⊢
          rw [hsame] at hleft ⊢
          exact hk hleft

theorem orphansExpire_noneDue (t : Transport) {now : Int} (hnow : time ≤ now) :
    (orphansExpire t now).1.NoneDue time := by
  have hall := foldl_expireSlot_due now (List.finRange clMaxClients) (t, false)
  unfold orphansExpire
  generalize (List.finRange clMaxClients).foldl (expireSlot now) (t, false) = r at hall ⊢
  exact fun k htoken => lt_of_le_of_lt hnow (hall k (.inl (List.mem_finRange k)) htoken)

theorem World.next_noneDue {W : World} (hW : W.t.NoneDue time) {e : Event}
    (hclock : ∀ now ∈ e.clock, time ≤ now) : (W.next e).t.NoneDue time := by
  cases e with
  | addClient fd epollOk =>
      have horphans : (transportAddClient W.t fd epollOk).orphans = W.t.orphans := by
        unfold transportAddClient
        cases clientByFd W.t (-1) with
        | none => rfl
        | some i => cases epollOk <;> rfl
      refine hW.parked fun k _ => ?_
      simp only [World.next, horphans, and_self]
  | datagram i d k now => exact hW.clientDatagram i d k false (hclock now rfl)
  | hangup i now => exact hW.clientDrop i (hclock now rfl)
  | expire now =>
      simp only [World.next]
      exact orphansExpire_noneDue W.t (hclock now rfl)
  | updateFocus focusId => exact hW.onlyTable (notifyFocus_frame W.t (.client 0) focusId)
  | other op => exact hW

end NoneDue

end CrystallineLattice.Native
