import CrystallineLattice.Native.Focus
import CrystallineLattice.Native.Grace

/-!
# Connections that an event is not about

A connection that is open keeps its record through every event that is not its own
datagram or hang-up, and the windows that its slots name stay as they are.  When it
hangs up and its windows are not parked, none of them is left.
-/

namespace CrystallineLattice.Native

open CrystallineLattice.Foundation
open CrystallineLattice.Stack

def Event.About (i : Fin clMaxClients) : Event → Prop
  | .datagram i' _ _ _ => i' = i
  | .hangup i' _ => i' = i
  | _ => False

instance (i : Fin clMaxClients) : DecidablePred (Event.About i)
  | .datagram i' _ _ _ => inferInstanceAs (Decidable (i' = i))
  | .hangup i' _ => inferInstanceAs (Decidable (i' = i))
  | .addClient .. | .expire _ | .updateFocus _ | .other _ => inferInstanceAs (Decidable False)

def Transport.namedBy (t : Transport) (i : Fin clMaxClients) (id : Nat) : Bool :=
  decide (t.Names (.client i) id)

structure Passes (i : Fin clMaxClients) (t u : Transport) : Prop where
  client : u.clients i = t.clients i
  windows : t.stack.Agree (t.namedBy i) u.stack

section Bystander

variable {t : Transport} {i : Fin clMaxClients}

theorem Passes.of_eq {u : Transport} (hclients : u.clients = t.clients)
    (hstack : u.stack = t.stack) : Passes i t u where
  client := by rw [hclients]
  windows := .of_eq (congrArg WindowStack.windows hstack)

theorem namedBy_eq_false {foreign : List Nat} (hL : (t.ledger foreign).Inv) {h : Holder}
    (hne : h ≠ .client i) {id : Nat} (hnames : t.Names h id) : t.namedBy i id = false := by
  refine decide_eq_false fun hours => ?_
  obtain ⟨j, hocc, hid⟩ := hnames
  obtain ⟨j', hocc', hid'⟩ := hours
  exact hne (hL.naming.owner hocc hocc' (hid.trans hid'.symm)).1

theorem namedBy_nextId {foreign : List Nat} (hL : (t.ledger foreign).Inv) :
    t.namedBy i t.stack.nextId = false := by
  refine decide_eq_false fun ⟨j, hocc, hid⟩ => ?_
  obtain ⟨w, hw, -⟩ := hL.linked (h := .client i) hocc
  have hlive : t.stack.nextId ∈ t.stack.ids := mem_ids_iff.mpr ⟨w, hid ▸ hw⟩
  exact Nat.lt_irrefl _ (hL.stack.below _ hlive)

theorem transportAddClient_passes (hopen : 0 ≤ (t.clients i).fd) (fd : Int) (epollOk : Bool) :
    Passes i t (transportAddClient t fd epollOk) := by
  unfold transportAddClient
  cases hslot : clientByFd t (-1) with
  | none => exact .of_eq rfl rfl
  | some i' =>
      have hfree : (t.clients i').fd = -1 := by simpa using firstIndex_eq_some hslot
      have hne : i ≠ i' := fun heq => by
        rw [heq, hfree] at hopen
        omega
      cases epollOk with
      | true => exact ⟨by simp [Transport.setClient, hne], .refl _ _⟩
      | false => exact ⟨by simp [Transport.setClient, hne], .refl _ _⟩

theorem orphansExpire_passes {foreign : List Nat} (hL : (t.ledger foreign).Inv) (now : Int) :
    Passes i t (orphansExpire t now).1 := by
  refine ⟨by rw [orphansExpire_clients], ?_⟩
  -- what is still parked was parked before, and is not a client's
  let P (u : Transport) : Prop := t.stack.Agree (t.namedBy i) u.stack ∧
    ∀ k id, u.Names (.orphan k) id → t.Names (.orphan k) id
  have hreap (u : Transport) (k : Fin clMaxClients) (hu : P u) : P (orphanDestroy u k) := by
    obtain ⟨hagree, hparked⟩ := hu
    refine ⟨hagree.trans (orphanDestroy_agree u k fun id hnames => ?_), fun k' id hnames => ?_⟩
    · exact namedBy_eq_false hL (by simp) (hparked k id hnames)
    · obtain ⟨j, hocc, hid⟩ := hnames
      have hwins : (orphanDestroy u k).wins (.orphan k') =
          (if k' = k then ClOrphan.zero else u.orphans k').wins :=
        congrArg ClOrphan.wins ((orphanDestroy_frame u k).2.1 k')
      rw [hwins] at hocc hid
      split at hocc
      · exact (hocc rfl).elim
      · rename_i hother
        rw [if_neg hother] at hid
        exact hparked k' id ⟨j, hocc, hid⟩
  have hreaped : P (orphansExpire t now).1 :=
    orphansExpire_rule (fun u k hu _ _ => hreap u k hu) ⟨.refl _ _, fun _ _ h => h⟩
  exact hreaped.1

end Bystander

theorem World.Inv.passes {W : World} (hW : W.Inv) {e : Event} (hen : W.enabled e)
    (hours : ∀ op, e ≠ .other op) {i : Fin clMaxClients} (hopen : 0 ≤ (W.t.clients i).fd)
    (hother : ¬ e.About i) : Passes i W.t (W.next e).t := by
  have hforeign {i' : Fin clMaxClients} (hne : i' ≠ i) (id : Nat)
      (hnames : W.t.Names (.client i') id) : W.t.namedBy i id = false :=
    namedBy_eq_false hW.ledger (fun heq => hne (Holder.client.inj heq)) hnames
  cases e with
  | addClient fd epollOk => exact transportAddClient_passes hopen fd epollOk
  | datagram i' d k now =>
      simp only [World.next]
      exact ⟨(clientDatagram_sessions W.t i' d k now false).1 i fun h => hother h.symm,
        clientDatagram_agree d now false hW.ledger hen.2 (hW.session.ready i').mp
          (hforeign hother) (namedBy_nextId hW.ledger)⟩
  | hangup i' now =>
      simp only [World.next]
      exact ⟨(clientDrop_frame W.t i' now).1 i fun h => hother h.symm,
        clientDrop_agree W.t i' now (hforeign hother)⟩
  | expire now =>
      simp only [World.next]
      exact orphansExpire_passes hW.ledger now
  | updateFocus focusId =>
      have hledger : (notifyFocus W.t focusId).ledger [] = W.t.ledger [] :=
        ledger_notifyFocus W.t focusId
      exact .of_eq (notifyFocus_clients W.t focusId) (congrArg Ledger.stack hledger)
  | other op => exact (hours op rfl).elim

/-! ## Hanging up -/

section Hangup

variable {W : World} {i : Fin clMaxClients} {now : Int}

theorem wins_hangup (hpark : parkingSlot W.t i = none) (h : Holder) (j : Fin winMax) :
    (W.next (.hangup i now)).t.wins h j = if h = .client i then .zero else W.t.wins h j := by
  obtain ⟨hothers, hself, horphans, -⟩ := clientDrop_frame W.t i now
  show (clientDrop W.t i now).wins h j = _
  cases h with
  | client i' =>
      show ((clientDrop W.t i now).clients i').wins j = _
      by_cases hi : i' = i
      · subst hi
        rw [hself, if_pos rfl]
        rfl
      · rw [hothers i' hi, if_neg fun heq => hi (Holder.client.inj heq)]
        rfl
  | orphan k =>
      show ((clientDrop W.t i now).orphans k).wins j = _
      rw [horphans, hpark, if_neg (by simp), if_neg (by simp)]
      rfl

theorem World.Inv.hangup_closes (hW : W.Inv) (hen : W.enabled (.hangup i now))
    (hwithin : (W.next (.hangup i now)).Within) (hpark : parkingSlot W.t i = none) {id : Nat}
    (hnames : W.t.Names (.client i) id) : id ∉ (W.next (.hangup i now)).t.stack.ids := by
  obtain ⟨j, hocc, hid⟩ := hnames
  rcases hW.settled_step (.inl ⟨.client i, j, hocc, hid⟩) hen hwithin with
    ⟨h, j', hocc', hid'⟩ | ⟨hgone, -⟩
  · have hwins : (W.next (.hangup i now)).ledger.wins h j' = _ := wins_hangup hpark h j'
    rw [hwins] at hocc' hid'
    split at hocc'
    · exact (hocc' rfl).elim
    · rename_i hother
      rw [if_neg hother] at hid'
      exact (hother (hW.ledger.naming.owner hocc' hocc (hid'.trans hid.symm)).1).elim
  · exact hgone

theorem World.Inv.hangup_unmaps (hW : W.Inv) (hen : W.enabled (.hangup i now))
    (hwithin : (W.next (.hangup i now)).Within) (hpark : parkingSlot W.t i = none)
    {j : Fin winMax} {base : Nat} (hbuf : ((W.t.clients i).wins j).buf = .mapping base)
    (len : Nat) :
    (base, len) ∉ (W.next (.hangup i now)).t.os.maps := by
  intro hmem
  obtain ⟨h, j', hbuf', -⟩ := (hW.step hen hwithin).ledger.mapping.mapped.mp hmem
  have hwins : (W.next (.hangup i now)).ledger.wins h j' = _ := wins_hangup hpark h j'
  rw [hwins] at hbuf'
  split at hbuf'
  · cases hbuf'
  · rename_i hother
    have hours : (W.ledger.wins (.client i) j).buf = .mapping base := hbuf
    exact hother (hW.ledger.mapping.single hbuf' hours).1

end Hangup

end CrystallineLattice.Native
