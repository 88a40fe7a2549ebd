import CrystallineLattice.Native.World
import CrystallineLattice.Stack.View

/-!
# Windows that are not the transport's

Another user of the stack draws its windows from blocks of the server's heap.
Neither the transport nor a user that only moves windows changes what those
windows show, and no other window comes to show such a block.
-/

namespace CrystallineLattice.Native

open CrystallineLattice.Foundation
open CrystallineLattice.Stack

/--
The windows in `F` show what they showed, and another window shows a heap block
only if it did before.
-/
structure Untouched (F : List Nat) (s s' : WindowStack) : Prop where
  kept : ∀ id ∈ F, s'.view id = s.view id
  heap : ∀ id, id ∉ F → ∀ w' address, s'.view id = some w' → w'.buf = .block address →
    ∃ w, s.view id = some w ∧ w.buf = .block address

namespace Untouched

variable {F : List Nat} {s s' s'' : WindowStack} {id : Nat}

theorem of_view (h : ∀ id, s'.view id = s.view id) : Untouched F s s' where
  kept id _ := h id
  heap id _ w' _ hw' hbuf := ⟨w', (h id).symm.trans hw', hbuf⟩

theorem refl (F : List Nat) (s : WindowStack) : Untouched F s s := of_view fun _ => rfl

theorem trans (h : Untouched F s s') (h' : Untouched F s' s'') : Untouched F s s'' where
  kept id hid := (h'.kept id hid).trans (h.kept id hid)
  heap id hid w'' address hw'' hbuf := by
    obtain ⟨w', hw', hbuf'⟩ := h'.heap id hid w'' address hw'' hbuf
    exact h.heap id hid w' address hw' hbuf'

theorem change (hid : id ∉ F) (hothers : ∀ id', id' ≠ id → s'.view id' = s.view id')
    (hself : ∀ w' address, s'.view id = some w' → w'.buf = .block address →
      ∃ w, s.view id = some w ∧ w.buf = .block address) : Untouched F s s' where
  kept id' hid' := hothers id' fun heq => hid (heq ▸ hid')
  heap id' _ w' address hw' hbuf := by
    by_cases heq : id' = id
    · subst heq
      exact hself w' address hw' hbuf
    · exact ⟨w', (hothers id' heq).symm.trans hw', hbuf⟩

theorem write (s : WindowStack) (hid : id ∉ F) {f : Window → Window}
    (hf : ∀ w, (f w).id = w.id)
    (hbuf : ∀ w address, (f w).buf = .block address → w.buf = .block address) :
    Untouched F s (s.writeById id f) := by
  refine .change hid (fun id' hne => view_writeById_ne s hf hne) fun w' address hw' hblock => ?_
  rw [view_writeById s hf] at hw'
  obtain ⟨w, hw, rfl⟩ := Option.map_eq_some_iff.mp hw'
  exact ⟨w.content, view_eq_some hw, hbuf w address hblock⟩

theorem append (hfresh : s.nextId ∉ s.ids) (hid : s.nextId ∉ F) {win : Window}
    (hwin : win.id = s.nextId) (hnull : win.buf = .null) (focusId nextId : Nat) :
    Untouched F s ⟨s.windows ++ [win], focusId, nextId⟩ := by
  rw [← hwin] at hfresh hid
  refine .change hid (fun id' hne => view_append_ne s hne _ _) fun w' address hw' hblock => ?_
  rw [view_append_self hfresh] at hw'
  have hwin' : win.content.buf = .block address := by
    rw [Option.some.inj hw', hblock]
  exact nomatch hnull.symm.trans hwin'

theorem destroy (hs : s.ids.Nodup) (hid : id ∉ F) : Untouched F s (windowDestroy s id) := by
  refine .change hid (fun id' hne => view_windowDestroy_ne s hne) fun w' address hw' _ => ?_
  rw [view_windowDestroy_self hs] at hw'
  cases hw'

end Untouched

/-! ## Ledger operations -/

/-- An operation that destroys no window and redraws none. -/
def OtherOp.Gentle : OtherOp → Prop
  | .call (.destroy _) => False
  | .call _ => True
  | .edit _ f => ∀ w, (f w).content = w.content

def LedgerOp.Gentle : LedgerOp → Prop
  | .other op => op.Gentle
  | _ => True

def Event.Gentle : Event → Prop
  | .other op => op.Gentle
  | _ => True

namespace Ledger

variable {L : Ledger} {F : List Nat}

theorem next_foreign (L : Ledger) (op : LedgerOp) : L.foreign <+: (L.next op).foreign := by
  cases op with
  | other op => exact otherNext_extends L.stack L.foreign op
  | _ => exact List.prefix_rfl

theorem stackWithNew_untouched {s : WindowStack} (hs : s.WellFormed) (hroom : s.count < winMax)
    (hwrap : s.nextId + 1 < 4294967296) (hid : s.nextId ∉ F) (m : ClCreateWindow) (sw sh : Int) :
    Untouched F s (stackWithNew s m sw sh) := by
  obtain ⟨win, hwin, hnull, heq⟩ := requestedWindow_eq hroom m
  have hfresh : s.nextId ∉ s.ids := fun hmem => Nat.lt_irrefl _ (hs.below _ hmem)
  have hkeep : ∀ w : Window, ({ w with appDecorated := true } : Window).id = w.id := fun _ => rfl
  have happend := Untouched.append hfresh hid hwin hnull s.focusId (uint32 (s.nextId + 1))
  have hdecorated := happend.trans (.write _ hid hkeep fun _ _ hbuf => hbuf)
  have hnodup := ((hs.append hroom hwrap hwin).writeById s.nextId hkeep).nodup
  rw [stackWithNew, heq]
  exact hdecorated.trans
    (.of_view (applyRolePolicy_rearranges hnodup (roleFromWire m.role) s.nextId sw sh).view_eq)

theorem Inv.untouched (hL : L.Inv) (hF : ∀ id ∈ F, id ∈ L.foreign) {op : LedgerOp}
    (hen : L.enabled op) (hgentle : op.Gentle) (hwithin : (L.next op).Within) :
    Untouched F L.stack (L.next op).stack := by
  have hours {h : Holder} {j : Fin winMax} (hocc : (L.wins h j).clientWid ≠ 0) :
      (L.wins h j).serverId ∉ F := fun hmem => hL.ours hocc (hF _ hmem)
  have hnew : L.stack.nextId ∉ F := fun hmem =>
    Nat.lt_irrefl _ (hL.counting.foreign _ (hF _ hmem))
  have hfresh : L.stack.nextId ∉ L.stack.ids := fun hmem =>
    Nat.lt_irrefl _ (hL.stack.below _ hmem)
  cases op with
  | grant h => exact .refl _ _
  | transfer src dst => exact .refl _ _
  | vacate h => exact .refl _ _
  | create h j m sw sh =>
      exact stackWithNew_untouched hL.stack hen.2.2.1 (hL.wrap_of_create hwithin) hnew m sw sh
  | retitle h j title => exact .write _ (hours hen) (fun _ => rfl) fun _ _ hbuf => hbuf
  | place h j x y w ht => exact .of_view (windowSetGeometry_rearranges _ _ _ _ _ _).view_eq
  | unmap h j => exact .write _ (hours hen.1) (fun _ => rfl) fun _ _ hbuf => nomatch hbuf
  | attach h j b base => exact .write _ (hours hen.1) (fun _ => rfl) fun _ _ hbuf => nomatch hbuf
  | close h j => exact .destroy hL.stack.nodup (hours hen.1)
  | other op =>
      cases op with
      | edit id f => exact .of_view (Rearranges.writeById _ id hen.1 hgentle).view_eq
      | call op =>
          simp only [next, otherNext]
          rcases StackHistory.next_cases (r := ⟨L.stack, L.foreign, []⟩) hL.stack op with
            ⟨hs, -⟩ | ⟨-, win, hwin, hnull, hs, -⟩ | ⟨id, rfl, -⟩
          · exact .of_view hs.view_eq
          · rw [hs]
            exact .append hfresh hnew hwin hnull _ _
          · exact hgentle.elim

end Ledger

/-! ## Events -/

theorem World.Inv.untouched {W : World} (hW : W.Inv) {e : Event} (hen : W.enabled e)
    (hgentle : e.Gentle) (hwithin : (W.next e).Within) :
    Untouched W.foreign W.t.stack (W.next e).t.stack := by
  have hreach : Ledger.system.Reaches LedgerOp.Gentle W.ledger (W.next e).ledger := by
    rcases next_ledger hW hen with ⟨h, -⟩ | ⟨h, j, m, hopen, heq, -⟩
    · refine h.mono fun op hop => ?_
      cases op with
      | other op =>
          have heq : e = .other op := hop
          rw [heq] at hgentle
          exact hgentle
      | _ => trivial
    · exact .single (e := .create h j m W.t.sw W.t.sh) trivial hopen heq.symm
  have hkept := hreach.keeps_below (B := Ledger.Within)
    (I := fun L => L.Inv ∧ (∀ id ∈ W.foreign, id ∈ L.foreign) ∧
      Untouched W.foreign W.t.stack L.stack)
    (fun _ _ h => h.mono)
    (fun L op hL hen hop hB =>
      ⟨hL.1.step hen hB, fun id hid => (L.next_foreign op).subset (hL.2.1 id hid),
        hL.2.2.trans (hL.1.untouched hL.2.1 hen hop hB)⟩)
    ⟨hW.ledger, fun _ h => h, .refl _ _⟩ hwithin
  exact hkept.2.2

end CrystallineLattice.Native
