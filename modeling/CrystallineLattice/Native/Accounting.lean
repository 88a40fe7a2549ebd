import CrystallineLattice.Native.Invariant

/-!
# Every created window is accounted for

The converse of the naming invariant: a window that was created for a client and
still lives is named by a slot of the session it was created for.  It holds as
long as no `CREATE_WINDOW` that would be carried out asks for the window id 0,
which marks a free slot.
-/

namespace CrystallineLattice.Native

open CrystallineLattice.Foundation
open CrystallineLattice.Stack

namespace Ledger

variable {L : Ledger}

/-- A created window that lives is in a slot of the holder with the creating session's token. -/
def Held (L : Ledger) : Prop :=
  ∀ p ∈ L.created, p.1 ∈ L.stack.ids → ∃ h j, L.Owns h j p.1 ∧ L.token h = p.2

/-- The operation does not enter a window under the id of a free slot. -/
def Nameable : LedgerOp → Prop
  | .create _ _ m _ _ => m.wid ≠ 0
  | _ => True

theorem Held.shrink (hL : L.Held) {L' : Ledger} (hcreated : L'.created = L.created)
    (hids : ∀ id ∈ L'.stack.ids, (∃ p ∈ L.created, p.1 = id) → id ∈ L.stack.ids)
    (howns : ∀ {h j id}, id ∈ L'.stack.ids → L.Owns h j id → L'.Owns h j id)
    (htoken : ∀ {h j id}, L.Owns h j id → L'.token h = L.token h) : L'.Held := by
  intro p hp hlive
  rw [hcreated] at hp
  obtain ⟨h, j, ho, ht⟩ := hL p hp (hids _ hlive ⟨p, hp, rfl⟩)
  exact ⟨h, j, howns hlive ho, (htoken ho).trans ht⟩

theorem owns_setWin {h : Holder} {j : Fin winMax} {w : ClWin}
    (hwid : w.clientWid = (L.wins h j).clientWid) (hid : w.serverId = (L.wins h j).serverId)
    {h' : Holder} {j' : Fin winMax} {id : Nat} (ho : L.Owns h' j' id) :
    (L.setWin h j w).Owns h' j' id := by
  unfold Owns at ho ⊢
  rw [setWin_wins]
  split
  · rename_i heq
    rw [hwid, hid, ← heq.1, ← heq.2]
    exact ho
  · exact ho

theorem Held.create (hL : L.Held) (hI : L.Inv) {h : Holder} {j : Fin winMax}
    {m : ClCreateWindow} {sw sh : Int} (hen : L.enabled (.create h j m sw sh))
    (hwithin : (L.next (.create h j m sw sh)).Within) (hwid : m.wid ≠ 0) :
    (L.next (.create h j m sw sh)).Held := by
  obtain ⟨-, hfree, hroom, -⟩ := hen
  obtain ⟨-, -, hids, -⟩ :=
    stackWithNew_spec hI.stack hroom (hI.wrap_of_create hwithin) m sw sh
  have hself : (L.next (.create h j m sw sh)).wins h j =
      { L.wins h j with clientWid := m.wid, serverId := L.stack.nextId } :=
    setWin_wins_self _ _ _ _
  intro p hp hlive
  rcases List.mem_append.mp hp with hp | hp
  · have hold : p.1 ∈ L.stack.ids := by
      rcases (hids p.1).mp hlive with hold | hnew
      · exact hold
      · exact (Nat.ne_of_lt (hI.counting.created p hp) hnew).elim
    obtain ⟨h', j', ho, ht⟩ := hL p hp hold
    have hother : ¬ (h' = h ∧ j' = j) := by
      rintro ⟨rfl, rfl⟩
      exact ho.1 hfree
    refine ⟨h', j', ?_, ht⟩
    have heq : (L.next (.create h j m sw sh)).wins h' j' = L.wins h' j' :=
      setWin_wins_ne _ _ hother
    unfold Owns
    rw [heq]
    exact ho
  · rw [List.mem_singleton.mp hp]
    refine ⟨h, j, ?_, rfl⟩
    unfold Owns
    rw [hself]
    exact ⟨hwid, rfl⟩

theorem Held.close (hL : L.Held) (hI : L.Inv) (h : Holder) (j : Fin winMax) :
    (L.next (.close h j)).Held := by
  have hids {id : Nat} (hid : id ∈ (windowDestroy L.stack (L.wins h j).serverId).ids) :=
    (mem_windowDestroy_ids hI.stack.nodup).mp hid
  refine hL.shrink rfl (fun id hid _ => (hids hid).2) (fun {h' j' id} hid ho => ?_) fun _ => rfl
  have hother : ¬ (h' = h ∧ j' = j) := by
    rintro ⟨rfl, rfl⟩
    exact (hids hid).1 ho.2.symm
  have heq : (L.next (.close h j)).wins h' j' = L.wins h' j' := setWin_wins_ne _ _ hother
  unfold Owns
  rw [heq]
  exact ho

theorem Held.vacate (hL : L.Held) {h : Holder} (hen : L.enabled (.vacate h)) :
    (L.next (.vacate h)).Held := by
  have hne {h' : Holder} {j : Fin winMax} {id : Nat} (ho : L.Owns h' j id) : h' ≠ h := by
    rintro rfl
    exact ho.1 (hen j)
  refine hL.shrink rfl (fun _ hid _ => hid) (fun {h' j id} _ ho => ?_) fun {h' j id} ho => ?_
  · unfold Owns
    simp only [next, setTable_wins, if_neg (hne ho)]
    exact ho
  · simp only [next, setTable_token, if_neg (hne ho)]

theorem Held.relabel (hL : L.Held) (σ : Equiv.Perm Holder) :
    Held { L with wins := fun h => L.wins (σ h), token := fun h => L.token (σ h) } := by
  intro p hp hlive
  obtain ⟨h, j, ho, ht⟩ := hL p hp hlive
  refine ⟨σ.symm h, j, ?_, ?_⟩
  · simpa [Owns] using ho
  · simpa using ht

theorem Held.other (hL : L.Held) (hI : L.Inv) (op : OtherOp)
    (hen : L.enabled (.other op)) : (L.next (.other op)).Held := by
  refine hL.shrink rfl (fun id hid ⟨p, hp, heq⟩ => ?_) (fun _ ho => ho) fun _ => rfl
  cases op with
  | edit id' f =>
      have hkeep : (L.stack.writeById id' f).ids = L.stack.ids := writeById_ids _ hen.1
      exact hkeep ▸ hid
  | call op =>
      simp only [next, otherNext] at hid
      rcases StackHistory.next_cases (r := ⟨L.stack, L.foreign, []⟩) hI.stack op with
        ⟨hs, -⟩ | ⟨-, win, hwin, -, hs, -⟩ | ⟨id', rfl, hs, -⟩
      · exact hs.mem_ids.mp hid
      · rw [hs] at hid
        have hcases : id ∈ L.stack.ids ∨ id = L.stack.nextId := by
          simpa [WindowStack.ids, hwin] using hid
        rcases hcases with hold | hnew
        · exact hold
        · have hlt := hI.counting.created p hp
          omega
      · rw [hs] at hid
        exact ((mem_windowDestroy_ids hI.stack.nodup).mp hid).2

theorem Held.step (hL : L.Held) (hI : L.Inv) {op : LedgerOp} (hen : L.enabled op)
    (hwithin : (L.next op).Within) (hnamed : Nameable op) : (L.next op).Held := by
  cases op with
  | grant h =>
      refine hL.shrink rfl (fun _ hid _ => hid) (fun _ ho => ho) fun {h' j id} ho => ?_
      have hne : h' ≠ h := by
        rintro rfl
        exact ho.1 (hen j)
      exact Function.update_of_ne hne _ _
  | transfer src dst =>
      rw [transfer_eq hen]
      have hvacant : L.enabled (.vacate dst) := hI.naming.vacant hen.2
      exact (hL.vacate hvacant).relabel _
  | create h j m sw sh => exact hL.create hI hen hwithin hnamed
  | retitle h j title =>
      refine hL.shrink rfl (fun id hid _ => ?_) (fun _ ho => ho) fun _ => rfl
      have hkeep : (L.next (.retitle h j title)).stack.ids = L.stack.ids :=
        writeById_ids _ fun _ => rfl
      exact hkeep ▸ hid
  | place h j x y w ht =>
      refine hL.shrink rfl (fun id hid _ => ?_) (fun _ ho => ho) fun _ => rfl
      exact (windowSetGeometry_rearranges _ _ _ _ _ _).mem_ids.mp hid
  | unmap h j =>
      have hslot {h' : Holder} {j' : Fin winMax} {id : Nat} (ho : L.Owns h' j' id) :
          (L.next (.unmap h j)).Owns h' j' id :=
        owns_setWin (w := { L.wins h j with buf := .null, bufLen := 0 }) rfl rfl ho
      refine hL.shrink rfl (fun id hid _ => ?_) (fun _ ho => hslot ho) fun _ => rfl
      have hkeep : (L.next (.unmap h j)).stack.ids = L.stack.ids := writeById_ids _ fun _ => rfl
      exact hkeep ▸ hid
  | attach h j b base =>
      have hslot {h' : Holder} {j' : Fin winMax} {id : Nat} (ho : L.Owns h' j' id) :
          (L.next (.attach h j b base)).Owns h' j' id :=
        owns_setWin (w := { L.wins h j with buf := .mapping base, bufLen := b.stride * b.height })
          rfl rfl ho
      refine hL.shrink rfl (fun id hid _ => ?_) (fun _ ho => hslot ho) fun _ => rfl
      have hkeep : (L.next (.attach h j b base)).stack.ids = L.stack.ids :=
        writeById_ids _ fun _ => rfl
      exact hkeep ▸ hid
  | close h j => exact hL.close hI h j
  | vacate h => exact hL.vacate hen
  | other op => exact hL.other hI op hen

/-- A window entered under the id of a free slot is not accounted for. -/
theorem not_held_of_unnamed (hI : L.Inv) {h : Holder} {j : Fin winMax} {m : ClCreateWindow}
    {sw sh : Int} (hen : L.enabled (.create h j m sw sh))
    (hwithin : (L.next (.create h j m sw sh)).Within) (hwid : m.wid = 0) :
    ¬ (L.next (.create h j m sw sh)).Held := by
  obtain ⟨-, -, hroom, -⟩ := hen
  obtain ⟨-, -, hids, -⟩ :=
    stackWithNew_spec hI.stack hroom (hI.wrap_of_create hwithin) m sw sh
  intro hheld
  obtain ⟨h', j', ho, -⟩ := hheld (L.stack.nextId, L.token h)
    (List.mem_append_right _ (List.mem_singleton_self _)) ((hids _).mpr (.inr rfl))
  have hself : (L.next (.create h j m sw sh)).wins h j =
      { L.wins h j with clientWid := m.wid, serverId := L.stack.nextId } :=
    setWin_wins_self _ _ _ _
  unfold Owns at ho
  by_cases heq : h' = h ∧ j' = j
  · rw [heq.1, heq.2, hself] at ho
    exact ho.1 hwid
  · have hother : (L.next (.create h j m sw sh)).wins h' j' = L.wins h' j' :=
      setWin_wins_ne _ _ heq
    rw [hother] at ho
    exact hI.named_ne_nextId ho.1 ho.2

theorem Held.reaches {L L' : Ledger} {P : LedgerOp → Prop} (hL : L.Held) (hI : L.Inv)
    (h : system.Reaches P L L') (hP : ∀ op, P op → Nameable op) (hwithin : L'.Within) :
    L'.Held :=
  (h.keeps_below (I := fun M => M.Held ∧ M.Inv) (B := Within) (fun _ _ h => h.mono)
    (fun _ op hM hen hop hB => ⟨hM.1.step hM.2 hen hB (hP op hop), hM.2.step hen hB⟩)
    ⟨hL, hI⟩ hwithin).1

end Ledger

/-! ## Runs -/

/-- Every window that was created for a client and still lives is named by exactly one slot. -/
def Transport.Accounted (t : Transport) : Prop :=
  ∀ p ∈ t.history.created, p.1 ∈ t.stack.ids →
    (∃ h j, t.Occupied h j ∧ (t.wins h j).serverId = p.1 ∧ t.token h = p.2) ∧
    ∀ h j h' j', t.Occupied h j → t.Occupied h' j' → (t.wins h j).serverId = p.1 →
      (t.wins h' j').serverId = p.1 → h = h' ∧ j = j'

/-- Windows are accounted for, and none is left of a session that is gone. -/
structure Transport.NoLeak (t : Transport) : Prop where
  accounted : t.Accounted
  gone : ∀ token, (∀ h, t.Live h → t.token h ≠ token) →
    ∀ p ∈ t.history.created, p.2 = token → p.1 ∉ t.stack.ids

theorem Transport.Accounted.noLeak {t : Transport} (ht : t.Accounted) : t.NoLeak where
  accounted := ht
  gone token hgone p hp htoken hlive := by
    obtain ⟨⟨h, j, hocc, -, heq⟩, -⟩ := ht p hp hlive
    exact hgone h hocc.1 (heq.trans htoken)

namespace World

variable {W : World}

/-- A `CREATE_WINDOW` that is carried out asks for a window id other than 0. -/
def NamesWindow (W : World) (e : Event) : Prop := ¬ Creating (fun m => m.wid = 0) W e

theorem Inv.noLeak_iff (hW : W.Inv) : W.t.NoLeak ↔ W.ledger.Held := by
  constructor
  · intro h p hp hlive
    obtain ⟨⟨h', j, hocc, hid, htoken⟩, -⟩ := h.accounted p hp hlive
    exact ⟨h', j, ⟨hocc.2, hid⟩, htoken⟩
  · intro h
    refine Transport.Accounted.noLeak fun p hp hlive => ?_
    obtain ⟨h', j, ho, htoken⟩ := h p hp hlive
    refine ⟨⟨h', j, ⟨hW.live ho.1, ho.1⟩, ho.2, htoken⟩, ?_⟩
    intro h₁ j₁ h₂ j₂ hocc₁ hocc₂ hid₁ hid₂
    exact hW.ledger.naming.owner hocc₁.2 hocc₂.2 (hid₁.trans hid₂.symm)

theorem Inv.held_step (hW : W.Inv) (hheld : W.ledger.Held) {e : Event} (hen : W.enabled e)
    (hwithin : (W.next e).Within) (hnames : NamesWindow W e) : (W.next e).ledger.Held := by
  rcases next_ledger hW hen with ⟨h, -⟩ | ⟨h, j, m, hopen, heq, hm⟩
  · refine hheld.reaches hW.ledger h (fun op hop => ?_) hwithin
    cases op with
    | create h j m sw sh => exact (show False from hop).elim
    | _ => trivial
  · rw [heq]
    have hwid : m.wid ≠ 0 := fun hzero => hnames ((hm _).mpr hzero)
    exact hheld.step hW.ledger hopen (heq ▸ hwithin) hwid

theorem Inv.unnamed_breaks (hW : W.Inv) {e : Event} (hen : W.enabled e)
    (hwithin : (W.next e).Within) (hnames : ¬ NamesWindow W e) : ¬ (W.next e).ledger.Held := by
  have hcreates := not_not.mp hnames
  rcases next_ledger hW hen with ⟨-, hno⟩ | ⟨h, j, m, hopen, heq, hm⟩
  · refine (hno ?_).elim
    cases e with
    | datagram i d k now =>
        obtain ⟨j, hc, -⟩ := hcreates
        exact ⟨j, hc, trivial⟩
    | _ => exact hcreates
  · rw [heq]
    exact Ledger.not_held_of_unnamed hW.ledger hopen (heq ▸ hwithin) ((hm _).mp hcreates)

end World

/--
In a run in which fewer than `2^32 - 1` windows are created, no window leaks in
any state if and only if no `CREATE_WINDOW` that is carried out asks for the
window id 0.
-/
theorem no_leak_iff_windows_named (sw sh : Int) (es : List Event)
    (hrun : World.system.Legal (.start sw sh) es)
    (hwithin : (World.system.exec (.start sw sh) es).Within) :
    World.system.Along (fun W => W.t.NoLeak) (.start sw sh) es ↔
      World.system.Each World.NamesWindow (.start sw sh) es := by
  have hbelow := System.each_below (B := World.Within) (fun _ _ _ h => h.mono) hrun hwithin
  refine System.along_iff_each (I := fun W => W.Inv ∧ W.ledger.Held)
    (fun W hW => hW.1.noLeak_iff.mpr hW.2)
    (fun W e hW he hnames => ⟨hW.1.step he.1 he.2, hW.1.held_step hW.2 he.1 he.2 hnames⟩)
    (fun W e hW he hnames h => ?_) hbelow ⟨World.start_inv sw sh, ?_⟩
  · exact hW.1.unnamed_breaks he.1 he.2 hnames ((hW.1.step he.1 he.2).noLeak_iff.mp h)
  · intro p hp
    cases hp

theorem no_leak_iff_windows_named_panelRun :
    World.system.Along (fun W => W.t.NoLeak) (.start 1920 1080) panelRun ↔
      World.system.Each World.NamesWindow (.start 1920 1080) panelRun :=
  no_leak_iff_windows_named 1920 1080 panelRun panelRun_legal (by decide)

/-- A client shakes hands and creates a window under the id 0. -/
def unnamedRun : List Event :=
  [.addClient 7 true,
    .datagram 0 (.ofWords [clHelloType, clMagic, 2, 1, 0] []) ⟨none, fun _ => 0⟩ 10,
    .datagram 0 (.ofWords [clCreateWindowType, 0, 0, 5, 5, 300, 200] []) ⟨none, fun _ => 0⟩ 20]

/-- The window of `unnamedRun` is in no slot. -/
theorem unnamed_window_leaks :
    World.system.Legal (.start 1920 1080) unnamedRun ∧
      (World.system.exec (.start 1920 1080) unnamedRun).Within ∧
      ¬ (World.system.exec (.start 1920 1080) unnamedRun).t.NoLeak := by
  have hfd : (0 : Int) ≤ 7 := by decide
  have hrun : World.system.Legal (.start 1920 1080) unnamedRun :=
    ⟨hfd, ⟨by decide, by decide⟩, ⟨by decide, by decide⟩, trivial⟩
  have hwithin : (World.system.exec (.start 1920 1080) unnamedRun).Within := by decide
  refine ⟨hrun, hwithin, fun hleak => ?_⟩
  have hstart : World.system.Legal (.start 1920 1080) (unnamedRun.take 2) :=
    ⟨hrun.1, hrun.2.1, trivial⟩
  have hinv := (World.start_inv 1920 1080).run hstart (by decide)
  have hfinal := (World.start_inv 1920 1080).run hrun hwithin
  refine World.Inv.unnamed_breaks (e := .datagram 0
    (.ofWords [clCreateWindowType, 0, 0, 5, 5, 300, 200] []) ⟨none, fun _ => 0⟩ 20)
    hinv hrun.2.2.1 hwithin (fun hnames => hnames ?_) (hfinal.noLeak_iff.mp hleak)
  exact ⟨⟨0, by decide⟩, ⟨by decide, by decide, by decide, ⟨by decide, by decide, by decide⟩⟩,
    by decide⟩

end CrystallineLattice.Native
