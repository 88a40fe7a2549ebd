import CrystallineLattice.Compositor.Safety
import CrystallineLattice.Native.Accounting
import CrystallineLattice.Native.DrawSafety
import CrystallineLattice.Native.Geometry
import CrystallineLattice.Native.Wallpaper
import CrystallineLattice.Stack.Panes

/-!
# The mappings behind the native windows

Each pane is on a window that a slot names, so its mapping is alive.  Only a
`CL_COMMIT` gives a window a new pane.  If its descriptor fits, the pixels of the
window lie in the mapping, and they do for as long as the window shows it.
-/

namespace CrystallineLattice.Native

open CrystallineLattice.Foundation
open CrystallineLattice.Stack
open CrystallineLattice.Compositor

/-! ## Windows that show a mapping are in a slot -/

namespace Ledger

variable {L L' : Ledger}

def Owned (L : Ledger) : Prop := ∀ p ∈ L.stack.panes, L.Entered p.id

theorem Owned.shrink (hL : L.Owned) (hpanes : L'.stack.panes ⊆ L.stack.panes)
    (howns : ∀ {id}, id ∈ L'.stack.ids → L.Entered id → L'.Entered id) : L'.Owned := fun p hp =>
  howns (id_mem_of_pane hp) (hL p (hpanes hp))

theorem Entered.setWin {h : Holder} {j : Fin winMax} {w : ClWin}
    (hwid : w.clientWid = (L.wins h j).clientWid) (hid : w.serverId = (L.wins h j).serverId)
    {id : Nat} (he : L.Entered id) : (L.setWin h j w).Entered id := by
  obtain ⟨h', j', ho⟩ := he
  exact ⟨h', j', owns_setWin hwid hid ho⟩

theorem panes_stackWithNew {s : WindowStack} (hs : s.WellFormed) (hroom : s.count < winMax)
    (hwrap : s.nextId + 1 < 4294967296) (m : ClCreateWindow) (sw sh : Int) :
    (stackWithNew s m sw sh).panes ⊆ s.panes := by
  obtain ⟨win, hid, hbuf, heq⟩ := requestedWindow_eq hroom m
  have hkeep : ∀ w : Window, ({ w with appDecorated := true } : Window).id = w.id := fun _ => rfl
  have hdecorated := (hs.append hroom hwrap hid).writeById s.nextId hkeep
  have hpolicy := applyRolePolicy_rearranges hdecorated.nodup (roleFromWire m.role) s.nextId sw sh
  rw [stackWithNew, heq]
  refine List.Subset.trans (hpolicy.panes hdecorated.nodup)
    (List.Subset.trans (panes_redraw _ s.nextId fun _ _ h => h) ?_)
  rw [panes_append s hbuf]
  exact List.Subset.refl _

theorem Owned.create (hL : L.Owned) (hI : L.Inv) {h : Holder} {j : Fin winMax}
    {m : ClCreateWindow} {sw sh : Int} (hen : L.enabled (.create h j m sw sh))
    (hwithin : (L.next (.create h j m sw sh)).Within) :
    (L.next (.create h j m sw sh)).Owned := by
  obtain ⟨-, hfree, hroom, -⟩ := hen
  refine hL.shrink (panes_stackWithNew hI.stack hroom (hI.wrap_of_create hwithin) m sw sh)
    fun {id} _ ⟨h', j', ho⟩ => ⟨h', j', ?_⟩
  have hother : ¬ (h' = h ∧ j' = j) := by
    rintro ⟨rfl, rfl⟩
    exact ho.1 hfree
  have heq : (L.next (.create h j m sw sh)).wins h' j' = L.wins h' j' := setWin_wins_ne _ _ hother
  unfold Owns
  rw [heq]
  exact ho

theorem Owned.close (hL : L.Owned) (hI : L.Inv) (h : Holder) (j : Fin winMax) :
    (L.next (.close h j)).Owned := by
  refine hL.shrink (panes_destroy _ _) fun {id} hid ⟨h', j', ho⟩ => ⟨h', j', ?_⟩
  have hlive := (mem_windowDestroy_ids hI.stack.nodup).mp hid
  have hother : ¬ (h' = h ∧ j' = j) := by
    rintro ⟨rfl, rfl⟩
    exact hlive.1 ho.2.symm
  have heq : (L.next (.close h j)).wins h' j' = L.wins h' j' := setWin_wins_ne _ _ hother
  unfold Owns
  rw [heq]
  exact ho

theorem Owned.vacate (hL : L.Owned) {h : Holder} (hen : L.enabled (.vacate h)) :
    (L.next (.vacate h)).Owned := by
  refine hL.shrink (List.Subset.refl _) fun {id} _ ⟨h', j', ho⟩ => ⟨h', j', ?_⟩
  have hne : h' ≠ h := by
    rintro rfl
    exact ho.1 (hen j')
  unfold Owns
  simp only [next, setTable_wins, if_neg hne]
  exact ho

theorem Owned.relabel (hL : L.Owned) (σ : Equiv.Perm Holder) :
    Owned { L with wins := fun h => L.wins (σ h), token := fun h => L.token (σ h) } := by
  intro p hp
  obtain ⟨h, j, ho⟩ := hL p hp
  exact ⟨σ.symm h, j, by simpa [Owns] using ho⟩

theorem Owned.attach (hL : L.Owned) {h : Holder} {j : Fin winMax} {b : ClBuffer} {base : Nat}
    (hen : L.enabled (.attach h j b base)) : (L.next (.attach h j b base)).Owned := by
  intro p hp
  have hslot {id : Nat} (he : L.Entered id) : (L.next (.attach h j b base)).Entered id :=
    he.setWin (w := { L.wins h j with buf := .mapping base, bufLen := b.stride * b.height })
      rfl rfl
  rcases mem_panes_write (s := L.stack) hp with hold | ⟨w, hw, hpane⟩
  · exact hslot (hL p hold)
  · refine hslot ⟨h, j, hen.1, ?_⟩
    rw [(Window.pane_eq_some hpane).2]
    exact (id_of_windowById hw).symm

theorem Owned.step (hL : L.Owned) (hI : L.Inv) {op : LedgerOp} (hen : L.enabled op)
    (hwithin : (L.next op).Within) (hours : ∀ op', op ≠ .other op') : (L.next op).Owned := by
  cases op with
  | grant h => exact hL
  | transfer src dst =>
      rw [transfer_eq hen]
      have hvacant : L.enabled (.vacate dst) := hI.naming.vacant hen.2
      exact (hL.vacate hvacant).relabel _
  | create h j m sw sh => exact hL.create hI hen hwithin
  | retitle h j title => exact hL.shrink (panes_redraw _ _ fun _ _ h => h) fun _ he => he
  | place h j x y w ht => exact hL.shrink (panes_redraw _ _ fun _ _ h => h) fun _ he => he
  | unmap h j =>
      refine hL.shrink (panes_clear _ _) fun _ he => ?_
      exact he.setWin (w := { L.wins h j with buf := .null, bufLen := 0 }) rfl rfl
  | attach h j b base => exact hL.attach hen
  | close h j => exact hL.close hI h j
  | vacate h => exact hL.vacate hen
  | other op => exact (hours op rfl).elim

theorem Owned.reaches {P : LedgerOp → Prop} (hL : L.Owned) (hI : L.Inv)
    (h : system.Reaches P L L') (hP : ∀ op, P op → ∀ op', op ≠ .other op')
    (hwithin : L'.Within) : L'.Owned :=
  (h.keeps_below (I := fun M => M.Owned ∧ M.Inv) (B := Within) (fun _ _ h => h.mono)
    (fun _ op hM hen hop hB => ⟨hM.1.step hM.2 hen hB (hP op hop), hM.2.step hen hB⟩)
    ⟨hL, hI⟩ hwithin).1

theorem Owned.mapped (hL : L.Owned) (hI : L.Inv) {p : Pane} (hp : p ∈ L.stack.panes) :
    ∃ len, (p.base, len) ∈ L.maps := by
  obtain ⟨h, j, hocc, hid⟩ := hL p hp
  obtain ⟨w, hw, hbuf, -⟩ := hI.linked hocc
  obtain ⟨w', hw', hpane⟩ := windowById_of_pane hI.stack.nodup hp
  rw [hid, hw'] at hw
  cases hw
  exact ⟨_, hI.mapping.mapped.mpr ⟨h, j, hbuf.symm.trans (Window.pane_eq_some hpane).1, rfl⟩⟩

end Ledger

/-! ## What the handlers do to the panes -/

structure Sheds (t u : Transport) : Prop where
  panes : u.stack.panes ⊆ t.stack.panes
  maps : u.os.maps ⊆ t.os.maps

namespace Sheds

variable {t u v : Transport}

theorem trans (h : Sheds t u) (h' : Sheds u v) : Sheds t v :=
  ⟨List.Subset.trans h'.panes h.panes, List.Subset.trans h'.maps h.maps⟩

theorem of_ledger (h : u.ledger [] = t.ledger []) : Sheds t u := by
  have hstack : u.stack = t.stack := congrArg Ledger.stack h
  have hmaps : u.os.maps = t.os.maps := congrArg Ledger.maps h
  constructor
  · rw [hstack]
    exact List.Subset.refl _
  · rw [hmaps]
    exact List.Subset.refl _

theorem refl (t : Transport) : Sheds t t := of_ledger rfl

theorem same (hstack : u.stack = t.stack) (hmaps : u.os.maps = t.os.maps) : Sheds t u :=
  ⟨by rw [hstack]; exact List.Subset.refl _, by rw [hmaps]; exact List.Subset.refl _⟩

theorem closeFds (t : Transport) (fds : List Int) : Sheds t (closeFds t fds) :=
  of_ledger (ledger_closeFds t fds)

theorem redraw (t : Transport) (id : Nat) {f : Window → Window}
    (hf : ∀ w p, (f w).pane = some p → w.pane = some p) :
    Sheds t { t with stack := t.stack.writeById id f } :=
  ⟨panes_redraw t.stack id hf, List.Subset.refl _⟩

theorem setWin (t : Transport) (h : Holder) (j : Fin winMax) (w : ClWin) :
    Sheds t (t.setWin h j w) := by
  cases h <;> exact same rfl rfl

theorem destroy (t : Transport) (id : Nat) :
    Sheds t { t with stack := windowDestroy t.stack id } :=
  ⟨panes_destroy t.stack id, List.Subset.refl _⟩

theorem winDropBuffer (t : Transport) (h : Holder) (j : Fin winMax) :
    Sheds t (winDropBuffer t h j) := by
  refine ⟨?_, (winDropBuffer_maps t h j).subset⟩
  unfold Native.winDropBuffer
  dsimp only
  split
  · exact List.Subset.refl _
  · rw [stack_setWin]
    exact panes_clear t.stack _

theorem closeSlot (t : Transport) (h : Holder) (j : Fin winMax) : Sheds t (closeSlot t h j) :=
  ((winDropBuffer t h j).trans (destroy _ _)).trans (setWin _ h j .zero)

theorem destroyTable (t : Transport) (h : Holder) : Sheds t (destroyTable t h) :=
  destroyTable_rule (P := Sheds t) (fun u j hu => hu.trans (winDropBuffer u h j))
    (fun u id hu => hu.trans (destroy u id)) (refl t)

theorem onSetTitle (t : Transport) (i : Fin clMaxClients) (m : ClSetTitle) :
    Sheds t (onSetTitle t i m) := by
  rcases onSetTitle_cases t i m with heq | ⟨j, title, -, heq⟩
  · rw [heq]
    exact refl t
  · rw [heq]
    exact redraw t _ fun _ _ h => h

theorem onSetGeometry (t : Transport) (i : Fin clMaxClients) (m : ClSetGeometry) :
    Sheds t (onSetGeometry t i m) := by
  rcases onSetGeometry_cases t i m with heq | ⟨j, -, heq⟩
  · rw [heq]
    exact refl t
  · rw [heq]
    exact redraw t _ fun _ _ h => h

theorem onDestroyWindow (t : Transport) (i : Fin clMaxClients) (m : ClDestroyWindow) :
    Sheds t (onDestroyWindow t i m) := by
  rcases onDestroyWindow_cases t i m with heq | ⟨j, -, heq⟩
  · rw [heq]
    exact refl t
  · rw [heq]
    exact closeSlot t (.client i) j

theorem acceptHello (t : Transport) (i : Fin clMaxClients) (d : Datagram) :
    Sheds t (acceptHello t i d) := by
  obtain ⟨u, hu, heq⟩ := acceptHello_cases t i d
  have hsame : Sheds t u := by cases hu <;> exact same rfl rfl
  have hwelcome : Sheds u (sendWelcome u (u.clients i).fd (u.clients i).token) := same rfl rfl
  rw [heq]
  exact (hsame.trans hwelcome).trans (closeFds _ d.fds)

theorem clientDrop (t : Transport) (i : Fin clMaxClients) (now : Int) :
    Sheds t (clientDrop t i now) := by
  unfold Native.clientDrop
  cases parkingSlot t i with
  | none =>
      have hdestroy := destroyTable t (.client i)
      dsimp only
      generalize Native.destroyTable t (.client i) = u at hdestroy ⊢
      exact hdestroy.trans (same rfl rfl)
  | some k => exact same rfl rfl

theorem orphanDestroy (t : Transport) (k : Fin clMaxClients) : Sheds t (orphanDestroy t k) := by
  have hdestroy := destroyTable t (.orphan k)
  unfold Native.orphanDestroy
  generalize Native.destroyTable t (.orphan k) = u at hdestroy ⊢
  exact hdestroy.trans (same rfl rfl)

theorem orphansExpire (t : Transport) (now : Int) : Sheds t (orphansExpire t now).1 :=
  orphansExpire_rule (P := Sheds t) (fun u k hu _ _ => hu.trans (orphanDestroy u k)) (refl t)

theorem transportAddClient (t : Transport) (fd : Int) (epollOk : Bool) :
    Sheds t (transportAddClient t fd epollOk) := by
  unfold Native.transportAddClient
  cases clientByFd t (-1) with
  | none => exact same rfl rfl
  | some i => cases epollOk <;> exact same rfl rfl

end Sheds

/-! ## Commits -/

structure Commits (t : Transport) (i : Fin clMaxClients) (d : Datagram) (j : Fin winMax) :
    Prop where
  ready : (t.clients i).hello = true
  type : d.buf.u32 0 = clCommitType
  full : ClCommit.size ≤ d.n
  accepted : CommitAccepted t i (.read d.buf) j

def ClBuffer.pane (b : ClBuffer) (id base : Nat) : Pane where
  id := id
  base := base
  bufW := int32 b.width
  bufH := int32 b.height
  bufStride := int32 b.stride

/-- The buffer was mapped at `base`, and at most this pane and this mapping are new. -/
structure Attaches (t u : Transport) (b : ClBuffer) (id base : Nat) : Prop where
  panes : u.stack.panes ⊆ b.pane id base :: t.stack.panes
  maps : u.os.maps ⊆ (base, b.stride * b.height) :: t.os.maps

theorem attaches_attachBuffer (t : Transport) (h : Holder) (j : Fin winMax) (b : ClBuffer)
    (base : Nat) (closed : List Int) :
    Attaches t
      (attachBuffer
        { t with os := { t.os.map base (b.stride * b.height) with closed := closed } } h j b base)
      b (t.wins h j).serverId base := by
  have hdrop := Sheds.winDropBuffer
    { t with os := { t.os.map base (b.stride * b.height) with closed := closed } } h j
  obtain ⟨-, hid, -⟩ := winDropBuffer_slot
    { t with os := { t.os.map base (b.stride * b.height) with closed := closed } } h j
  unfold attachBuffer
  dsimp only
  rw [hid]
  generalize winDropBuffer
    { t with os := { t.os.map base (b.stride * b.height) with closed := closed } } h j = u
    at hdrop ⊢
  refine ⟨fun p hp => ?_, ?_⟩
  · rcases mem_panes_write hp with hold | ⟨w, hw, hpane⟩
    · rw [stack_setWin] at hold
      exact List.mem_cons_of_mem _ (hdrop.panes hold)
    · have hwid := id_of_windowById hw
      cases hpane
      rw [hwid]
      exact List.mem_cons_self
  · rw [os_setWin]
    exact hdrop.maps

/-- Apart from a commit that is mapped, a datagram that creates no window brings nothing new. -/
theorem dispatch_panes (t : Transport) (i : Fin clMaxClients) (d : Datagram) (k : Kernel)
    (dirty : Bool) (hno : ∀ j, ¬ Creates t i d j) :
    Sheds t (dispatch t i d k dirty).t ∨ ∃ j base, Commits t i d j ∧ k.mmap = some base ∧
      Attaches t (dispatch t i d k dirty).t (ClCommit.read d.buf).buffer
        ((t.clients i).wins j).serverId base := by
  have hpath := dispatch_path t i d k dirty
  generalize Native.dispatch t i d k dirty = r at hpath ⊢
  cases hpath with
  | reject why => exact .inl (.closeFds t _)
  | hello fresh type full accepted => exact .inl (.acceptHello t i d)
  | createWindow ready type full =>
      rcases onCreateWindow_cases t i (.read d.buf) with ⟨heq, -⟩ | ⟨j, haccepted, -⟩
      · rw [heq]
        exact .inl (.closeFds t _)
      · exact (hno j ⟨ready, type, full, haccepted⟩).elim
  | setTitle ready type full => exact .inl ((Sheds.onSetTitle t i _).trans (.closeFds _ _))
  | commit ready type full =>
      dsimp only
      rcases onCommit_cases t i (.read d.buf) d.fds k with
        ⟨closed, heq⟩ | ⟨closed, j, base, haccepted, hmmap, heq⟩
      · rw [heq]
        exact .inl (.same rfl rfl)
      · rw [heq]
        exact .inr ⟨j, base, ⟨ready, type, full, haccepted⟩, hmmap,
          attaches_attachBuffer t (.client i) j _ base closed⟩
  | destroyWindow ready type full =>
      exact .inl ((Sheds.onDestroyWindow t i _).trans (.closeFds _ _))
  | setGeometry ready type full =>
      exact .inl ((Sheds.onSetGeometry t i _).trans (.closeFds _ _))
  | setCursor ready type full => exact .inl (.of_ledger (ledger_onSetCursor t _ _ _))
  | ignore ready type => exact .inl (.closeFds t _)

theorem clientDatagram_panes (t : Transport) (i : Fin clMaxClients) (d : Datagram) (k : Kernel)
    (now : Int) (dirty : Bool) (hno : ∀ j, ¬ Creates t i d j) :
    Sheds t (clientDatagram t i d k now dirty).t ∨
      ∃ j base, Commits t i d j ∧ k.mmap = some base ∧
        Attaches t (clientDatagram t i d k now dirty).t (ClCommit.read d.buf).buffer
          ((t.clients i).wins j).serverId base := by
  rcases clientDatagram_cases t i d k now dirty with heq | ⟨-, heq⟩
  · rw [heq]
    exact dispatch_panes t i d k dirty hno
  · rw [heq]
    exact .inl ((Sheds.closeFds t d.fds).trans (.clientDrop _ i now))

/-! ## Runs -/

namespace World

/-- The mapping of each pane is alive, and the pixels of the pane lie in it. -/
structure Backed (W : World) : Prop where
  owned : W.ledger.Owned
  inside : ∀ p ∈ W.t.stack.panes, ∃ len, (p.base, len) ∈ W.t.os.maps ∧
    PixelsInside p.bufW p.bufH p.bufStride len

/-- If the event is a commit that is carried out, its descriptor fits. -/
def FittingCommit (W : World) : Event → Prop
  | .datagram i d _ _ => ∀ j, Commits W.t i d j → (ClCommit.read d.buf).buffer.Fits
  | _ => True

variable {W : World} {e : Event}

theorem Inv.panes_next (hW : W.Inv) (hen : W.enabled e) (hours : ∀ op, e ≠ .other op)
    (hwithin : (W.next e).Within) :
    Sheds W.t (W.next e).t ∨ ∃ i d k now j base, e = .datagram i d k now ∧ Commits W.t i d j ∧
      k.mmap = some base ∧ Attaches W.t (W.next e).t (ClCommit.read d.buf).buffer
        ((W.t.clients i).wins j).serverId base := by
  cases e with
  | addClient fd epollOk => exact .inl (.transportAddClient W.t fd epollOk)
  | datagram i d k now =>
      rcases datagram_ledger hW hen with ⟨-, hno⟩ | ⟨j, -, hopen, heq⟩
      · rcases clientDatagram_panes W.t i d k now false hno with h | ⟨j, base, h⟩
        · exact .inl h
        · exact .inr ⟨i, d, k, now, j, base, rfl, h⟩
      · rw [Within, heq] at hwithin
        have hstack : (W.next (.datagram i d k now)).t.stack =
            Ledger.stackWithNew W.t.stack (.read d.buf) W.t.sw W.t.sh := congrArg Ledger.stack heq
        have hmaps : (W.next (.datagram i d k now)).t.os.maps = W.t.os.maps :=
          congrArg Ledger.maps heq
        refine .inl ⟨?_, ?_⟩
        · rw [hstack]
          exact Ledger.panes_stackWithNew hW.ledger.stack hopen.2.2.1
            (hW.ledger.wrap_of_create hwithin) _ _ _
        · rw [hmaps]
          exact List.Subset.refl _
  | hangup i now =>
      simp only [World.next]
      exact .inl (.clientDrop W.t i now)
  | expire now =>
      simp only [World.next]
      exact .inl (.orphansExpire W.t now)
  | updateFocus focusId => exact .inl (.of_ledger (ledger_notifyFocus W.t focusId))
  | other op => exact (hours op rfl).elim

theorem Inv.owned_next (hW : W.Inv) (howned : W.ledger.Owned) (hen : W.enabled e)
    (hours : ∀ op, e ≠ .other op) (hwithin : (W.next e).Within) : (W.next e).ledger.Owned := by
  rcases next_ledger hW hen with ⟨h, -⟩ | ⟨h, j, m, hopen, heq, -⟩
  · refine howned.reaches hW.ledger h (fun op hop op' heq => hours op' ?_) hwithin
    rw [heq] at hop
    exact hop
  · rw [heq]
    exact howned.step hW.ledger hopen (heq ▸ hwithin) (by simp)

theorem Inv.backed_next (hW : W.Inv) (hB : W.Backed) (hen : W.enabled e)
    (hours : ∀ op, e ≠ .other op) (hwithin : (W.next e).Within) (hfits : W.FittingCommit e) :
    (W.next e).Backed := by
  have howned := hW.owned_next hB.owned hen hours hwithin
  have honce := hW.ledger.mapping.once
  refine ⟨howned, fun p hp => ?_⟩
  obtain ⟨len, hlen⟩ := howned.mapped (hW.step hen hwithin).ledger hp
  have hlive : (p.base, len) ∈ (W.next e).t.os.maps := hlen
  have hold (hp : p ∈ W.t.stack.panes) (hmem : (p.base, len) ∈ W.t.os.maps) :
      PixelsInside p.bufW p.bufH p.bufStride len := by
    obtain ⟨len', hlen', hin⟩ := hB.inside p hp
    have hsame := List.inj_on_of_nodup_map honce hlen' hmem rfl
    cases hsame
    exact hin
  rcases hW.panes_next hen hours hwithin with h | ⟨i, d, k, now, j, base, rfl, hc, hmmap, h⟩
  · exact ⟨len, hlive, hold (h.panes hp) (h.maps hlive)⟩
  · have hfresh : base ∉ W.t.os.maps.map Prod.fst := hen.2 base hmmap
    rcases List.mem_cons.mp (h.panes hp) with rfl | hpold
    · refine ⟨len, hlive, ?_⟩
      have hnew : len = (ClCommit.read d.buf).buffer.stride *
          (ClCommit.read d.buf).buffer.height := by
        rcases List.mem_cons.mp (h.maps hlive) with heq | hmem
        · exact (Prod.mk.inj heq).2
        · exact (hfresh (List.mem_map_of_mem (f := Prod.fst) hmem)).elim
      obtain ⟨hw, hh, hs⟩ := ClCommit.u32_lt d.buf
      have hin := (ClBuffer.inside_iff_fits hw hh hs hc.accepted.height).mpr (hfits j hc)
      rw [hnew, Nat.cast_mul]
      exact hin
    · refine ⟨len, hlive, hold hpold ?_⟩
      rcases List.mem_cons.mp (h.maps hlive) with heq | hmem
      · obtain ⟨len', hlen', -⟩ := hB.inside p hpold
        have hbase : p.base = base := (Prod.mk.inj heq).1
        exact (hfresh (hbase ▸ List.mem_map_of_mem (f := Prod.fst) hlen')).elim
      · exact hmem

end World

end CrystallineLattice.Native
