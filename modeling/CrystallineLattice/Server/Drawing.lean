import CrystallineLattice.Native.Cursor
import CrystallineLattice.Native.Panes
import CrystallineLattice.Server.Framebuffers
import CrystallineLattice.Server.Housekeeping
import CrystallineLattice.Server.Pointing
import CrystallineLattice.Wayland.Panes

/-!
# Frames do not fault

Windows come and go by requests of two kinds of clients, and the server draws
whatever they show by then.  As long as each descriptor that is committed fits, no
Wayland surface is too wide, and no change of the resolution fails, it never reads
outside the memory behind a window nor writes outside the framebuffer, and all that
memory is there.
-/

namespace CrystallineLattice.Server

open CrystallineLattice.Foundation
open CrystallineLattice.Stack
open CrystallineLattice.Compositor (Block DumbFb PixelsInside pixelsInside_packed)
open CrystallineLattice.Native
open CrystallineLattice.Wayland
open CrystallineLattice.Wayland.Frontend (SameObjects Tracked)
open CrystallineLattice.Manager

/-! ## The cursor's shape -/

def ShapeFits (cur : ClCursor) : Prop :=
  cur.custom = true → 0 < cur.w ∧ cur.w ≤ clCursorMax ∧ 0 < cur.h ∧ cur.h ≤ clCursorMax

theorem onSetCursor_shapeFits {t : Transport} (ht : ShapeFits t.cursor) (m : ClSetCursor)
    (fds : List Int) (k : Kernel) : ShapeFits (onSetCursor t m fds k).cursor := by
  rw [onSetCursor_cursor]
  split
  · rename_i haccepted
    unfold askedShape
    split
    · intro hcustom
      cases hcustom
    · rename_i hplain
      rcases haccepted with hhide | hfds | ⟨hsize, -⟩
      · exact (hplain (.inl hhide)).elim
      · exact (hplain (.inr hfds)).elim
      · exact fun _ => ⟨hsize.1, hsize.2.2.1, hsize.2.1, hsize.2.2.2⟩
  · exact ht

theorem shapeFits_upkeep : Upkeep fun t u => ShapeFits t.cursor → ShapeFits u.cursor where
  trans h h' ht := h' (h ht)
  still h ht := by
    rw [h.cursor]
    exact ht
  destroy _ _ ht := ht
  redraw _ _ _ _ ht := ht

theorem shapeFits_next {W : World} (hshape : ShapeFits W.t.cursor) {e : Native.Event}
    (hours : ∀ op, e ≠ .other op) : ShapeFits (W.next e).t.cursor := by
  by_cases hquiet : ∃ i d k now, e = .datagram i d k now
  · obtain ⟨i, d, k, now, rfl⟩ := hquiet
    simp only [World.next]
    cases shapeFits_upkeep.clientDatagram W.t i d k now false with
    | upkeep kept => exact kept hshape
    | creates j request result cursor =>
        rw [cursor]
        exact hshape
    | places j request result =>
        rw [result.cursor]
        exact hshape
    | cursor request result =>
        rw [result]
        exact onSetCursor_shapeFits hshape _ _ _
  · exact W.upkeep_next shapeFits_upkeep hours (fun i d k now h => hquiet ⟨i, d, k, now, h⟩) hshape

theorem ShapeFits.inside {cur : ClCursor} (h : ShapeFits cur) (hcustom : cur.custom = true)
    {r c : Int} (hr : 0 ≤ r ∧ r < cur.h) (hc : 0 ≤ c ∧ c < cur.w) :
    0 ≤ r * cur.w + c ∧ r * cur.w + c < clCursorMax * clCursorMax := by
  obtain ⟨hw, hwmax, -, hhmax⟩ := h hcustom
  have hlow : 0 ≤ r * cur.w := Int.mul_nonneg hr.1 hw.le
  have hrow : (r + 1) * cur.w ≤ clCursorMax * clCursorMax :=
    Int.mul_le_mul (by omega) hwmax hw.le (by decide)
  rw [Int.add_mul] at hrow
  omega

/-! ## The invariant -/

namespace ServerRun

/-- No more panes than before; the slots, the mappings, the shape and the surfaces are the same. -/
structure Spares (X Y : ServerRun) : Prop where
  inv : X.Inv → Y.Inv
  panes : X.Inv → Y.stack.panes ⊆ X.stack.panes
  wins : Y.world.t.wins = X.world.t.wins
  maps : Y.world.t.os.maps = X.world.t.os.maps
  cursor : Y.world.t.cursor = X.world.t.cursor
  surfaces : Y.fe.surfaces = X.fe.surfaces
  objects : SameObjects X.fe Y.fe

theorem spares_housekeeping : Housekeeping Spares where
  trans h h' := {
    inv := fun hX => h'.inv (h.inv hX)
    panes := fun hX => List.Subset.trans (h'.panes (h.inv hX)) (h.panes hX)
    wins := h'.wins.trans h.wins
    maps := h'.maps.trans h.maps
    cursor := h'.cursor.trans h.cursor
    surfaces := h'.surfaces.trans h.surfaces
    objects := h.objects.trans h'.objects }
  same {X Y} hworld hfe hmoving hmoveId := {
    inv := (Keeps.same hworld hfe hmoving hmoveId).inv
    panes := fun _ => by
      rw [stack, hworld]
      exact List.Subset.refl _
    wins := by rw [hworld]
    maps := by rw [hworld]
    cursor := by rw [hworld]
    surfaces := by rw [hfe]
    objects := by
      rw [hfe]
      exact .refl _ }
  send {X t} h hcursor := {
    inv := fun hX => hX.setTransport h
    panes := fun _ => by
      show t.stack.panes ⊆ X.world.t.stack.panes
      rw [h.stack]
      exact List.Subset.refl _
    wins := congrArg Ledger.wins (h.ledger [])
    maps := congrArg Ledger.maps (h.ledger [])
    cursor := hcursor
    surfaces := rfl
    objects := .untouched rfl rfl rfl rfl }
  rearrange hinv hrearranges := {
    inv := hinv
    panes := fun hX => (hrearranges hX).panes hX.coherent.world.ledger.stack.nodup
    wins := rfl
    maps := rfl
    cursor := rfl
    surfaces := rfl
    objects := .untouched rfl rfl rfl rfl }

structure Guarded (X : ServerRun) : Prop where
  inv : X.Inv
  tracked : Tracked X.fe
  narrow : ¬ X.fe.Wide
  backed : X.world.Backed
  shape : ShapeFits X.world.t.cursor

/--
A `CL_COMMIT` that is carried out has a descriptor that fits, a Wayland commit shows
less than `2^29` columns, role objects are destroyed before their surfaces, and a change
of the resolution gets its framebuffers.
-/
def Considerate (X : ServerRun) : ServerEvent → Prop
  | .transport e => X.world.FittingCommit e
  | .control w h refresh a => MakesRoom (.control w h refresh a)
  | .wayland (.surface _ e) => ¬ ShowsWide X.fe e ∧ X.fe.RolesGone e
  | _ => True

variable {X Y : ServerRun}

theorem Guarded.spared (hX : X.Guarded) (h : Spares X Y) : Y.Guarded where
  inv := h.inv hX.inv
  tracked := hX.tracked.congr h.objects
  narrow hwide := hX.narrow (wide_congr h.surfaces hwide)
  backed := {
    owned := fun p hp => by
      obtain ⟨holder, j, ho⟩ := hX.backed.owned p (h.panes hX.inv hp)
      refine ⟨holder, j, ?_⟩
      unfold Ledger.Owns at ho ⊢
      rw [show Y.world.ledger.wins = X.world.ledger.wins from h.wins]
      exact ho
    inside := fun p hp => by
      rw [h.maps]
      exact hX.backed.inside p (h.panes hX.inv hp) }
  shape := by
    rw [h.cursor]
    exact hX.shape

theorem Guarded.transport (hX : X.Guarded) {e : Native.Event} (hown : OwnEvent e)
    (hen : X.world.enabled e) (hwithin : (X.world.next e).Within)
    (hfits : X.world.FittingCommit e) : (X.atTransport e).Guarded := by
  have hours (op : OtherOp) : e ≠ .other op := fun heq => by
    rw [heq] at hown
    exact hown
  have hworld := hX.inv.coherent.world
  exact {
    inv := (Keeps.atTransport hown hen hwithin).inv hX.inv
    tracked := hX.tracked.congr (.untouched rfl rfl rfl rfl)
    narrow := fun hwide => hX.narrow (wide_congr rfl hwide)
    backed := hworld.backed_next hX.backed hen hours hwithin hfits
    shape := shapeFits_next hX.shape hours }

theorem Guarded.surface (hX : X.Guarded) (client : Nat) {e : FeEvent} (hen : X.fe.enabled e)
    (hours : ∀ stack, e ≠ .outside stack)
    (hwithin : (follow X.world X.fe (X.fe.next e)).Within) (hnarrow : ¬ ShowsWide X.fe e)
    (hroles : X.fe.RolesGone e) : (X.atWayland (.surface client e)).Guarded := by
  have hcoherent := hX.inv.coherent
  have hpos : X.fe.stack.nextId ≠ 0 := by
    rw [hcoherent.stack]
    exact Nat.pos_iff_ne_zero.mp hcoherent.world.ledger.stack.nextPos
  have hpanes : (X.fe.next e).stack.panes ⊆ X.world.t.stack.panes := by
    rw [← hcoherent.stack]
    exact (next_work hcoherent.contents hpos hours).panes
  exact {
    inv := (Keeps.surface client hen hours hwithin).inv hX.inv
    tracked := (hX.tracked.step hen hroles).congr (.untouched rfl rfl rfl rfl)
    narrow := fun hwide => by
      rcases wide_next hcoherent (within_of_follow hwithin) hX.tracked hen
        (wide_congr rfl hwide) with h | h
      · exact hX.narrow h
      · exact hnarrow h
    backed := {
      owned := fun p hp => hX.backed.owned p (hpanes hp)
      inside := fun p hp => hX.backed.inside p (hpanes hp) }
    shape := hX.shape }

theorem Guarded.step (hX : X.Guarded) {e : ServerEvent} (hen : X.enabled e)
    (hwithin : (X.next e).Within) (hconsiderate : X.Considerate e) : (X.next e).Guarded := by
  have hspared (he : ¬ Housekeeping.Outside e) : (X.next e).Guarded :=
    hX.spared (spares_housekeeping.next X he)
  cases e with
  | transport e => exact hX.transport hen.2.1 hen.2.2 hwithin hconsiderate
  | wayland e =>
      cases e with
      | surface client e =>
          exact hX.surface client hen.2.1 hen.2.2 hwithin hconsiderate.1 hconsiderate.2
      | _ => exact hspared fun h => h
  | _ => exact hspared fun h => h

/-! ## Frames -/

/--
Given memory behind the client mappings, `composite` ends on both of the server's
framebuffers, and each pixel that it reads of the cursor's shape is in the array.
-/
structure DrawsSafely (X : ServerRun) : Prop where
  frame : ∀ shared : Nat → Block, (∀ p ∈ X.world.t.os.maps, (p.2 : Int) ≤ (shared p.1).len) →
    ∀ i words, ∃ fb fb', (X.fb i).canvas words = some fb ∧ X.frame shared fb = some fb' ∧
      Compositor.SameFrame fb fb'
  shape : X.world.t.cursor.custom = true →
    ∀ r c, 0 ≤ r ∧ r < X.world.t.cursor.h → 0 ≤ c ∧ c < X.world.t.cursor.w →
      0 ≤ r * X.world.t.cursor.w + c ∧ r * X.world.t.cursor.w + c < clCursorMax * clCursorMax

theorem Guarded.mapping (hX : X.Guarded) {w : Window} (hw : w ∈ X.stack.windows) {base : Nat}
    (hbuf : w.buf = .mapping base) :
    ∃ len, (base, len) ∈ X.world.t.os.maps ∧ PixelsInside w.bufW w.bufH w.bufStride len :=
  hX.backed.inside _ (mem_panes.mpr ⟨w, hw, Window.pane_of_mapping hbuf⟩)

theorem Guarded.block (hX : X.Guarded) {w : Window} (hw : w ∈ X.stack.windows) {address : Nat}
    (hbuf : w.buf = .block address) :
    ∃ block, X.fe.blocks address = some block ∧
      PixelsInside w.bufW w.bufH w.bufStride block.len := by
  have hcoherent := hX.inv.coherent
  have hwell : X.stack.WellFormed := hcoherent.world.ledger.stack
  have hfind : windowById X.fe.stack w.id = some w := by
    rw [X.feStack, windowById_eq_lookup]
    exact (KeyedList.lookup_eq_some_iff hwell.nodup).mpr ⟨hw, rfl⟩
  have hview := view_eq_some hfind
  obtain ⟨a, s, hs, hid⟩ := hcoherent.shown.heap hview hbuf
  have hmapped : s.serverId ≠ 0 := by
    intro hzero
    rw [← hid, hzero, hcoherent.view_zero] at hview
    cases hview
  have hdesktop : Desktop.Inv ⟨X.world, X.fe, X.feStack⟩ := ⟨hcoherent, hX.tracked⟩
  obtain ⟨w', address', block, hw', -, -, -, hlive, hlen, hbuf', hbufW, hbufH, hstride⟩ :=
    (hdesktop.agrees hX.narrow).window a s hs hmapped
  rw [hid, hfind] at hw'
  cases hw'
  cases hbuf.symm.trans hbuf'
  refine ⟨block, hlive, ?_⟩
  rcases hcoherent.contents.held hs with ⟨hnull, -⟩ | ⟨-, -, -, -, -, hpos⟩
  · exact ((hcoherent.shown.mapped hs hmapped).content hnull).elim
  · rw [hbufW, hbufH, hstride, hlen, Int.mul_comm 4 (s.cw * s.ch)]
    exact pixelsInside_packed s.cw s.ch (by omega)

theorem Guarded.drawsSafely (hX : X.Guarded) (hfbs : X.FbsMapped) : X.DrawsSafely where
  frame shared hshared i words := by
    have hcanvas : (X.fb i).canvas words = some _ := dif_pos (hfbs i)
    suffices hdraws : Compositor.Draws fun fb => X.frame shared fb by
      obtain ⟨fb', hframe, hsame⟩ := hdraws _
      exact ⟨_, fb', hcanvas, hframe, hsame⟩
    refine Compositor.composite_draws (fun w hw hshows => ?_) _ _ _
    cases hbuf : w.buf with
    | null => exact (hshows hbuf).elim
    | mapping base =>
        obtain ⟨len, hmem, hin⟩ := hX.mapping hw hbuf
        exact hin.mono (hshared _ hmem)
    | block address =>
        obtain ⟨block, hlive, hin⟩ := hX.block hw hbuf
        simpa [Frontend.memory, hlive] using hin
  shape hcustom _ _ hr hc := hX.shape.inside hcustom hr hc

theorem start_guarded (S : Setup) : S.start.Guarded where
  inv := S.start_inv
  tracked := Frontend.start_tracked _
  narrow := by
    rintro ⟨a, s, hs, -⟩
    cases hs
  backed := by
    have hbare : S.start.world.t.stack.panes = [] := by
      refine List.filterMap_eq_nil_iff.mpr fun w hw => ?_
      exact Window.pane_of_null (S.start_blank hw)
    refine ⟨fun p hp => ?_, fun p hp => ?_⟩
    · cases hbare ▸ hp
    · cases hbare ▸ hp
  shape hcustom := by cases hcustom

end ServerRun

/--
In a run of the server in which each `CL_COMMIT` that is carried out has a
descriptor that fits, no Wayland surface is too wide, role objects are destroyed
first, no change of the resolution fails at a framebuffer, and fewer than `2^32 - 1`
windows are created, a frame can be drawn in every state.
-/
theorem frames_never_fault (S : Setup) (es : List ServerEvent) (hfbs : ∀ i, (S.fb i).Mapped)
    (hconsiderate : ServerRun.system.Each ServerRun.Considerate S.start es)
    (hrun : ServerRun.system.Legal S.start es)
    (hwithin : (ServerRun.system.exec S.start es).Within) :
    ServerRun.system.Along ServerRun.DrawsSafely S.start es := by
  have hbelow := System.each_below (B := ServerRun.Within)
    (fun _ _ hen h => ServerRun.Within.mono hen h) hrun hwithin
  refine System.along_of_each (I := fun X => X.Guarded ∧ X.FbsMapped)
    (fun _ hX => hX.1.drawsSafely hX.2) (fun X e hX h => ⟨hX.1.step h.1.1 h.1.2 h.2, ?_⟩)
    (System.each_and hbelow hconsiderate) ⟨ServerRun.start_guarded S, hfbs⟩
  refine hX.2.next ?_
  cases e with
  | control w h' refresh a => exact h.2
  | _ => trivial

theorem commitRun_considerate :
    ServerRun.system.Each ServerRun.Considerate plainSetup.start commitRun := by
  have hother {t : Transport} {i : Fin clMaxClients} {d : Datagram}
      (htype : d.buf.u32 0 ≠ clCommitType) (j : Fin winMax) (h : Commits t i d j) :
      (ClCommit.read d.buf).buffer.Fits := (htype h.type).elim
  have hfits : ClBuffer.Fits ⟨1, 1, 1, 4, clFormatXrgb8888, 0⟩ := .inr (.inr (.inr (by decide)))
  refine ⟨trivial, trivial, trivial, trivial, trivial, hother (by decide), hother (by decide),
    trivial, ⟨id, trivial⟩, ⟨id, trivial⟩, ⟨id, trivial⟩, ⟨id, trivial⟩, ⟨id, trivial⟩,
    ⟨?_, trivial⟩, trivial, trivial, trivial, trivial, trivial, trivial, trivial,
    trivial, trivial, trivial, fun _ _ => hfits, trivial⟩
  rintro ⟨a, s, buffer, hr, hs, -, hwide, -⟩
  cases hr
  cases hs
  exact absurd hwide (by decide)

theorem frames_never_fault_commitRun :
    ServerRun.system.Along ServerRun.DrawsSafely plainSetup.start commitRun :=
  frames_never_fault plainSetup commitRun (by decide) commitRun_considerate commitRun_legal
    (by decide +kernel)

end CrystallineLattice.Server
