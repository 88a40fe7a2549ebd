import CrystallineLattice.Native.Invariant
import CrystallineLattice.Wayland.Desktop

/-!
# Surfaces and windows agree

The coherence of the desktop, read as what a client relies on: its window shows
its pixels.  One field can be wrong.  `buf_stride` is `cw * 4` in an `int`, and
a buffer can have `2^29` columns and more.
-/

namespace CrystallineLattice.Wayland

open CrystallineLattice.Foundation
open CrystallineLattice.Stack
open CrystallineLattice.Compositor
open CrystallineLattice.Native (World)
open Frontend (SameObjects Tracked)

structure Desktop.Agrees (D : Desktop) : Prop where
  /-- The window of a mapped surface shows the surface's content. -/
  window : ∀ a s, D.fe.surfaces a = some s → s.serverId ≠ 0 →
    ∃ w address block, windowById D.fe.stack s.serverId = some w ∧
      w.role = .normal ∧ w.appDecorated = false ∧
      s.content = .block address ∧ D.fe.blocks address = some block ∧
      block.len = 4 * (s.cw * s.ch) ∧
      w.buf = .block address ∧ w.bufW = s.cw ∧ w.bufH = s.ch ∧ w.bufStride = 4 * s.cw
  /-- Nobody else names it. -/
  apart : ∀ a a' s s', D.fe.surfaces a = some s → D.fe.surfaces a' = some s' →
    s.serverId ≠ 0 → s.serverId = s'.serverId → a = a'
  native : ∀ a s, D.fe.surfaces a = some s → s.serverId ≠ 0 →
    ∀ h j, D.world.t.Occupied h j → (D.world.t.wins h j).serverId ≠ s.serverId
  /-- A window that was made for a surface and still lives is the one it names. -/
  unmapped : ∀ id a, (id, a) ∈ D.fe.created → id ∈ D.fe.stack.ids →
    ∃ s, D.fe.surfaces a = some s ∧ s.serverId = id ∧ id ≠ 0
  /-- A window shows no block but the live content of its surface. -/
  current : ∀ id w address, windowById D.fe.stack id = some w → w.buf = .block address →
    ∃ a s block, D.fe.surfaces a = some s ∧ s.serverId = id ∧ s.content = .block address ∧
      D.fe.blocks address = some block

/-! ## Wide surfaces -/

/-- `copy_shm_buffer` copies: the block has the buffer's size, or memory was found. -/
def Copies (s : FeSurface) (shmb : ShmBuffer) (heap : Option Nat) : Prop :=
  0 < shmb.width ∧ 0 < shmb.height ∧
    (s.cw = shmb.width ∧ s.ch = shmb.height ∨ heap ≠ none)

instance (s : FeSurface) (shmb : ShmBuffer) (heap : Option Nat) :
    Decidable (Copies s shmb heap) :=
  inferInstanceAs (Decidable (0 < shmb.width ∧ 0 < shmb.height ∧
    (s.cw = shmb.width ∧ s.ch = shmb.height ∨ heap ≠ none)))

def widthAfter (s : FeSurface) (shmb : ShmBuffer) (heap : Option Nat) : Int :=
  if Copies s shmb heap then shmb.width else s.cw

/-- A commit is for a toplevel that is configured, and it has a buffer in shared memory. -/
structure Presents (s : FeSurface) (buffer : Nat) : Prop where
  configured : s.xdgSurface = none ∨ s.initialConfigured = true
  attached : s.attached = true
  pending : s.pendingBuffer = some buffer
  toplevel : s.xdgToplevel ≠ none

/-- A commit that maps or updates a window with content of `2^29` columns or more. -/
def ShowsWide (fe : Frontend) : FeEvent → Prop
  | .commit r (some shmb) heap => ∃ a s buffer, fe.resources r = some ⟨.surface, a⟩ ∧
      fe.surfaces a = some s ∧ Presents s buffer ∧ 536870912 ≤ widthAfter s shmb heap ∧
      (s.serverId ≠ 0 ∨ fe.stack.count < winMax)
  | _ => False

/-- A mapped surface has content of `2^29` columns or more. -/
def Frontend.Wide (fe : Frontend) : Prop :=
  ∃ a s, fe.surfaces a = some s ∧ s.serverId ≠ 0 ∧ 536870912 ≤ s.cw

section Wide

variable {fe fe' : Frontend} {a : Nat} {s s' : FeSurface}

theorem wide_update (ha : fe.surfaces a = some s)
    (hsurfaces : fe'.surfaces = Function.update fe.surfaces a (some s'))
    (hself : s'.serverId ≠ 0 → 536870912 ≤ s'.cw → s.serverId ≠ 0 ∧ s'.cw = s.cw)
    (h : fe'.Wide) : fe.Wide := by
  obtain ⟨a', u, hu, hid, hwide⟩ := h
  rw [hsurfaces] at hu
  rcases PartialMap.found_of_store hu with ⟨-, rfl⟩ | ⟨-, hu⟩
  · obtain ⟨hid', hcw⟩ := hself hid hwide
    exact ⟨a, s, ha, hid', hcw ▸ hwide⟩
  · exact ⟨a', u, hu, hid, hwide⟩

theorem wide_keep (ha : fe.surfaces a = some s) (h : fe'.Wide)
    (hsurfaces : fe'.surfaces = Function.update fe.surfaces a (some s'))
    (hid : s'.serverId = s.serverId) (hcw : s'.cw = s.cw) : fe.Wide :=
  wide_update ha hsurfaces (fun hne _ => ⟨hid ▸ hne, hcw⟩) h

theorem wide_congr (hsurfaces : fe'.surfaces = fe.surfaces) (h : fe'.Wide) : fe.Wide := by
  obtain ⟨a, u, hu, hrest⟩ := h
  exact ⟨a, u, hsurfaces ▸ hu, hrest⟩

theorem wide_erase (hsurfaces : fe'.surfaces = Function.update fe.surfaces a none)
    (h : fe'.Wide) : fe.Wide := by
  obtain ⟨a', u, hu, hrest⟩ := h
  rw [hsurfaces] at hu
  exact ⟨a', u, (PartialMap.found_of_erase hu).2, hrest⟩

theorem wide_surfaceUnmap (ha : fe.surfaces a = some s) (h : (surfaceUnmap fe a).Wide) :
    fe.Wide :=
  wide_update ha (surfaceUnmap_surfaces ha) (fun hid => (hid rfl).elim) h

theorem copyShmBuffer_record (ha : fe.surfaces a = some s) (shmb : ShmBuffer)
    (heap : Option Nat) :
    ∃ s', (copyShmBuffer fe a shmb heap).surfaces = Function.update fe.surfaces a (some s') ∧
      s'.serverId = s.serverId ∧ s'.xdgToplevel = s.xdgToplevel ∧
      s'.cw = widthAfter s shmb heap ∧
      (Holds fe.blocks s → 0 < s'.cw → s'.content ≠ .null) ∧
      (copyShmBuffer fe a shmb heap).stack = fe.stack := by
  have hsame : fe.surfaces = Function.update fe.surfaces a (some s) := by
    rw [← ha, Function.update_eq_self]
  have hheld : Holds fe.blocks s → 0 < s.cw → s.content ≠ .null := by
    rintro (⟨-, hcw, -⟩ | ⟨address, -, hcontent, -⟩) hpos
    · omega
    · simp [hcontent]
  rw [copyShmBuffer, Frontend.onSurface_eq ha]
  split
  · rename_i hempty
    refine ⟨s, hsame, rfl, rfl, ?_, hheld, rfl⟩
    rw [widthAfter, if_neg]
    rintro ⟨hwidth, hheight, -⟩
    omega
  · rename_i hpos
    push Not at hpos
    split
    · rename_i hresize
      cases heap with
      | none =>
          refine ⟨s, hsame, rfl, rfl, ?_, hheld, rfl⟩
          rw [widthAfter, if_neg]
          rintro ⟨-, -, hsize | hheap⟩
          · rcases hresize with h | h
            · exact h hsize.1
            · exact h hsize.2
          · exact hheap rfl
      | some address =>
          refine ⟨_, rfl, rfl, rfl, ?_, ⟨fun _ _ => by simp, rfl⟩⟩
          rw [widthAfter, if_pos ⟨hpos.1, hpos.2, .inr (by simp)⟩]
    · rename_i hsize
      push Not at hsize
      have hcw : s.cw = widthAfter s shmb heap := by
        rw [widthAfter, if_pos ⟨hpos.1, hpos.2, .inl hsize⟩]
        exact hsize.1
      cases hcontent : s.content with
      | null => exact ⟨s, hsame, rfl, rfl, hcw, hheld, rfl⟩
      | mapping base => exact ⟨s, hsame, rfl, rfl, hcw, hheld, rfl⟩
      | block address => exact ⟨s, hsame, rfl, rfl, hcw, hheld, rfl⟩

theorem commitBuffer_record {W : World} (hW : Coherent none W fe) (ha : fe.surfaces a = some s)
    (buffer : Nat) (shmb : ShmBuffer) (heap : Option Nat) :
    ∃ s', (commitBuffer fe a buffer (some shmb) heap).surfaces =
        Function.update fe.surfaces a (some s') ∧
      s'.cw = widthAfter s shmb heap ∧
      (0 < s'.cw → (s'.serverId ≠ 0 ↔
        s.xdgToplevel ≠ none ∧ (s.serverId ≠ 0 ∨ fe.stack.count < winMax))) := by
  obtain ⟨u, hcopy, hid, htoplevel, hcw, hcontent, hstack⟩ := copyShmBuffer_record ha shmb heap
  have hroles : s.serverId ≠ 0 → s.xdgToplevel ≠ none := fun h => (hW.shown.mapped ha h).toplevel
  have hsent : ((copyShmBuffer fe a shmb heap).send (.release buffer)).surfaces a = some u := by
    rw [Frontend.send, hcopy, Function.update_self]
  have hpos : ((copyShmBuffer fe a shmb heap).send (.release buffer)).stack.nextId ≠ 0 := by
    rw [Frontend.send, hstack, hW.stack]
    exact Nat.pos_iff_ne_zero.mp hW.world.ledger.stack.nextPos
  have hcount : ((copyShmBuffer fe a shmb heap).send (.release buffer)).stack.count =
      fe.stack.count := by
    rw [Frontend.send, hstack]
  simp only [commitBuffer, Frontend.onSurface_eq hsent]
  split
  · rename_i hshow
    rw [htoplevel] at hshow
    rcases surfaceMapOrUpdate_cases hsent hpos with
      ⟨hmapped, heq⟩ | ⟨hunmapped, hfull, heq⟩ | ⟨-, hroom, heq⟩
    · rw [heq]
      refine ⟨u, hcopy, hcw, fun _ => iff_of_true hmapped ⟨hshow.2, .inl ?_⟩⟩
      rwa [← hid]
    · rw [heq]
      refine ⟨u, hcopy, hcw, fun _ => iff_of_false (not_not.mpr hunmapped) ?_⟩
      rintro ⟨-, h | h⟩
      · exact h (hid ▸ hunmapped)
      · omega
    · let s' : FeSurface := { u with
        serverId := ((copyShmBuffer fe a shmb heap).send (.release buffer)).stack.nextId }
      refine ⟨s', ?_, hcw, fun _ => iff_of_true hpos ⟨hshow.2, .inr (hcount ▸ hroom)⟩⟩
      rw [heq]
      simp [s', Frontend.setSurface, Frontend.send, hcopy]
  · rename_i hidle
    refine ⟨u, hcopy, hcw, fun hwide => ?_⟩
    have hheld := hcontent (hW.contents.held ha) hwide
    have hnone : s.xdgToplevel = none := by
      by_contra hne
      exact hidle ⟨hheld, htoplevel.symm ▸ hne⟩
    rw [hid]
    exact iff_of_false (fun h => hroles h hnone) fun h => h.1 hnone

def FeSurface.taken (s : FeSurface) : FeSurface :=
  { s with attached := false, pendingBuffer := none }

theorem Coherent.taken {W : World} (hW : Coherent none W fe) (hwithin : W.Within)
    (ha : fe.surfaces a = some s) : Coherent none W (fe.setSurface a s.taken) := by
  have hsame : follow W fe (fe.setSurface a s.taken) = W := follow_of_same hW.stack rfl rfl
  have hkeep : Leads none none fe (fe.setSurface a s.taken) :=
    .keep ha rfl rfl rfl rfl rfl rfl rfl rfl (.inl rfl)
  have hnext := hkeep.coherent hW
  rw [hsame] at hnext
  exact hnext hwithin

theorem surfCommit_presents {buffer : Nat} (ha : fe.surfaces a = some s)
    (hs : Presents s buffer) (shm : Option ShmBuffer) (heap : Option Nat) :
    surfCommit fe a shm heap =
      fireFrameCallbacks (commitBuffer (fe.setSurface a s.taken) a buffer shm heap) := by
  rw [surfCommit, Frontend.onSurface_eq ha]
  split
  · rename_i hxdg hinitial
    rcases hs.configured with h | h
    · rw [h] at hxdg
      cases hxdg
    · rw [h] at hinitial
      cases hinitial
  · rw [if_pos hs.attached]
    simp only [hs.pending]
    rfl

theorem surfCommit_wide {W : World} (hW : Coherent none W fe) (hwithin : W.Within) {r : Nat}
    (hr : fe.resources r = some ⟨.surface, a⟩) (ha : fe.surfaces a = some s)
    (shm : Option ShmBuffer) (heap : Option Nat) (h : (surfCommit fe a shm heap).Wide) :
    fe.Wide ∨ ShowsWide fe (.commit r shm heap) := by
  have htaken (h : (fe.setSurface a s.taken).Wide) : fe.Wide := wide_keep ha h rfl rfl rfl
  have hself : (fe.setSurface a s.taken).surfaces a = some s.taken := Frontend.setSurface_self ..
  rw [surfCommit, Frontend.onSurface_eq ha] at h
  split at h
  · rename_i xdgSurface _ _
    have hsent : (sendConfigures fe xdgSurface s.xdgToplevel).surfaces = fe.surfaces := by
      cases s.xdgToplevel <;> rfl
    have hsame : (sendConfigures fe xdgSurface s.xdgToplevel).surfaces a = some s := by
      rw [hsent, ha]
    exact .inl (wide_congr hsent (wide_keep hsame h rfl rfl rfl))
  · rename_i hconfigured
    split at h
    · rename_i hattached
      dsimp only at h
      cases hpending : s.pendingBuffer with
      | none =>
          rw [hpending] at h
          exact .inl (htaken (wide_surfaceUnmap hself (wide_congr rfl h)))
      | some buffer =>
          rw [hpending] at h
          cases shm with
          | none => exact .inl (htaken (wide_congr rfl h))
          | some shmb =>
              have hcommit : (commitBuffer (fe.setSurface a s.taken) a buffer (some shmb)
                  heap).Wide := wide_congr rfl h
              obtain ⟨s', hsurfaces, hcw, hmapped⟩ :=
                commitBuffer_record (hW.taken hwithin ha) hself buffer shmb heap
              by_cases hwide : s'.serverId ≠ 0 ∧ 536870912 ≤ s'.cw
              · obtain ⟨htoplevel, hroom⟩ := (hmapped (by omega)).mp hwide.1
                refine .inr ⟨a, s, buffer, hr, ha, ⟨?_, hattached, hpending, htoplevel⟩,
                  hcw ▸ hwide.2, hroom⟩
                by_contra hne
                push Not at hne
                obtain ⟨xdgSurface, hxdg⟩ := Option.ne_none_iff_exists'.mp hne.1
                exact hconfigured xdgSurface hxdg (by simpa using hne.2)
              · exact .inl (htaken (wide_update hself hsurfaces
                  (fun hid hcols => (hwide ⟨hid, hcols⟩).elim) hcommit))
    · exact .inl (wide_congr rfl h)

theorem showsWide_next {W : World} (hW : Coherent none W fe) (hwithin : W.Within) {e : FeEvent}
    (h : ShowsWide fe e) : (fe.next e).Wide := by
  cases e with
  | commit r shm heap =>
      cases shm with
      | none => exact h.elim
      | some shmb =>
          obtain ⟨a, s, buffer, hr, ha, hpresents, hwide, hroom⟩ := h
          have hself : (fe.setSurface a s.taken).surfaces a = some s.taken :=
            Frontend.setSurface_self ..
          obtain ⟨s', hsurfaces, hcw, hmapped⟩ :=
            commitBuffer_record (hW.taken hwithin ha) hself buffer shmb heap
          have hcols : 536870912 ≤ s'.cw := hcw ▸ hwide
          rw [Frontend.next, Frontend.onResource_eq hr, surfCommit_presents ha hpresents]
          refine ⟨a, s', ?_, (hmapped (by omega)).mpr ⟨hpresents.toplevel, hroom⟩, hcols⟩
          rw [fireFrameCallbacks, hsurfaces, Function.update_self]
  | _ => exact h.elim

theorem wide_wlResourceDestroy (hT : Tracked fe) {r : Nat} (h : (wlResourceDestroy fe r).Wide) :
    fe.Wide := by
  unfold wlResourceDestroy at h
  cases hr : fe.resources r with
  | none =>
      rw [hr] at h
      exact h
  | some res =>
      rw [hr] at h
      obtain ⟨kind, a⟩ := res
      have hdestructor : (destructor fe ⟨kind, a⟩).Wide := wide_congr rfl h
      cases kind with
      | decoration => exact hdestructor
      | surface =>
          obtain ⟨s, hs⟩ := hT.exists_record hr (by simp)
          simp only [destructor, surfaceResourceDestroy, Frontend.onSurface_eq hs] at hdestructor
          exact wide_surfaceUnmap hs (wide_erase rfl hdestructor)
      | toplevel =>
          obtain ⟨s, hs⟩ := hT.exists_record hr (by simp)
          simp only [destructor, toplevelResourceDestroy, Frontend.onSurface_eq hs] at hdestructor
          exact wide_keep hs
            (wide_surfaceUnmap (Frontend.setSurface_self ..) hdestructor) rfl rfl rfl
      | xdgSurface =>
          obtain ⟨s, hs⟩ := hT.exists_record hr (by simp)
          simp only [destructor, xdgSurfaceResourceDestroy, Frontend.onSurface_eq hs]
            at hdestructor
          exact wide_keep hs hdestructor rfl rfl rfl

theorem wide_next {W : World} (hW : Coherent none W fe) (hwithin : W.Within) (hT : Tracked fe)
    {e : FeEvent} (hen : fe.enabled e) (h : (fe.next e).Wide) : fe.Wide ∨ ShowsWide fe e := by
  cases e with
  | createSurface memory resource =>
      refine .inl ?_
      cases memory with
      | false => exact h
      | true =>
          cases resource with
          | none => exact h
          | some r =>
              obtain ⟨a, u, hu, hid, hcw⟩ := h
              rcases PartialMap.found_of_store hu with ⟨-, rfl⟩ | ⟨-, hold⟩
              · exact (hid rfl).elim
              · exact ⟨a, u, hold, hid, hcw⟩
  | getXdgSurface r resource =>
      obtain ⟨a, s, hr, hs⟩ := hT.found hen.1 (by simp)
      rw [Frontend.next, Frontend.onResource_eq hr] at h
      cases resource with
      | none => exact .inl h
      | some r' =>
          rw [wmGetXdgSurface, Frontend.onSurface_eq hs] at h
          exact .inl (wide_keep hs h rfl rfl rfl)
  | getToplevel r resource =>
      obtain ⟨a, s, hr, hs⟩ := hT.found hen.1 (by simp)
      rw [Frontend.next, Frontend.onResource_eq hr] at h
      cases resource with
      | none => exact .inl h
      | some r' =>
          rw [xsGetToplevel, Frontend.onSurface_eq hs] at h
          exact .inl (wide_keep hs h rfl rfl rfl)
  | getDecoration r resource =>
      obtain ⟨a, s, hr, hs⟩ := hT.found hen.1 (by simp)
      rw [Frontend.next, Frontend.onResource_eq hr] at h
      cases resource with
      | none => exact .inl h
      | some r' =>
          rw [decomgrGet, Frontend.onSurface_eq hs] at h
          exact .inl (wide_keep hs h rfl rfl rfl)
  | setTitle r title =>
      obtain ⟨a, s, hr, hs⟩ := hT.found hen (by simp)
      rw [Frontend.next, Frontend.onResource_eq hr, tlSetTitle, Frontend.onSurface_eq hs] at h
      dsimp only at h
      split at h
      · exact .inl (wide_keep hs h rfl rfl rfl)
      · exact .inl (wide_keep hs h rfl rfl rfl)
  | attach r buffer =>
      obtain ⟨a, s, hr, hs⟩ := hT.found hen (by simp)
      rw [Frontend.next, Frontend.onResource_eq hr, surfAttach, Frontend.onSurface_eq hs] at h
      exact .inl (wide_keep hs h rfl rfl rfl)
  | frame r callback =>
      obtain ⟨a, s, hr, hs⟩ := hT.found hen (by simp)
      rw [Frontend.next, Frontend.onResource_eq hr] at h
      unfold surfFrame at h
      rw [Frontend.onSurface_eq hs] at h
      cases callback <;> exact .inl (wide_congr rfl h)
  | commit r shm heap =>
      obtain ⟨a, s, hr, hs⟩ := hT.found hen.1 (by simp)
      rw [Frontend.next, Frontend.onResource_eq hr] at h
      exact surfCommit_wide hW hwithin hr hs shm heap h
  | destroy r => exact .inl (wide_wlResourceDestroy hT h)
  | destroyCallback callback => exact .inl (wide_congr rfl h)
  | outside stack => exact .inl (wide_congr rfl h)

end Wide

/-! ## The exact condition -/

namespace Desktop

variable {D : Desktop}

def WideCommit (D : Desktop) : DesktopEvent → Prop
  | .wayland e => ShowsWide D.fe e
  | .outside _ => False

theorem Inv.wide_step (hD : D.Inv) {e : DesktopEvent} (hen : D.enabled e)
    (hwithin : (D.next e).Within) (h : (D.next e).fe.Wide) : D.fe.Wide ∨ D.WideCommit e := by
  cases e with
  | outside e => exact .inl (wide_congr rfl h)
  | wayland e => exact wide_next hD.coherent hwithin.mono hD.tracked hen.1 h

theorem Inv.wideCommit_step (hD : D.Inv) {e : DesktopEvent} (hwithin : (D.next e).Within)
    (h : D.WideCommit e) : (D.next e).fe.Wide := by
  cases e with
  | outside e => exact h.elim
  | wayland e => exact showsWide_next hD.coherent hwithin.mono h

theorem int32_stride {w : Int} (hpos : 0 ≤ w) (hnarrow : w < 536870912) :
    int32 (w * 4) = 4 * w := by
  rw [int32_of_isInt32 ⟨by omega, by omega⟩]
  omega

theorem int32_stride_ne {w : Int} (hwide : 536870912 ≤ w) : int32 (w * 4) ≠ 4 * w := by
  have hbound := (int32_isInt32 (w * 4)).2
  omega

theorem Inv.window (hD : D.Inv) {a : Nat} {s : FeSurface} (ha : D.fe.surfaces a = some s)
    (hid : s.serverId ≠ 0) :
    ∃ w, windowById D.fe.stack s.serverId = some w ∧ w.role = .normal ∧
      w.appDecorated = false ∧ Depicts s w := by
  obtain ⟨w, hw, hrole, happ, hshows⟩ := (hD.coherent.shown.mapped ha hid).window
  obtain ⟨w₀, hw₀, rfl⟩ := Option.map_eq_some_iff.mp hw
  have hd := hshows (by simp)
  exact ⟨w₀, hw₀, hrole, happ, ⟨hd.buf, hd.bufW, hd.bufH, hd.bufStride⟩⟩

theorem Inv.agrees (hD : D.Inv) (hnarrow : ¬ D.fe.Wide) : D.Agrees where
  window a s ha hid := by
    have hmapped := hD.coherent.shown.mapped ha hid
    obtain ⟨w, hw, hrole, happ, hd⟩ := hD.window ha hid
    rcases hD.coherent.contents.held ha with
      ⟨hnull, -⟩ | ⟨address, block, hblock, hlive, hlen, hpos⟩
    · exact (hmapped.content hnull).elim
    · have hcols : s.cw < 536870912 := by
        by_contra hwide
        exact hnarrow ⟨a, s, ha, hid, by omega⟩
      refine ⟨w, address, block, hw, hrole, happ, hblock, hlive, ?_, hd.buf.trans hblock, hd.bufW,
        hd.bufH, hd.bufStride.trans (int32_stride (by omega) hcols)⟩
      rw [hlen, Int.mul_comm]
  apart _ _ _ _ := hD.coherent.shown.apart
  native a s ha hid h j hocc heq :=
    hD.coherent.world.ledger.ours (h := h) hocc.2 (heq ▸ (hD.coherent.shown.mapped ha hid).ours)
  unmapped id a hp hlive := by
    obtain ⟨w, hw⟩ := mem_ids_iff_view.mp hlive
    obtain ⟨s, hs, hid⟩ := (hD.coherent.shown.created hp).2 w hw
    refine ⟨s, hs, hid, ?_⟩
    rintro rfl
    exact nomatch hD.coherent.view_zero.symm.trans hw
  current id w address hw hbuf := by
    obtain ⟨a, s, hs, rfl⟩ := hD.coherent.shown.heap (view_eq_some hw) hbuf
    have hid : s.serverId ≠ 0 := fun hzero => by
      have hview := view_eq_some hw
      rw [hzero, hD.coherent.view_zero] at hview
      cases hview
    obtain ⟨w', hw', -, -, hd⟩ := hD.window hs hid
    cases hw.symm.trans hw'
    have hcontent : s.content = .block address := hd.buf.symm.trans hbuf
    rcases hD.coherent.contents.held hs with ⟨hnull, -⟩ | ⟨address', block, hblock, hlive, -⟩
    · exact nomatch hnull.symm.trans hcontent
    · cases hblock.symm.trans hcontent
      exact ⟨a, s, block, hs, rfl, hcontent, hlive⟩

theorem Inv.not_agrees (hD : D.Inv) (hwide : D.fe.Wide) : ¬ D.Agrees := by
  intro h
  obtain ⟨a, s, ha, hid, hcols⟩ := hwide
  obtain ⟨w, address, block, hw, -, -, -, -, -, -, -, -, hstride⟩ := h.window a s ha hid
  obtain ⟨w', hw', -, -, hd⟩ := hD.window ha hid
  cases hw.symm.trans hw'
  exact int32_stride_ne hcols (hd.bufStride.symm.trans hstride)

/--
In a run in which fewer than `2^32 - 1` windows are created, surfaces and
windows agree in every state if and only if no commit maps or updates a window
with content of `2^29` columns or more.
-/
theorem agrees_iff_never_wide (sw sh : Int) (es : List DesktopEvent)
    (hrun : system.Legal (start sw sh) es) (hwithin : (system.exec (start sw sh) es).Within) :
    system.Along Agrees (start sw sh) es ↔
      system.Each (fun D e => ¬ D.WideCommit e) (start sw sh) es := by
  have hbelow := System.each_below (B := Within) (fun _ _ _ h => h.mono) hrun hwithin
  refine System.along_iff_each (I := fun D => D.Inv ∧ ¬ D.fe.Wide)
    (fun D hD => hD.1.agrees hD.2)
    (fun D e hD he hnarrow => ⟨hD.1.step he.1 he.2, fun hwide => ?_⟩)
    (fun D e hD he hwide => ?_) hbelow ⟨start_inv sw sh, ?_⟩
  · rcases hD.1.wide_step he.1 he.2 hwide with h | h
    · exact hD.2 h
    · exact hnarrow h
  · exact (hD.1.step he.1 he.2).not_agrees (hD.1.wideCommit_step he.2 (not_not.mp hwide))
  · rintro ⟨a, s, hs, -⟩
    cases hs

def showRun (width height stride : Int) : List DesktopEvent :=
  [.wayland (.createSurface true (some 1)), .wayland (.getXdgSurface 1 (some 2)),
    .wayland (.getToplevel 2 (some 3)), .wayland (.commit 1 none none),
    .wayland (.attach 1 (some 4)),
    .wayland (.commit 1 (some ⟨width, height, stride, fun _ => 0⟩) (some 64))]

theorem showRun_legal (width height stride : Int) :
    system.Legal (start 1920 1080) (showRun width height stride) := by
  have hnew := @Frontend.newHandle_of_none
  have hours {e : FeEvent} (h : ∀ stack, e ≠ .outside stack) {fe : Frontend}
      (hroles : fe.RolesGone e) : fe.RolesGone e ∧ ∀ stack, e ≠ .outside stack := ⟨hroles, h⟩
  exact ⟨⟨hnew rfl, hours (by simp) trivial⟩, ⟨⟨⟨0, rfl⟩, hnew rfl⟩, hours (by simp) trivial⟩,
    ⟨⟨⟨0, rfl⟩, hnew rfl⟩, hours (by simp) trivial⟩,
    ⟨⟨⟨0, rfl⟩, Frontend.newBlock_none _ _⟩, hours (by simp) trivial⟩,
    ⟨⟨0, rfl⟩, hours (by simp) trivial⟩,
    ⟨⟨⟨0, rfl⟩, Frontend.newBlock_of_unused rfl rfl rfl⟩, hours (by simp) trivial⟩, trivial⟩

theorem agrees_iff_never_wide_small :
    system.Along Agrees (start 1920 1080) (showRun 2 1 8) ↔
      system.Each (fun D e => ¬ D.WideCommit e) (start 1920 1080) (showRun 2 1 8) :=
  agrees_iff_never_wide 1920 1080 (showRun 2 1 8) (showRun_legal 2 1 8) (by decide)

/-- libwayland accepts a stride of one byte for each pixel. -/
theorem wide_surface_disagrees :
    system.Legal (start 1920 1080) (showRun 536870912 1 536870912) ∧
      (system.exec (start 1920 1080) (showRun 536870912 1 536870912)).Within ∧
      ¬ (system.exec (start 1920 1080) (showRun 536870912 1 536870912)).Agrees := by
  have hwithin : (system.exec (start 1920 1080) (showRun 536870912 1 536870912)).Within := by
    decide
  refine ⟨showRun_legal _ _ _, hwithin, ?_⟩
  have hinv : (system.exec (start 1920 1080) (showRun 536870912 1 536870912)).Inv :=
    System.invariant_below (B := Within) (fun _ _ _ h => h.mono)
      (fun _ _ hI hen h => hI.step hen h) (showRun_legal _ _ _) (start_inv 1920 1080) hwithin
  exact hinv.not_agrees ⟨0, _, rfl, by decide, by decide⟩

end Desktop

end CrystallineLattice.Wayland
