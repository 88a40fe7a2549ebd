import CrystallineLattice.Compositor.Looks
import CrystallineLattice.Wayland.Agreement

/-!
# When the frontend asks for a repaint

The frontend sets `dirty` when a window appears, disappears or gets new content.
It does not set it when it frees or overwrites the content of a surface that has
no window.  No window shows such a block, since each window of the frontend shows
the content of its own surface only.
-/

namespace CrystallineLattice.Wayland

open CrystallineLattice.Foundation
open CrystallineLattice.Stack
open CrystallineLattice.Compositor
open CrystallineLattice.Native (World untitled)
open Frontend (SameObjects)

/-- The memory that the compositor reads: the frontend's heap, and what clients have mapped. -/
def Frontend.memory (fe : Frontend) (shared : Nat → Block) : Memory
  | .null => ⟨0, fun _ => 0⟩
  | .mapping base => shared base
  | .block address => (fe.blocks address).getD ⟨0, fun _ => 0⟩

/-- A change that asks for no repaint leaves the windows, the focus and the shown blocks alone. -/
structure Repaints (fe fe' : Frontend) : Prop where
  raised : fe'.dirty = false → fe.dirty = false
  windows : fe'.dirty = false →
    fe'.stack.windows.map untitled = fe.stack.windows.map untitled
  focusId : fe'.dirty = false → fe'.stack.focusId = fe.stack.focusId
  blocks : fe'.dirty = false → ∀ address, Displays fe.stack (.block address) →
    fe'.blocks address = fe.blocks address

namespace Repaints

variable {fe fe' fe'' : Frontend}

theorem same (hstack : fe'.stack = fe.stack) (hblocks : fe'.blocks = fe.blocks)
    (hdirty : fe'.dirty = fe.dirty) : Repaints fe fe' := by
  refine ⟨fun h => hdirty ▸ h, fun _ => ?_, fun _ => ?_, fun _ _ _ => ?_⟩
  · rw [hstack]
  · rw [hstack]
  · rw [hblocks]

theorem asks (hdirty : fe'.dirty = true) : Repaints fe fe' := by
  constructor <;> exact fun h => nomatch hdirty.symm.trans h

theorem trans (h : Repaints fe fe') (h' : Repaints fe' fe'') : Repaints fe fe'' := by
  constructor
  · exact fun hclean => h.raised (h'.raised hclean)
  · intro hclean
    exact (h'.windows hclean).trans (h.windows (h'.raised hclean))
  · intro hclean
    exact (h'.focusId hclean).trans (h.focusId (h'.raised hclean))
  · intro hclean address hshown
    have hmid := h'.raised hclean
    rw [h'.blocks hclean address ((displays_congr (h.windows hmid) _).mpr hshown),
      h.blocks hmid address hshown]

theorem hidden (hstack : fe'.stack = fe.stack) (hdirty : fe'.dirty = fe.dirty)
    (hblocks : ∀ address, Displays fe.stack (.block address) →
      fe'.blocks address = fe.blocks address) : Repaints fe fe' := by
  refine ⟨fun h => hdirty ▸ h, fun _ => ?_, fun _ => ?_, fun _ => hblocks⟩ <;> rw [hstack]

theorem sameLook (h : Repaints fe fe') (hclean : fe'.dirty = false) (shared : Nat → Block) :
    SameLook fe.stack fe'.stack (fe.memory shared) (fe'.memory shared) where
  windows := h.windows hclean
  focusId := h.focusId hclean
  pixels p hp := by
    cases p with
    | block address => simp only [Frontend.memory, h.blocks hclean address hp]
    | _ => rfl

end Repaints

/-! ## The blocks that windows show -/

section Shown

variable {fe : Frontend} {stale : Option Nat} {W : World} {a address : Nat} {s : FeSurface}

/-- A block on display is the content of the surface that the window belongs to. -/
theorem Coherent.displayed (hW : Coherent none W fe) (h : Displays fe.stack (.block address)) :
    ∃ a s, fe.surfaces a = some s ∧ s.serverId ≠ 0 ∧ s.content = .block address := by
  obtain ⟨-, w, hw, hbuf⟩ := h
  have hwell : fe.stack.WellFormed := by
    rw [hW.stack]
    exact hW.world.ledger.stack
  have hfind : windowById fe.stack w.id = some w := by
    rw [windowById_eq_lookup]
    exact (KeyedList.lookup_eq_some_iff hwell.nodup).mpr ⟨hw, rfl⟩
  have hview := view_eq_some hfind
  obtain ⟨a, s, hs, hid⟩ := hW.shown.heap hview hbuf
  have hmapped : s.serverId ≠ 0 := by
    intro hzero
    rw [← hid, hzero, hW.view_zero] at hview
    cases hview
  obtain ⟨v, hv, -, -, hdepicts⟩ := (hW.shown.mapped hs hmapped).window
  rw [hid, hview] at hv
  cases hv
  exact ⟨a, s, hs, hmapped, (hdepicts (by simp)).buf.symm.trans hbuf⟩

theorem Coherent.content_hidden (hW : Coherent none W fe) (ha : fe.surfaces a = some s)
    (hid : s.serverId = 0) (h : Displays fe.stack (.block address)) :
    s.content ≠ .block address := by
  intro hcontent
  obtain ⟨a', s', hs', hmapped, hcontent'⟩ := hW.displayed h
  cases hW.contents.unshared ha hs' hcontent hcontent'
  cases ha.symm.trans hs'
  exact hmapped hid

theorem Coherent.displayed_live (hW : Coherent none W fe)
    (h : Displays fe.stack (.block address)) : fe.blocks address ≠ none := by
  obtain ⟨a, s, hs, -, hcontent⟩ := hW.displayed h
  rcases hW.contents.held hs with ⟨hnull, -⟩ | ⟨address', block, hblock, hlive, -⟩
  · exact nomatch hnull.symm.trans hcontent
  · cases hblock.symm.trans hcontent
    simp [hlive]

end Shown

/-! ## The handlers -/

section Handlers

variable {fe : Frontend} {W : World} {a : Nat} {s : FeSurface}

theorem repaints_surfaceUnmap (hW : Coherent none W fe) (ha : fe.surfaces a = some s) :
    Repaints fe (surfaceUnmap fe a) := by
  by_cases hid : s.serverId = 0
  · have hstack : (surfaceUnmap fe a).stack = fe.stack := by
      rw [surfaceUnmap_stack ha, if_neg (not_not.mpr hid)]
    have hdirty : (surfaceUnmap fe a).dirty = fe.dirty := by
      rw [surfaceUnmap, Frontend.onSurface_eq ha, if_neg (not_not.mpr hid)]
      rfl
    refine .hidden hstack hdirty fun address hshown => ?_
    rw [surfaceUnmap_blocks ha]
    exact Contents.free_ne (hW.content_hidden ha hid hshown)
  · refine .asks ?_
    rw [surfaceUnmap, Frontend.onSurface_eq ha, if_pos hid]
    rfl

theorem repaints_copyShmBuffer (hW : Coherent none W fe) (ha : fe.surfaces a = some s)
    (hid : s.serverId = 0) (shmb : ShmBuffer) {heap : Option Nat}
    (hnew : ∀ address ∈ heap, Frontend.free fe.blocks s.content address = none) :
    Repaints fe (copyShmBuffer fe a shmb heap) := by
  rw [copyShmBuffer, Frontend.onSurface_eq ha]
  split
  · exact .same rfl rfl rfl
  · split
    · cases heap with
      | none => exact .same rfl rfl rfl
      | some address =>
          refine .hidden rfl rfl fun address' hshown => ?_
          have hold := hW.content_hidden ha hid hshown
          have hne : address' ≠ address := by
            rintro rfl
            have hfree := hnew address' rfl
            rw [Contents.free_ne hold] at hfree
            exact hW.displayed_live hshown hfree
          exact (Function.update_of_ne hne _ _).trans (Contents.free_ne hold)
    · cases hcontent : s.content with
      | block address =>
          refine .hidden rfl rfl fun address' hshown => Function.update_of_ne ?_ _ _
          rintro rfl
          exact hW.content_hidden ha hid hshown hcontent
      | _ => exact .same rfl rfl rfl

theorem repaints_surfaceMapOrUpdate (hpos : fe.stack.nextId ≠ 0) (ha : fe.surfaces a = some s) :
    Repaints fe (surfaceMapOrUpdate fe a) := by
  rcases surfaceMapOrUpdate_cases ha hpos with ⟨-, heq⟩ | ⟨-, -, heq⟩ | ⟨-, -, heq⟩ <;> rw [heq]
  · exact .asks rfl
  · exact .same rfl rfl rfl
  · exact .asks rfl

theorem repaints_commitBuffer (hW : Coherent none W fe) (ha : fe.surfaces a = some s)
    (buffer : Nat) (shm : Option ShmBuffer) {heap : Option Nat}
    (hnew : ∀ address ∈ heap, Frontend.free fe.blocks s.content address = none) :
    Repaints fe (commitBuffer fe a buffer shm heap) := by
  have hpos : fe.stack.nextId ≠ 0 := by
    rw [hW.stack]
    exact Nat.pos_iff_ne_zero.mp hW.world.ledger.stack.nextPos
  cases shm with
  | none => exact .same rfl rfl rfl
  | some shmb =>
      obtain ⟨s', hcopied, hid, htoplevel, hcw, hcontent, hstack⟩ :=
        copyShmBuffer_record ha shmb heap
      have hsent : ((copyShmBuffer fe a shmb heap).send (.release buffer)).surfaces a =
          some s' := by
        rw [Frontend.send, hcopied, Function.update_self]
      simp only [commitBuffer, Frontend.onSurface_eq hsent]
      by_cases hmapped : s.serverId = 0
      · have hcopy : Repaints fe ((copyShmBuffer fe a shmb heap).send (.release buffer)) :=
          (repaints_copyShmBuffer hW ha hmapped shmb hnew).trans (.same rfl rfl rfl)
        split
        · refine hcopy.trans (repaints_surfaceMapOrUpdate ?_ hsent)
          rw [Frontend.send, hstack]
          exact hpos
        · exact hcopy
      · -- the window of a mapped surface is always updated
        have hold := hW.shown.mapped ha hmapped
        have hheld := hW.contents.held ha
        have hwide : 0 < s'.cw := by
          rcases hheld with ⟨hnull, -⟩ | ⟨-, -, -, -, -, hwide⟩
          · exact (hold.content hnull).elim
          · rw [hcw, widthAfter]
            split
            · rename_i hcopies
              exact hcopies.1
            · exact hwide
        rw [if_pos ⟨hcontent hheld hwide, htoplevel ▸ hold.toplevel⟩]
        refine .asks ?_
        rw [surfaceMapOrUpdate, Frontend.onSurface_eq hsent, if_pos (hid ▸ hmapped)]

theorem repaints_surfCommit (hW : Coherent none W fe) (ha : fe.surfaces a = some s)
    (shm : Option ShmBuffer) {heap : Option Nat}
    (hnew : ∀ address ∈ heap, Frontend.free fe.blocks s.content address = none) :
    Repaints fe (surfCommit fe a shm heap) := by
  have hfire (u : Frontend) : Repaints u (fireFrameCallbacks u) := .same rfl rfl rfl
  rw [surfCommit, Frontend.onSurface_eq ha]
  split
  · rename_i xdgSurface _ _
    cases s.xdgToplevel <;> exact .same rfl rfl rfl
  · split
    · let taken : FeSurface := { s with attached := false, pendingBuffer := none }
      have htaken : Repaints fe (fe.setSurface a taken) := .same rfl rfl rfl
      have hset := Frontend.setSurface_self fe a taken
      have hcoherent : Coherent none W (fe.setSurface a taken) :=
        ⟨hW.stack, hW.world, hW.contents.keep ha rfl rfl rfl,
          hW.shown.keep ha rfl rfl rfl hW.view_zero rfl rfl rfl rfl fun hne =>
            (hW.shown.mapped ha hne).toplevel⟩
      dsimp only
      cases s.pendingBuffer with
      | none => exact (htaken.trans (repaints_surfaceUnmap hcoherent hset)).trans (hfire _)
      | some buffer =>
          exact (htaken.trans (repaints_commitBuffer hcoherent hset buffer shm hnew)).trans
            (hfire _)
    · exact hfire fe

theorem repaints_tlSetTitle (ha : fe.surfaces a = some s) (title : List UInt8) :
    Repaints fe (tlSetTitle fe a title) := by
  rw [tlSetTitle, Frontend.onSurface_eq ha]
  dsimp only
  split
  · have htitle (w : Window) :
        untitled { w with title := titleBytes (titleBytes title) } = untitled w := rfl
    exact ⟨fun h => h, fun _ => KeyedList.map_update htitle _, fun _ => rfl, fun _ _ _ => rfl⟩
  · exact .same rfl rfl rfl

theorem repaints_toplevelResourceDestroy (hW : Coherent none W fe) (ha : fe.surfaces a = some s) :
    Repaints fe (toplevelResourceDestroy fe a) := by
  have hset := Frontend.setSurface_self fe a { s with xdgToplevel := none }
  have hgone := repaints_surfaceUnmap hW ha
  rw [toplevelResourceDestroy, Frontend.onSurface_eq ha]
  -- the role pointer makes no difference to the unmapping
  have hstack := (surfaceUnmap_stack hset).trans (surfaceUnmap_stack ha).symm
  have hblocks := (surfaceUnmap_blocks hset).trans (surfaceUnmap_blocks ha).symm
  have hdirty : (surfaceUnmap (fe.setSurface a { s with xdgToplevel := none }) a).dirty =
      (surfaceUnmap fe a).dirty := by
    rw [surfaceUnmap, Frontend.onSurface_eq hset, surfaceUnmap, Frontend.onSurface_eq ha]
    dsimp only
    split <;> rfl
  exact hgone.trans (.same hstack hblocks hdirty)

theorem repaints_surfaceResourceDestroy (hW : Coherent none W fe) (ha : fe.surfaces a = some s) :
    Repaints fe (surfaceResourceDestroy fe a) := by
  rw [surfaceResourceDestroy, Frontend.onSurface_eq ha]
  exact (repaints_surfaceUnmap hW ha).trans (.same rfl rfl rfl)

theorem repaints_onSurface {f : FeSurface → Frontend}
    (hf : ∀ s, fe.surfaces a = some s → Repaints fe (f s)) : Repaints fe (fe.onSurface a f) := by
  unfold Frontend.onSurface
  cases hs : fe.surfaces a with
  | none => exact .same rfl rfl rfl
  | some s => exact hf s hs

theorem repaints_wlResourceDestroy (hW : Coherent none W fe) (r : Nat) :
    Repaints fe (wlResourceDestroy fe r) := by
  unfold wlResourceDestroy
  cases hr : fe.resources r with
  | none => exact .same rfl rfl rfl
  | some res =>
      obtain ⟨kind, a⟩ := res
      have hdestructor : Repaints fe (destructor fe ⟨kind, a⟩) := by
        cases kind with
        | decoration => exact .same rfl rfl rfl
        | surface =>
            refine repaints_onSurface fun s hs => ?_
            have hgone := repaints_surfaceResourceDestroy hW hs
            rwa [surfaceResourceDestroy, Frontend.onSurface_eq hs] at hgone
        | toplevel =>
            refine repaints_onSurface fun s hs => ?_
            have hgone := repaints_toplevelResourceDestroy hW hs
            rwa [toplevelResourceDestroy, Frontend.onSurface_eq hs] at hgone
        | xdgSurface => exact repaints_onSurface fun s hs => .same rfl rfl rfl
      exact hdestructor.trans (.same rfl rfl rfl)

/-- Whatever a client asks for, the compositor could see the difference only with a repaint. -/
theorem repaints_next (hW : Coherent none W fe) {e : FeEvent} (hen : fe.enabled e)
    (hours : ∀ stack, e ≠ .outside stack) : Repaints fe (fe.next e) := by
  cases e with
  | createSurface memory resource =>
      cases memory <;> cases resource <;> exact .same rfl rfl rfl
  | getXdgSurface r resource =>
      obtain ⟨⟨a, hr⟩, -⟩ := hen
      rw [Frontend.next, Frontend.onResource_eq hr]
      cases resource with
      | none => exact .same rfl rfl rfl
      | some r' => exact repaints_onSurface fun s hs => .same rfl rfl rfl
  | getToplevel r resource =>
      obtain ⟨⟨a, hr⟩, -⟩ := hen
      rw [Frontend.next, Frontend.onResource_eq hr]
      cases resource with
      | none => exact .same rfl rfl rfl
      | some r' => exact repaints_onSurface fun s hs => .same rfl rfl rfl
  | getDecoration r resource =>
      obtain ⟨⟨a, hr⟩, -⟩ := hen
      rw [Frontend.next, Frontend.onResource_eq hr]
      cases resource with
      | none => exact .same rfl rfl rfl
      | some r' => exact repaints_onSurface fun s hs => .same rfl rfl rfl
  | setTitle r title =>
      obtain ⟨a, hr⟩ := hen
      rw [Frontend.next, Frontend.onResource_eq hr]
      refine repaints_onSurface fun s hs => ?_
      have htitled := repaints_tlSetTitle hs title
      rwa [tlSetTitle, Frontend.onSurface_eq hs] at htitled
  | attach r buffer =>
      obtain ⟨a, hr⟩ := hen
      rw [Frontend.next, Frontend.onResource_eq hr]
      exact repaints_onSurface fun s hs => .same rfl rfl rfl
  | frame r callback =>
      obtain ⟨a, hr⟩ := hen
      rw [Frontend.next, Frontend.onResource_eq hr]
      refine repaints_onSurface fun s hs => ?_
      cases callback <;> exact .same rfl rfl rfl
  | commit r shm heap =>
      obtain ⟨⟨a, hr⟩, hnew⟩ := hen
      rw [Frontend.next, Frontend.onResource_eq hr]
      refine repaints_onSurface fun s hs => ?_
      have hcommitted := repaints_surfCommit hW hs shm fun address hheap =>
        hnew address hheap _ s hr hs
      rwa [surfCommit, Frontend.onSurface_eq hs] at hcommitted
  | destroy r => exact repaints_wlResourceDestroy hW r
  | destroyCallback callback => exact .same rfl rfl rfl
  | outside stack => exact (hours stack rfl).elim

end Handlers

end CrystallineLattice.Wayland
