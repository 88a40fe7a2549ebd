import CrystallineLattice.Wayland.Coherence

/-!
# The desktop

The whole server: the transport, the frontend and the window manager on one
stack, in any interleaving of their events.
-/

namespace CrystallineLattice.Wayland

open CrystallineLattice.Foundation
open CrystallineLattice.Stack
open CrystallineLattice.Compositor
open CrystallineLattice.Native (World)
open Frontend (SameObjects Tracked)

/-! ## The frontend's handlers -/

section Handlers

variable {fe : Frontend} {a : Nat} {s : FeSurface}

theorem leads_commitBuffer (ha : fe.surfaces a = some s) (buffer : Nat) (shm : Option ShmBuffer)
    {heap : Option Nat}
    (hnew : ∀ address ∈ heap, Frontend.free fe.blocks s.content address = none) :
    Leads none none fe (commitBuffer fe a buffer shm heap) := by
  cases shm with
  | none => exact .same rfl rfl rfl rfl
  | some shmb =>
      have hcopy : Leads none (some a) fe ((copyShmBuffer fe a shmb heap).send (.release buffer)) :=
        (leads_copyShmBuffer ha shmb heap hnew).trans (.same rfl rfl rfl rfl)
      obtain ⟨s', hs'⟩ := (SameObjects.copyShmBuffer ha shmb heap).isSome ha
      have hsent : ((copyShmBuffer fe a shmb heap).send (.release buffer)).surfaces a = some s' :=
        hs'
      simp only [commitBuffer, Frontend.onSurface_eq hsent]
      split
      · rename_i hshow
        exact hcopy.trans (leads_surfaceMapOrUpdate hsent hshow.1 hshow.2)
      · rename_i hidle
        exact hcopy.trans (.settle hsent fun _ => hidle)

theorem leads_surfCommit (ha : fe.surfaces a = some s) (shm : Option ShmBuffer)
    {heap : Option Nat}
    (hnew : ∀ address ∈ heap, Frontend.free fe.blocks s.content address = none) :
    Leads none none fe (surfCommit fe a shm heap) := by
  have hfire (u : Frontend) : Leads none none u (fireFrameCallbacks u) := .same rfl rfl rfl rfl
  rw [surfCommit, Frontend.onSurface_eq ha]
  split
  · rename_i xdgSurface _ _
    have hsend : Leads none none fe (sendConfigures fe xdgSurface s.xdgToplevel) := by
      cases s.xdgToplevel <;> exact .same rfl rfl rfl rfl
    have hsent : (sendConfigures fe xdgSurface s.xdgToplevel).surfaces a = some s := by
      cases s.xdgToplevel <;> exact ha
    exact hsend.trans (.keep hsent rfl rfl rfl rfl rfl rfl rfl rfl (.inl rfl))
  · split
    · have htaken : Leads none none fe
          (fe.setSurface a { s with attached := false, pendingBuffer := none }) :=
        .keep ha rfl rfl rfl rfl rfl rfl rfl rfl (.inl rfl)
      dsimp only
      cases s.pendingBuffer with
      | none =>
          have hgone := leads_surfaceUnmap (Frontend.setSurface_self fe a
            { s with attached := false, pendingBuffer := none })
          exact (htaken.trans hgone).trans (hfire _)
      | some buffer =>
          have hcommit := leads_commitBuffer
            (Frontend.setSurface_self fe a { s with attached := false, pendingBuffer := none })
            buffer shm hnew
          exact (htaken.trans hcommit).trans (hfire _)
    · exact hfire fe

theorem leads_tlSetTitle (ha : fe.surfaces a = some s) (title : List UInt8) :
    Leads none none fe (tlSetTitle fe a title) := by
  have htitled : Leads none none fe (fe.setSurface a { s with title := titleBytes title }) :=
    .keep ha rfl rfl rfl rfl rfl rfl rfl rfl (.inl rfl)
  rw [tlSetTitle, Frontend.onSurface_eq ha]
  dsimp only
  split
  · rename_i hid
    refine htitled.trans (.edit (Frontend.setSurface_self ..) hid rfl (fun _ => rfl) (fun _ => rfl)
      (fun _ => rfl) (fun w hd _ => ?_) (fun _ _ _ => by simp) rfl rfl rfl)
    have hd := hd (by simp)
    exact ⟨hd.buf, hd.bufW, hd.bufH, hd.bufStride⟩
  · exact htitled

theorem leads_toplevelResourceDestroy (ha : fe.surfaces a = some s) :
    Leads none none fe (toplevelResourceDestroy fe a) := by
  have hset := Frontend.setSurface_self fe a { s with xdgToplevel := none }
  have hgone : (surfaceUnmap fe a).surfaces a = some s.unmapped := by
    rw [surfaceUnmap_surfaces ha, Function.update_self]
  rw [toplevelResourceDestroy, Frontend.onSurface_eq ha]
  -- the role pointer can as well be cleared after the unmapping
  have hcleared : (surfaceUnmap (fe.setSurface a { s with xdgToplevel := none }) a).surfaces =
      Function.update (surfaceUnmap fe a).surfaces a
        (some { s.unmapped with xdgToplevel := none }) := by
    rw [surfaceUnmap_surfaces hset, surfaceUnmap_surfaces ha]
    simp [Frontend.setSurface, FeSurface.unmapped]
  refine (leads_surfaceUnmap ha).trans
    (.keep hgone hcleared ?_ ?_ ?_ rfl rfl rfl rfl (.inr (.inr rfl)))
  · rw [surfaceUnmap_stack hset, surfaceUnmap_stack ha]
    rfl
  · rw [surfaceUnmap_created hset, surfaceUnmap_created ha]
    rfl
  · rw [surfaceUnmap_blocks hset, surfaceUnmap_blocks ha]
    rfl

theorem leads_surfaceResourceDestroy (ha : fe.surfaces a = some s) :
    Leads none none fe (surfaceResourceDestroy fe a) := by
  have hgone : (surfaceUnmap fe a).surfaces a = some s.unmapped := by
    rw [surfaceUnmap_surfaces ha, Function.update_self]
  rw [surfaceResourceDestroy, Frontend.onSurface_eq ha]
  exact (leads_surfaceUnmap ha).trans (.remove hgone rfl rfl rfl rfl rfl)

theorem leads_onSurface {f : FeSurface → Frontend}
    (hf : ∀ s, fe.surfaces a = some s → Leads none none fe (f s)) :
    Leads none none fe (fe.onSurface a f) := by
  unfold Frontend.onSurface
  cases hs : fe.surfaces a with
  | none => exact .same rfl rfl rfl rfl
  | some s => exact hf s hs

theorem leads_wlResourceDestroy (fe : Frontend) (r : Nat) :
    Leads none none fe (wlResourceDestroy fe r) := by
  unfold wlResourceDestroy
  cases hr : fe.resources r with
  | none => exact .same rfl rfl rfl rfl
  | some res =>
      obtain ⟨kind, a⟩ := res
      have hdestructor : Leads none none fe (destructor fe ⟨kind, a⟩) := by
        cases kind with
        | decoration => exact .same rfl rfl rfl rfl
        | surface =>
            refine leads_onSurface fun s hs => ?_
            have hleads := leads_surfaceResourceDestroy hs
            rwa [surfaceResourceDestroy, Frontend.onSurface_eq hs] at hleads
        | toplevel =>
            refine leads_onSurface fun s hs => ?_
            have hleads := leads_toplevelResourceDestroy hs
            rwa [toplevelResourceDestroy, Frontend.onSurface_eq hs] at hleads
        | xdgSurface =>
            exact leads_onSurface fun s hs => .keep hs rfl rfl rfl rfl rfl rfl rfl rfl (.inl rfl)
      exact hdestructor.trans (.same rfl rfl rfl rfl)

theorem leads_next (hbelow : ∀ {a}, (fe.surfaces a).isSome → a < fe.nextSurface) {e : FeEvent}
    (hen : fe.enabled e) (hours : ∀ stack, e ≠ .outside stack) :
    Leads none none fe (fe.next e) := by
  have hidle {u : Frontend} : Leads none none u u := .same rfl rfl rfl rfl
  cases e with
  | createSurface memory resource =>
      cases memory with
      | false => exact hidle
      | true =>
          cases resource with
          | none => exact hidle
          | some r =>
              have hnone : fe.surfaces fe.nextSurface = none := by
                by_contra hne
                exact Nat.lt_irrefl _ (hbelow (Option.isSome_iff_ne_none.mpr hne))
              exact .add hnone rfl rfl rfl rfl rfl rfl rfl rfl
  | getXdgSurface r resource =>
      obtain ⟨⟨a, hr⟩, -⟩ := hen
      rw [Frontend.next, Frontend.onResource_eq hr]
      cases resource with
      | none => exact hidle
      | some r' =>
          exact leads_onSurface fun s hs => .keep hs rfl rfl rfl rfl rfl rfl rfl rfl (.inl rfl)
  | getToplevel r resource =>
      obtain ⟨⟨a, hr⟩, -⟩ := hen
      rw [Frontend.next, Frontend.onResource_eq hr]
      cases resource with
      | none => exact hidle
      | some r' =>
          exact leads_onSurface fun s hs =>
            .keep hs rfl rfl rfl rfl rfl rfl rfl rfl (.inr (.inl (by simp)))
  | getDecoration r resource =>
      obtain ⟨⟨a, hr⟩, -⟩ := hen
      rw [Frontend.next, Frontend.onResource_eq hr]
      cases resource with
      | none => exact hidle
      | some r' =>
          exact leads_onSurface fun s hs => .keep hs rfl rfl rfl rfl rfl rfl rfl rfl (.inl rfl)
  | setTitle r title =>
      obtain ⟨a, hr⟩ := hen
      rw [Frontend.next, Frontend.onResource_eq hr]
      refine leads_onSurface fun s hs => ?_
      have hleads := leads_tlSetTitle hs title
      rwa [tlSetTitle, Frontend.onSurface_eq hs] at hleads
  | attach r buffer =>
      obtain ⟨a, hr⟩ := hen
      rw [Frontend.next, Frontend.onResource_eq hr]
      exact leads_onSurface fun s hs => .keep hs rfl rfl rfl rfl rfl rfl rfl rfl (.inl rfl)
  | frame r callback =>
      obtain ⟨a, hr⟩ := hen
      rw [Frontend.next, Frontend.onResource_eq hr]
      refine leads_onSurface fun s hs => ?_
      cases callback <;> exact .same rfl rfl rfl rfl
  | commit r shm heap =>
      obtain ⟨⟨a, hr⟩, hnew⟩ := hen
      rw [Frontend.next, Frontend.onResource_eq hr]
      refine leads_onSurface fun s hs => ?_
      have hleads := leads_surfCommit hs shm fun address hheap => hnew address hheap _ s hr hs
      rwa [surfCommit, Frontend.onSurface_eq hs] at hleads
  | destroy r => exact leads_wlResourceDestroy fe r
  | destroyCallback callback => exact .same rfl rfl rfl rfl
  | outside stack => exact (hours stack rfl).elim

end Handlers

/-! ## The desktop -/

structure Desktop where
  world : World
  fe : Frontend
  shared : fe.stack = world.t.stack

/-- An event of the transport or the window manager, or one of the frontend. -/
inductive DesktopEvent where
  | outside (e : Native.Event)
  | wayland (e : FeEvent)

namespace Desktop

def start (sw sh : Int) : Desktop := ⟨.start sw sh, .start windowStackInit, rfl⟩

def next (D : Desktop) : DesktopEvent → Desktop
  | .outside e => ⟨D.world.next e, D.fe.next (.outside (D.world.next e).t.stack), rfl⟩
  | .wayland e => ⟨follow D.world D.fe (D.fe.next e), D.fe.next e, rfl⟩

/--
The window manager moves and stacks windows, and clients destroy role objects
before their surfaces.
-/
def enabled (D : Desktop) : DesktopEvent → Prop
  | .outside e => D.world.enabled e ∧ e.Gentle
  | .wayland e => D.fe.enabled e ∧ D.fe.RolesGone e ∧ ∀ stack, e ≠ .outside stack

def system : System Desktop DesktopEvent := ⟨enabled, next⟩

def Within (D : Desktop) : Prop := D.world.Within

instance (D : Desktop) : Decidable D.Within := inferInstanceAs (Decidable D.world.Within)

structure Inv (D : Desktop) : Prop where
  coherent : Coherent none D.world D.fe
  tracked : Tracked D.fe

variable {D : Desktop}

theorem Within.mono {e : DesktopEvent} (h : (D.next e).Within) : D.Within := by
  cases e with
  | outside e => exact World.Within.mono h
  | wayland e => exact within_of_follow h

theorem Inv.step (hD : D.Inv) {e : DesktopEvent} (hen : D.enabled e)
    (hwithin : (D.next e).Within) : (D.next e).Inv := by
  cases e with
  | outside e =>
      have hworld := hD.coherent.world.step hen.1 hwithin
      have huntouched := hD.coherent.world.untouched hen.1 hen.2 hwithin
      have hforeign := (World.next_extends D.world e).2
      rw [← D.shared] at huntouched
      refine ⟨⟨rfl, hworld, hD.coherent.contents, ?_⟩, ?_⟩
      · exact hD.coherent.shown.restack huntouched fun id hid => hforeign.subset hid
      · exact hD.tracked.congr (.untouched rfl rfl rfl rfl)
  | wayland e =>
      exact ⟨(leads_next hD.tracked.below hen.1 hen.2.2).coherent hD.coherent hwithin,
        hD.tracked.step hen.1 hen.2.1⟩

theorem start_inv (sw sh : Int) : (start sw sh).Inv where
  coherent := {
    stack := rfl
    world := World.start_inv sw sh
    contents := ⟨(fun h => nomatch h), (fun h => nomatch h)⟩
    shown := {
      mapped := fun h => nomatch h
      apart := fun h => nomatch h
      heap := fun h => nomatch h
      created := fun h => nomatch h } }
  tracked := Frontend.start_tracked _

end Desktop

end CrystallineLattice.Wayland
