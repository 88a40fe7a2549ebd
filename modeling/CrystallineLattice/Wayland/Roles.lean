import CrystallineLattice.Wayland.Lifetimes
import Mathlib.Data.Option.Basic

/-!
# The roles of surfaces

Of all that a frontend keeps, the first configure depends on little: which
`xdg_surface` a record has, and whether the record was configured.  A `RoleState`
is that part; it makes a step of its own for each request, and the frontend
follows it.
-/

namespace CrystallineLattice.Wayland

open CrystallineLattice.Foundation
open CrystallineLattice.Stack
open CrystallineLattice.Compositor

structure Role where
  xdgSurface : Option Nat
  configured : Bool
  deriving DecidableEq, Repr

structure RoleState where
  objects : Nat → Option Resource
  roles : Nat → Option Role
  nextSurface : Nat

def RoleState.destroy (S : RoleState) (r : Nat) : RoleState :=
  match S.objects r with
  | some ⟨.surface, a⟩ =>
      { S with
        objects := Function.update S.objects r none
        roles := Function.update S.roles a none }
  | some ⟨.xdgSurface, a⟩ =>
      { S with
        objects := Function.update S.objects r none
        roles := Function.update S.roles a ((S.roles a).map ({ · with xdgSurface := none })) }
  | _ => { S with objects := Function.update S.objects r none }

def RoleState.next (S : RoleState) : FeEvent → RoleState
  | .createSurface true (some r) =>
      { objects := Function.update S.objects r (some ⟨.surface, S.nextSurface⟩)
        roles := Function.update S.roles S.nextSurface (some ⟨none, false⟩)
        nextSurface := S.nextSurface + 1 }
  | .getXdgSurface r (some x) =>
      match S.objects r with
      | some ⟨_, a⟩ =>
          match S.roles a with
          | some role =>
              { S with
                objects := Function.update S.objects x (some ⟨.xdgSurface, a⟩)
                roles := Function.update S.roles a (some { role with xdgSurface := some x }) }
          | none => S
      | none => S
  | .commit r _ _ =>
      match S.objects r with
      | some ⟨_, a⟩ =>
          match S.roles a with
          | some ⟨some x, false⟩ =>
              { S with roles := Function.update S.roles a (some ⟨some x, true⟩) }
          | _ => S
      | none => S
  | .destroy r => S.destroy r
  | _ => S

def FeSurface.role (s : FeSurface) : Role := ⟨s.xdgSurface, s.initialConfigured⟩

def Kind.hasRole : Kind → Bool
  | .surface | .xdgSurface => true
  | .toplevel | .decoration => false

namespace Frontend

def roles (fe : Frontend) : RoleState where
  objects r := (fe.resources r).filter fun res => res.kind.hasRole
  roles a := (fe.surfaces a).map FeSurface.role
  nextSurface := fe.nextSurface

variable {fe fe' : Frontend} {a r : Nat} {s : FeSurface}

theorem roles_roles (ha : fe.surfaces a = some s) : fe.roles.roles a = some s.role := by
  simp [roles, ha]

theorem roles_roles_none (ha : fe.surfaces a = none) : fe.roles.roles a = none := by
  simp [roles, ha]

theorem roles_objects {res : Resource} (hr : fe.resources r = some res)
    (hkind : res.kind.hasRole = true) : fe.roles.objects r = some res := by
  simp [roles, hr, hkind]

theorem roles_objects_eq_some {res : Resource} :
    fe.roles.objects r = some res ↔ fe.resources r = some res ∧ res.kind.hasRole = true := by
  simp [roles, Option.filter_eq_some_iff]

theorem roles_objects_none (hr : fe.resources r = none) : fe.roles.objects r = none := by
  simp [roles, hr]

/-! ## Handlers that leave the roles alone -/

theorem roles_same (hresources : fe'.resources = fe.resources)
    (hnext : fe'.nextSurface = fe.nextSurface) (hsurfaces : fe'.surfaces = fe.surfaces) :
    fe'.roles = fe.roles := by
  simp [roles, hresources, hnext, hsurfaces]

theorem map_role_update (surfaces : Nat → Option FeSurface) (a : Nat) (o : Option FeSurface) :
    (fun a' => (Function.update surfaces a o a').map FeSurface.role) =
      Function.update (fun a' => (surfaces a').map FeSurface.role) a (o.map FeSurface.role) :=
  Function.comp_update (Option.map FeSurface.role) surfaces a o

theorem roles_replace (ha : fe.surfaces a = some s) {s' : FeSurface}
    (hsurfaces : fe'.surfaces = Function.update fe.surfaces a (some s'))
    (hrole : s'.role = s.role) (hresources : fe'.resources = fe.resources)
    (hnext : fe'.nextSurface = fe.nextSurface) : fe'.roles = fe.roles := by
  simp only [roles, hsurfaces, hresources, hnext, map_role_update]
  congr 1
  exact Function.update_eq_self_iff.mpr (by simp [ha, hrole])

theorem roles_surfaceUnmap (ha : fe.surfaces a = some s) :
    (surfaceUnmap fe a).roles = fe.roles := by
  rw [surfaceUnmap, onSurface_eq ha]
  split
  · exact roles_replace ha rfl rfl rfl rfl
  · exact roles_replace ha rfl rfl rfl rfl

theorem roles_copyShmBuffer (ha : fe.surfaces a = some s) (shmb : ShmBuffer)
    (heap : Option Nat) : (copyShmBuffer fe a shmb heap).roles = fe.roles := by
  rw [copyShmBuffer, onSurface_eq ha]
  split
  · rfl
  · split
    · cases heap with
      | none => rfl
      | some address => exact roles_replace ha rfl rfl rfl rfl
    · cases s.content with
      | block address => exact roles_same rfl rfl rfl
      | null => rfl
      | mapping base => rfl

theorem roles_surfaceMapOrUpdate (ha : fe.surfaces a = some s) :
    (surfaceMapOrUpdate fe a).roles = fe.roles := by
  rw [surfaceMapOrUpdate, onSurface_eq ha]
  split
  · exact roles_same rfl rfl rfl
  · generalize createFor fe s = made
    obtain ⟨stack, id⟩ := made
    dsimp only
    split
    · exact roles_same rfl rfl rfl
    · exact roles_replace ha rfl rfl rfl rfl

theorem roles_commitBuffer (ha : fe.surfaces a = some s) (buffer : Nat)
    (shm : Option ShmBuffer) (heap : Option Nat) :
    (commitBuffer fe a buffer shm heap).roles = fe.roles := by
  cases shm with
  | none => exact roles_same rfl rfl rfl
  | some shmb =>
      have hsent : ((copyShmBuffer fe a shmb heap).send (.release buffer)).roles = fe.roles :=
        (roles_same rfl rfl rfl).trans (roles_copyShmBuffer ha shmb heap)
      obtain ⟨s', hs'⟩ := (SameObjects.copyShmBuffer ha shmb heap).isSome ha
      have hs' : ((copyShmBuffer fe a shmb heap).send (.release buffer)).surfaces a = some s' :=
        hs'
      simp only [commitBuffer, onSurface_eq hs']
      split
      · exact (roles_surfaceMapOrUpdate hs').trans hsent
      · exact hsent

theorem roles_tlSetTitle (ha : fe.surfaces a = some s) (title : List UInt8) :
    (tlSetTitle fe a title).roles = fe.roles := by
  rw [tlSetTitle, onSurface_eq ha]
  dsimp only
  split
  · exact roles_replace ha rfl rfl rfl rfl
  · exact roles_replace ha rfl rfl rfl rfl

theorem roles_surfCommit (ha : fe.surfaces a = some s)
    (hready : s.xdgSurface = none ∨ s.initialConfigured = true) (shm : Option ShmBuffer)
    (heap : Option Nat) : (surfCommit fe a shm heap).roles = fe.roles := by
  rw [surfCommit, onSurface_eq ha]
  split
  · rename_i hsurface hconfigured
    simp [hsurface, hconfigured] at hready
  · split
    · have htaken : (fe.setSurface a { s with attached := false, pendingBuffer := none }).roles =
          fe.roles := roles_replace ha rfl rfl rfl rfl
      dsimp only
      cases s.pendingBuffer with
      | none =>
          exact ((roles_same rfl rfl rfl).trans (roles_surfaceUnmap (setSurface_self ..))).trans
            htaken
      | some buffer =>
          exact ((roles_same rfl rfl rfl).trans
            (roles_commitBuffer (setSurface_self ..) buffer shm heap)).trans htaken
    · exact roles_same rfl rfl rfl

/-! ## The frontend follows the roles -/

theorem roles_onSurface {f : FeSurface → Frontend}
    (hf : ∀ s, fe.surfaces a = some s → (f s).roles = fe.roles) :
    (fe.onSurface a f).roles = fe.roles := by
  unfold onSurface
  cases hs : fe.surfaces a with
  | none => exact roles_same rfl rfl rfl
  | some s => exact hf s hs

theorem roles_toplevelResourceDestroy (fe : Frontend) (a : Nat) :
    (toplevelResourceDestroy fe a).roles = fe.roles := by
  apply roles_onSurface
  intro s hs
  exact (roles_surfaceUnmap (setSurface_self ..)).trans (roles_replace hs rfl rfl rfl rfl)

theorem filter_update (resources : Nat → Option Resource) (r : Nat) (o : Option Resource) :
    (fun r' => (Function.update resources r o r').filter fun res => res.kind.hasRole) =
      Function.update (fun r' => (resources r').filter fun res => res.kind.hasRole) r
        (o.filter fun res => res.kind.hasRole) :=
  Function.comp_update (Option.filter fun res : Resource => res.kind.hasRole) resources r o

theorem roles_update {o : Option Resource} (hold : ∀ res ∈ fe.resources r, res.kind.hasRole = false)
    (hnew : ∀ res ∈ o, res.kind.hasRole = false) :
    ({ fe with resources := Function.update fe.resources r o } : Frontend).roles = fe.roles := by
  have hnone {o : Option Resource} (h : ∀ res ∈ o, res.kind.hasRole = false) :
      o.filter (fun res => res.kind.hasRole) = none := by
    simpa [Option.filter_eq_none_iff] using h
  simp only [roles, filter_update, hnone hnew]
  congr 1
  exact Function.update_eq_self_iff.mpr (hnone hold).symm

theorem roles_giveRole (ha : fe.surfaces a = some s) (s' : FeSurface) (hrole : s'.role = s.role)
    (hr : fe.resources r = none) {kind : Kind} (hkind : kind.hasRole = false) :
    ((fe.setSurface a s').addResource r kind a).roles = fe.roles := by
  have hset : (fe.setSurface a s').roles = fe.roles := roles_replace ha rfl hrole rfl rfl
  rw [← hset]
  apply roles_update
  · simp [setSurface, hr]
  · simpa using hkind

theorem roles_setSurface (fe : Frontend) (a : Nat) (s : FeSurface) :
    (fe.setSurface a s).roles =
      { fe.roles with roles := Function.update fe.roles.roles a (some s.role) } := by
  simp only [setSurface, roles, map_role_update, Option.map_some]

theorem roles_addResource (fe : Frontend) (r a : Nat) {kind : Kind} (hkind : kind.hasRole = true) :
    (fe.addResource r kind a).roles =
      { fe.roles with objects := Function.update fe.roles.objects r (some ⟨kind, a⟩) } := by
  simp only [addResource, roles, filter_update]
  rw [Option.filter_some, if_pos hkind]

theorem roles_removeResource (fe : Frontend) (r : Nat) :
    ({ fe with resources := Function.update fe.resources r none } : Frontend).roles =
      { fe.roles with objects := Function.update fe.roles.objects r none } := by
  simp only [roles, filter_update, Option.filter_none]

theorem roles_removeSurface (fe : Frontend) (a : Nat) :
    ({ fe with surfaces := Function.update fe.surfaces a none } : Frontend).roles =
      { fe.roles with roles := Function.update fe.roles.roles a none } := by
  simp only [roles, map_role_update, Option.map_none]

theorem roles_createSurface (fe : Frontend) (memory : Bool) (resource : Option Nat) :
    (fe.next (.createSurface memory resource)).roles =
      fe.roles.next (.createSurface memory resource) := by
  cases memory with
  | false => rfl
  | true =>
      cases resource with
      | none => rfl
      | some r =>
          simp only [next, compCreateSurface, RoleState.next]
          rw [roles_addResource _ _ _ rfl, roles_setSurface]
          rfl

theorem roles_getXdgSurface (hr : fe.resources r = some ⟨.surface, a⟩) (x : Nat) :
    (fe.next (.getXdgSurface r (some x))).roles = fe.roles.next (.getXdgSurface r (some x)) := by
  rw [next, onResource_eq hr, RoleState.next, roles_objects hr rfl]
  dsimp only
  unfold wmGetXdgSurface onSurface
  cases hs : fe.surfaces a with
  | none =>
      rw [roles_roles_none hs]
      exact roles_same rfl rfl rfl
  | some s =>
      rw [roles_roles hs]
      dsimp only
      rw [roles_addResource _ _ _ rfl, roles_setSurface]
      rfl

theorem roles_commit (hr : fe.resources r = some ⟨.surface, a⟩) (shm : Option ShmBuffer)
    (heap : Option Nat) :
    (fe.next (.commit r shm heap)).roles = fe.roles.next (.commit r shm heap) := by
  rw [next, onResource_eq hr, RoleState.next, roles_objects hr rfl]
  dsimp only
  cases hs : fe.surfaces a with
  | none =>
      rw [roles_roles_none hs, surfCommit, onSurface, hs]
      exact roles_same rfl rfl rfl
  | some s =>
      rw [roles_roles hs, FeSurface.role]
      cases hx : s.xdgSurface with
      | none => exact roles_surfCommit hs (.inl hx) shm heap
      | some x =>
          cases hconfigured : s.initialConfigured with
          | true => exact roles_surfCommit hs (.inr hconfigured) shm heap
          | false =>
              have hsend : (sendConfigures fe x s.xdgToplevel).roles = fe.roles := by
                cases s.xdgToplevel <;> exact roles_same rfl rfl rfl
              rw [surfCommit, onSurface_eq hs]
              simp only [hx, hconfigured]
              rw [roles_setSurface, hsend]
              rfl

theorem roles_surfaceResourceDestroy (fe : Frontend) (a : Nat) :
    (surfaceResourceDestroy fe a).roles =
      { fe.roles with roles := Function.update fe.roles.roles a none } := by
  unfold surfaceResourceDestroy onSurface
  cases hs : fe.surfaces a with
  | none =>
      rw [Function.update_eq_self_iff.mpr (roles_roles_none hs).symm]
      exact roles_same rfl rfl rfl
  | some s => rw [roles_removeSurface, roles_surfaceUnmap hs]

theorem roles_xdgSurfaceResourceDestroy (fe : Frontend) (a : Nat) :
    (xdgSurfaceResourceDestroy fe a).roles =
      { fe.roles with
        roles := Function.update fe.roles.roles a
          ((fe.roles.roles a).map ({ · with xdgSurface := none })) } := by
  unfold xdgSurfaceResourceDestroy onSurface
  cases hs : fe.surfaces a with
  | none =>
      rw [roles_roles_none hs, Option.map_none,
        Function.update_eq_self_iff.mpr (roles_roles_none hs).symm]
      exact roles_same rfl rfl rfl
  | some s =>
      dsimp only
      rw [roles_setSurface, roles_roles hs]
      rfl

theorem roles_destroy (fe : Frontend) (r : Nat) :
    (fe.next (.destroy r)).roles = fe.roles.next (.destroy r) := by
  rw [next, wlResourceDestroy, RoleState.next, RoleState.destroy]
  cases hr : fe.resources r with
  | none =>
      rw [roles_objects_none hr]
      dsimp only
      rw [Function.update_eq_self_iff.mpr (roles_objects_none hr).symm]
  | some res =>
      obtain ⟨kind, a⟩ := res
      have hother (hkind : kind.hasRole = false) : fe.roles.objects r = none := by
        simp [roles, hr, hkind]
      cases kind with
      | surface =>
          rw [roles_objects hr rfl]
          dsimp only [destructor]
          rw [roles_removeResource, roles_surfaceResourceDestroy]
      | xdgSurface =>
          rw [roles_objects hr rfl]
          dsimp only [destructor]
          rw [roles_removeResource, roles_xdgSurfaceResourceDestroy]
      | toplevel =>
          rw [hother rfl]
          dsimp only [destructor]
          rw [roles_removeResource, roles_toplevelResourceDestroy]
      | decoration =>
          rw [hother rfl]
          dsimp only [destructor]
          rw [roles_removeResource]

/-- Every step of the frontend is the step of its roles. -/
theorem roles_next {e : FeEvent} (hen : fe.enabled e) : (fe.next e).roles = fe.roles.next e := by
  have hresource {r : Nat} {f : Nat → Frontend} (hf : ∀ a, (f a).roles = fe.roles) :
      (fe.onResource r f).roles = fe.roles := by
    unfold onResource
    cases fe.resources r with
    | none => rfl
    | some res => exact hf res.data
  cases e with
  | createSurface memory resource => exact roles_createSurface fe memory resource
  | getXdgSurface r resource =>
      obtain ⟨⟨a, hr⟩, -⟩ := hen
      cases resource with
      | none =>
          apply hresource
          intro a
          rfl
      | some x => exact roles_getXdgSurface hr x
  | getToplevel r resource =>
      apply hresource
      intro a
      cases resource with
      | none => rfl
      | some x => exact roles_onSurface fun s hs => roles_giveRole hs _ (by rfl) (hen.2 x rfl) rfl
  | getDecoration r resource =>
      apply hresource
      intro a
      cases resource with
      | none => rfl
      | some x =>
          apply roles_onSurface
          intro s hs
          exact (roles_same rfl rfl rfl).trans (roles_giveRole hs _ (by rfl) (hen.2 x rfl) rfl)
  | setTitle r title =>
      apply hresource
      intro a
      cases hs : fe.surfaces a with
      | none => simp [tlSetTitle, onSurface, hs, roles]
      | some s => exact roles_tlSetTitle hs title
  | attach r buffer =>
      apply hresource
      intro a
      exact roles_onSurface fun s hs => roles_replace hs rfl rfl rfl rfl
  | frame r callback =>
      apply hresource
      intro a
      apply roles_onSurface
      intro s hs
      cases callback <;> exact roles_same rfl rfl rfl
  | commit r shm heap =>
      obtain ⟨⟨a, hr⟩, -⟩ := hen
      exact roles_commit hr shm heap
  | destroy r => exact roles_destroy fe r
  | destroyCallback callback => exact roles_same rfl rfl rfl
  | outside stack => exact roles_same rfl rfl rfl

end Frontend

end CrystallineLattice.Wayland
