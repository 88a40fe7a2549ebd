import CrystallineLattice.Foundation.PartialMap
import CrystallineLattice.Foundation.Runs
import CrystallineLattice.Wayland.Model

/-!
# Lifetimes of surface records

A record is the user data of its `wl_surface` and of the role objects made from
it.  Only the destructor of the `wl_surface` frees it, and it leaves the user
data of the role objects as it is.  So a role object outlives its record exactly
when the `wl_surface` is destroyed first.
-/

namespace CrystallineLattice.Wayland

open CrystallineLattice.Foundation
open CrystallineLattice.Stack
open CrystallineLattice.Compositor

/-- An `xdg_surface` or an `xdg_toplevel`: its handlers use the record. -/
def Kind.isRole : Kind → Bool
  | .xdgSurface | .toplevel => true
  | .surface | .decoration => false

def FeEvent.object : FeEvent → Option Nat
  | .getXdgSurface r _ | .getToplevel r _ | .getDecoration r _ | .setTitle r _ | .attach r _
  | .frame r _ | .commit r _ _ | .destroy r => some r
  | .createSurface .. | .destroyCallback _ | .outside _ => none

namespace Frontend

variable {fe fe' fe'' : Frontend} {a : Nat} {s : FeSurface}

theorem onSurface_eq (h : fe.surfaces a = some s) (f : FeSurface → Frontend) :
    fe.onSurface a f = f s := by
  rw [onSurface, h]

theorem onResource_eq {r : Nat} {res : Resource} (h : fe.resources r = some res)
    (f : Nat → Frontend) : fe.onResource r f = f res.data := by
  rw [onResource, h]

@[simp] theorem setSurface_self (fe : Frontend) (a : Nat) (s : FeSurface) :
    (fe.setSurface a s).surfaces a = some s := by
  simp [setSurface]

/-! ## Handlers that neither make nor free an object -/

structure SameObjects (fe fe' : Frontend) : Prop where
  resources : fe'.resources = fe.resources
  nextSurface : fe'.nextSurface = fe.nextSurface
  live : ∀ a, (fe'.surfaces a).isSome = (fe.surfaces a).isSome
  fault : fe'.fault = fe.fault

namespace SameObjects

theorem refl (fe : Frontend) : SameObjects fe fe := ⟨rfl, rfl, fun _ => rfl, rfl⟩

theorem trans (h : SameObjects fe fe') (h' : SameObjects fe' fe'') : SameObjects fe fe'' where
  resources := h'.resources.trans h.resources
  nextSurface := h'.nextSurface.trans h.nextSurface
  live a := (h'.live a).trans (h.live a)
  fault := h'.fault.trans h.fault

theorem isSome (h : SameObjects fe fe') (ha : fe.surfaces a = some s) :
    ∃ s', fe'.surfaces a = some s' :=
  Option.isSome_iff_exists.mp (by rw [h.live, ha]; rfl)

theorem untouched (hresources : fe'.resources = fe.resources)
    (hnext : fe'.nextSurface = fe.nextSurface) (hsurfaces : fe'.surfaces = fe.surfaces)
    (hfault : fe'.fault = fe.fault) : SameObjects fe fe' :=
  ⟨hresources, hnext, fun a => by rw [hsurfaces], hfault⟩

theorem overwrite (ha : fe.surfaces a = some s) {s' : FeSurface}
    (hresources : fe'.resources = fe.resources) (hnext : fe'.nextSurface = fe.nextSurface)
    (hsurfaces : fe'.surfaces = Function.update fe.surfaces a (some s'))
    (hfault : fe'.fault = fe.fault) : SameObjects fe fe' where
  resources := hresources
  nextSurface := hnext
  live a' := by
    rw [hsurfaces]
    by_cases heq : a' = a
    · subst heq
      simp [ha]
    · simp [heq]
  fault := hfault

theorem setSurface (ha : fe.surfaces a = some s) (s' : FeSurface) :
    SameObjects fe (fe.setSurface a s') :=
  overwrite ha rfl rfl rfl rfl

theorem surfaceUnmap (ha : fe.surfaces a = some s) : SameObjects fe (surfaceUnmap fe a) := by
  rw [Wayland.surfaceUnmap, onSurface_eq ha]
  split
  · exact overwrite ha rfl rfl rfl rfl
  · exact overwrite ha rfl rfl rfl rfl

theorem copyShmBuffer (ha : fe.surfaces a = some s) (shmb : ShmBuffer) (heap : Option Nat) :
    SameObjects fe (copyShmBuffer fe a shmb heap) := by
  rw [Wayland.copyShmBuffer, onSurface_eq ha]
  split
  · exact refl fe
  · split
    · cases heap with
      | none => exact refl fe
      | some address => exact overwrite ha rfl rfl rfl rfl
    · cases s.content with
      | block address => exact untouched rfl rfl rfl rfl
      | null => exact refl fe
      | mapping base => exact refl fe

theorem surfaceMapOrUpdate (ha : fe.surfaces a = some s) :
    SameObjects fe (surfaceMapOrUpdate fe a) := by
  rw [Wayland.surfaceMapOrUpdate, onSurface_eq ha]
  by_cases hmapped : s.serverId ≠ 0
  · rw [if_pos hmapped]
    exact untouched rfl rfl rfl rfl
  · rw [if_neg hmapped]
    generalize createFor fe s = made
    obtain ⟨stack, id⟩ := made
    dsimp only
    split
    · exact untouched rfl rfl rfl rfl
    · exact overwrite ha rfl rfl rfl rfl

theorem commitBuffer (ha : fe.surfaces a = some s) (buffer : Nat) (shm : Option ShmBuffer)
    (heap : Option Nat) : SameObjects fe (commitBuffer fe a buffer shm heap) := by
  cases shm with
  | none => exact untouched rfl rfl rfl rfl
  | some shmb =>
      have hsent (m : FeMessage) :
          SameObjects fe ((Wayland.copyShmBuffer fe a shmb heap).send m) :=
        (copyShmBuffer ha shmb heap).trans (untouched rfl rfl rfl rfl)
      obtain ⟨s', hs'⟩ := (hsent (.release buffer)).isSome ha
      simp only [Wayland.commitBuffer, onSurface_eq hs']
      split
      · exact (hsent _).trans (surfaceMapOrUpdate hs')
      · exact hsent _

theorem fireFrameCallbacks (h : SameObjects fe fe') :
    SameObjects fe (fireFrameCallbacks fe') :=
  h.trans (untouched rfl rfl rfl rfl)

theorem sendConfigures (fe : Frontend) (xdgSurface : Nat) (xdgToplevel : Option Nat) :
    SameObjects fe (sendConfigures fe xdgSurface xdgToplevel) := by
  cases xdgToplevel <;> exact untouched rfl rfl rfl rfl

theorem surfCommit (ha : fe.surfaces a = some s) (shm : Option ShmBuffer) (heap : Option Nat) :
    SameObjects fe (surfCommit fe a shm heap) := by
  rw [Wayland.surfCommit, onSurface_eq ha]
  split
  · obtain ⟨s', hs'⟩ := (sendConfigures fe _ s.xdgToplevel).isSome ha
    exact (sendConfigures fe _ _).trans (setSurface hs' _)
  · split
    · have hset := setSurface ha { s with attached := false, pendingBuffer := none }
      dsimp only
      cases s.pendingBuffer with
      | none => exact (hset.trans (surfaceUnmap (setSurface_self ..))).fireFrameCallbacks
      | some buffer =>
          exact (hset.trans (commitBuffer (setSurface_self ..) buffer shm heap)).fireFrameCallbacks
    · exact (refl fe).fireFrameCallbacks

theorem tlSetTitle (ha : fe.surfaces a = some s) (title : List UInt8) :
    SameObjects fe (tlSetTitle fe a title) := by
  rw [Wayland.tlSetTitle, onSurface_eq ha]
  dsimp only
  split
  · exact (setSurface ha _).trans (untouched rfl rfl rfl rfl)
  · exact setSurface ha _

theorem surfAttach (ha : fe.surfaces a = some s) (buffer : Option Nat) :
    SameObjects fe (surfAttach fe a buffer) := by
  rw [Wayland.surfAttach, onSurface_eq ha]
  exact setSurface ha _

theorem surfFrame (ha : fe.surfaces a = some s) (callback : Option Nat) :
    SameObjects fe (surfFrame fe a callback) := by
  unfold Wayland.surfFrame
  rw [onSurface_eq ha]
  cases callback <;> exact untouched rfl rfl rfl rfl

theorem toplevelResourceDestroy (ha : fe.surfaces a = some s) :
    SameObjects fe (toplevelResourceDestroy fe a) := by
  rw [Wayland.toplevelResourceDestroy, onSurface_eq ha]
  exact (setSurface ha _).trans (surfaceUnmap (setSurface_self ..))

theorem xdgSurfaceResourceDestroy (ha : fe.surfaces a = some s) :
    SameObjects fe (xdgSurfaceResourceDestroy fe a) := by
  rw [Wayland.xdgSurfaceResourceDestroy, onSurface_eq ha]
  exact setSurface ha _

end SameObjects

/-! ## The invariant -/

/-- Every object whose handlers use a record has a live one, and a record has one `wl_surface`. -/
structure Tracked (fe : Frontend) : Prop where
  live : ∀ {r res}, fe.resources r = some res → res.kind ≠ .decoration →
    (fe.surfaces res.data).isSome
  owner : ∀ {r r' a}, fe.resources r = some ⟨.surface, a⟩ →
    fe.resources r' = some ⟨.surface, a⟩ → r = r'
  below : ∀ {a}, (fe.surfaces a).isSome → a < fe.nextSurface
  fault : fe.fault = false

namespace Tracked

theorem exists_record (hT : Tracked fe) {r : Nat} {res : Resource}
    (h : fe.resources r = some res) (hkind : res.kind ≠ .decoration) :
    ∃ s, fe.surfaces res.data = some s :=
  Option.isSome_iff_exists.mp (hT.live h hkind)

theorem found (hT : Tracked fe) {kind : Kind} {r : Nat} (hr : fe.Has kind r)
    (hkind : kind ≠ .decoration) :
    ∃ a s, fe.resources r = some ⟨kind, a⟩ ∧ fe.surfaces a = some s := by
  obtain ⟨a, ha⟩ := hr
  obtain ⟨s, hs⟩ := hT.exists_record ha hkind
  exact ⟨a, s, ha, hs⟩

theorem congr (hT : Tracked fe) (h : SameObjects fe fe') : Tracked fe' where
  live hr hkind := by
    rw [h.resources] at hr
    rw [h.live]
    exact hT.live hr hkind
  owner hr hr' := by
    rw [h.resources] at hr hr'
    exact hT.owner hr hr'
  below ha := by
    rw [h.live] at ha
    rw [h.nextSurface]
    exact hT.below ha
  fault := h.fault.trans hT.fault

theorem addResource (hT : Tracked fe) {r : Nat} {kind : Kind} (hkind : kind ≠ .surface)
    (ha : (fe.surfaces a).isSome) : Tracked (fe.addResource r kind a) where
  live hr hne := by
    rcases PartialMap.found_of_store hr with ⟨-, rfl⟩ | ⟨-, hr⟩
    · exact ha
    · exact hT.live hr hne
  owner {r₁ r₂ a'} h₁ h₂ := by
    have hold {r' : Nat} (h : (fe.addResource r kind a).resources r' = some ⟨.surface, a'⟩) :
        fe.resources r' = some ⟨.surface, a'⟩ := by
      rcases PartialMap.found_of_store h with ⟨-, heq⟩ | ⟨-, h⟩
      · cases heq
        exact (hkind rfl).elim
      · exact h
    exact hT.owner (hold h₁) (hold h₂)
  below := hT.below
  fault := hT.fault

theorem create (hT : Tracked fe) {r : Nat} (s : FeSurface) :
    Tracked (({ fe with nextSurface := fe.nextSurface + 1 }.setSurface fe.nextSurface s).addResource
      r .surface fe.nextSurface) where
  live {r' res} hr hne := by
    by_cases hnew : res.data = fe.nextSurface
    · simp [Frontend.addResource, Frontend.setSurface, hnew]
    · have hold : fe.resources r' = some res := by
        rcases PartialMap.found_of_store hr with ⟨-, rfl⟩ | ⟨-, hold⟩
        · exact (hnew rfl).elim
        · exact hold
      have hlive := hT.live hold hne
      simpa [Frontend.addResource, Frontend.setSurface, hnew] using hlive
  owner {r₁ r₂ a'} h₁ h₂ := by
    have hcases {r' : Nat} (h : ((({ fe with nextSurface := fe.nextSurface + 1 } :
        Frontend).setSurface fe.nextSurface s).addResource r .surface fe.nextSurface).resources r' =
          some ⟨.surface, a'⟩) :
        r' = r ∧ a' = fe.nextSurface ∨ fe.resources r' = some ⟨.surface, a'⟩ := by
      rcases PartialMap.found_of_store h with ⟨heq, hres⟩ | ⟨-, h⟩
      · cases hres
        exact .inl ⟨heq, rfl⟩
      · exact .inr h
    have hnew {r' : Nat} (h : fe.resources r' = some ⟨.surface, fe.nextSurface⟩) : False :=
      Nat.lt_irrefl _ (hT.below (hT.live h (by simp)))
    rcases hcases h₁ with ⟨hr₁, heq⟩ | h₁
    · rcases hcases h₂ with ⟨hr₂, -⟩ | h₂
      · exact hr₁.trans hr₂.symm
      · rw [heq] at h₂
        exact (hnew h₂).elim
    · rcases hcases h₂ with ⟨-, heq⟩ | h₂
      · rw [heq] at h₁
        exact (hnew h₁).elim
      · exact hT.owner h₁ h₂
  below {a'} ha := by
    by_cases heq : a' = fe.nextSurface
    · simp [Frontend.addResource, Frontend.setSurface, heq]
    · have hlt : a' < fe.nextSurface :=
        hT.below (by simpa [Frontend.addResource, Frontend.setSurface, heq] using ha)
      simp only [Frontend.addResource, Frontend.setSurface]
      omega
  fault := hT.fault

theorem removeResource (hT : Tracked fe) (r : Nat) :
    Tracked { fe with resources := Function.update fe.resources r none } where
  live hr hne := hT.live (PartialMap.found_of_erase hr).2 hne
  owner h₁ h₂ := hT.owner (PartialMap.found_of_erase h₁).2 (PartialMap.found_of_erase h₂).2
  below := hT.below
  fault := hT.fault

theorem removeRecord (hT : Tracked fe) {r : Nat}
    (hlast : ∀ r' kind, fe.resources r' = some ⟨kind, a⟩ → r' = r ∨ kind = .decoration) :
    Tracked { fe with
      surfaces := Function.update fe.surfaces a none
      resources := Function.update fe.resources r none } where
  live {r' res} hr hne := by
    obtain ⟨hother, hold⟩ := PartialMap.found_of_erase hr
    have hdata : res.data ≠ a := fun hdata => by
      rcases hlast r' res.kind (by rw [hold, ← hdata]) with h | h
      · exact hother h
      · exact hne h
    simpa [hdata] using hT.live hold hne
  owner := (hT.removeResource r).owner
  below {a'} ha := by
    by_cases heq : a' = a
    · simp [heq] at ha
    · exact hT.below (a := a') (by simpa [heq] using ha)
  fault := hT.fault

end Tracked

/-! ## Steps -/

/-- A `wl_surface` is destroyed only when no live role object has its record. -/
def RolesGone (fe : Frontend) : FeEvent → Prop
  | .destroy r => ∀ a, fe.resources r = some ⟨.surface, a⟩ →
      ∀ r' kind, fe.resources r' = some ⟨kind, a⟩ → kind.isRole = false
  | _ => True

/--
The handler of a request, or a destructor, finds the record of its object.  A freed
record may be given to a new `wl_surface`, and a role object left from the old one
then writes to the new one.
-/
def UsesLive (fe : Frontend) (e : FeEvent) : Prop :=
  ∀ r ∈ e.object, ∀ res ∈ fe.resources r, res.kind ≠ .decoration →
    (fe.surfaces res.data).isSome

instance (fe : Frontend) (e : FeEvent) : Decidable (fe.UsesLive e) :=
  inferInstanceAs (Decidable (∀ r ∈ e.object, ∀ res ∈ fe.resources r, res.kind ≠ .decoration →
    (fe.surfaces res.data).isSome))

theorem UsesLive.record {e : FeEvent} {r : Nat} {res : Resource} (hlive : fe.UsesLive e)
    (he : e.object = some r) (hr : fe.resources r = some res) (hkind : res.kind ≠ .decoration) :
    ∃ s, fe.surfaces res.data = some s :=
  Option.isSome_iff_exists.mp (hlive r he res hr hkind)

theorem Tracked.usesLive (hT : Tracked fe) (e : FeEvent) : fe.UsesLive e :=
  fun _ _ _ hr hkind => hT.live hr hkind

theorem Tracked.giveRole (hT : Tracked fe) {r : Nat} {kind : Kind} (hkind : kind ≠ .surface)
    (ha : fe.surfaces a = some s) (s' : FeSurface) :
    Tracked ((fe.setSurface a s').addResource r kind a) :=
  (hT.congr (.setSurface ha s')).addResource hkind (by simp)

theorem Tracked.destroy (hT : Tracked fe) {r : Nat} (hroles : fe.RolesGone (.destroy r)) :
    Tracked (wlResourceDestroy fe r) := by
  unfold wlResourceDestroy
  cases hr : fe.resources r with
  | none => exact hT
  | some res =>
      obtain ⟨kind, a⟩ := res
      cases kind with
      | decoration => exact hT.removeResource r
      | xdgSurface =>
          obtain ⟨s, hs⟩ := hT.exists_record hr (by simp)
          exact (hT.congr (.xdgSurfaceResourceDestroy hs)).removeResource r
      | toplevel =>
          obtain ⟨s, hs⟩ := hT.exists_record hr (by simp)
          exact (hT.congr (.toplevelResourceDestroy hs)).removeResource r
      | surface =>
          obtain ⟨s, hs⟩ := hT.exists_record hr (by simp)
          have hsame := SameObjects.surfaceUnmap hs
          simp only [destructor, surfaceResourceDestroy, onSurface_eq hs]
          refine (hT.congr hsame).removeRecord fun r' kind hr' => ?_
          rw [hsame.resources] at hr'
          have hrole := hroles a hr r' kind hr'
          cases kind with
          | surface => exact .inl (hT.owner hr' hr)
          | decoration => exact .inr rfl
          | xdgSurface => cases hrole
          | toplevel => cases hrole

theorem Tracked.step (hT : Tracked fe) {e : FeEvent} (hen : fe.enabled e)
    (hroles : fe.RolesGone e) : Tracked (fe.next e) := by
  cases e with
  | createSurface memory resource =>
      cases memory with
      | false => exact hT
      | true =>
          cases resource with
          | none => exact hT
          | some r => exact hT.create (.zero r)
  | getXdgSurface r resource =>
      obtain ⟨a, s, hr, hs⟩ := hT.found hen.1 (by simp)
      rw [next, onResource_eq hr]
      cases resource with
      | none => exact hT
      | some r' =>
          rw [wmGetXdgSurface, onSurface_eq hs]
          exact hT.giveRole (by simp) hs _
  | getToplevel r resource =>
      obtain ⟨a, s, hr, hs⟩ := hT.found hen.1 (by simp)
      rw [next, onResource_eq hr]
      cases resource with
      | none => exact hT
      | some r' =>
          rw [xsGetToplevel, onSurface_eq hs]
          exact hT.giveRole (by simp) hs _
  | getDecoration r resource =>
      obtain ⟨a, s, hr, hs⟩ := hT.found hen.1 (by simp)
      rw [next, onResource_eq hr]
      cases resource with
      | none => exact hT
      | some r' =>
          rw [decomgrGet, onSurface_eq hs]
          exact (hT.giveRole (by simp) hs _).congr (.untouched rfl rfl rfl rfl)
  | setTitle r title =>
      obtain ⟨a, s, hr, hs⟩ := hT.found hen (by simp)
      rw [next, onResource_eq hr]
      exact hT.congr (.tlSetTitle hs title)
  | attach r buffer =>
      obtain ⟨a, s, hr, hs⟩ := hT.found hen (by simp)
      rw [next, onResource_eq hr]
      exact hT.congr (.surfAttach hs buffer)
  | frame r callback =>
      obtain ⟨a, s, hr, hs⟩ := hT.found hen (by simp)
      rw [next, onResource_eq hr]
      exact hT.congr (.surfFrame hs callback)
  | commit r shm heap =>
      obtain ⟨a, s, hr, hs⟩ := hT.found hen.1 (by simp)
      rw [next, onResource_eq hr]
      exact hT.congr (.surfCommit hs shm heap)
  | destroy r => exact hT.destroy hroles
  | destroyCallback callback => exact hT.congr (.untouched rfl rfl rfl rfl)
  | outside stack => exact hT.congr (.untouched rfl rfl rfl rfl)

theorem start_tracked (stack : WindowStack) : Tracked (start stack) where
  live h := by cases h
  owner h := by cases h
  below h := by cases h
  fault := rfl

/-! ## The exact condition -/

/-- No role object outlives its record, and no handler has worked on a freed record. -/
structure RolesLive (fe : Frontend) : Prop where
  data : ∀ r res, fe.resources r = some res → res.kind.isRole = true →
    ∃ s, fe.surfaces res.data = some s
  fault : fe.fault = false

theorem Tracked.rolesLive (hT : Tracked fe) : RolesLive fe where
  data r res hr hrole := hT.exists_record hr fun hkind => by
    rw [hkind] at hrole
    cases hrole
  fault := hT.fault

theorem not_rolesLive_of_destroy (hT : Tracked fe) {e : FeEvent}
    (hroles : ¬ fe.RolesGone e) : ¬ RolesLive (fe.next e) := by
  intro hlive
  cases e with
  | destroy r =>
      simp only [RolesGone, not_forall, Bool.not_eq_false] at hroles
      obtain ⟨a, hr, r', kind, hr', hrole⟩ := hroles
      obtain ⟨s, hs⟩ := hT.exists_record hr (by simp)
      have hne : r' ≠ r := by
        rintro rfl
        rw [hr] at hr'
        cases hr'
        cases hrole
      have hnext : fe.next (.destroy r) =
          { surfaceUnmap fe a with
            surfaces := Function.update (surfaceUnmap fe a).surfaces a none
            resources := Function.update (surfaceUnmap fe a).resources r none } := by
        simp only [next, wlResourceDestroy, hr, destructor, surfaceResourceDestroy,
          onSurface_eq hs]
      rw [hnext] at hlive
      obtain ⟨s', hs'⟩ := hlive.data r' ⟨kind, a⟩
        (by simpa [hne, (SameObjects.surfaceUnmap hs).resources] using hr') hrole
      simp at hs'
  | _ => exact hroles trivial

/--
In a run of requests and destructions, in any order, role objects have live
records in every state exactly when each destruction of a `wl_surface` finds no
role object of its record.
-/
theorem roles_live_iff_roles_gone (stack : WindowStack) (es : List FeEvent)
    (hrun : system.Legal (start stack) es) :
    system.Along RolesLive (start stack) es ↔ system.Each RolesGone (start stack) es :=
  System.along_iff_each (fun _ hT => hT.rolesLive) (fun _ _ hT hen hroles => hT.step hen hroles)
    (fun _ _ hT _ hroles => not_rolesLive_of_destroy hT hroles) hrun (start_tracked stack)

/-- Where role objects go before their `wl_surface`, no freed record is used. -/
theorem usesLive_of_rolesGone (stack : WindowStack) (es : List FeEvent)
    (hrun : system.Legal (start stack) es) (hroles : system.Each RolesGone (start stack) es) :
    system.Each UsesLive (start stack) es :=
  System.each_of_invariant (fun _ _ hT h => hT.step h.1 h.2) (fun _ e hT _ => hT.usesLive e)
    (System.each_and hrun hroles) (start_tracked stack)

/-- A toplevel is made, shows a frame of one pixel and is destroyed before its `wl_surface`. -/
def orderlyRun : List FeEvent :=
  [.createSurface true (some 1), .getXdgSurface 1 (some 2), .getToplevel 2 (some 3),
    .commit 1 none none, .attach 1 (some 4), .commit 1 (some ⟨1, 1, 4, fun _ => 0⟩) (some 64),
    .setTitle 3 [65], .destroy 3, .destroy 2, .destroy 1]

theorem roles_live_iff_roles_gone_orderlyRun :
    system.Along RolesLive (start windowStackInit) orderlyRun ↔
      system.Each RolesGone (start windowStackInit) orderlyRun := by
  refine roles_live_iff_roles_gone windowStackInit orderlyRun ?_
  have hnew := @newHandle_of_none
  exact ⟨hnew rfl, ⟨⟨0, rfl⟩, hnew rfl⟩, ⟨⟨0, rfl⟩, hnew rfl⟩, ⟨⟨0, rfl⟩, newBlock_none _ _⟩,
    ⟨0, rfl⟩, ⟨⟨0, rfl⟩, newBlock_of_unused rfl rfl rfl⟩, ⟨0, rfl⟩, ⟨_, rfl⟩, ⟨_, rfl⟩, ⟨_, rfl⟩,
    trivial⟩

/-- A client with a toplevel disconnects: its objects are destroyed in the order of their ids. -/
def disconnectRun : List FeEvent :=
  [.createSurface true (some 1), .getXdgSurface 1 (some 2), .getToplevel 2 (some 3),
    .destroy 1, .destroy 2, .destroy 3]

theorem disconnect_uses_freed_record :
    system.Legal (start windowStackInit) disconnectRun ∧
      ¬ system.Along RolesLive (start windowStackInit) disconnectRun ∧
      (system.exec (start windowStackInit) disconnectRun).fault = true := by
  have hnew := @newHandle_of_none
  refine ⟨⟨hnew rfl, ⟨⟨0, rfl⟩, hnew rfl⟩, ⟨⟨0, rfl⟩, hnew rfl⟩, ⟨_, rfl⟩, ⟨_, rfl⟩, ⟨_, rfl⟩,
    trivial⟩, ?_, rfl⟩
  rintro ⟨-, -, -, -, hlive, -⟩
  obtain ⟨s, hs⟩ := hlive.data 2 ⟨.xdgSurface, 0⟩ rfl rfl
  cases hs

end Frontend

end CrystallineLattice.Wayland
