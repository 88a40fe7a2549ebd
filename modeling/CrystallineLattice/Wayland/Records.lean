import CrystallineLattice.Wayland.Agreement
import CrystallineLattice.Wayland.Wallpaper

/-!
# What a step does to the records

Of a record's `wl_surface` and its window, each step of the frontend changes at most
the window of one record: a first frame gives it a new one, and it loses its window by
a commit without a buffer, with its toplevel, or with itself.
-/

namespace CrystallineLattice.Wayland

open CrystallineLattice.Foundation
open CrystallineLattice.Stack
open Frontend (SameObjects)

namespace Frontend

def Named (fe : Frontend) : Prop :=
  ∀ a s, fe.surfaces a = some s → fe.resources s.surface = some ⟨.surface, a⟩

/-- The commit takes an attached null buffer, which unmaps the surface. -/
def TakesNull (s : FeSurface) : Prop :=
  (s.xdgSurface = none ∨ s.initialConfigured = true) ∧ s.attached = true ∧ s.pendingBuffer = none

instance (s : FeSurface) : Decidable (TakesNull s) :=
  inferInstanceAs (Decidable ((s.xdgSurface = none ∨ s.initialConfigured = true) ∧
    s.attached = true ∧ s.pendingBuffer = none))

/-- The record that is unmapped by the event, which leaves its `wl_surface` alive. -/
def unmapped (fe : Frontend) : FeEvent → Option Nat
  | .commit r _ _ => (fe.resources r).bind fun res => (fe.surfaces res.data).bind fun s =>
      if TakesNull s then some res.data else none
  | .destroy r => (fe.resources r).bind fun res =>
      if res.kind = .toplevel then some res.data else none
  | _ => none

structure Retains (fe fe' : Frontend) : Prop where
  record : ∀ {a s'}, fe'.surfaces a = some s' → ∃ s, fe.surfaces a = some s ∧
    s'.surface = s.surface ∧ s'.serverId = s.serverId
  resources : ∀ {r a}, fe.resources r = some ⟨.surface, a⟩ → fe'.resources r = some ⟨.surface, a⟩
  nextId : fe'.stack.nextId = fe.stack.nextId
  nextSurface : fe'.nextSurface = fe.nextSurface

/-- A record may have got a new window, and the record `lost` may have none any more. -/
structure Evolves (lost : Option Nat) (fe fe' : Frontend) : Prop where
  record : ∀ {a s'}, fe'.surfaces a = some s' →
    (∃ s, fe.surfaces a = some s ∧ s'.surface = s.surface ∧
      (s'.serverId = s.serverId ∨ s.serverId = 0 ∧ s'.serverId = fe.stack.nextId ∨
        s'.serverId = 0 ∧ lost = some a)) ∨
    a = fe.nextSurface ∧ s'.serverId = 0 ∧ fe'.resources s'.surface = some ⟨.surface, a⟩
  resources : ∀ {r a}, fe.resources r = some ⟨.surface, a⟩ →
    fe'.resources r = some ⟨.surface, a⟩ ∨ fe'.surfaces a = none
  nextSurface : fe.nextSurface ≤ fe'.nextSurface

variable {fe fe' fe'' : Frontend} {a : Nat} {s : FeSurface} {lost : Option Nat}

theorem unmapped_destroy {r : Nat} {res : Resource} (hr : fe.resources r = some res) :
    fe.unmapped (.destroy r) = if res.kind = .toplevel then some res.data else none := by
  rw [unmapped, hr]
  rfl

theorem unmapped_commit {r : Nat} {res : Resource} (hr : fe.resources r = some res)
    (hs : fe.surfaces res.data = some s) (shm : Option ShmBuffer) (heap : Option Nat) :
    fe.unmapped (.commit r shm heap) = if TakesNull s then some res.data else none := by
  rw [unmapped, hr, Option.bind_some, hs]
  rfl

theorem surfaceResourceDestroy_surfaces (fe : Frontend) (a : Nat) :
    (surfaceResourceDestroy fe a).surfaces = Function.update fe.surfaces a none := by
  unfold surfaceResourceDestroy Frontend.onSurface
  cases hs : fe.surfaces a with
  | none => exact (Function.update_eq_self_iff.mpr hs.symm).symm
  | some s =>
      dsimp only
      rw [surfaceUnmap_surfaces hs, Function.update_idem]

theorem surfaceResourceDestroy_resources (fe : Frontend) (a : Nat) :
    (surfaceResourceDestroy fe a).resources = fe.resources := by
  unfold surfaceResourceDestroy Frontend.onSurface
  cases hs : fe.surfaces a with
  | none => rfl
  | some s => exact (SameObjects.surfaceUnmap hs).resources

theorem surfaceResourceDestroy_nextSurface (fe : Frontend) (a : Nat) :
    (surfaceResourceDestroy fe a).nextSurface = fe.nextSurface := by
  unfold surfaceResourceDestroy Frontend.onSurface
  cases hs : fe.surfaces a with
  | none => rfl
  | some s => exact (SameObjects.surfaceUnmap hs).nextSurface

namespace Retains

theorem same (hsurfaces : fe'.surfaces = fe.surfaces) (hresources : fe'.resources = fe.resources)
    (hid : fe'.stack.nextId = fe.stack.nextId) (hnext : fe'.nextSurface = fe.nextSurface) :
    Retains fe fe' where
  record {a s'} h := ⟨s', by rw [← hsurfaces]; exact h, rfl, rfl⟩
  resources h := by rw [hresources]; exact h
  nextId := hid
  nextSurface := hnext

theorem refl (fe : Frontend) : Retains fe fe := same rfl rfl rfl rfl

theorem trans (h : Retains fe fe') (h' : Retains fe' fe'') : Retains fe fe'' where
  record hs := by
    obtain ⟨s', hs', hsurface', hid'⟩ := h'.record hs
    obtain ⟨s, hs, hsurface, hid⟩ := h.record hs'
    exact ⟨s, hs, hsurface'.trans hsurface, hid'.trans hid⟩
  resources hr := h'.resources (h.resources hr)
  nextId := h'.nextId.trans h.nextId
  nextSurface := h'.nextSurface.trans h.nextSurface

theorem overwrite (ha : fe.surfaces a = some s) {s' : FeSurface}
    (hsurfaces : fe'.surfaces = Function.update fe.surfaces a (some s'))
    (hsurface : s'.surface = s.surface) (hid : s'.serverId = s.serverId)
    (hresources : fe'.resources = fe.resources) (hstack : fe'.stack.nextId = fe.stack.nextId)
    (hnext : fe'.nextSurface = fe.nextSurface) : Retains fe fe' where
  record {a' v} h := by
    rw [hsurfaces] at h
    rcases PartialMap.found_of_store h with ⟨rfl, rfl⟩ | ⟨-, hold⟩
    · exact ⟨s, ha, hsurface, hid⟩
    · exact ⟨v, hold, rfl, rfl⟩
  resources h := by rw [hresources]; exact h
  nextId := hstack
  nextSurface := hnext

theorem setSurface (ha : fe.surfaces a = some s) (s' : FeSurface)
    (hsurface : s'.surface = s.surface) (hid : s'.serverId = s.serverId) :
    Retains fe (fe.setSurface a s') :=
  overwrite ha rfl hsurface hid rfl rfl rfl

theorem giveRole (ha : fe.surfaces a = some s) (s' : FeSurface) (hsurface : s'.surface = s.surface)
    (hid : s'.serverId = s.serverId) {r : Nat} (hr : fe.resources r = none) (kind : Kind) :
    Retains fe ((fe.setSurface a s').addResource r kind a) where
  record := (setSurface ha s' hsurface hid).record
  resources {r' a'} hr' := by
    refine PartialMap.found_of_ne (fun heq => ?_) _ hr'
    rw [heq, hr] at hr'
    cases hr'
  nextId := rfl
  nextSurface := rfl

theorem evolves (h : Retains fe fe') : Evolves lost fe fe' where
  record hs := by
    obtain ⟨s, hold, hsurface, hid⟩ := h.record hs
    exact .inl ⟨s, hold, hsurface, .inl hid⟩
  resources hr := .inl (h.resources hr)
  nextSurface := h.nextSurface.ge

theorem copyShmBuffer (ha : fe.surfaces a = some s) (shmb : ShmBuffer) (heap : Option Nat) :
    Retains fe (copyShmBuffer fe a shmb heap) := by
  rw [Wayland.copyShmBuffer, onSurface_eq ha]
  split
  · exact refl fe
  · split
    · cases heap with
      | none => exact refl fe
      | some address => exact overwrite ha rfl rfl rfl rfl rfl rfl
    · cases s.content with
      | block address => exact same rfl rfl rfl rfl
      | null => exact refl fe
      | mapping base => exact refl fe

theorem sendConfigures (fe : Frontend) (xdgSurface : Nat) (xdgToplevel : Option Nat) :
    Retains fe (sendConfigures fe xdgSurface xdgToplevel) := by
  cases xdgToplevel <;> exact same rfl rfl rfl rfl

theorem tlSetTitle (ha : fe.surfaces a = some s) (title : List UInt8) :
    Retains fe (tlSetTitle fe a title) := by
  rw [Wayland.tlSetTitle, onSurface_eq ha]
  dsimp only
  split
  · exact overwrite ha rfl rfl rfl rfl rfl rfl
  · exact overwrite ha rfl rfl rfl rfl rfl rfl

end Retains

namespace Evolves

theorem same (hsurfaces : fe'.surfaces = fe.surfaces) (hresources : fe'.resources = fe.resources)
    (hnext : fe'.nextSurface = fe.nextSurface) : Evolves lost fe fe' where
  record {a s'} h := .inl ⟨s', by rw [← hsurfaces]; exact h, rfl, .inl rfl⟩
  resources h := by
    rw [hresources]
    exact .inl h
  nextSurface := hnext.ge

theorem after (h' : Evolves lost fe' fe'') (h : Retains fe fe') : Evolves lost fe fe'' where
  record hs := by
    rcases h'.record hs with ⟨s', hs', hsurface', hid'⟩ | ⟨hnew, hid, hname⟩
    · obtain ⟨s, hs, hsurface, hid⟩ := h.record hs'
      rw [hid, h.nextId] at hid'
      exact .inl ⟨s, hs, hsurface'.trans hsurface, hid'⟩
    · exact .inr ⟨hnew.trans h.nextSurface, hid, hname⟩
  resources hr := h'.resources (h.resources hr)
  nextSurface := h.nextSurface.ge.trans h'.nextSurface

theorem surfaceUnmap (ha : fe.surfaces a = some s) :
    Evolves (some a) fe (surfaceUnmap fe a) where
  record {a' v} h := by
    rw [surfaceUnmap_surfaces ha] at h
    rcases PartialMap.found_of_store h with ⟨rfl, rfl⟩ | ⟨-, hold⟩
    · exact .inl ⟨s, ha, rfl, .inr (.inr ⟨rfl, rfl⟩)⟩
    · exact .inl ⟨v, hold, rfl, .inl rfl⟩
  resources hr := by
    rw [(SameObjects.surfaceUnmap ha).resources]
    exact .inl hr
  nextSurface := (SameObjects.surfaceUnmap ha).nextSurface.ge

theorem overwrite (ha : fe.surfaces a = some s) {s' : FeSurface}
    (hsurfaces : fe'.surfaces = Function.update fe.surfaces a (some s'))
    (hsurface : s'.surface = s.surface) (hid : s.serverId = 0)
    (hnew : s'.serverId = fe.stack.nextId) (hresources : fe'.resources = fe.resources)
    (hnext : fe'.nextSurface = fe.nextSurface) : Evolves lost fe fe' where
  record {a' v} h := by
    rw [hsurfaces] at h
    rcases PartialMap.found_of_store h with ⟨rfl, rfl⟩ | ⟨-, hold⟩
    · exact .inl ⟨s, ha, hsurface, .inr (.inl ⟨hid, hnew⟩)⟩
    · exact .inl ⟨v, hold, rfl, .inl rfl⟩
  resources hr := by
    rw [hresources]
    exact .inl hr
  nextSurface := hnext.ge

theorem remove (hsurfaces : fe'.surfaces = Function.update fe.surfaces a none)
    (hresources : ∀ r a', a' ≠ a → fe.resources r = some ⟨.surface, a'⟩ →
      fe'.resources r = some ⟨.surface, a'⟩)
    (hnext : fe'.nextSurface = fe.nextSurface) : Evolves lost fe fe' where
  record {a' v} hv := by
    rw [hsurfaces] at hv
    exact .inl ⟨v, (PartialMap.found_of_erase hv).2, rfl, .inl rfl⟩
  resources {r a'} hr := by
    by_cases heq : a' = a
    · rw [hsurfaces, heq, Function.update_self]
      exact .inr rfl
    · exact .inl (hresources r a' heq hr)
  nextSurface := hnext.ge

theorem onSurface {f : FeSurface → Frontend}
    (hf : ∀ s, fe.surfaces a = some s → Evolves lost fe (f s)) :
    Evolves lost fe (fe.onSurface a f) := by
  unfold Frontend.onSurface
  cases hs : fe.surfaces a with
  | none => exact same rfl rfl rfl
  | some s => exact hf s hs

theorem surfaceMapOrUpdate (ha : fe.surfaces a = some s) :
    Evolves lost fe (surfaceMapOrUpdate fe a) := by
  rw [Wayland.surfaceMapOrUpdate, onSurface_eq ha]
  by_cases hid : s.serverId = 0
  · rw [if_neg (not_not.mpr hid)]
    rcases createFor_cases fe s with ⟨heq, -⟩ | ⟨-, heq⟩
    · simp only [heq, if_true]
      exact same rfl rfl rfl
    · simp only [heq]
      split
      · exact same rfl rfl rfl
      · exact overwrite ha rfl rfl hid rfl rfl rfl
  · rw [if_pos hid]
    exact same rfl rfl rfl

theorem commitBuffer (ha : fe.surfaces a = some s) (buffer : Nat) (shm : Option ShmBuffer)
    (heap : Option Nat) : Evolves lost fe (commitBuffer fe a buffer shm heap) := by
  cases shm with
  | none => exact same rfl rfl rfl
  | some shmb =>
      have hcopy : Retains fe ((copyShmBuffer fe a shmb heap).send (.release buffer)) :=
        (Retains.copyShmBuffer ha shmb heap).trans (.same rfl rfl rfl rfl)
      have hsame := SameObjects.copyShmBuffer ha shmb heap
      obtain ⟨s', hs'⟩ := hsame.isSome ha
      have hsent : ((copyShmBuffer fe a shmb heap).send (.release buffer)).surfaces a = some s' :=
        hs'
      simp only [Wayland.commitBuffer, onSurface_eq hsent]
      split
      · exact (surfaceMapOrUpdate hsent).after hcopy
      · exact hcopy.evolves

theorem fireFrameCallbacks (h : Evolves lost fe fe') :
    Evolves lost fe (fireFrameCallbacks fe') :=
  ⟨h.record, h.resources, h.nextSurface⟩

theorem surfCommit (ha : fe.surfaces a = some s) (shm : Option ShmBuffer) (heap : Option Nat) :
    Evolves (if TakesNull s then some a else none) fe (surfCommit fe a shm heap) := by
  generalize hlost : (if TakesNull s then some a else none) = lost
  rw [Wayland.surfCommit, onSurface_eq ha]
  split
  · rename_i xdgSurface _ _
    have hsend := Retains.sendConfigures fe xdgSurface s.xdgToplevel
    have hsent : (sendConfigures fe xdgSurface s.xdgToplevel).surfaces a = some s := by
      cases s.xdgToplevel <;> exact ha
    exact Retains.evolves (hsend.trans (.setSurface hsent _ rfl rfl))
  · rename_i hready
    have hready : s.xdgSurface = none ∨ s.initialConfigured = true := by
      cases hx : s.xdgSurface with
      | none => exact .inl rfl
      | some x =>
          refine .inr (Bool.eq_true_of_not_eq_false fun hfresh => ?_)
          exact hready x hx hfresh
    split
    · rename_i hattached
      have htaken : Retains fe
          (fe.setSurface a { s with attached := false, pendingBuffer := none }) :=
        .overwrite ha rfl rfl rfl rfl rfl rfl
      dsimp only
      cases hpending : s.pendingBuffer with
      | none =>
          rw [if_pos ⟨hready, hattached, hpending⟩] at hlost
          rw [← hlost]
          exact ((surfaceUnmap (setSurface_self ..)).after htaken).fireFrameCallbacks
      | some buffer =>
          refine fireFrameCallbacks (after ?_ htaken)
          exact commitBuffer (setSurface_self ..) buffer shm heap
    · exact same rfl rfl rfl

theorem toplevelResourceDestroy (ha : fe.surfaces a = some s) :
    Evolves (some a) fe (toplevelResourceDestroy fe a) := by
  rw [Wayland.toplevelResourceDestroy, onSurface_eq ha]
  exact (surfaceUnmap (setSurface_self ..)).after (.overwrite ha rfl rfl rfl rfl rfl rfl)

theorem delete (h : Evolves lost fe fe') (hsame : fe'.resources = fe.resources) {r : Nat}
    {res : Resource} (hr : fe.resources r = some res) (hkind : res.kind ≠ .surface) :
    Evolves lost fe { fe' with resources := Function.update fe'.resources r none } where
  record hs := by
    rcases h.record hs with hold | ⟨hnew, hid, hname⟩
    · exact .inl hold
    · refine .inr ⟨hnew, hid, PartialMap.found_of_ne (fun heq => ?_) _ hname⟩
      rw [hsame, heq, hr] at hname
      exact hkind (congrArg Resource.kind (Option.some.inj hname))
  resources {r' a'} hr' := by
    refine (h.resources hr').imp_left fun hkept => PartialMap.found_of_ne (fun heq => ?_) _ hkept
    rw [heq, hr] at hr'
    exact hkind (congrArg Resource.kind (Option.some.inj hr'))
  nextSurface := h.nextSurface

theorem deleteSurface (fe : Frontend) {r a : Nat} (hr : fe.resources r = some ⟨.surface, a⟩) :
    Evolves lost fe { surfaceResourceDestroy fe a with
      resources := Function.update (surfaceResourceDestroy fe a).resources r none } := by
  refine remove (surfaceResourceDestroy_surfaces fe a) (fun r' a' hne hr' => ?_)
    (surfaceResourceDestroy_nextSurface fe a)
  show Function.update (surfaceResourceDestroy fe a).resources r none r' = _
  rw [surfaceResourceDestroy_resources]
  refine PartialMap.found_of_ne (fun heq => hne ?_) _ hr'
  rw [heq, hr] at hr'
  exact (congrArg Resource.data (Option.some.inj hr')).symm

theorem wlResourceDestroy (fe : Frontend) (r : Nat) :
    Evolves (fe.unmapped (.destroy r)) fe (wlResourceDestroy fe r) := by
  unfold Wayland.wlResourceDestroy
  cases hr : fe.resources r with
  | none => exact same rfl rfl rfl
  | some res =>
      obtain ⟨kind, a⟩ := res
      rw [unmapped_destroy hr]
      have hsame {f : FeSurface → Frontend}
          (hf : ∀ s, fe.surfaces a = some s → (f s).resources = fe.resources) :
          (fe.onSurface a f).resources = fe.resources := by
        unfold Frontend.onSurface
        cases hs : fe.surfaces a with
        | none => rfl
        | some s => exact hf s hs
      cases kind with
      | decoration => exact (same rfl rfl rfl : Evolves _ fe fe).delete rfl hr (by simp)
      | xdgSurface =>
          have hset : Evolves none fe (xdgSurfaceResourceDestroy fe a) :=
            onSurface fun s hs => Retains.evolves (.setSurface hs _ rfl rfl)
          exact hset.delete (hsame fun s hs => rfl) hr (by simp)
      | toplevel =>
          refine delete (onSurface fun s hs => ?_) (hsame fun s hs => ?_) hr (by simp)
          · have h := toplevelResourceDestroy hs
            rw [Wayland.toplevelResourceDestroy, onSurface_eq hs] at h
            exact h
          · have h := (SameObjects.toplevelResourceDestroy hs).resources
            rwa [Wayland.toplevelResourceDestroy, onSurface_eq hs] at h
      | surface => exact deleteSurface fe hr

end Evolves

theorem evolves_next {e : FeEvent} (hen : fe.enabled e) :
    Evolves (fe.unmapped e) fe (fe.next e) := by
  have hresource {r : Nat} {f : Nat → Frontend} {lost : Option Nat}
      (hf : ∀ a, Evolves lost fe (f a)) : Evolves lost fe (fe.onResource r f) := by
    unfold onResource
    cases fe.resources r with
    | none => exact .same rfl rfl rfl
    | some res => exact hf res.data
  cases e with
  | createSurface memory resource =>
      cases memory with
      | false => exact .same rfl rfl rfl
      | true =>
          cases resource with
          | none => exact .same rfl rfl rfl
          | some r =>
              refine ⟨fun {a s'} hs => ?_, fun {r' a} hr' => .inl ?_, Nat.le_succ _⟩
              · rcases PartialMap.found_of_store hs with ⟨rfl, rfl⟩ | ⟨-, hold⟩
                · exact .inr ⟨rfl, rfl, Function.update_self ..⟩
                · exact .inl ⟨s', hold, rfl, .inl rfl⟩
              · refine PartialMap.found_of_ne (fun heq => ?_) _ hr'
                rw [heq, hen r rfl] at hr'
                cases hr'
  | getXdgSurface r resource =>
      show Evolves none fe (fe.onResource r fun a => wmGetXdgSurface fe a resource)
      refine hresource fun a => ?_
      cases resource with
      | none => exact .same rfl rfl rfl
      | some r' =>
          exact .onSurface fun s hs => (Retains.giveRole hs { s with xdgSurface := some r' } rfl
            rfl (hen.2 r' rfl) _).evolves
  | getToplevel r resource =>
      show Evolves none fe (fe.onResource r fun a => xsGetToplevel fe a resource)
      refine hresource fun a => ?_
      cases resource with
      | none => exact .same rfl rfl rfl
      | some r' =>
          exact .onSurface fun s hs => (Retains.giveRole hs { s with xdgToplevel := some r' } rfl
            rfl (hen.2 r' rfl) _).evolves
  | getDecoration r resource =>
      show Evolves none fe (fe.onResource r fun a => decomgrGet fe a resource)
      refine hresource fun a => ?_
      cases resource with
      | none => exact .same rfl rfl rfl
      | some r' =>
          refine .onSurface fun s hs => Retains.evolves ?_
          have hrole := Retains.giveRole hs { s with decoration := some r' } rfl rfl
            (hen.2 r' rfl) .decoration
          exact hrole.trans (.same rfl rfl rfl rfl)
  | setTitle r title =>
      show Evolves none fe (fe.onResource r fun a => tlSetTitle fe a title)
      refine hresource fun a => .onSurface fun s hs => ?_
      have h := Retains.tlSetTitle hs title
      rw [tlSetTitle, onSurface_eq hs] at h
      exact h.evolves
  | attach r buffer =>
      show Evolves none fe (fe.onResource r fun a => surfAttach fe a buffer)
      exact hresource fun a => .onSurface fun s hs => Retains.evolves (.setSurface hs _ rfl rfl)
  | frame r callback =>
      show Evolves none fe (fe.onResource r fun a => surfFrame fe a callback)
      refine hresource fun a => .onSurface fun s hs => ?_
      cases callback <;> exact .same rfl rfl rfl
  | commit r shm heap =>
      obtain ⟨⟨a, hr⟩, -⟩ := hen
      rw [next, onResource_eq hr]
      cases hs : fe.surfaces a with
      | none =>
          rw [surfCommit, onSurface, hs]
          exact .same rfl rfl rfl
      | some s =>
          rw [unmapped_commit hr hs]
          exact .surfCommit hs shm heap
  | destroy r => exact .wlResourceDestroy fe r
  | destroyCallback callback => exact .same rfl rfl rfl
  | outside stack => exact .same rfl rfl rfl

theorem Named.next (h : fe.Named) {e : FeEvent} (hen : fe.enabled e) : (fe.next e).Named := by
  intro a s' hs'
  have hevolves := evolves_next hen
  rcases hevolves.record hs' with ⟨s, hs, hsurface, -⟩ | ⟨-, -, hname⟩
  · rw [hsurface]
    refine (hevolves.resources (h a s hs)).resolve_right fun hgone => ?_
    cases hs'.symm.trans hgone
  · exact hname

end Frontend

end CrystallineLattice.Wayland
