import CrystallineLattice.Wayland.Lifetimes
import Mathlib.Data.Finset.Erase
import Mathlib.Data.Finset.Insert

/-!
# The lifetimes of client buffers

A surface remembers the buffer that was attached to it until a commit takes it.
The buffer is an object of the client, which may destroy it in between.  Buffers
are named by the order of their creation, so that a name stands for one buffer.
-/

namespace CrystallineLattice.Wayland

open CrystallineLattice.Foundation
open CrystallineLattice.Stack

def FeSurface.pending (s : FeSurface) : Option Nat := if s.attached then s.pendingBuffer else none

/-- The buffer that a commit takes: none at the commit that is answered by the first configure. -/
def FeSurface.takenBuffer (s : FeSurface) : Option Nat :=
  match s.xdgSurface, s.initialConfigured with
  | some _, false => none
  | _, _ => s.pending

theorem FeSurface.pending_of_taken {s : FeSurface} {buffer : Nat}
    (h : s.takenBuffer = some buffer) : s.pending = some buffer := by
  unfold FeSurface.takenBuffer at h
  split at h
  · cases h
  · exact h

namespace Frontend

def Pending (fe : Frontend) (buffer : Nat) : Prop :=
  ∃ a s, fe.surfaces a = some s ∧ s.pending = some buffer

def Settles (fe fe' : Frontend) : Prop := ∀ buffer, fe'.Pending buffer → fe.Pending buffer

namespace Settles

variable {fe fe' fe'' : Frontend} {a : Nat} {s : FeSurface}

theorem same (h : fe'.surfaces = fe.surfaces) : Settles fe fe' := fun buffer => by
  rw [Pending, h]
  exact id

theorem refl (fe : Frontend) : Settles fe fe := same rfl

theorem trans (h : Settles fe fe') (h' : Settles fe' fe'') : Settles fe fe'' :=
  fun buffer hpending => h buffer (h' buffer hpending)

theorem replace (ha : fe.surfaces a = some s) {s' : FeSurface}
    (hsurfaces : fe'.surfaces = Function.update fe.surfaces a (some s'))
    (hpending : s'.pending = s.pending ∨ s'.pending = none) : Settles fe fe' := by
  rintro buffer ⟨a', t, ht, hbuffer⟩
  rw [hsurfaces] at ht
  by_cases heq : a' = a
  · subst heq
    rw [Function.update_self] at ht
    cases ht
    rcases hpending with hsame | hnone
    · exact ⟨a', s, ha, hsame ▸ hbuffer⟩
    · cases hnone.symm.trans hbuffer
  · rw [Function.update_of_ne heq] at ht
    exact ⟨a', t, ht, hbuffer⟩

theorem onSurface {f : FeSurface → Frontend}
    (h : ∀ s, fe.surfaces a = some s → Settles fe (f s)) : Settles fe (fe.onSurface a f) := by
  unfold Frontend.onSurface
  cases ha : fe.surfaces a with
  | none => exact same rfl
  | some s => exact h s ha

theorem onResource {r : Nat} {f : Nat → Frontend} (h : ∀ a, Settles fe (f a)) :
    Settles fe (fe.onResource r f) := by
  unfold Frontend.onResource
  cases fe.resources r with
  | none => exact refl fe
  | some res => exact h res.data

theorem surfaceUnmap (fe : Frontend) (a : Nat) : Settles fe (surfaceUnmap fe a) :=
  onSurface fun s ha => by
    dsimp only
    split
    · exact replace ha rfl (.inl rfl)
    · exact replace ha rfl (.inl rfl)

theorem copyShmBuffer (fe : Frontend) (a : Nat) (shmb : ShmBuffer) (heap : Option Nat) :
    Settles fe (copyShmBuffer fe a shmb heap) :=
  onSurface fun s ha => by
    split
    · exact refl fe
    · split
      · cases heap with
        | none => exact refl fe
        | some address => exact replace ha rfl (.inl rfl)
      · cases s.content with
        | block address => exact same rfl
        | null => exact refl fe
        | mapping base => exact refl fe

theorem surfaceMapOrUpdate (fe : Frontend) (a : Nat) : Settles fe (surfaceMapOrUpdate fe a) :=
  onSurface fun s ha => by
    split
    · exact same rfl
    · generalize createFor fe s = made
      obtain ⟨stack, id⟩ := made
      dsimp only
      split
      · exact same rfl
      · exact replace ha rfl (.inl rfl)

theorem commitBuffer (fe : Frontend) (a buffer : Nat) (shm : Option ShmBuffer)
    (heap : Option Nat) : Settles fe (commitBuffer fe a buffer shm heap) := by
  cases shm with
  | none => exact same rfl
  | some shmb =>
      have hsent : Settles fe ((Wayland.copyShmBuffer fe a shmb heap).send (.release buffer)) :=
        (copyShmBuffer fe a shmb heap).trans (same rfl)
      refine hsent.trans (onSurface fun s _ => ?_)
      split
      · exact surfaceMapOrUpdate _ a
      · exact refl _

theorem surfCommit (fe : Frontend) (a : Nat) (shm : Option ShmBuffer) (heap : Option Nat) :
    Settles fe (surfCommit fe a shm heap) :=
  onSurface fun s ha => by
    split
    · unfold sendConfigures
      cases s.xdgToplevel <;> exact replace ha rfl (.inl rfl)
    · split
      · have htaken : Settles fe
            (fe.setSurface a { s with attached := false, pendingBuffer := none }) :=
          replace ha rfl (.inr rfl)
        cases s.pendingBuffer with
        | none => exact (htaken.trans (surfaceUnmap _ a)).trans (same rfl)
        | some buffer => exact (htaken.trans (commitBuffer _ a buffer shm heap)).trans (same rfl)
      · exact same rfl

theorem surfaceResourceDestroy (fe : Frontend) (a : Nat) :
    Settles fe (surfaceResourceDestroy fe a) :=
  onSurface fun _ _ => by
    refine (surfaceUnmap fe a).trans ?_
    rintro buffer ⟨a', t, ht, hbuffer⟩
    by_cases heq : a' = a
    · simp [heq] at ht
    · exact ⟨a', t, by simpa [heq] using ht, hbuffer⟩

theorem tlSetTitle (fe : Frontend) (a : Nat) (title : List UInt8) :
    Settles fe (tlSetTitle fe a title) :=
  onSurface fun s ha => by
    dsimp only
    split
    · exact replace ha rfl (.inl rfl)
    · exact replace ha rfl (.inl rfl)

theorem createSurface (fe : Frontend) (memory : Bool) (resource : Option Nat) :
    Settles fe (compCreateSurface fe memory resource) := by
  unfold compCreateSurface
  split
  · rintro buffer ⟨a', t, ht, hbuffer⟩
    by_cases heq : a' = fe.nextSurface
    · simp only [addResource, setSurface, heq, Function.update_self] at ht
      cases ht
      cases hbuffer
    · exact ⟨a', t, by simpa [addResource, setSurface, heq] using ht, hbuffer⟩
  · exact refl fe

theorem destroy (fe : Frontend) (r : Nat) : Settles fe (wlResourceDestroy fe r) := by
  unfold wlResourceDestroy
  cases fe.resources r with
  | none => exact refl fe
  | some res =>
      refine (?_ : Settles fe (destructor fe res)).trans (same rfl)
      unfold destructor
      split
      · exact surfaceResourceDestroy fe res.data
      · exact onSurface fun s ha => replace ha rfl (.inl rfl)
      · refine onSurface fun s ha => ?_
        have hset : Settles fe (fe.setSurface res.data { s with xdgToplevel := none }) :=
          replace ha rfl (.inl rfl)
        exact hset.trans (surfaceUnmap _ _)
      · exact refl fe

theorem next (fe : Frontend) {e : FeEvent} (hattach : ∀ r buffer, e ≠ .attach r buffer) :
    Settles fe (fe.next e) := by
  cases e with
  | createSurface memory resource => exact createSurface fe memory resource
  | getXdgSurface r resource =>
      refine onResource fun a => ?_
      cases resource with
      | none => exact refl fe
      | some r' => exact onSurface fun s ha => replace ha rfl (.inl rfl)
  | getToplevel r resource =>
      refine onResource fun a => ?_
      cases resource with
      | none => exact refl fe
      | some r' => exact onSurface fun s ha => replace ha rfl (.inl rfl)
  | getDecoration r resource =>
      refine onResource fun a => ?_
      cases resource with
      | none => exact refl fe
      | some r' => exact onSurface fun s ha => replace ha rfl (.inl rfl)
  | setTitle r title => exact onResource fun a => tlSetTitle fe a title
  | attach r buffer => exact (hattach r buffer rfl).elim
  | frame r callback =>
      refine onResource fun a => onSurface fun s _ => ?_
      cases callback <;> exact same rfl
  | commit r shm heap => exact onResource fun a => surfCommit fe a shm heap
  | destroy r => exact destroy fe r
  | destroyCallback callback => exact same rfl
  | outside stack => exact same rfl

end Settles

theorem pending_attach {fe : Frontend} {r : Nat} {buffer : Option Nat} {b : Nat}
    (h : (fe.next (.attach r buffer)).Pending b) : fe.Pending b ∨ buffer = some b := by
  cases hr : fe.resources r with
  | none =>
      simp only [next, onResource, hr] at h
      exact .inl h
  | some res =>
      simp only [next, onResource, hr, surfAttach, onSurface] at h
      cases hs : fe.surfaces res.data with
      | none =>
          simp only [hs] at h
          exact .inl h
      | some s =>
          simp only [hs] at h
          obtain ⟨a, t, ht, hbuffer⟩ := h
          by_cases heq : a = res.data
          · rw [heq, setSurface_self] at ht
            cases ht
            exact .inr hbuffer
          · exact .inl ⟨a, t, by simpa [setSurface, heq] using ht, hbuffer⟩

/-- The buffer that is taken is given to `commitBuffer` ... -/
theorem surfCommit_of_taken {fe : Frontend} {a : Nat} {s : FeSurface}
    (ha : fe.surfaces a = some s) {buffer : Nat} (h : s.takenBuffer = some buffer)
    (shm : Option ShmBuffer) (heap : Option Nat) :
    surfCommit fe a shm heap = fireFrameCallbacks
      (commitBuffer (fe.setSurface a { s with attached := false, pendingBuffer := none }) a buffer
        shm heap) := by
  unfold FeSurface.takenBuffer at h
  rw [surfCommit, onSurface_eq ha]
  split
  · rename_i xdgSurface hsurface hconfigured
    simp only [hsurface, hconfigured] at h
    cases h
  · rename_i hlater
    split at h
    · rename_i hsurface hconfigured
      exact (hlater _ hsurface hconfigured).elim
    · unfold FeSurface.pending at h
      split at h
      · rename_i hattached
        rw [if_pos hattached, h]
      · cases h

/-- ... and a commit that takes none does not ask what a buffer holds. -/
theorem surfCommit_of_untaken {fe : Frontend} {a : Nat} {s : FeSurface}
    (ha : fe.surfaces a = some s) (h : s.takenBuffer = none) (shm : Option ShmBuffer)
    (heap : Option Nat) : surfCommit fe a shm heap = surfCommit fe a none none := by
  unfold FeSurface.takenBuffer at h
  rw [surfCommit, surfCommit, onSurface_eq ha, onSurface_eq ha]
  split
  · rfl
  · rename_i hlater
    split at h
    · rename_i hsurface hconfigured
      exact (hlater _ hsurface hconfigured).elim
    · unfold FeSurface.pending at h
      split at h
      · rename_i hattached
        rw [if_pos hattached, if_pos hattached, h]
      · rename_i hattached
        rw [if_neg hattached, if_neg hattached]

end Frontend

/-! ## Runs with buffers -/

structure BufferRun where
  fe : Frontend
  live : Finset Nat
  nextBuffer : Nat

inductive BufferEvent where
  | createBuffer
  | destroyBuffer (buffer : Nat)
  | request (e : FeEvent)

namespace BufferRun

def start (stack : WindowStack) : BufferRun := ⟨.start stack, ∅, 0⟩

/-- The frontend does not hear of the destruction of a buffer. -/
def next (X : BufferRun) : BufferEvent → BufferRun
  | .createBuffer => { X with live := insert X.nextBuffer X.live, nextBuffer := X.nextBuffer + 1 }
  | .destroyBuffer buffer => { X with live := X.live.erase buffer }
  | .request e => { X with fe := X.fe.next e }

def enabled (X : BufferRun) : BufferEvent → Prop
  | .createBuffer => True
  | .destroyBuffer buffer => buffer ∈ X.live
  | .request e => X.fe.enabled e ∧ ∀ r buffer, e = .attach r (some buffer) → buffer ∈ X.live

def system : System BufferRun BufferEvent := ⟨enabled, next⟩

/-- The buffer that a commit takes has not been destroyed since it was attached. -/
def TakesLive (X : BufferRun) : BufferEvent → Prop
  | .request (.commit r _ _) => ∀ res s buffer, X.fe.resources r = some res →
      X.fe.surfaces res.data = some s → s.takenBuffer = some buffer → buffer ∈ X.live
  | _ => True

/-- No buffer is destroyed while a surface waits to take it. -/
def Unpended (X : BufferRun) : BufferEvent → Prop
  | .destroyBuffer buffer => ¬ X.fe.Pending buffer
  | _ => True

def PendingAlive (X : BufferRun) : Prop := ∀ buffer, X.fe.Pending buffer → buffer ∈ X.live

variable {X : BufferRun}

theorem PendingAlive.takesLive (hX : X.PendingAlive) (e : BufferEvent) : X.TakesLive e := by
  cases e with
  | request e =>
      cases e with
      | commit r shm heap =>
          intro res s buffer _ hs htaken
          exact hX buffer ⟨res.data, s, hs, FeSurface.pending_of_taken htaken⟩
      | _ => trivial
  | _ => trivial

theorem PendingAlive.step (hX : X.PendingAlive) {e : BufferEvent} (hen : X.enabled e)
    (hunpended : X.Unpended e) : (X.next e).PendingAlive := by
  cases e with
  | createBuffer => exact fun buffer h => Finset.mem_insert_of_mem (hX buffer h)
  | destroyBuffer dead =>
      intro buffer h
      exact Finset.mem_erase.mpr ⟨fun heq => hunpended (heq ▸ h), hX buffer h⟩
  | request e =>
      intro buffer h
      by_cases hattach : ∃ r attached, e = .attach r attached
      · obtain ⟨r, attached, rfl⟩ := hattach
        rcases Frontend.pending_attach h with hold | rfl
        · exact hX buffer hold
        · exact hen.2 r buffer rfl
      · refine hX buffer (Frontend.Settles.next X.fe (fun r attached heq => ?_) buffer h)
        exact hattach ⟨r, attached, heq⟩

end BufferRun

theorem pending_alive_iff_unpended (stack : WindowStack) (es : List BufferEvent)
    (hrun : BufferRun.system.Legal (.start stack) es) :
    BufferRun.system.Along BufferRun.PendingAlive (.start stack) es ↔
      BufferRun.system.Each BufferRun.Unpended (.start stack) es := by
  refine System.along_iff_each (fun X hX => hX) (fun X e hX hen h => hX.step hen h) ?_ hrun ?_
  · intro X e hX hen hpended halive
    cases e with
    | destroyBuffer buffer =>
        exact absurd (halive buffer (not_not.mp hpended)) (Finset.notMem_erase buffer X.live)
    | createBuffer => exact hpended trivial
    | request e => exact hpended trivial
  · rintro buffer ⟨a, s, hs, -⟩
    cases hs

/--
In a run in which no buffer is destroyed while a surface waits to take it, every
commit takes a buffer that has not been destroyed since it was attached.
-/
theorem takes_live_of_unpended (stack : WindowStack) (es : List BufferEvent)
    (hrun : BufferRun.system.Legal (.start stack) es)
    (hunpended : BufferRun.system.Each BufferRun.Unpended (.start stack) es) :
    BufferRun.system.Each BufferRun.TakesLive (.start stack) es :=
  System.each_of_along (fun _ e hX => hX.takesLive e)
    ((pending_alive_iff_unpended stack es hrun).mpr hunpended)

/-- A surface shows a frame of one pixel, and then its buffer is destroyed. -/
def patientRun : List BufferEvent :=
  [.createBuffer, .request (.createSurface true (some 1)), .request (.attach 1 (some 0)),
    .request (.commit 1 (some ⟨1, 1, 4, fun _ => 0⟩) (some 64)), .destroyBuffer 0]

theorem takes_live_of_unpended_patientRun :
    BufferRun.system.Each BufferRun.TakesLive (.start windowStackInit) patientRun := by
  refine takes_live_of_unpended windowStackInit patientRun ?_ ?_
  · refine ⟨trivial, ⟨Frontend.newHandle_of_none rfl, ?_⟩, ⟨⟨0, rfl⟩, ?_⟩,
      ⟨⟨⟨0, rfl⟩, Frontend.newBlock_of_unused rfl rfl rfl⟩, ?_⟩, ?_, trivial⟩
    · rintro r buffer ⟨⟩
    · rintro r buffer ⟨⟩
      decide
    · rintro r buffer ⟨⟩
    · exact Finset.mem_insert_self 0 ∅
  · refine ⟨trivial, trivial, trivial, trivial, ?_, trivial⟩
    rintro ⟨a, s, hs, hbuffer⟩
    cases a with
    | zero =>
        cases hs
        cases hbuffer
    | succ a => cases hs

/-- A buffer is destroyed between its attach and the commit. -/
def hastyRun : List BufferEvent :=
  [.createBuffer, .request (.createSurface true (some 1)), .request (.attach 1 (some 0)),
    .destroyBuffer 0, .request (.commit 1 none none)]

theorem destroyed_buffer_taken :
    BufferRun.system.Legal (.start windowStackInit) hastyRun ∧
      ¬ BufferRun.system.Each BufferRun.TakesLive (.start windowStackInit) hastyRun := by
  refine ⟨⟨trivial, ⟨Frontend.newHandle_of_none rfl, ?_⟩, ⟨⟨0, rfl⟩, ?_⟩, ?_,
    ⟨⟨⟨0, rfl⟩, Frontend.newBlock_none _ _⟩, ?_⟩, trivial⟩, fun h => ?_⟩
  · rintro r buffer ⟨⟩
  · rintro r buffer ⟨⟩
    decide
  · exact Finset.mem_insert_self 0 ∅
  · rintro r buffer ⟨⟩
  · exact absurd (h.2.2.2.2.1 ⟨.surface, 0⟩ _ 0 rfl rfl rfl) (by decide)

end CrystallineLattice.Wayland
