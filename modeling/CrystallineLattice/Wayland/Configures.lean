import CrystallineLattice.Wayland.Model

/-!
# What the frontend says about sizes

A toplevel is configured once, when its surface is first committed, and then with
no size.  Nothing else that the frontend sends tells a client how large it is to be.
-/

namespace CrystallineLattice.Wayland

open CrystallineLattice.Foundation
open CrystallineLattice.Stack

namespace Frontend

/-- The frontend has left all sizes to the clients. -/
def Unsized (fe : Frontend) : Prop :=
  ∀ toplevel w h, .toplevelConfigure toplevel w h ∈ fe.sent → w = 0 ∧ h = 0

namespace Unsized

variable {fe : Frontend} {a : Nat}

theorem of_sent {fe' : Frontend} (h : fe.Unsized) (hsent : fe'.sent = fe.sent) : fe'.Unsized := by
  unfold Unsized
  rw [hsent]
  exact h

theorem append (h : fe.Unsized) {fe' : Frontend} {messages : List FeMessage}
    (hsent : fe'.sent = fe.sent ++ messages)
    (hm : ∀ toplevel w h, .toplevelConfigure toplevel w h ∈ messages → w = 0 ∧ h = 0) :
    fe'.Unsized := by
  intro toplevel w ht hmem
  rw [hsent] at hmem
  exact (List.mem_append.mp hmem).elim (h toplevel w ht) (hm toplevel w ht)

theorem send (h : fe.Unsized) {m : FeMessage}
    (hm : ∀ toplevel w h, m = .toplevelConfigure toplevel w h → w = 0 ∧ h = 0) :
    (fe.send m).Unsized :=
  h.append rfl fun toplevel w ht hmem => hm toplevel w ht (List.mem_singleton.mp hmem).symm

theorem onSurface (h : fe.Unsized) {f : FeSurface → Frontend} (hf : ∀ s, (f s).Unsized) :
    (fe.onSurface a f).Unsized := by
  unfold Frontend.onSurface
  split
  · exact h
  · exact hf _

theorem onResource (h : fe.Unsized) {r : Nat} {f : Nat → Frontend} (hf : ∀ a, (f a).Unsized) :
    (fe.onResource r f).Unsized := by
  unfold Frontend.onResource
  split
  · exact h
  · exact hf _

theorem surfaceUnmap (h : fe.Unsized) : (surfaceUnmap fe a).Unsized := by
  refine h.onSurface fun s => h.of_sent ?_
  dsimp only
  split <;> rfl

theorem copyShmBuffer (h : fe.Unsized) (shmb : ShmBuffer) (heap : Option Nat) :
    (copyShmBuffer fe a shmb heap).Unsized := by
  refine h.onSurface fun s => ?_
  split
  · exact h
  · split
    · split <;> exact h
    · split <;> exact h

theorem surfaceMapOrUpdate (h : fe.Unsized) : (surfaceMapOrUpdate fe a).Unsized := by
  refine h.onSurface fun s => ?_
  split
  · exact h
  · dsimp only
    split <;> exact h

theorem fireFrameCallbacks (h : fe.Unsized) : (fireFrameCallbacks fe).Unsized := by
  refine h.append rfl fun toplevel w ht hmem => ?_
  obtain ⟨_, -, heq⟩ := List.mem_map.mp hmem
  cases heq

theorem sendConfigures (h : fe.Unsized) (xdgSurface : Nat) (xdgToplevel : Option Nat) :
    (sendConfigures fe xdgSurface xdgToplevel).Unsized := by
  cases xdgToplevel with
  | none => exact h.send fun _ _ _ heq => by cases heq
  | some toplevel =>
      refine send ?_ fun _ _ _ heq => by cases heq
      refine h.send fun _ _ _ heq => ?_
      cases heq
      exact ⟨rfl, rfl⟩

theorem commitBuffer (h : fe.Unsized) (buffer : Nat) (shm : Option ShmBuffer)
    (heap : Option Nat) : (commitBuffer fe a buffer shm heap).Unsized := by
  cases shm with
  | none => exact h.send fun _ _ _ heq => by cases heq
  | some shmb =>
      have hcopied := (h.copyShmBuffer (a := a) shmb heap).send (m := .release buffer)
        fun _ _ _ heq => by cases heq
      refine hcopied.onSurface fun s => ?_
      split
      · exact hcopied.surfaceMapOrUpdate
      · exact hcopied

theorem surfCommit (h : fe.Unsized) (shm : Option ShmBuffer) (heap : Option Nat) :
    (surfCommit fe a shm heap).Unsized := by
  refine h.onSurface fun s => ?_
  split
  · exact h.sendConfigures _ s.xdgToplevel
  · split
    · dsimp only
      have htaken : (fe.setSurface a { s with attached := false, pendingBuffer := none }).Unsized :=
        h
      split
      · exact htaken.surfaceUnmap.fireFrameCallbacks
      · exact (htaken.commitBuffer _ shm heap).fireFrameCallbacks
    · exact h.fireFrameCallbacks

theorem destructor (h : fe.Unsized) (res : Resource) : (destructor fe res).Unsized := by
  unfold Wayland.destructor
  split
  · refine h.onSurface fun s => ?_
    exact h.surfaceUnmap
  · exact h.onSurface fun s => h
  · refine h.onSurface fun s => ?_
    exact (show (fe.setSurface res.data { s with xdgToplevel := none }).Unsized from h).surfaceUnmap
  · exact h

theorem next (h : fe.Unsized) (e : FeEvent) : (fe.next e).Unsized := by
  cases e with
  | createSurface memory resource =>
      show (compCreateSurface fe memory resource).Unsized
      unfold compCreateSurface
      split <;> exact h
  | getXdgSurface r resource =>
      refine h.onResource fun a => ?_
      cases resource with
      | none => exact h
      | some r' => exact h.onSurface fun s => h
  | getToplevel r resource =>
      refine h.onResource fun a => ?_
      cases resource with
      | none => exact h
      | some r' => exact h.onSurface fun s => h
  | getDecoration r resource =>
      refine h.onResource fun a => ?_
      cases resource with
      | none => exact h
      | some r' =>
          refine h.onSurface fun s => send ?_ fun _ _ _ heq => by cases heq
          exact h
  | setTitle r title =>
      refine h.onResource fun a => h.onSurface fun s => ?_
      dsimp only
      split <;> exact h
  | attach r buffer => exact h.onResource fun a => h.onSurface fun s => h
  | frame r callback =>
      refine h.onResource fun a => h.onSurface fun s => ?_
      split <;> exact h
  | commit r shm heap => exact h.onResource fun a => h.surfCommit shm heap
  | destroy r =>
      show (wlResourceDestroy fe r).Unsized
      unfold wlResourceDestroy
      split
      · exact h
      · exact h.destructor _
  | destroyCallback callback => exact h
  | outside stack => exact h

end Unsized

end Frontend

end CrystallineLattice.Wayland
