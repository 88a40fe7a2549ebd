import CrystallineLattice.Stack.Frame
import CrystallineLattice.Stack.Panes
import CrystallineLattice.Wayland.Wallpaper

/-!
# What the frontend does to the stack

A request to the frontend works on at most one window, which is that of a surface
or a new one.  The content of a surface is a copy on the server's own heap, also
while the client's buffer is mapped.  So no request makes a window show a mapping,
and no window of another user of the stack changes.
-/

namespace CrystallineLattice.Wayland

open CrystallineLattice.Foundation
open CrystallineLattice.Stack

variable {fe : Frontend} {a : Nat} {s : FeSurface}

def FeSurface.Copied (s : FeSurface) : Prop := ∀ base, s.content ≠ .mapping base

theorem Contents.copied (hC : Contents fe.surfaces fe.blocks) (hs : fe.surfaces a = some s) :
    s.Copied := fun base h => by
  rcases hC.held hs with ⟨hnull, -⟩ | ⟨address, block, hblock, -⟩
  · cases hnull.symm.trans h
  · cases hblock.symm.trans h

inductive StackWork (fe : Frontend) : WindowStack → Prop
  | idle : StackWork fe fe.stack
  | unmap {a : Nat} {s : FeSurface} (live : fe.surfaces a = some s) (mapped : s.serverId ≠ 0) :
      StackWork fe (windowDestroy fe.stack s.serverId)
  | retitle {a : Nat} {s : FeSurface} (live : fe.surfaces a = some s) (mapped : s.serverId ≠ 0)
      (title : List UInt8) :
      StackWork fe (fe.stack.writeById s.serverId fun win => { win with title := title })
  | update {a : Nat} {s s' : FeSurface} (live : fe.surfaces a = some s) (mapped : s.serverId ≠ 0)
      (copied : s'.Copied) : StackWork fe (fe.stack.writeById s.serverId (fitContent s'))
  | map {fe' : Frontend} {s : FeSurface} (same : fe'.stack = fe.stack) (copied : s.Copied) :
      StackWork fe (mappedStack fe' s)

theorem StackWork.of_eq {stack : WindowStack} (h : stack = fe.stack) : StackWork fe stack :=
  h ▸ .idle

theorem surfaceUnmap_work {fe' : Frontend} (hstack : fe'.stack = fe.stack)
    (hs : fe.surfaces a = some s) {s' : FeSurface} (hs' : fe'.surfaces a = some s')
    (hid : s'.serverId = s.serverId) : StackWork fe (surfaceUnmap fe' a).stack := by
  rw [surfaceUnmap_stack hs', hstack, hid]
  split
  · rename_i hmapped
    exact .unmap hs hmapped
  · exact .idle

theorem surfaceMapOrUpdate_work {fe' : Frontend} (hstack : fe'.stack = fe.stack)
    (hs : fe.surfaces a = some s) {s' : FeSurface} (hs' : fe'.surfaces a = some s')
    (hid : s'.serverId = s.serverId) (hcopied : s'.Copied) (hpos : fe.stack.nextId ≠ 0) :
    StackWork fe (surfaceMapOrUpdate fe' a).stack := by
  rw [← hstack] at hpos
  rcases surfaceMapOrUpdate_cases hs' hpos with ⟨hmapped, heq⟩ | ⟨-, -, heq⟩ | ⟨-, -, heq⟩
  · rw [heq]
    dsimp only
    rw [hstack, hid]
    exact .update hs (hid ▸ hmapped) hcopied
  · rw [heq]
    exact .of_eq hstack
  · rw [heq]
    exact .map hstack hcopied

theorem copyShmBuffer_copied (ha : fe.surfaces a = some s) (hs : s.Copied) (shmb : ShmBuffer)
    (heap : Option Nat) :
    ∃ s', (copyShmBuffer fe a shmb heap).surfaces a = some s' ∧ s'.Copied := by
  rw [copyShmBuffer, Frontend.onSurface_eq ha]
  split
  · exact ⟨s, ha, hs⟩
  · split
    · cases heap with
      | none => exact ⟨s, ha, hs⟩
      | some address => exact ⟨_, Frontend.setSurface_self .., by simp [FeSurface.Copied]⟩
    · cases s.content <;> exact ⟨s, ha, hs⟩

theorem commitBuffer_work {fe' : Frontend} (hstack : fe'.stack = fe.stack)
    (hs : fe.surfaces a = some s) {s' : FeSurface} (hs' : fe'.surfaces a = some s')
    (hid : s'.serverId = s.serverId) (hcopied : s'.Copied) (hpos : fe.stack.nextId ≠ 0)
    (buffer : Nat) (shm : Option ShmBuffer) (heap : Option Nat) :
    StackWork fe (commitBuffer fe' a buffer shm heap).stack := by
  cases shm with
  | none => exact .of_eq hstack
  | some shmb =>
      obtain ⟨s₁, hrecord, hid₁, -, -, -, hsame⟩ := copyShmBuffer_record hs' shmb heap
      obtain ⟨s₂, hs₂, hcopied₂⟩ := copyShmBuffer_copied hs' hcopied shmb heap
      have heq : s₁ = s₂ := by
        rw [hrecord, Function.update_self] at hs₂
        exact Option.some.inj hs₂
      subst heq
      have hsent : ((copyShmBuffer fe' a shmb heap).send (.release buffer)).surfaces a =
          some s₁ := hs₂
      rw [commitBuffer, Frontend.onSurface_eq hsent]
      split
      · exact surfaceMapOrUpdate_work (hsame.trans hstack) hs hsent (hid₁.trans hid) hcopied₂ hpos
      · exact .of_eq (hsame.trans hstack)

theorem surfCommit_work (ha : fe.surfaces a = some s) (hs : s.Copied)
    (hpos : fe.stack.nextId ≠ 0) (shm : Option ShmBuffer) (heap : Option Nat) :
    StackWork fe (surfCommit fe a shm heap).stack := by
  rw [surfCommit, Frontend.onSurface_eq ha]
  split
  · cases s.xdgToplevel <;> exact .idle
  · split
    · have hself : (fe.setSurface a s.taken).surfaces a = some s.taken :=
        Frontend.setSurface_self ..
      have hstack : (fe.setSurface a s.taken).stack = fe.stack := rfl
      cases s.pendingBuffer with
      | none =>
          have hwork : StackWork fe (surfaceUnmap (fe.setSurface a s.taken) a).stack :=
            surfaceUnmap_work hstack ha hself rfl
          exact hwork
      | some buffer =>
          have hwork : StackWork fe
              (commitBuffer (fe.setSurface a s.taken) a buffer shm heap).stack :=
            commitBuffer_work hstack ha hself rfl hs hpos buffer shm heap
          exact hwork
    · exact .idle

theorem wlResourceDestroy_work (fe : Frontend) (r : Nat) :
    StackWork fe (wlResourceDestroy fe r).stack := by
  unfold wlResourceDestroy
  cases fe.resources r with
  | none => exact .idle
  | some res =>
      show StackWork fe (destructor fe res).stack
      unfold destructor
      cases res.kind with
      | decoration => exact .idle
      | xdgSurface =>
          dsimp only
          unfold xdgSurfaceResourceDestroy Frontend.onSurface
          cases fe.surfaces res.data <;> exact .idle
      | toplevel =>
          dsimp only
          unfold toplevelResourceDestroy Frontend.onSurface
          cases hs : fe.surfaces res.data with
          | none => exact .idle
          | some s =>
              have hself := Frontend.setSurface_self fe res.data { s with xdgToplevel := none }
              have hwork : StackWork fe (surfaceUnmap
                  (fe.setSurface res.data { s with xdgToplevel := none }) res.data).stack :=
                surfaceUnmap_work rfl hs hself rfl
              exact hwork
      | surface =>
          dsimp only
          unfold surfaceResourceDestroy Frontend.onSurface
          cases hs : fe.surfaces res.data with
          | none => exact .idle
          | some s =>
              have hwork : StackWork fe (surfaceUnmap fe res.data).stack :=
                surfaceUnmap_work rfl hs hs rfl
              exact hwork

theorem next_work (hC : Contents fe.surfaces fe.blocks) (hpos : fe.stack.nextId ≠ 0) {e : FeEvent}
    (hours : ∀ stack, e ≠ .outside stack) : StackWork fe (fe.next e).stack := by
  have hidle {f : FeSurface → Frontend} (a : Nat) (hf : ∀ s, (f s).stack = fe.stack) :
      StackWork fe (fe.onSurface a f).stack := by
    unfold Frontend.onSurface
    cases fe.surfaces a with
    | none => exact .idle
    | some s => exact .of_eq (hf s)
  have hfind {r : Nat} {f : Nat → Frontend} (hf : ∀ a, StackWork fe (f a).stack) :
      StackWork fe (fe.onResource r f).stack := by
    unfold Frontend.onResource
    cases fe.resources r with
    | none => exact .idle
    | some res => exact hf res.data
  cases e with
  | createSurface memory resource => cases memory <;> cases resource <;> exact .idle
  | getXdgSurface r resource =>
      cases resource with
      | none => exact hfind fun _ => .idle
      | some r' => exact hfind fun a => hidle a fun _ => by rfl
  | getToplevel r resource =>
      cases resource with
      | none => exact hfind fun _ => .idle
      | some r' => exact hfind fun a => hidle a fun _ => by rfl
  | getDecoration r resource =>
      cases resource with
      | none => exact hfind fun _ => .idle
      | some r' => exact hfind fun a => hidle a fun _ => by rfl
  | setTitle r title =>
      refine hfind fun a => ?_
      unfold tlSetTitle Frontend.onSurface
      cases hs : fe.surfaces a with
      | none => exact .idle
      | some s =>
          dsimp only
          split
          · rename_i hmapped
            exact .retitle hs hmapped _
          · exact .idle
  | attach r buffer => exact hfind fun a => hidle a fun _ => by rfl
  | frame r callback => exact hfind fun a => hidle a fun _ => by cases callback <;> rfl
  | commit r shm heap =>
      refine hfind fun a => ?_
      cases hs : fe.surfaces a with
      | none =>
          rw [surfCommit, Frontend.onSurface, hs]
          exact .idle
      | some s => exact surfCommit_work hs (hC.copied hs) hpos shm heap
  | destroy r => exact wlResourceDestroy_work fe r
  | destroyCallback callback => exact .idle
  | outside stack => exact (hours stack rfl).elim

/-! ## What follows for the windows -/

theorem FeSurface.Copied.pane (hs : s.Copied) {w : Window} (hbuf : w.buf = s.content) :
    w.pane = none := by
  cases hpane : w.pane with
  | none => rfl
  | some p => exact (hs p.base (hbuf.symm.trans (Window.pane_eq_some hpane).1)).elim

theorem panes_showContent (stack : WindowStack) (id : Nat) (hs : s.Copied) {f : Window → Window}
    (hf : ∀ w, (f w).buf = s.content) : (stack.writeById id f).panes ⊆ stack.panes :=
  panes_redraw stack id fun w p h => by
    rw [hs.pane (hf w)] at h
    cases h

theorem StackWork.panes {stack : WindowStack} (h : StackWork fe stack) :
    stack.panes ⊆ fe.stack.panes := by
  cases h with
  | idle => exact List.Subset.refl _
  | unmap live mapped => exact panes_destroy _ _
  | retitle live mapped title => exact panes_redraw _ _ fun _ _ h => h
  | update live mapped copied => exact panes_showContent fe.stack _ copied fun _ => rfl
  | map same copied =>
      refine List.Subset.trans (panes_focus _ _) ?_
      refine List.Subset.trans (panes_showContent _ _ copied fun _ => rfl) ?_
      rw [same, panes_append fe.stack rfl]
      exact List.Subset.refl _

theorem StackWork.agree {q : Nat → Bool} {stack : WindowStack} (h : StackWork fe stack)
    (hq : ∀ a s, fe.surfaces a = some s → s.serverId ≠ 0 → q s.serverId = false)
    (hnew : q fe.stack.nextId = false) : fe.stack.Agree q stack := by
  cases h with
  | idle => exact .refl q _
  | unmap live mapped => exact .windowDestroy _ (hq _ _ live mapped)
  | retitle live mapped title => exact .writeById _ (hq _ _ live mapped) fun _ => rfl
  | update live mapped copied => exact .writeById _ (hq _ _ live mapped) fun _ => rfl
  | map same copied =>
      rename_i fe' s
      have hid : q (firstWindow fe' s).id = false := by
        show q fe'.stack.nextId = false
        rwa [same]
      rw [← same] at hnew ⊢
      have happend := WindowStack.Agree.append fe'.stack hid fe'.stack.focusId
        (uint32 (fe'.stack.nextId + 1))
      have hshown := happend.trans (.writeById _ hnew (f := showContent s) fun _ => rfl)
      exact hshown.trans (.windowFocus _ hnew)

end CrystallineLattice.Wayland
