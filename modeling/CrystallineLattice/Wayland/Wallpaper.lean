import CrystallineLattice.Stack.Wallpaper
import CrystallineLattice.Wayland.Agreement

/-!
# The wallpaper and the Wayland clients

A client of the frontend gets normal windows only, and the frontend writes to no
window but those it created.  Records are numbered in the order they were made,
whether or not the objects of a record outlive it.
-/

namespace CrystallineLattice.Wayland

open CrystallineLattice.Foundation
open CrystallineLattice.Stack
open Frontend (SameObjects)

variable {fe fe' : Frontend} {a : Nat} {s : FeSurface}

/-! ## Records -/

def Frontend.Numbered (fe : Frontend) : Prop := ∀ a, (fe.surfaces a).isSome → a < fe.nextSurface

namespace Frontend.Numbered

theorem of_live (h : fe.Numbered) (hnext : fe'.nextSurface = fe.nextSurface)
    (hlive : ∀ a, (fe'.surfaces a).isSome → (fe.surfaces a).isSome) : fe'.Numbered := fun a ha => by
  rw [hnext]
  exact h a (hlive a ha)

theorem of_same (h : fe.Numbered) (hsame : SameObjects fe fe') : fe'.Numbered :=
  h.of_live hsame.nextSurface fun a ha => hsame.live a ▸ ha

theorem overwrite (h : fe.Numbered) (ha : fe.surfaces a = some s) {s' : FeSurface}
    (hnext : fe'.nextSurface = fe.nextSurface)
    (hsurfaces : fe'.surfaces = Function.update fe.surfaces a (some s')) : fe'.Numbered := by
  refine h.of_live hnext fun a' ha' => ?_
  rw [hsurfaces] at ha'
  by_cases heq : a' = a
  · rw [heq, ha, Option.isSome_some]
  · rwa [Function.update_of_ne heq] at ha'

theorem onSurface (h : fe.Numbered) {f : FeSurface → Frontend}
    (hf : ∀ s, fe.surfaces a = some s → (f s).Numbered) : (fe.onSurface a f).Numbered := by
  unfold Frontend.onSurface
  cases hs : fe.surfaces a with
  | none => exact h
  | some s => exact hf s hs

theorem onResource (h : fe.Numbered) {r : Nat} {f : Nat → Frontend}
    (hf : ∀ a, (f a).Numbered) : (fe.onResource r f).Numbered := by
  unfold Frontend.onResource
  cases fe.resources r with
  | none => exact h
  | some res => exact hf res.data

theorem destructor (h : fe.Numbered) (res : Resource) : (destructor fe res).Numbered := by
  unfold Wayland.destructor
  cases res.kind with
  | decoration => exact h
  | xdgSurface => exact h.onSurface fun s hs => h.overwrite hs rfl rfl
  | toplevel =>
      refine h.onSurface fun s hs => ?_
      have hsame := SameObjects.toplevelResourceDestroy hs
      rw [toplevelResourceDestroy, Frontend.onSurface_eq hs] at hsame
      exact h.of_same hsame
  | surface =>
      refine h.onSurface fun s hs => (h.of_same (.surfaceUnmap hs)).of_live rfl fun a' ha' => ?_
      by_cases heq : a' = res.data
      · simp [heq] at ha'
      · simpa [heq] using ha'

theorem next (h : fe.Numbered) (e : FeEvent) : (fe.next e).Numbered := by
  cases e with
  | createSurface memory resource =>
      cases memory with
      | false => exact h
      | true =>
          cases resource with
          | none => exact h
          | some r =>
              intro a ha
              by_cases heq : a = fe.nextSurface
              · rw [heq]
                exact Nat.lt_succ_self _
              · refine Nat.lt_succ_of_lt (h a ?_)
                simpa [Frontend.next, compCreateSurface, Frontend.addResource, Frontend.setSurface,
                  heq] using ha
  | getXdgSurface r resource =>
      cases resource with
      | none => exact h.onResource fun _ => h
      | some r' => exact h.onResource fun _ => h.onSurface fun s hs => h.overwrite hs rfl rfl
  | getToplevel r resource =>
      cases resource with
      | none => exact h.onResource fun _ => h
      | some r' => exact h.onResource fun _ => h.onSurface fun s hs => h.overwrite hs rfl rfl
  | getDecoration r resource =>
      cases resource with
      | none => exact h.onResource fun _ => h
      | some r' => exact h.onResource fun _ => h.onSurface fun s hs => h.overwrite hs rfl rfl
  | setTitle r title =>
      refine h.onResource fun a => h.onSurface fun s hs => ?_
      have hsame := SameObjects.tlSetTitle hs title
      rw [tlSetTitle, Frontend.onSurface_eq hs] at hsame
      exact h.of_same hsame
  | attach r buffer => exact h.onResource fun _ => h.onSurface fun s hs => h.overwrite hs rfl rfl
  | frame r callback =>
      refine h.onResource fun a => h.onSurface fun s hs => ?_
      cases callback <;> exact h
  | commit r shm heap =>
      refine h.onResource fun a => h.onSurface fun s hs => ?_
      have hsame := SameObjects.surfCommit hs shm heap
      rw [surfCommit, Frontend.onSurface_eq hs] at hsame
      exact h.of_same hsame
  | destroy r =>
      show (wlResourceDestroy fe r).Numbered
      unfold wlResourceDestroy
      cases fe.resources r with
      | none => exact h
      | some res => exact h.destructor res
  | destroyCallback callback => exact h
  | outside stack => exact h

end Frontend.Numbered

/-! ## What the handlers do to the stack -/

section Tidies

variable {sw sh : Int}

theorem surfaceUnmap_tidies (fe : Frontend) (a : Nat) :
    Tidies sw sh fe.stack (surfaceUnmap fe a).stack := by
  cases hs : fe.surfaces a with
  | none =>
      rw [surfaceUnmap, Frontend.onSurface, hs]
      exact .refl _
  | some s =>
      rw [surfaceUnmap_stack hs]
      split
      · exact .destroy _ _
      · exact .refl _

theorem surfaceResourceDestroy_tidies (fe : Frontend) (a : Nat) :
    Tidies sw sh fe.stack (surfaceResourceDestroy fe a).stack := by
  unfold surfaceResourceDestroy Frontend.onSurface
  cases fe.surfaces a with
  | none => exact .refl _
  | some s => exact surfaceUnmap_tidies fe a

theorem toplevelResourceDestroy_tidies (fe : Frontend) (a : Nat) :
    Tidies sw sh fe.stack (toplevelResourceDestroy fe a).stack := by
  unfold toplevelResourceDestroy Frontend.onSurface
  cases fe.surfaces a with
  | none => exact .refl _
  | some s => exact surfaceUnmap_tidies (fe.setSurface a { s with xdgToplevel := none }) a

theorem tlSetTitle_tidies (fe : Frontend) (a : Nat) (title : List UInt8) :
    Tidies sw sh fe.stack (tlSetTitle fe a title).stack := by
  cases hs : fe.surfaces a with
  | none =>
      rw [tlSetTitle, Frontend.onSurface, hs]
      exact .refl _
  | some s =>
      rw [tlSetTitle, Frontend.onSurface_eq hs]
      dsimp only
      split
      · exact .edit_inside _ _ (fun _ => rfl) (fun _ => rfl) fun _ => ⟨rfl, rfl, rfl, rfl⟩
      · exact .refl _

theorem mappedStack_tidies (fe : Frontend) (s : FeSurface)
    (hwrap : fe.stack.nextId + 1 < 4294967296) : Tidies sw sh fe.stack (mappedStack fe s) := by
  have hnext : uint32 ((fe.stack.nextId : Int) + 1) = fe.stack.nextId + 1 := by
    simpa using uint32_of_lt hwrap
  have happend : Tidies sw sh fe.stack ⟨fe.stack.windows ++ [firstWindow fe s], fe.stack.focusId,
      uint32 (fe.stack.nextId + 1)⟩ :=
    .append rfl (hnext ▸ Nat.le_succ _) (by simp [firstWindow, newWindow])
  refine (happend.trans ?_).trans (.focus _ _)
  exact .edit_inside _ _ (fun _ => rfl) (fun _ => rfl) fun _ => ⟨rfl, rfl, rfl, rfl⟩

/-- The frontend's windows are no wallpapers, and there is an id for each window it creates. -/
structure Apart (fe fe' : Frontend) : Prop where
  other : ∀ a s, fe.surfaces a = some s → s.serverId ≠ 0 → NoWallpaper fe.stack s.serverId
  nextId : fe.stack.nextId ≠ 0
  wrap : fe'.created ≠ fe.created → fe.stack.nextId + 1 < 4294967296

theorem Apart.overwrite {u u' : Frontend} {s' : FeSurface} (h : Apart fe fe')
    (ha : fe.surfaces a = some s) (hstack : u.stack = fe.stack)
    (hsurfaces : u.surfaces = Function.update fe.surfaces a (some s'))
    (hid : s'.serverId = s.serverId) (hcreated : u.created = fe.created)
    (hcreated' : u'.created = fe'.created) : Apart u u' where
  other a' v hv hne := by
    rw [hstack]
    rw [hsurfaces] at hv
    rcases PartialMap.found_of_store hv with ⟨-, rfl⟩ | ⟨-, hv⟩
    · rw [hid] at hne ⊢
      exact h.other a s ha hne
    · exact h.other a' v hv hne
  nextId := hstack ▸ h.nextId
  wrap hne := by
    rw [hstack]
    exact h.wrap fun heq => hne (by rw [hcreated', hcreated, heq])

theorem surfaceMapOrUpdate_tidies (ha : fe.surfaces a = some s)
    (h : Apart fe (surfaceMapOrUpdate fe a)) :
    Tidies sw sh fe.stack (surfaceMapOrUpdate fe a).stack := by
  have hwrap := h.wrap
  rcases surfaceMapOrUpdate_cases ha h.nextId with ⟨hid, heq⟩ | ⟨-, -, heq⟩ | ⟨-, -, heq⟩
  · rw [heq]
    exact .edit_other (h.other a s ha hid) (fun _ => rfl) fun _ => rfl
  · rw [heq]
    exact .refl _
  · rw [heq] at hwrap ⊢
    exact mappedStack_tidies fe s (hwrap (by simp [Frontend.setSurface]))

theorem commitBuffer_tidies (ha : fe.surfaces a = some s) (buffer : Nat)
    (shm : Option ShmBuffer) (heap : Option Nat)
    (h : Apart fe (commitBuffer fe a buffer shm heap)) :
    Tidies sw sh fe.stack (commitBuffer fe a buffer shm heap).stack := by
  cases shm with
  | none => exact .refl _
  | some shmb =>
      obtain ⟨s', hcopy, hid, -, -, -, hstack⟩ := copyShmBuffer_record ha shmb heap
      have hcreated : (copyShmBuffer fe a shmb heap).created = fe.created := by
        rw [copyShmBuffer, Frontend.onSurface_eq ha]
        split
        · rfl
        · split
          · cases heap <;> rfl
          · cases s.content <;> rfl
      have hsent : ((copyShmBuffer fe a shmb heap).send (.release buffer)).surfaces a =
          some s' := by
        rw [Frontend.send, hcopy, Function.update_self]
      revert h
      rw [commitBuffer, Frontend.onSurface_eq hsent]
      split
      · intro h
        have hmap : Tidies sw sh _ _ := surfaceMapOrUpdate_tidies hsent
          (h.overwrite ha hstack hcopy hid hcreated rfl)
        rwa [show ((copyShmBuffer fe a shmb heap).send (.release buffer)).stack = fe.stack from
          hstack] at hmap
      · exact fun _ =>
          .of_windows (congrArg WindowStack.windows hstack) (congrArg WindowStack.nextId hstack)

theorem surfCommit_tidies (ha : fe.surfaces a = some s) (shm : Option ShmBuffer)
    (heap : Option Nat) (h : Apart fe (surfCommit fe a shm heap)) :
    Tidies sw sh fe.stack (surfCommit fe a shm heap).stack := by
  revert h
  rw [surfCommit, Frontend.onSurface_eq ha]
  split
  · intro _
    cases s.xdgToplevel <;> exact .refl _
  · split
    · intro h
      have hself : (fe.setSurface a s.taken).surfaces a = some s.taken :=
        Frontend.setSurface_self ..
      cases hpending : s.pendingBuffer with
      | none => exact surfaceUnmap_tidies (fe.setSurface a s.taken) a
      | some buffer =>
          simp only [hpending] at h ⊢
          exact commitBuffer_tidies hself buffer shm heap (h.overwrite ha rfl rfl rfl rfl rfl)
    · exact fun _ => .refl _

theorem next_tidies {e : FeEvent} (h : Apart fe (fe.next e)) (hours : ∀ stack, e ≠ .outside stack) :
    Tidies sw sh fe.stack (fe.next e).stack := by
  have hidle {f : FeSurface → Frontend} (a : Nat) (hf : ∀ s, (f s).stack = fe.stack) :
      Tidies sw sh fe.stack (fe.onSurface a f).stack := by
    unfold Frontend.onSurface
    cases fe.surfaces a with
    | none => exact .refl _
    | some s => rw [hf s]; exact .refl _
  have hfind {r : Nat} {f : Nat → Frontend}
      (hf : ∀ res, fe.resources r = some res → Tidies sw sh fe.stack (f res.data).stack) :
      Tidies sw sh fe.stack (fe.onResource r f).stack := by
    unfold Frontend.onResource
    cases hr : fe.resources r with
    | none => exact .refl _
    | some res => exact hf res hr
  cases e with
  | createSurface memory resource => cases memory <;> cases resource <;> exact .refl _
  | getXdgSurface r resource =>
      cases resource with
      | none => exact hfind fun _ _ => .refl _
      | some r' => exact hfind fun res _ => hidle res.data fun _ => by rfl
  | getToplevel r resource =>
      cases resource with
      | none => exact hfind fun _ _ => .refl _
      | some r' => exact hfind fun res _ => hidle res.data fun _ => by rfl
  | getDecoration r resource =>
      cases resource with
      | none => exact hfind fun _ _ => .refl _
      | some r' => exact hfind fun res _ => hidle res.data fun _ => by rfl
  | setTitle r title => exact hfind fun res _ => tlSetTitle_tidies fe res.data title
  | attach r buffer => exact hfind fun res _ => hidle res.data fun _ => by rfl
  | frame r callback => exact hfind fun res _ => hidle res.data fun _ => by cases callback <;> rfl
  | commit r shm heap =>
      refine hfind fun res hr => ?_
      rw [Frontend.next, Frontend.onResource_eq hr] at h
      cases hs : fe.surfaces res.data with
      | none =>
          rw [surfCommit, Frontend.onSurface, hs]
          exact .refl _
      | some s => exact surfCommit_tidies hs shm heap h
  | destroy r =>
      show Tidies sw sh fe.stack (wlResourceDestroy fe r).stack
      unfold wlResourceDestroy
      cases fe.resources r with
      | none => exact .refl _
      | some res =>
          show Tidies sw sh fe.stack (destructor fe res).stack
          unfold destructor
          cases res.kind with
          | decoration => exact .refl _
          | xdgSurface => exact hidle res.data fun _ => by rfl
          | toplevel => exact toplevelResourceDestroy_tidies fe res.data
          | surface => exact surfaceResourceDestroy_tidies fe res.data
  | destroyCallback callback => exact .refl _
  | outside stack => exact (hours stack rfl).elim

end Tidies

end CrystallineLattice.Wayland
