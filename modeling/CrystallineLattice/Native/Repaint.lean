import CrystallineLattice.Compositor.Cursor
import CrystallineLattice.Native.Invariant
import CrystallineLattice.Native.Process

/-!
# What makes a repaint necessary

The compositor reads the windows of the stack, the focus, and the cursor, but no
title.  When `transport_process` asks for no repaint, it left all of this as it was.
-/

namespace CrystallineLattice.Native

open CrystallineLattice.Foundation
open CrystallineLattice.Stack
open CrystallineLattice.Compositor

def untitled (w : Window) : Window := { w with title := [] }

structure SameScene (t t' : Transport) : Prop where
  windows : t'.stack.windows.map untitled = t.stack.windows.map untitled
  focusId : t'.stack.focusId = t.stack.focusId
  cursor : t'.cursor = t.cursor

namespace SameScene

variable {t t' t'' : Transport}

theorem same (hstack : t'.stack = t.stack) (hcursor : t'.cursor = t.cursor) : SameScene t t' :=
  ⟨by rw [hstack], by rw [hstack], hcursor⟩

theorem refl (t : Transport) : SameScene t t := same rfl rfl

theorem trans (h : SameScene t t') (h' : SameScene t' t'') : SameScene t t'' :=
  ⟨h'.windows.trans h.windows, h'.focusId.trans h.focusId, h'.cursor.trans h.cursor⟩

theorem onSetTitle (t : Transport) (i : Fin clMaxClients) (m : ClSetTitle) :
    SameScene t (onSetTitle t i m) := by
  rcases onSetTitle_cases t i m with heq | ⟨j, title, -, heq⟩
  · rw [heq]
    exact refl t
  · rw [heq]
    have htitle (w : Window) : untitled { w with title := title } = untitled w := rfl
    exact ⟨KeyedList.map_update htitle _, rfl, rfl⟩

theorem compositeWindows_untitled (mem : Memory) (fb : DumbFb) (s : WindowStack) :
    compositeWindows mem fb { s with windows := s.windows.map untitled } =
      compositeWindows mem fb s := by
  have hdraw : (fun (fb : DumbFb) w => drawWindow mem s.focusId fb (untitled w)) =
      drawWindow mem s.focusId := rfl
  unfold compositeWindows
  simp only [List.foldlM_map, hdraw]

theorem composite (h : SameScene t t') (mem : Memory) (fb : DumbFb) (cx cy : Int) :
    composite mem fb t'.stack cx cy t'.cursor = composite mem fb t.stack cx cy t.cursor := by
  have hstack (s : WindowStack) : compositeWindows mem fb s =
      compositeWindows mem fb ⟨s.windows.map untitled, s.focusId, 0⟩ := by
    rw [← compositeWindows_untitled]
    rfl
  unfold Compositor.composite
  rw [hstack t'.stack, h.windows, h.focusId, h.cursor, ← hstack]

end SameScene

theorem dispatch_clean {t : Transport} {i : Fin clMaxClients} {d : Datagram} {k : Kernel}
    {dirty : Bool} (hok : (dispatch t i d k dirty).ok = true)
    (hclean : (dispatch t i d k dirty).dirty = false) :
    SameScene t (dispatch t i d k dirty).t := by
  have hpath := dispatch_path t i d k dirty
  generalize dispatch t i d k dirty = r at hpath hok hclean
  cases hpath with
  | reject why => cases hok
  | setTitle ready type full => exact (SameScene.onSetTitle t i _).trans (.same rfl rfl)
  | ignore ready type => exact .same rfl rfl
  | _ => cases hclean

theorem clientDatagram_clean {t : Transport} {i : Fin clMaxClients} {d : Datagram} {k : Kernel}
    {now : Int} {dirty : Bool} (hclean : (clientDatagram t i d k now dirty).dirty = false) :
    SameScene t (clientDatagram t i d k now dirty).t := by
  unfold clientDatagram at hclean ⊢
  dsimp only at hclean ⊢
  split at hclean
  · rename_i hok
    rw [if_pos hok]
    exact dispatch_clean hok hclean
  · cases hclean

theorem clientReadable_clean {t : Transport} {i : Fin clMaxClients} {queue : List Received}
    (hclean : (clientReadable t i queue false).2 = false) :
    SameScene t (clientReadable t i queue false).1 := by
  induction queue generalizing t with
  | nil => exact .refl t
  | cons r queue ih =>
      cases r with
      | failed now => cases hclean
      | shutdown now => cases hclean
      | datagram d k now =>
          simp only [clientReadable] at hclean ⊢
          split at hclean
          · rename_i hok
            rw [if_pos hok]
            rw [clientReadable_dirty] at hclean ⊢
            obtain ⟨hfirst, hrest⟩ := Bool.or_eq_false_iff.mp hclean
            exact (clientDatagram_clean hfirst).trans (ih hrest)
          · rename_i hok
            rw [if_neg hok]
            exact clientDatagram_clean hclean

theorem transportAddClient_scene (t : Transport) (fd : Int) (epollOk : Bool) :
    SameScene t (transportAddClient t fd epollOk) := by
  unfold transportAddClient
  cases clientByFd t (-1) with
  | none => exact .same rfl rfl
  | some i => cases epollOk <;> exact .same rfl rfl

theorem acceptPending_scene (t : Transport) (accepted : List (Int × Bool)) :
    SameScene t (acceptPending t accepted) :=
  List.foldlRecOn (motive := SameScene t) _ _ (.refl t) fun u hu a _ =>
    hu.trans (transportAddClient_scene u a.1 a.2)

theorem processEvent_clean {t : Transport} {e : EpollEvent}
    (hclean : (processEvent (t, false) e).2 = false) :
    SameScene t (processEvent (t, false) e).1 := by
  cases e with
  | listen accepted => exact acceptPending_scene t accepted
  | client fd lost readable queue now =>
      unfold processEvent at hclean ⊢
      dsimp only at hclean ⊢
      cases hfd : clientByFd t fd with
      | none => exact .refl t
      | some i =>
          simp only [hfd] at hclean ⊢
          cases lost with
          | true => cases hclean
          | false =>
              cases readable with
              | true => exact clientReadable_clean hclean
              | false => exact .refl t

theorem foldl_processEvent_clean {acc : Transport × Bool} {evs : List EpollEvent}
    (hclean : (evs.foldl processEvent acc).2 = false) :
    acc.2 = false ∧ SameScene acc.1 (evs.foldl processEvent acc).1 := by
  induction evs generalizing acc with
  | nil => exact ⟨hclean, .refl acc.1⟩
  | cons e evs ih =>
      obtain ⟨t, dirty⟩ := acc
      rw [List.foldl_cons, processEvent_dirty] at hclean ⊢
      obtain ⟨hraised, hrest⟩ := ih hclean
      obtain ⟨hdirty, hfirst⟩ := Bool.or_eq_false_iff.mp hraised
      exact ⟨hdirty, (processEvent_clean hfirst).trans hrest⟩

theorem orphansExpire_clean {t : Transport} {now : Int}
    (hclean : (orphansExpire t now).2 = false) : (orphansExpire t now).1 = t := by
  have hloop (ks : List (Fin clMaxClients)) (acc : Transport × Bool)
      (h : (ks.foldl (expireSlot now) acc).2 = false) : ks.foldl (expireSlot now) acc = acc := by
    induction ks generalizing acc with
    | nil => rfl
    | cons k ks ih =>
        rw [List.foldl_cons] at h ⊢
        have hrest := ih _ h
        rcases expireSlot_cases now acc k with heq | ⟨-, -, heq⟩
        · rw [hrest, heq]
        · rw [hrest, heq] at h
          cases h
  unfold orphansExpire at hclean ⊢
  rw [hloop _ _ hclean]

/-- Without a repaint, the scene and the cursor are the ones that were drawn before. -/
theorem transportProcess_clean (t : Transport) (now : Int) (evs : List EpollEvent)
    (hclean : (transportProcess t now evs).2 = false) :
    SameScene t (transportProcess t now evs).1 := by
  obtain ⟨hexpired, hscene⟩ := foldl_processEvent_clean hclean
  rw [orphansExpire_clean hexpired] at hscene
  exact hscene

/-- A client connects while the panel retitles its taskbar. -/
def retitled : List EpollEvent :=
  [.listen [(8, true)],
    .client 7 false true
      [.datagram (.ofWords ([clSetTitleType, 3, 0x6c656e61] ++ List.replicate 15 0) [])
        ⟨none, fun _ => 0⟩ 50] 50]

theorem transportProcess_clean_retitled :
    SameScene (World.system.exec (.start 1920 1080) (panelRun.take 5)).t
      (transportProcess (World.system.exec (.start 1920 1080) (panelRun.take 5)).t 50
        retitled).1 :=
  transportProcess_clean _ 50 retitled (by decide +kernel)

end CrystallineLattice.Native
