import CrystallineLattice.Native.Repaint

/-!
# What a frame depends on

`composite` reads the windows of the stack, the focus, and the pixels that the
windows show, but no title, and no memory that no window shows.
-/

namespace CrystallineLattice.Compositor

open CrystallineLattice.Foundation
open CrystallineLattice.Stack
open CrystallineLattice.Native (ClCursor untitled)

def Displays (stack : WindowStack) (p : Ptr) : Prop :=
  p ≠ .null ∧ ∃ w ∈ stack.windows, w.buf = p

structure SameLook (stack stack' : WindowStack) (mem mem' : Memory) : Prop where
  windows : stack'.windows.map untitled = stack.windows.map untitled
  focusId : stack'.focusId = stack.focusId
  pixels : ∀ p, Displays stack p → mem' p = mem p

variable {stack stack' stack'' : WindowStack} {mem mem' mem'' : Memory} {w : Window}

theorem displays_congr (h : stack'.windows.map untitled = stack.windows.map untitled) (p : Ptr) :
    Displays stack' p ↔ Displays stack p := by
  have hread (l : List Window) : (l.map untitled).map Window.buf = l.map Window.buf := by
    rw [List.map_map]
    rfl
  have hbufs : stack'.windows.map Window.buf = stack.windows.map Window.buf := by
    rw [← hread, h, hread]
  simp only [Displays, ← List.mem_map, hbufs]

namespace SameLook

theorem refl (stack : WindowStack) (mem : Memory) : SameLook stack stack mem mem :=
  ⟨rfl, rfl, fun _ _ => rfl⟩

theorem trans (h : SameLook stack stack' mem mem') (h' : SameLook stack' stack'' mem' mem'') :
    SameLook stack stack'' mem mem'' where
  windows := h'.windows.trans h.windows
  focusId := h'.focusId.trans h.focusId
  pixels p hp := (h'.pixels p ((displays_congr h.windows p).mpr hp)).trans (h.pixels p hp)

end SameLook

theorem drawBuffer_congr (h : w.buf ≠ .null → mem' w.buf = mem w.buf) (fb : DumbFb) :
    drawBuffer mem' fb w = drawBuffer mem fb w := by
  unfold drawBuffer
  split
  · rfl
  · rename_i hbuf
    unfold blitBuffer
    rw [h hbuf]

theorem drawWindow_congr (focusId : Nat) (h : w.buf ≠ .null → mem' w.buf = mem w.buf)
    (fb : DumbFb) : drawWindow mem' focusId fb w = drawWindow mem focusId fb w := by
  unfold drawWindow
  simp only [drawBuffer_congr h]

theorem foldlM_drawWindow_congr (focusId : Nat) {ws : List Window}
    (h : ∀ w ∈ ws, w.buf ≠ .null → mem' w.buf = mem w.buf) (fb : DumbFb) :
    ws.foldlM (drawWindow mem' focusId) fb = ws.foldlM (drawWindow mem focusId) fb := by
  induction ws generalizing fb with
  | nil => rfl
  | cons w ws ih =>
      have hfirst := drawWindow_congr focusId (h w List.mem_cons_self) fb
      have hrest := ih fun w hw => h w (List.mem_cons_of_mem _ hw)
      simp only [List.foldlM_cons, hfirst, hrest]

theorem SameLook.composite (h : SameLook stack stack' mem mem') (fb : DumbFb) (cx cy : Int)
    (cur : ClCursor) :
    composite mem' fb stack' cx cy cur = composite mem fb stack cx cy cur := by
  have hmemory : compositeWindows mem' fb stack' = compositeWindows mem fb stack' := by
    unfold compositeWindows
    simp only [foldlM_drawWindow_congr stack'.focusId fun w hw hbuf =>
      h.pixels _ ((displays_congr h.windows _).mp ⟨hbuf, w, hw, rfl⟩)]
  have htitles (s : WindowStack) : compositeWindows mem fb s =
      compositeWindows mem fb ⟨s.windows.map untitled, s.focusId, 0⟩ := by
    rw [← Native.SameScene.compositeWindows_untitled]
    rfl
  unfold Compositor.composite
  rw [hmemory, htitles stack', h.windows, h.focusId, ← htitles]

end CrystallineLattice.Compositor
