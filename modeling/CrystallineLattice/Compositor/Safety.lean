import CrystallineLattice.Compositor.Cursor
import CrystallineLattice.Compositor.Reads

/-!
# Drawing without a fault

Whatever the geometry of the windows and wherever the cursor is, what is drawn is
clipped to the framebuffer.  So a frame can only fault at a client's buffer, and
it does not if each window's pixels lie in the memory behind its buffer.
-/

namespace CrystallineLattice.Compositor

open CrystallineLattice.Foundation
open CrystallineLattice.Stack
open CrystallineLattice.Native (ClCursor)

/-- Rows of `bufW` pixels, `bufStride` bytes apart, lie in `len` bytes. -/
def PixelsInside (bufW bufH bufStride len : Int) : Prop :=
  ∀ r c : Int, 0 ≤ r → r < bufH → 0 ≤ c → c < bufW →
    0 ≤ r * bufStride + 4 * c ∧ r * bufStride + 4 * c + 4 ≤ len

theorem PixelsInside.mono {bufW bufH bufStride len len' : Int}
    (h : PixelsInside bufW bufH bufStride len) (hle : len ≤ len') :
    PixelsInside bufW bufH bufStride len' := fun r c hr hrh hc hcw => by
  obtain ⟨hlow, hhigh⟩ := h r c hr hrh hc hcw
  omega

theorem pixelsInside_packed (bufW bufH : Int) (hW : 0 ≤ bufW) :
    PixelsInside bufW bufH (4 * bufW) (bufW * bufH * 4) := by
  intro r c hr hrh hc hcw
  have hrow : 0 ≤ r * (4 * bufW) := Int.mul_nonneg hr (by omega)
  have hroom : (r + 1) * (4 * bufW) ≤ bufH * (4 * bufW) :=
    Int.mul_le_mul_of_nonneg_right (by omega) (by omega)
  have hlen : bufW * bufH * 4 = bufH * (4 * bufW) := by ring
  rw [hlen]
  rw [Int.add_mul] at hroom
  omega

/-- The step does not fault, and it draws on the same framebuffer. -/
def Draws (step : DumbFb → Option DumbFb) : Prop :=
  ∀ fb, ∃ fb', step fb = some fb' ∧ SameFrame fb fb'

theorem store_draws {fb : DumbFb} {x y : Int} (h : fb.OnScreen x y) (value : UInt32) :
    ∃ fb', fb.store x y value = some fb' ∧ SameFrame fb fb' := by
  obtain ⟨fb', hstore, hpaint⟩ := store_painted h value
  exact ⟨fb', hstore, hpaint.frame⟩

theorem Draws.some : Draws Option.some := fun fb => ⟨fb, rfl, .refl fb⟩

theorem Draws.bind {step step' : DumbFb → Option DumbFb} (h : Draws step) (h' : Draws step') :
    Draws fun fb => (step fb).bind step' := fun fb => by
  obtain ⟨fb₁, hrun₁, hframe₁⟩ := h fb
  obtain ⟨fb₂, hrun₂, hframe₂⟩ := h' fb₁
  exact ⟨fb₂, by simp [hrun₁, hrun₂], hframe₁.trans hframe₂⟩

theorem Draws.forRange {lo hi : Int} {body : Int → DumbFb → Option DumbFb}
    (h : ∀ i, lo ≤ i → i < hi → Draws (body i)) : Draws (forRange lo hi body) := fun fb =>
  forRange_keeps (SameFrame.refl fb) fun i fb₁ hlo hhi hframe => by
    obtain ⟨fb₂, hrun, hframe₂⟩ := h i hlo hhi fb₁
    exact ⟨fb₂, hrun, hframe.trans hframe₂⟩

theorem fillRect_draws (x y w h : Int) (color : UInt32) :
    Draws fun fb => fillRect fb x y w h color := fun fb => by
  unfold fillRect
  refine forRange_keeps (SameFrame.refl fb) fun yy fb₁ hy0 hy1 hframe => ?_
  refine forRange_keeps hframe fun xx fb₂ hx0 hx1 hframe₂ => ?_
  have hon : fb₂.OnScreen xx yy := by
    refine ⟨?_, ?_, ?_, ?_⟩
    · split at hx0 <;> omega
    · rw [hframe₂.w]
      split at hx1 <;> omega
    · split at hy0 <;> omega
    · rw [hframe₂.h]
      split at hy1 <;> omega
  obtain ⟨fb₃, hstore, hframe₃⟩ := store_draws hon color
  exact ⟨fb₃, hstore, hframe₂.trans hframe₃⟩

/-! ## Windows -/

section Windows

variable {mem : Memory} {w : Window}

theorem blitBuffer_draws (cy0 : Int)
    (h : PixelsInside w.bufW w.bufH w.bufStride (mem w.buf).len) :
    Draws fun fb => blitBuffer mem fb w cy0 := by
  refine Draws.forRange fun r hr0 hr1 fb => blitRow_succeeds (mem w.buf) fb w cy0 r ?_
  intro _ c hc0 hc1 _
  refine h r c hr0 ?_ hc0 ?_
  · split at hr1 <;> omega
  · split at hc1 <;> omega

theorem drawTitlebar_draws (focusId : Nat) (w : Window) :
    Draws fun fb => drawTitlebar focusId fb w := by
  unfold drawTitlebar
  split
  · exact fillRect_draws _ _ _ _ _
  · exact Draws.some

theorem drawBuffer_draws
    (h : w.buf ≠ .null → PixelsInside w.bufW w.bufH w.bufStride (mem w.buf).len) :
    Draws fun fb => drawBuffer mem fb w := by
  unfold drawBuffer
  split
  · exact Draws.some
  · rename_i hbuf
    exact blitBuffer_draws (titlebar w) (h hbuf)

theorem drawWindow_draws (focusId : Nat)
    (h : w.buf ≠ .null → PixelsInside w.bufW w.bufH w.bufStride (mem w.buf).len) :
    Draws fun fb => drawWindow mem focusId fb w := by
  unfold drawWindow
  split
  · exact Draws.some
  · exact (drawTitlebar_draws focusId w).bind ((fillRect_draws _ _ _ _ _).bind (drawBuffer_draws h))

theorem foldlM_draws (focusId : Nat) {windows : List Window} (h : ∀ w ∈ windows, w.buf ≠ .null →
      PixelsInside w.bufW w.bufH w.bufStride (mem w.buf).len) :
    Draws fun fb => windows.foldlM (drawWindow mem focusId) fb := by
  induction windows with
  | nil => exact Draws.some
  | cons w windows ih =>
      simp only [List.foldlM_cons]
      exact (drawWindow_draws focusId (h w List.mem_cons_self)).bind
        (ih fun w' hw' => h w' (List.mem_cons_of_mem w hw'))

end Windows

/-! ## The cursor -/

theorem arrowPixel_draws (cx cy r c : Int) : Draws (arrowPixel cx cy r c) := fun fb => by
  unfold arrowPixel
  dsimp only
  split
  · exact ⟨fb, rfl, .refl fb⟩
  · rename_i hin
    push Not at hin
    exact store_draws ⟨hin.2.1, hin.2.2.1, hin.2.2.2.1, hin.2.2.2.2⟩ _

theorem shapeRow_draws (cur : ClCursor) (ox oy r : Int) : Draws (shapeRow cur ox oy r) :=
    fun fb => by
  unfold shapeRow
  dsimp only
  split
  · exact ⟨fb, rfl, .refl fb⟩
  · refine forRange_keeps (SameFrame.refl fb) fun c fb₁ _ _ hframe => ?_
    unfold shapePixel
    dsimp only
    split
    · exact ⟨fb₁, rfl, hframe⟩
    · rename_i hy hx
      push Not at hx
      have hon : fb₁.OnScreen (int32 (ox + c)) (int32 (oy + r)) :=
        ⟨hx.1, hx.2.1, by omega, by rw [hframe.h]; omega⟩
      obtain ⟨fb₂, hstore, hframe₂⟩ := store_draws hon _
      exact ⟨fb₂, hstore, hframe.trans hframe₂⟩

theorem drawCursor_draws (cur : ClCursor) (cx cy : Int) : Draws (drawCursor cur cx cy) :=
    fun fb => by
  unfold drawCursor
  split
  · exact ⟨fb, rfl, .refl fb⟩
  · split
    · exact Draws.forRange (fun r _ _ => shapeRow_draws cur _ _ r) fb
    · exact Draws.forRange (fun r _ _ => Draws.forRange fun c _ _ => arrowPixel_draws cx cy r c) fb

/-! ## A frame -/

theorem composite_draws {mem : Memory} {s : WindowStack} (h : ∀ w ∈ s.windows, w.buf ≠ .null →
      PixelsInside w.bufW w.bufH w.bufStride (mem w.buf).len) (cx cy : Int) (cur : ClCursor) :
    Draws fun fb => composite mem fb s cx cy cur := fun fb => by
  obtain ⟨fb₁, hrun₁, hframe₁⟩ := fillRect_draws 0 0 fb.w fb.h colorDesktop fb
  obtain ⟨fb₂, hrun₂, hframe₂⟩ := foldlM_draws s.focusId h fb₁
  obtain ⟨fb₃, hrun₃, hframe₃⟩ := drawCursor_draws cur cx cy fb₂
  refine ⟨fb₃, ?_, (hframe₁.trans hframe₂).trans hframe₃⟩
  simp only [composite, compositeWindows, hrun₁, Option.bind_eq_bind,
    Option.bind_some, hrun₂, hrun₃]

end CrystallineLattice.Compositor
