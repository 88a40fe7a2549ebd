import CrystallineLattice.Compositor.Painting

/-!
# What the blit loop reads

`Reads` names the buffer words that `blit_buffer` loads for a window at its
present place on a framebuffer.  The loop runs without a fault exactly when all
of them lie inside the buffer: the stores never fault, since they are clipped to
the framebuffer.
-/

namespace CrystallineLattice.Compositor

open CrystallineLattice.Foundation
open CrystallineLattice.Stack

/-- `blit_buffer` reads row `r`, column `c` of the window's buffer on this framebuffer. -/
structure Reads (fb : DumbFb) (w : Window) (cy0 r c : Int) : Prop where
  row : 0 ≤ r ∧ r < w.bufH ∧ r < int32 (w.h - cy0)
  col : 0 ≤ c ∧ c < w.bufW ∧ c < w.w
  visible : fb.OnScreen (int32 (w.x + c)) (int32 (int32 (w.y + cy0) + r))

def ReadsInside (fb : DumbFb) (w : Window) (cy0 len : Int) : Prop :=
  ∀ r c, Reads fb w cy0 r c →
    0 ≤ r * w.bufStride + 4 * c ∧ r * w.bufStride + 4 * c + 4 ≤ len

theorem blitPixel_fails {b : Block} {fb : DumbFb} {w : Window} {y r c : Int}
    (hx : 0 ≤ int32 (w.x + c) ∧ int32 (w.x + c) < fb.w)
    (hload : ¬ (0 ≤ r * w.bufStride + 4 * c ∧ r * w.bufStride + 4 * c + 4 ≤ b.len)) :
    blitPixel b w y r c fb = none := by
  have hclip : ¬ (int32 (w.x + c) < 0 ∨ fb.w ≤ int32 (w.x + c)) := by omega
  simp only [blitPixel, hclip, if_false, Block.load, hload, Option.bind_none]

theorem blitPixel_succeeds (b : Block) (fb : DumbFb) {w : Window} {y : Int} (r c : Int)
    (hy : 0 ≤ y ∧ y < fb.h)
    (hload : 0 ≤ int32 (w.x + c) ∧ int32 (w.x + c) < fb.w →
      0 ≤ r * w.bufStride + 4 * c ∧ r * w.bufStride + 4 * c + 4 ≤ b.len) :
    ∃ fb', blitPixel b w y r c fb = some fb' ∧ SameFrame fb fb' := by
  unfold blitPixel
  by_cases hclip : int32 (w.x + c) < 0 ∨ fb.w ≤ int32 (w.x + c)
  · exact ⟨fb, if_pos hclip, .refl fb⟩
  · have hx : 0 ≤ int32 (w.x + c) ∧ int32 (w.x + c) < fb.w := by omega
    obtain ⟨fb', hstore, hpaint⟩ :=
      store_painted ⟨hx.1, hx.2, hy⟩ (b.word (r * w.bufStride + 4 * c))
    have hin := hload hx
    exact ⟨fb', by simp [hclip, Block.load, hin, hstore], hpaint.frame⟩

/-- The visible words of one row, with the row's screen line already computed. -/
def RowInside (b : Block) (fb : DumbFb) (w : Window) (r : Int) : Prop :=
  ∀ c, 0 ≤ c → c < (if w.w < w.bufW then w.w else w.bufW) →
    0 ≤ int32 (w.x + c) ∧ int32 (w.x + c) < fb.w →
      0 ≤ r * w.bufStride + 4 * c ∧ r * w.bufStride + 4 * c + 4 ≤ b.len

theorem blitRow_succeeds (b : Block) (fb : DumbFb) (w : Window) (cy0 r : Int)
    (h : 0 ≤ int32 (int32 (w.y + cy0) + r) ∧ int32 (int32 (w.y + cy0) + r) < fb.h →
      RowInside b fb w r) :
    ∃ fb', blitRow b w cy0 r fb = some fb' ∧ SameFrame fb fb' := by
  unfold blitRow
  by_cases hclip : int32 (int32 (w.y + cy0) + r) < 0 ∨ fb.h ≤ int32 (int32 (w.y + cy0) + r)
  · exact ⟨fb, if_pos hclip, .refl fb⟩
  · have hy : 0 ≤ int32 (int32 (w.y + cy0) + r) ∧ int32 (int32 (w.y + cy0) + r) < fb.h := by
      omega
    simp only [hclip, if_false]
    apply forRange_keeps (SameFrame.refl fb)
    intro c fb₁ hlo hhi hframe
    obtain ⟨fb₂, hrun, hframe₂⟩ := blitPixel_succeeds b fb₁ r c
      (by rw [hframe.h]; exact hy) (by rw [hframe.w]; exact h hy c hlo hhi)
    exact ⟨fb₂, hrun, hframe.trans hframe₂⟩

theorem blitRow_fails {b : Block} {fb : DumbFb} {w : Window} {cy0 r : Int}
    (hy : 0 ≤ int32 (int32 (w.y + cy0) + r) ∧ int32 (int32 (w.y + cy0) + r) < fb.h)
    (h : ¬ RowInside b fb w r) : blitRow b w cy0 r fb = none := by
  have hclip : ¬ (int32 (int32 (w.y + cy0) + r) < 0 ∨
      fb.h ≤ int32 (int32 (w.y + cy0) + r)) := by omega
  simp only [blitRow, hclip, if_false]
  apply forRange_fails (I := SameFrame fb)
    (fun c => 0 ≤ int32 (w.x + c) ∧ int32 (w.x + c) < fb.w →
      0 ≤ r * w.bufStride + 4 * c ∧ r * w.bufStride + 4 * c + 4 ≤ b.len) (SameFrame.refl fb)
  · intro c fb₁ _ _ hframe hok
    obtain ⟨fb₂, hrun, hframe₂⟩ := blitPixel_succeeds b fb₁ r c
      (by rw [hframe.h]; exact hy) (by rw [hframe.w]; exact hok)
    exact ⟨fb₂, hrun, hframe.trans hframe₂⟩
  · intro c fb₁ _ _ hframe hbad
    obtain ⟨hx, hload⟩ := Classical.not_imp.mp hbad
    exact blitPixel_fails (by rw [hframe.w]; exact hx) hload
  · by_contra hno
    push Not at hno
    exact h fun c hlo hhi => hno c hlo hhi

/-- The blit loop faults exactly when it reads outside the buffer. -/
theorem blitBuffer_succeeds_iff (mem : Memory) (fb : DumbFb) (w : Window) (cy0 : Int) :
    (∃ fb', blitBuffer mem fb w cy0 = some fb') ↔
      ReadsInside fb w cy0 (mem w.buf).len := by
  unfold blitBuffer
  constructor
  · rintro ⟨fb', hrun⟩ r c hreads
    by_contra hout
    have hnone : forRange 0 (if int32 (w.h - cy0) < w.bufH then int32 (w.h - cy0) else w.bufH)
        (blitRow (mem w.buf) w cy0) fb = none := forRange_fails (I := SameFrame fb)
      (fun r => 0 ≤ int32 (int32 (w.y + cy0) + r) ∧
        int32 (int32 (w.y + cy0) + r) < fb.h → RowInside (mem w.buf) fb w r)
      (SameFrame.refl fb)
      (fun r fb₁ _ _ hframe hok => by
        obtain ⟨fb₂, hrun₂, hframe₂⟩ := blitRow_succeeds (mem w.buf) fb₁ w cy0 r (by
            simp only [RowInside, hframe.h, hframe.w]
            exact hok)
        exact ⟨fb₂, hrun₂, hframe.trans hframe₂⟩)
      (fun r fb₁ _ _ hframe hbad => by
        obtain ⟨hy, hrow⟩ := Classical.not_imp.mp hbad
        apply blitRow_fails
        · rw [hframe.h]
          exact hy
        · simpa only [RowInside, hframe.w] using hrow)
      ⟨r, hreads.row.1, by have := hreads.row; grind, fun hrow =>
        hout (hrow hreads.visible.2.2 c hreads.col.1 (by have := hreads.col; grind)
          ⟨hreads.visible.1, hreads.visible.2.1⟩)⟩
    rw [hnone] at hrun
    simp at hrun
  · intro hin
    have hloop : ∃ fb', forRange 0
        (if int32 (w.h - cy0) < w.bufH then int32 (w.h - cy0) else w.bufH)
        (blitRow (mem w.buf) w cy0) fb = some fb' ∧ SameFrame fb fb' := forRange_keeps
      (SameFrame.refl fb) (fun r fb₁ hlo hhi hframe => by
        obtain ⟨fb₂, hrun₂, hframe₂⟩ := blitRow_succeeds (mem w.buf) fb₁ w cy0 r (by
            intro hy c hc0 hc1 hx
            rw [hframe.h] at hy
            rw [hframe.w] at hx
            exact hin r c ⟨by grind, by grind, hx.1, hx.2, hy⟩)
        exact ⟨fb₂, hrun₂, hframe.trans hframe₂⟩)
    obtain ⟨fb', hrun, -⟩ := hloop
    exact ⟨fb', hrun⟩

end CrystallineLattice.Compositor
