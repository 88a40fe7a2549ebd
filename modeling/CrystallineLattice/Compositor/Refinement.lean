import CrystallineLattice.Compositor.Reads

/-!
# The compositor refines hit-testing

The abstract picture of a window stack asks `window_at` for the one window at a
pixel and takes the colour from that window alone.  The painter's loop of
`composite`, which fills and blits clipped rectangles from the bottom of the
stack to its top, draws exactly this picture.
-/

namespace CrystallineLattice.Compositor

open CrystallineLattice.Foundation
open CrystallineLattice.Stack

/-! ## The abstract picture -/

/-- The colour of a window at a point of its rectangle. -/
def windowPixel (mem : Memory) (focusId : Nat) (w : Window) (px py : Int) : UInt32 :=
  if windowHasSsd w ∧ py - w.y < decorTitlebarH then
    if w.id = focusId then colorTbFocus else colorTbPlain
  else
    let row := py - w.y - titlebar w
    let col := px - w.x
    if w.buf ≠ .null ∧ row < w.bufH ∧ col < w.bufW then
      (mem w.buf).word (row * w.bufStride + 4 * col)
    else w.color

def scenePixel (mem : Memory) (s : WindowStack) (px py : Int) : UInt32 :=
  match windowAt s px py with
  | none => colorDesktop
  | some w => windowPixel mem s.focusId w px py

/-! ## Assumptions on a window -/

/--
The window's fields are C `int`s, its edges do not overflow, and a server title
bar fits in it.
-/
structure Drawable (w : Window) : Prop where
  x : IsInt32 w.x
  y : IsInt32 w.y
  width : IsInt32 w.w
  height : IsInt32 w.h
  right : IsInt32 (w.x + w.w)
  bottom : IsInt32 (w.y + w.h)
  chrome : windowHasSsd w = true → decorTitlebarH ≤ w.h

instance (w : Window) : Decidable (Drawable w) :=
  decidable_of_iff (IsInt32 w.x ∧ IsInt32 w.y ∧ IsInt32 w.w ∧ IsInt32 w.h ∧
      IsInt32 (w.x + w.w) ∧ IsInt32 (w.y + w.h) ∧ (windowHasSsd w = true → decorTitlebarH ≤ w.h))
    ⟨fun ⟨hx, hy, hw, hh, hr, hb, hc⟩ => ⟨hx, hy, hw, hh, hr, hb, hc⟩,
      fun ⟨hx, hy, hw, hh, hr, hb, hc⟩ => ⟨hx, hy, hw, hh, hr, hb, hc⟩⟩

theorem titlebar_nonneg (w : Window) : 0 ≤ titlebar w := by
  unfold titlebar decorTitlebarH
  split <;> omega

theorem content_sums {w : Window} (h : Drawable w) :
    int32 (w.y + titlebar w) = w.y + titlebar w ∧ int32 (w.h - titlebar w) = w.h - titlebar w := by
  have hy := h.y
  have hh := h.height
  have hb := h.bottom
  have hchrome := h.chrome
  unfold IsInt32 at hy hh hb
  cases hssd : windowHasSsd w with
  | false =>
      simp only [titlebar, hssd]
      constructor
      · exact int32_of_isInt32 (by unfold IsInt32; simpa using hy)
      · exact int32_of_isInt32 (by unfold IsInt32; simpa using hh)
  | true =>
      have htall := hchrome hssd
      simp only [titlebar, hssd, if_true]
      unfold decorTitlebarH at htall ⊢
      exact ⟨int32_of_isInt32 (by unfold IsInt32; omega),
        int32_of_isInt32 (by unfold IsInt32; omega)⟩

/-! ## The drawing functions -/

theorem fillRect_painted (fb : DumbFb) {x y w h : Int} (hx : IsInt32 (x + w))
    (hy : IsInt32 (y + h)) (color : UInt32) :
    ∃ fb', fillRect fb x y w h color = some fb' ∧
      Painted fb fb' (fun px py =>
        if x ≤ px ∧ px < x + w ∧ y ≤ py ∧ py < y + h then some color else none) := by
  unfold fillRect
  simp only [int32_of_isInt32 hx, int32_of_isInt32 hy]
  apply forRange_painted
    (fun yy px py => if py = yy ∧ x ≤ px ∧ px < x + w then some color else none)
  · intro yy fb' hlo hhi hframe
    apply forRange_painted
      (fun xx px py => if px = xx ∧ py = yy then some color else none)
    · intro xx fb'' hlo' hhi' hframe'
      have hon : fb''.OnScreen xx yy := by
        unfold DumbFb.OnScreen
        rw [hframe'.w, hframe'.h, hframe.w, hframe.h]
        grind
      exact store_painted hon color
    · intro xx px py hlo' hhi'
      by_cases hpix : px = xx ∧ py = yy
      · right
        have hin : py = yy ∧ x ≤ px ∧ px < x + w := by grind
        rw [if_pos hpix, if_pos hin]
      · exact .inl (if_neg hpix)
    · intro px py hpix hpic
      have hin : py = yy ∧ x ≤ px ∧ px < x + w := by simpa using hpic
      obtain ⟨hx0, hx1, -, -⟩ := hpix
      rw [hframe.w] at hx1
      refine ⟨px, by grind, by grind, ?_⟩
      simp [hin]
  · intro yy px py hlo hhi
    by_cases hpix : py = yy ∧ x ≤ px ∧ px < x + w
    · right
      have hin : x ≤ px ∧ px < x + w ∧ y ≤ py ∧ py < y + h := by grind
      rw [if_pos hpix, if_pos hin]
    · exact .inl (if_neg hpix)
  · intro px py hpix hpic
    have hin : x ≤ px ∧ px < x + w ∧ y ≤ py ∧ py < y + h := by simpa using hpic
    obtain ⟨-, -, hy0, hy1⟩ := hpix
    refine ⟨py, by grind, by grind, ?_⟩
    simp [hin]

theorem blitPixel_painted {mem : Memory} {fb : DumbFb} {w : Window} {y r c : Int}
    (hy : 0 ≤ y ∧ y < fb.h)
    (hload : 0 ≤ int32 (w.x + c) → int32 (w.x + c) < fb.w →
      0 ≤ r * w.bufStride + 4 * c ∧ r * w.bufStride + 4 * c + 4 ≤ (mem w.buf).len) :
    ∃ fb', blitPixel (mem w.buf) w y r c fb = some fb' ∧
      Painted fb fb' (fun px py =>
        if px = int32 (w.x + c) ∧ py = y ∧ 0 ≤ px ∧ px < fb.w then
          some ((mem w.buf).word (r * w.bufStride + 4 * c))
        else none) := by
  unfold blitPixel
  by_cases hclip : int32 (w.x + c) < 0 ∨ fb.w ≤ int32 (w.x + c)
  · refine ⟨fb, if_pos hclip, (Painted.refl fb).congr fun px py _ => ?_⟩
    rw [if_neg]
    omega
  · have hon : fb.OnScreen (int32 (w.x + c)) y := ⟨by omega, by omega, hy⟩
    have hin := hload hon.1 hon.2.1
    obtain ⟨fb', hstore, hpaint⟩ :=
      store_painted hon ((mem w.buf).word (r * w.bufStride + 4 * c))
    refine ⟨fb', by simp [hclip, Block.load, hin, hstore], hpaint.congr fun px py hpix => ?_⟩
    have hbounds : 0 ≤ px ∧ px < fb.w := ⟨hpix.1, hpix.2.1⟩
    simp only [hbounds, and_self, and_true]

theorem blitBuffer_painted {mem : Memory} {fb : DumbFb} {w : Window} (h : Drawable w)
    (hreads : ReadsInside fb w (titlebar w) (mem w.buf).len) :
    ∃ fb', blitBuffer mem fb w (titlebar w) = some fb' ∧
      Painted fb fb' (fun px py =>
        let r := py - w.y - titlebar w
        let c := px - w.x
        if 0 ≤ r ∧ r < w.bufH ∧ r < w.h - titlebar w ∧ 0 ≤ c ∧ c < w.bufW ∧ c < w.w then
          some ((mem w.buf).word (r * w.bufStride + 4 * c))
        else none) := by
  obtain ⟨htop, hheight⟩ := content_sums h
  have hx := h.x
  have hy := h.y
  have hright := h.right
  have hbottom := h.bottom
  have hbar := titlebar_nonneg w
  unfold IsInt32 at hx hy hright hbottom
  -- inside the content rectangle the row and column sums do not overflow
  have hrow : ∀ r, 0 ≤ r → r < w.h - titlebar w →
      int32 (w.y + titlebar w + r) = w.y + titlebar w + r := fun r h0 h1 =>
    int32_of_isInt32 (by unfold IsInt32; omega)
  have hcol : ∀ c, 0 ≤ c → c < w.w → int32 (w.x + c) = w.x + c := fun c h0 h1 =>
    int32_of_isInt32 (by unfold IsInt32; omega)
  unfold ReadsInside at hreads
  unfold blitBuffer
  simp only [hheight]
  apply forRange_painted (fun r px py =>
    let c := px - w.x
    if py = w.y + titlebar w + r ∧ 0 ≤ c ∧ c < w.bufW ∧ c < w.w then
      some ((mem w.buf).word (r * w.bufStride + 4 * c))
    else none)
  · intro r fb' hlo hhi hframe
    have hr : r < w.bufH ∧ r < w.h - titlebar w := by grind
    simp only [blitRow, htop, hrow r hlo hr.2]
    by_cases hclip : w.y + titlebar w + r < 0 ∨ fb'.h ≤ w.y + titlebar w + r
    · refine ⟨fb', if_pos hclip, (Painted.refl fb').congr fun px py hpix => ?_⟩
      obtain ⟨-, -, hy0, hy1⟩ := hpix
      rw [if_neg]
      omega
    · rw [if_neg hclip]
      apply forRange_painted (fun c px py =>
        if px = int32 (w.x + c) ∧ py = w.y + titlebar w + r ∧ 0 ≤ px ∧ px < fb.w then
          some ((mem w.buf).word (r * w.bufStride + 4 * c))
        else none)
      · intro c fb'' hlo' hhi' hframe'
        have hc : c < w.bufW ∧ c < w.w := by grind
        have hdims : fb''.w = fb.w ∧ fb''.h = fb.h :=
          ⟨hframe'.w.trans hframe.w, hframe'.h.trans hframe.h⟩
        have hvis : 0 ≤ w.y + titlebar w + r ∧ w.y + titlebar w + r < fb.h := by
          rw [← hframe.h]
          omega
        rw [← hdims.1]
        apply blitPixel_painted (by rw [hdims.2]; exact hvis)
        intro hx0 hx1
        rw [hdims.1] at hx1
        apply hreads r c
        refine ⟨⟨hlo, hr.1, by rw [hheight]; exact hr.2⟩, ⟨hlo', hc.1, hc.2⟩, ?_⟩
        rw [htop, hrow r hlo hr.2]
        exact ⟨hx0, hx1, hvis⟩
      · intro c px py hlo' hhi'
        have hc : c < w.bufW ∧ c < w.w := by grind
        by_cases hpix : px = int32 (w.x + c) ∧ py = w.y + titlebar w + r ∧ 0 ≤ px ∧ px < fb.w
        · right
          have hcx : px - w.x = c := by
            have hpx := hpix.1
            rw [hcol c hlo' hc.2] at hpx
            omega
          rw [if_pos hpix, if_pos ⟨hpix.2.1, by omega⟩, hcx]
        · exact .inl (if_neg hpix)
      · intro px py hpix hpic
        obtain ⟨hpy, hc0, hc1, hc2⟩ : py = w.y + titlebar w + r ∧ 0 ≤ px - w.x ∧
            px - w.x < w.bufW ∧ px - w.x < w.w := by
          by_contra hno
          exact hpic (if_neg hno)
        refine ⟨px - w.x, hc0, by grind, ?_⟩
        have hpx : px = int32 (w.x + (px - w.x)) := by
          rw [hcol _ hc0 hc2]
          omega
        obtain ⟨hx0, hx1, -, -⟩ := hpix
        rw [hframe.w] at hx1
        rw [if_pos ⟨hpx, hpy, hx0, hx1⟩, if_pos ⟨hpy, hc0, hc1, hc2⟩]
  · intro r px py hlo hhi
    by_cases hpix : py = w.y + titlebar w + r ∧ 0 ≤ px - w.x ∧ px - w.x < w.bufW ∧
        px - w.x < w.w
    · right
      have hr : py - w.y - titlebar w = r := by omega
      have hrows : r < w.bufH ∧ r < w.h - titlebar w := by grind
      simp only [hr]
      rw [if_pos hpix, if_pos ⟨hlo, hrows.1, hrows.2, hpix.2⟩]
    · exact .inl (if_neg hpix)
  · intro px py hpix hpic
    obtain ⟨hr0, hr1, hr2, hc⟩ : 0 ≤ py - w.y - titlebar w ∧
        py - w.y - titlebar w < w.bufH ∧ py - w.y - titlebar w < w.h - titlebar w ∧
          0 ≤ px - w.x ∧ px - w.x < w.bufW ∧ px - w.x < w.w := by
      by_contra hno
      exact hpic (if_neg hno)
    refine ⟨py - w.y - titlebar w, hr0, by grind, ?_⟩
    rw [if_pos ⟨by omega, hc⟩, if_pos ⟨hr0, hr1, hr2, hc⟩]

theorem drawTitlebar_painted (focusId : Nat) (fb : DumbFb) {w : Window} (h : Drawable w) :
    ∃ fb', drawTitlebar focusId fb w = some fb' ∧
      Painted fb fb' (fun px py =>
        if windowHasSsd w ∧ w.x ≤ px ∧ px < w.x + w.w ∧ w.y ≤ py ∧
            py < w.y + decorTitlebarH then
          some (if w.id = focusId then colorTbFocus else colorTbPlain)
        else none) := by
  unfold drawTitlebar
  cases hssd : windowHasSsd w with
  | false => exact ⟨fb, rfl, (Painted.refl fb).congr fun _ _ _ => by simp⟩
  | true =>
      have hsum : IsInt32 (w.y + decorTitlebarH) := by
        have htop := (content_sums h).1
        simp only [titlebar, hssd, if_true] at htop
        exact htop ▸ int32_isInt32 _
      obtain ⟨fb', hrun, hpaint⟩ := fillRect_painted fb h.right hsum
        (if w.id = focusId then colorTbFocus else colorTbPlain)
      exact ⟨fb', hrun, hpaint.congr fun _ _ _ => by simp⟩

theorem drawBuffer_painted (mem : Memory) (fb : DumbFb) {w : Window} (h : Drawable w)
    (hreads : w.buf ≠ .null → ReadsInside fb w (titlebar w) (mem w.buf).len) :
    ∃ fb', drawBuffer mem fb w = some fb' ∧
      Painted fb fb' (fun px py =>
        let r := py - w.y - titlebar w
        let c := px - w.x
        if w.buf ≠ .null ∧ 0 ≤ r ∧ r < w.bufH ∧ r < w.h - titlebar w ∧
            0 ≤ c ∧ c < w.bufW ∧ c < w.w then
          some ((mem w.buf).word (r * w.bufStride + 4 * c))
        else none) := by
  unfold drawBuffer
  by_cases hnull : w.buf = .null
  · exact ⟨fb, by simp [hnull], (Painted.refl fb).congr fun _ _ _ => by simp [hnull]⟩
  · obtain ⟨fb', hrun, hpaint⟩ := blitBuffer_painted h (hreads hnull)
    exact ⟨fb', by simpa [hnull] using hrun, hpaint.congr fun _ _ _ => by simp [hnull]⟩

theorem drawWindow_painted {mem : Memory} (focusId : Nat) {fb : DumbFb} {w : Window}
    (h : Drawable w)
    (hreads : w.mapped = true → w.buf ≠ .null →
      ReadsInside fb w (titlebar w) (mem w.buf).len) :
    ∃ fb', drawWindow mem focusId fb w = some fb' ∧
      Painted fb fb' (fun px py =>
        if w.mapped && w.contains px py then some (windowPixel mem focusId w px py)
        else none) := by
  cases hmapped : w.mapped with
  | false => exact ⟨fb, by simp [drawWindow, hmapped], Painted.refl fb⟩
  | true =>
      obtain ⟨htop, hheight⟩ := content_sums h
      have hsum : IsInt32 (w.y + titlebar w + (w.h - titlebar w)) := by
        rw [show w.y + titlebar w + (w.h - titlebar w) = w.y + w.h by omega]
        exact h.bottom
      -- the title bar, the placeholder colour over the content, the client's pixels
      obtain ⟨fb₁, hrun₁, hpaint₁⟩ := drawTitlebar_painted focusId fb h
      obtain ⟨fb₂, hrun₂, hpaint₂⟩ := fillRect_painted fb₁ h.right hsum w.color
      have hpaint₁₂ := hpaint₁.trans hpaint₂
      obtain ⟨fb₃, hrun₃, hpaint₃⟩ := drawBuffer_painted mem fb₂ h
        (fun hnull r c hrc => hreads hmapped hnull r c
          ⟨hrc.row, hrc.col, hpaint₁₂.onScreen.mp hrc.visible⟩)
      refine ⟨fb₃, ?_, (hpaint₁₂.trans hpaint₃).congr fun px py _ => ?_⟩
      · simp [drawWindow, hmapped, htop, hheight, hrun₁, hrun₂, hrun₃]
      · -- the latest of the three paints is the window's own pixel
        have hcontains : w.contains px py = true ↔
            w.x ≤ px ∧ px < w.x + w.w ∧ w.y ≤ py ∧ py < w.y + w.h := by
          simp [Window.contains, int32_of_isInt32 h.right, int32_of_isInt32 h.bottom, and_assoc]
        simp only [Bool.true_and, hcontains, windowPixel]
        cases hssd : windowHasSsd w with
        | false =>
            simp only [titlebar, hssd]
            grind
        | true =>
            have htall := h.chrome hssd
            simp only [titlebar, hssd, decorTitlebarH] at htall ⊢
            grind

/-! ## The whole picture -/

/-- Drawing a list of windows, bottom first, paints the topmost window at each pixel. -/
theorem foldlM_drawWindow_painted {mem : Memory} (focusId : Nat) {windows : List Window}
    {fb : DumbFb} (h : ∀ w ∈ windows, Drawable w)
    (hreads : ∀ w ∈ windows, w.mapped = true → w.buf ≠ .null →
      ReadsInside fb w (titlebar w) (mem w.buf).len) :
    ∃ fb', windows.foldlM (drawWindow mem focusId) fb = some fb' ∧
      Painted fb fb' (fun px py =>
        (windows.reverse.find? fun w => w.mapped && w.contains px py).map
          fun w => windowPixel mem focusId w px py) := by
  induction windows generalizing fb with
  | nil => exact ⟨fb, rfl, Painted.refl fb⟩
  | cons w windows ih =>
      obtain ⟨fb₁, hrun₁, hpaint₁⟩ := drawWindow_painted focusId
        (h w List.mem_cons_self) (hreads w List.mem_cons_self)
      have hreads₁ : ∀ w ∈ windows, w.mapped = true → w.buf ≠ .null →
          ReadsInside fb₁ w (titlebar w) (mem w.buf).len := by
        intro w hw hm hb r c hrc
        refine hreads w (List.mem_cons_of_mem _ hw) hm hb r c ⟨hrc.row, hrc.col, ?_⟩
        exact hpaint₁.onScreen.mp hrc.visible
      obtain ⟨fb₂, hrun₂, hpaint₂⟩ :=
        ih (fun w hw => h w (List.mem_cons_of_mem _ hw)) hreads₁
      refine ⟨fb₂, by simp [hrun₁, hrun₂], (hpaint₁.trans hpaint₂).congr fun px py _ => ?_⟩
      simp only [List.reverse_cons, List.find?_append, List.find?_singleton]
      cases windows.reverse.find? fun w => w.mapped && w.contains px py with
      | some v => simp
      | none => by_cases hw : (w.mapped && w.contains px py) = true <;> simp [hw]

/--
After the window loop of `composite` every pixel of the framebuffer has the
colour that the window `window_at` finds there gives it, or the desktop colour;
no store leaves the framebuffer (the run does not fault), and no word of the
mapping other than a pixel's is written.
-/
theorem compositeWindows_refines_scene (mem : Memory) (fb : DumbFb) (s : WindowStack)
    (hdraw : ∀ w ∈ s.windows, Drawable w)
    (hbuf : ∀ w ∈ s.windows, w.mapped = true → w.buf ≠ .null →
      ReadsInside fb w (titlebar w) (mem w.buf).len) :
    ∃ fb', compositeWindows mem fb s = some fb' ∧ SameFrame fb fb' ∧
      (∀ px py, fb.OnScreen px py → fb'.pixel px py = scenePixel mem s px py) ∧
      ∀ o, (∀ px py, fb.OnScreen px py → o ≠ fb.offset px py) → fb'.map o = fb.map o := by
  obtain ⟨fb₁, hrun₁, hpaint₁⟩ := fillRect_painted fb (x := 0) (y := 0)
    (by simpa using fb.wInt) (by simpa using fb.hInt) colorDesktop
  have hreads₁ : ∀ w ∈ s.windows, w.mapped = true → w.buf ≠ .null →
      ReadsInside fb₁ w (titlebar w) (mem w.buf).len := by
    intro w hw hm hb r c hrc
    exact hbuf w hw hm hb r c ⟨hrc.row, hrc.col, hpaint₁.onScreen.mp hrc.visible⟩
  obtain ⟨fb₂, hrun₂, hpaint₂⟩ :=
    foldlM_drawWindow_painted s.focusId hdraw hreads₁
  have hpaint := hpaint₁.trans hpaint₂
  refine ⟨fb₂, by simp [compositeWindows, hrun₁, hrun₂], hpaint.frame, ?_, hpaint.padding⟩
  intro px py hpix
  rw [hpaint.pixels px py hpix]
  obtain ⟨hx0, hx1, hy0, hy1⟩ := hpix
  simp only [scenePixel, windowAt]
  cases s.windows.reverse.find? fun w => w.mapped && w.contains px py with
  | some w => simp
  | none => simp [hx0, hx1, hy0, hy1]

/-! ## What a finished run tells -/

theorem ReadsInside.of_frame {fb fb' : DumbFb} (hframe : SameFrame fb fb') {w : Window}
    {cy0 len : Int} (h : ReadsInside fb' w cy0 len) : ReadsInside fb w cy0 len := by
  intro r c hreads
  refine h r c ⟨hreads.row, hreads.col, ?_⟩
  have hvisible := hreads.visible
  unfold DumbFb.OnScreen at hvisible ⊢
  rw [hframe.w, hframe.h]
  exact hvisible

theorem readsInside_of_drawWindow {mem : Memory} {focusId : Nat} {fb fb' : DumbFb} {w : Window}
    (h : Drawable w) (hrun : drawWindow mem focusId fb w = some fb') (hmapped : w.mapped = true)
    (hbuf : w.buf ≠ .null) : ReadsInside fb w (titlebar w) (mem w.buf).len := by
  obtain ⟨htop, hheight⟩ := content_sums h
  have hsum : IsInt32 (w.y + titlebar w + (w.h - titlebar w)) := by
    rw [show w.y + titlebar w + (w.h - titlebar w) = w.y + w.h by omega]
    exact h.bottom
  obtain ⟨fb₁, hrun₁, hpaint₁⟩ := drawTitlebar_painted focusId fb h
  obtain ⟨fb₂, hrun₂, hpaint₂⟩ := fillRect_painted fb₁ h.right hsum w.color
  have hblit : blitBuffer mem fb₂ w (titlebar w) = some fb' := by
    simpa [drawWindow, hmapped, htop, hheight, hrun₁, hrun₂, drawBuffer, hbuf] using hrun
  exact ((blitBuffer_succeeds_iff mem fb₂ w _).mp ⟨fb', hblit⟩).of_frame
    (hpaint₁.trans hpaint₂).frame

theorem readsInside_of_foldlM {mem : Memory} {focusId : Nat} {windows : List Window}
    {fb fb' : DumbFb} (h : ∀ w ∈ windows, Drawable w)
    (hrun : windows.foldlM (drawWindow mem focusId) fb = some fb') :
    ∀ w ∈ windows, w.mapped = true → w.buf ≠ .null →
      ReadsInside fb w (titlebar w) (mem w.buf).len := by
  induction windows generalizing fb with
  | nil => simp
  | cons w windows ih =>
      have hw := h w List.mem_cons_self
      obtain ⟨fb₁, hrun₁, hrest⟩ : ∃ fb₁, drawWindow mem focusId fb w = some fb₁ ∧
          windows.foldlM (drawWindow mem focusId) fb₁ = some fb' := by
        simpa [List.foldlM_cons, Option.bind_eq_some_iff] using hrun
      have hreads := readsInside_of_drawWindow hw hrun₁
      obtain ⟨fb₂, hrun₂, hpaint⟩ := drawWindow_painted focusId hw hreads
      cases hrun₁.symm.trans hrun₂
      intro v hv hmapped hbuf
      rcases List.mem_cons.mp hv with rfl | hv
      · exact hreads hmapped hbuf
      · exact (ih (fun w hw => h w (List.mem_cons_of_mem _ hw)) hrest v hv hmapped hbuf).of_frame
          hpaint.frame

theorem pixel_of_compositeWindows {mem : Memory} {fb fb' : DumbFb} {s : WindowStack}
    (hdraw : ∀ w ∈ s.windows, Drawable w) (hrun : compositeWindows mem fb s = some fb')
    {px py : Int} (hpix : fb.OnScreen px py) : fb'.pixel px py = scenePixel mem s px py := by
  obtain ⟨fb₁, hrun₁, hpaint₁⟩ := fillRect_painted fb (x := 0) (y := 0)
    (by simpa using fb.wInt) (by simpa using fb.hInt) colorDesktop
  have hloop : s.windows.foldlM (drawWindow mem s.focusId) fb₁ = some fb' := by
    simpa [compositeWindows, hrun₁] using hrun
  have hreads := readsInside_of_foldlM hdraw hloop
  obtain ⟨fb₂, hrun₂, -, hpixels, -⟩ := compositeWindows_refines_scene mem fb s hdraw
    fun w hw hmapped hbuf => (hreads w hw hmapped hbuf).of_frame hpaint₁.frame
  cases hrun.symm.trans hrun₂
  exact hpixels px py hpix

theorem windowPixel_content {mem : Memory} {focusId : Nat} {w : Window} {px py : Int}
    (hcontent : 0 ≤ py - w.y - titlebar w) (hbuf : w.buf ≠ .null)
    (hrow : py - w.y - titlebar w < w.bufH) (hcol : px - w.x < w.bufW) :
    windowPixel mem focusId w px py =
      (mem w.buf).word ((py - w.y - titlebar w) * w.bufStride + 4 * (px - w.x)) := by
  unfold windowPixel
  rw [if_neg]
  · exact if_pos ⟨hbuf, hrow, hcol⟩
  · rintro ⟨hssd, hbar⟩
    rw [titlebar, if_pos hssd] at hcontent
    omega

/-- A framebuffer of 4 by 32 pixels with padded rows, cleared. -/
def smallFb : DumbFb where
  w := 4
  h := 32
  stride := 64
  size := 2048
  map := fun _ => 0
  wInt := by decide
  hInt := by decide
  pitch := by decide
  room := by decide

/-- A decorated window hanging off the left edge, with a buffer of 2 by 2 pixels. -/
def smallWindow : Window :=
  { newWindow 1 .normal (-1) 0 4 31 0x000000ff [] with
    buf := .mapping 4096, bufW := 2, bufH := 2, bufStride := 8 }

def smallStack : WindowStack := ⟨[smallWindow], 1, 2⟩

def smallMemory : Memory := fun _ => ⟨16, fun offset => UInt32.ofNat offset.toNat⟩

theorem compositeWindows_refines_scene_small :
    ∃ fb', compositeWindows smallMemory smallFb smallStack = some fb' ∧
      SameFrame smallFb fb' ∧
      (∀ px py, smallFb.OnScreen px py →
        fb'.pixel px py = scenePixel smallMemory smallStack px py) ∧
      ∀ o, (∀ px py, smallFb.OnScreen px py → o ≠ smallFb.offset px py) →
        fb'.map o = smallFb.map o := by
  apply compositeWindows_refines_scene
  · intro w hw
    rw [List.mem_singleton.mp hw]
    constructor <;> decide
  · intro w hw _ _ r c hreads
    rw [List.mem_singleton.mp hw] at hreads ⊢
    have hrow := hreads.row
    have hcol := hreads.col
    simp only [smallWindow, newWindow, smallMemory] at hrow hcol ⊢
    omega

/-- The four cases of the specification, read off the picture of one window. -/
example : [(0, 0), (0, 28), (1, 28), (3, 0)].map
      (fun p => scenePixel smallMemory smallStack p.1 p.2) =
    [colorTbFocus, 4, 0x000000ff, colorDesktop] := by decide

end CrystallineLattice.Compositor
