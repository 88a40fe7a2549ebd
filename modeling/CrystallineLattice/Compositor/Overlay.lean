import CrystallineLattice.Compositor.Cursor
import CrystallineLattice.Compositor.Painting

/-!
# What the cursor covers

The cursor is drawn over the finished picture.  Its rectangle may leave the screen
on any side; each of its pixels is mixed with the pixel under it, channel by
channel in one word.
-/

namespace CrystallineLattice.Compositor

open CrystallineLattice.Foundation
open CrystallineLattice.Native

/-! ## Channels -/

/-- The byte of a pixel that starts at bit `shift`. -/
def channel (v : UInt32) (shift : Nat) : Nat := v.toNat / 2 ^ shift % 256

/-- `s` over `d` with the weight `a` of 255. -/
def mix (s d a : Nat) : Nat := (s * a + d * (255 - a)) / 255

theorem channel_le (v : UInt32) (shift : Nat) : channel v shift ≤ 255 := by
  unfold channel
  omega

theorem mix_between {s d a : Nat} (ha : a ≤ 255) : min s d ≤ mix s d a ∧ mix s d a ≤ max s d := by
  have hweights : min s d * 255 = min s d * a + min s d * (255 - a) := by
    rw [← Nat.mul_add]
    congr 1
    omega
  have hweights' : max s d * 255 = max s d * a + max s d * (255 - a) := by
    rw [← Nat.mul_add]
    congr 1
    omega
  have hlow : min s d * a + min s d * (255 - a) ≤ s * a + d * (255 - a) :=
    Nat.add_le_add (Nat.mul_le_mul_right _ (min_le_left s d))
      (Nat.mul_le_mul_right _ (min_le_right s d))
  have hhigh : s * a + d * (255 - a) ≤ max s d * a + max s d * (255 - a) :=
    Nat.add_le_add (Nat.mul_le_mul_right _ (le_max_left s d))
      (Nat.mul_le_mul_right _ (le_max_right s d))
  unfold mix
  constructor
  · rw [Nat.le_div_iff_mul_le (by decide)]
    omega
  · rw [← Nat.lt_succ_iff, Nat.div_lt_iff_lt_mul (by decide)]
    omega

theorem shiftRight_channel (v shift : UInt32) (hshift : shift.toNat < 32) :
    ((v >>> shift) &&& 0xff).toNat = channel v shift.toNat := by
  have hmask : (0xff : UInt32).toNat = 2 ^ 8 - 1 := rfl
  rw [UInt32.toNat_and, UInt32.toNat_shiftRight, hmask, Nat.and_two_pow_sub_one_eq_mod,
    Nat.mod_eq_of_lt hshift, Nat.shiftRight_eq_div_pow]
  rfl

theorem mixChannel_toNat (px d a shift : UInt32) (hshift : shift.toNat < 32)
    (ha : a.toNat ≤ 255) :
    (mixChannel px d a shift).toNat =
      mix (channel px shift.toNat) (channel d shift.toNat) a.toNat := by
  have hs := channel_le px shift.toNat
  have hd := channel_le d shift.toNat
  have hrest : (255 - a).toNat = 255 - a.toNat :=
    UInt32.toNat_sub_of_le _ _ (UInt32.le_iff_toNat_le.mpr ha)
  have hsa : channel px shift.toNat * a.toNat ≤ 255 * 255 := Nat.mul_le_mul hs ha
  have hda : channel d shift.toNat * (255 - a.toNat) ≤ 255 * 255 :=
    Nat.mul_le_mul hd (Nat.sub_le _ _)
  unfold mixChannel mix
  rw [UInt32.toNat_div, UInt32.toNat_add, UInt32.toNat_mul, UInt32.toNat_mul,
    shiftRight_channel _ _ hshift, shiftRight_channel _ _ hshift, hrest]
  rw [Nat.mod_eq_of_lt (by omega), Nat.mod_eq_of_lt (by omega), Nat.mod_eq_of_lt (by omega)]
  rfl

theorem pack_toNat {r g b : UInt32} (hr : r.toNat ≤ 255) (hg : g.toNat ≤ 255)
    (hb : b.toNat ≤ 255) :
    ((r <<< 16) ||| (g <<< 8) ||| b).toNat = r.toNat * 65536 + g.toNat * 256 + b.toNat := by
  have hr' : (r <<< 16).toNat = r.toNat <<< 16 := by
    have h16 : (16 : UInt32).toNat % 32 = 16 := rfl
    rw [UInt32.toNat_shiftLeft, h16]
    apply Nat.mod_eq_of_lt
    rw [Nat.shiftLeft_eq]
    omega
  have hg' : (g <<< 8).toNat = g.toNat * 256 := by
    rw [UInt32.toNat_shiftLeft]
    have h8 : (8 : UInt32).toNat % 32 = 8 := rfl
    rw [h8, Nat.shiftLeft_eq]
    omega
  have hhigh : r.toNat <<< 16 + g.toNat * 256 = (r.toNat * 256 + g.toNat) <<< 8 := by
    rw [Nat.shiftLeft_eq, Nat.shiftLeft_eq]
    omega
  rw [UInt32.toNat_or, UInt32.toNat_or, hr', hg', ← Nat.shiftLeft_add_eq_or_of_lt (by omega),
    hhigh, ← Nat.shiftLeft_add_eq_or_of_lt (by omega), Nat.shiftLeft_eq]
  omega

theorem alpha_le (v : UInt32) : (v >>> 24).toNat ≤ 255 := by
  have hlt := v.toNat_lt
  have h24 : (24 : UInt32).toNat % 32 = 24 := rfl
  rw [UInt32.toNat_shiftRight, h24, Nat.shiftRight_eq_div_pow]
  omega

theorem channel_blend {px : UInt32} (ha : px >>> 24 ≠ 0xff) (d : UInt32) :
    (∀ shift, shift = 16 ∨ shift = 8 ∨ shift = 0 →
        channel (blend px d) shift =
          mix (channel px shift) (channel d shift) (px >>> 24).toNat) ∧
      channel (blend px d) 24 = 0 := by
  have hle := alpha_le px
  have hmixed (shift : UInt32) (hshift : shift.toNat < 32) :=
    mixChannel_toNat px d (px >>> 24) shift hshift hle
  have hbyte (shift : Nat) : mix (channel px shift) (channel d shift) (px >>> 24).toNat ≤ 255 :=
    (mix_between hle).2.trans (max_le (channel_le px shift) (channel_le d shift))
  have hword : (blend px d).toNat =
      mix (channel px 16) (channel d 16) (px >>> 24).toNat * 65536 +
        mix (channel px 8) (channel d 8) (px >>> 24).toNat * 256 +
        mix (channel px 0) (channel d 0) (px >>> 24).toNat := by
    have h16 := hmixed 16 (by decide)
    have h8 := hmixed 8 (by decide)
    have h0 := hmixed 0 (by decide)
    simp only [blend, if_neg ha]
    rw [pack_toNat (h16.trans_le (hbyte _)) (h8.trans_le (hbyte _)) (h0.trans_le (hbyte _)), h16,
      h8, h0]
    rfl
  have hr := hbyte 16
  have hg := hbyte 8
  have hb := hbyte 0
  constructor
  · rintro shift (rfl | rfl | rfl)
    · rw [channel, hword]
      omega
    · rw [channel, hword]
      omega
    · rw [channel, hword]
      omega
  · rw [channel, hword]
    omega

/-! ## Clipping -/

section Clip

variable {n c size : Int}

/-- A coordinate that wraps around is negative: its pixel is skipped like any beyond the edge. -/
theorem offScreen_iff (hn : IsInt32 n) (hsize : IsInt32 size) (hc0 : 0 ≤ c) (hc : c < 64) :
    int32 (n + c) < 0 ∨ size ≤ int32 (n + c) ↔ ¬ (0 ≤ n + c ∧ n + c < size) := by
  unfold IsInt32 at hn hsize
  unfold int32
  omega

theorem int32_onScreen (hsize : IsInt32 size) (h : 0 ≤ n + c ∧ n + c < size) :
    int32 (n + c) = n + c := by
  unfold IsInt32 at hsize
  apply int32_of_isInt32
  unfold IsInt32
  omega

end Clip

/-! ## The shape of a client -/

def shapeInk (cur : ClCursor) (ox oy px py : Int) : UInt32 :=
  cur.argb ((py - oy) * cur.w + (px - ox)).toNat

def InRect (ox oy w h px py : Int) : Prop :=
  (0 ≤ px - ox ∧ px - ox < w) ∧ 0 ≤ py - oy ∧ py - oy < h

instance (ox oy w h px py : Int) : Decidable (InRect ox oy w h px py) :=
  inferInstanceAs (Decidable ((0 ≤ px - ox ∧ px - ox < w) ∧ 0 ≤ py - oy ∧ py - oy < h))

def shapePaint (cur : ClCursor) (ox oy : Int) (fb : DumbFb) (px py : Int) : Option UInt32 :=
  if InRect ox oy cur.w cur.h px py ∧ shapeInk cur ox oy px py >>> 24 ≠ 0 then
    some (blend (shapeInk cur ox oy px py) (fb.pixel px py))
  else none

section Shape

variable {cur : ClCursor} {ox oy : Int} (hox : IsInt32 ox) (hoy : IsInt32 oy)
  (hw : cur.w ≤ 64) (hh : cur.h ≤ 64)

def shapeRowPaint (cur : ClCursor) (ox oy r : Int) (fb : DumbFb) (px py : Int) : Option UInt32 :=
  if py - oy = r then shapePaint cur ox oy fb px py else none

include hox hw in
theorem shapePixel_painted {fb fb' : DumbFb} {r c : Int} (hr : 0 ≤ oy + r ∧ oy + r < fb.h)
    (hr0 : 0 ≤ r) (hrh : r < cur.h) (hc0 : 0 ≤ c) (hcw : c < cur.w) (hframe : SameFrame fb fb')
    (hfresh : ∀ px py, fb.OnScreen px py → px - ox = c → py - oy = r →
      fb'.pixel px py = fb.pixel px py) :
    ∃ fb'', shapePixel cur ox (oy + r) r c fb' = some fb'' ∧
      Painted fb' fb'' (fun px py =>
        if px - ox = c then shapeRowPaint cur ox oy r fb px py else none) := by
  have hclip := offScreen_iff hox fb'.wInt hc0 (by omega)
  have hink : shapeInk cur ox oy (ox + c) (oy + r) = cur.argb (r * cur.w + c).toNat := by
    simp [shapeInk]
  unfold shapePixel
  dsimp only
  by_cases hskip : ¬ (0 ≤ ox + c ∧ ox + c < fb'.w) ∨ cur.argb (r * cur.w + c).toNat >>> 24 = 0
  · refine ⟨fb', if_pos (by rwa [← or_assoc, hclip]), (Painted.refl fb').congr ?_⟩
    intro px py hpix
    obtain ⟨hx0, hx1, -⟩ := hpix
    by_cases hat : px - ox = c ∧ py - oy = r
    · obtain rfl : px = ox + c := by omega
      obtain rfl : py = oy + r := by omega
      have hclear : cur.argb (r * cur.w + c).toNat >>> 24 = 0 := by
        rcases hskip with hoff | hclear
        · exact (hoff ⟨hx0, hx1⟩).elim
        · exact hclear
      simp [shapeRowPaint, shapePaint, hink, hclear]
    · unfold shapeRowPaint
      split_ifs <;> first | rfl | omega
  · push Not at hskip
    obtain ⟨hon, halpha⟩ := hskip
    have hx : int32 (ox + c) = ox + c := int32_onScreen fb'.wInt hon
    have hpix : fb'.OnScreen (ox + c) (oy + r) := ⟨hon.1, hon.2, hr.1, by rw [hframe.h]; exact hr.2⟩
    have hpix' : fb.OnScreen (ox + c) (oy + r) := by
      simpa only [DumbFb.OnScreen, hframe.w, hframe.h] using hpix
    rw [hx, if_neg (by rintro (h | h | h) <;> first | omega | exact halpha h), DumbFb.recolor]
    obtain ⟨fb'', hrun, hpaint⟩ := store_painted hpix
      (blend (cur.argb (r * cur.w + c).toNat) (fb'.pixel (ox + c) (oy + r)))
    refine ⟨fb'', hrun, hpaint.congr ?_⟩
    intro px py _
    by_cases hat : px = ox + c ∧ py = oy + r
    · obtain ⟨rfl, rfl⟩ := hat
      rw [hfresh _ _ hpix' (by omega) (by omega)]
      simp [shapeRowPaint, shapePaint, InRect, hink, halpha, hr0, hrh, hc0, hcw]
    · unfold shapeRowPaint
      rw [if_neg hat]
      split_ifs <;> first | rfl | omega

include hox hoy hw hh in
theorem shapeRow_painted {fb fb' : DumbFb} {r : Int} (hr0 : 0 ≤ r) (hrh : r < cur.h)
    (hframe : SameFrame fb fb')
    (hfresh : ∀ px py, fb.OnScreen px py → py - oy = r → fb'.pixel px py = fb.pixel px py) :
    ∃ fb'', shapeRow cur ox oy r fb' = some fb'' ∧
      Painted fb' fb'' (fun px py =>
        if py - oy = r then shapePaint cur ox oy fb px py else none) := by
  have hclip := offScreen_iff hoy fb'.hInt hr0 (by omega)
  unfold shapeRow
  dsimp only
  by_cases hon : 0 ≤ oy + r ∧ oy + r < fb'.h
  · have hy : int32 (oy + r) = oy + r := int32_onScreen fb'.hInt hon
    rw [if_neg (by rw [hclip]; exact not_not.mpr hon), hy]
    apply forRange_painted_once (fun px _ => px - ox)
    · intro c fb₁ hc0 hcw hframe₁ hfresh₁
      apply shapePixel_painted hox hw (by rwa [← hframe.h]) hr0 hrh hc0 hcw (hframe.trans hframe₁)
      intro px py hpix hcol hrow
      have hpix' : fb'.OnScreen px py := by
        simpa only [DumbFb.OnScreen, hframe.w, hframe.h] using hpix
      rw [hfresh₁ px py hpix' hcol, hfresh px py hpix hrow]
    · intro px py hpaint
      unfold shapePaint at hpaint
      split_ifs at hpaint with hrow hin
      · exact hin.1.1
      · exact (hpaint rfl).elim
      · exact (hpaint rfl).elim
  · refine ⟨fb', if_pos (hclip.mpr hon), (Painted.refl fb').congr ?_⟩
    intro px py hpix
    obtain ⟨-, -, hy0, hy1⟩ := hpix
    rw [if_neg (by omega)]

end Shape

/-! ## The arrow -/

def arrowPaint (cx cy px py : Int) : Option UInt32 :=
  if InRect cx cy 11 16 px py ∧ arrowInk (py - cy) (px - cx) ≠ ' ' then
    some (if arrowInk (py - cy) (px - cx) = 'X' then 0x00000000 else 0x00ffffff)
  else none

theorem arrowPixel_painted {cx cy r c : Int} (hcx : IsInt32 cx) (hcy : IsInt32 cy) (hr0 : 0 ≤ r)
    (hr : r < 16) (hc0 : 0 ≤ c) (hc : c < 11) (fb : DumbFb) :
    ∃ fb', arrowPixel cx cy r c fb = some fb' ∧
      Painted fb fb' (fun px py =>
        if px - cx = c then if py - cy = r then arrowPaint cx cy px py else none else none) := by
  have hclipx := offScreen_iff hcx fb.wInt hc0 (by omega)
  have hclipy := offScreen_iff hcy fb.hInt hr0 (by omega)
  have hsame : arrowInk (cy + r - cy) (cx + c - cx) = arrowInk r c := by simp
  unfold arrowPixel
  dsimp only
  by_cases hskip : arrowInk r c = ' ' ∨ ¬ (0 ≤ cx + c ∧ cx + c < fb.w) ∨
      ¬ (0 ≤ cy + r ∧ cy + r < fb.h)
  · refine ⟨fb, if_pos (by rwa [← hclipx, ← hclipy, or_assoc] at hskip), (Painted.refl fb).congr ?_⟩
    rintro px py ⟨hx0, hx1, hy0, hy1⟩
    by_cases hat : px - cx = c ∧ py - cy = r
    · obtain rfl : px = cx + c := by omega
      obtain rfl : py = cy + r := by omega
      have hblank : arrowInk r c = ' ' := by
        rcases hskip with hblank | hoff | hoff
        · exact hblank
        · exact (hoff ⟨hx0, hx1⟩).elim
        · exact (hoff ⟨hy0, hy1⟩).elim
      simp [arrowPaint, hblank]
    · split_ifs <;> first | rfl | omega
  · push Not at hskip
    obtain ⟨hink, honx, hony⟩ := hskip
    have hx : int32 (cx + c) = cx + c := int32_onScreen fb.wInt honx
    have hy : int32 (cy + r) = cy + r := int32_onScreen fb.hInt hony
    rw [hx, hy, if_neg (by rintro (h | h | h | h | h) <;> first | omega | exact hink h)]
    have hpix : fb.OnScreen (cx + c) (cy + r) := ⟨honx.1, honx.2, hony⟩
    obtain ⟨fb', hrun, hpaint⟩ :=
      store_painted hpix (if arrowInk r c = 'X' then 0x00000000 else 0x00ffffff)
    refine ⟨fb', hrun, hpaint.congr ?_⟩
    intro px py _
    by_cases hat : px = cx + c ∧ py = cy + r
    · obtain ⟨rfl, rfl⟩ := hat
      simp [arrowPaint, InRect, hink, hr0, hr, hc0, hc]
    · rw [if_neg hat]
      split_ifs <;> first | rfl | omega

theorem arrowPaint_rect {cx cy px py : Int} (h : arrowPaint cx cy px py ≠ none) :
    InRect cx cy 11 16 px py := by
  unfold arrowPaint at h
  by_contra hout
  exact h (if_neg fun hin => hout hin.1)

theorem shapePaint_rect {cur : ClCursor} {ox oy px py : Int} {fb : DumbFb}
    (h : shapePaint cur ox oy fb px py ≠ none) : InRect ox oy cur.w cur.h px py := by
  unfold shapePaint at h
  by_contra hout
  exact h (if_neg fun hin => hout hin.1)

/-! ## The cursor -/

/-- A shape has a size that a client can set, and its origin is a pair of `int`s. -/
structure CursorFits (cur : ClCursor) (cx cy : Int) : Prop where
  x : IsInt32 cx
  y : IsInt32 cy
  size : cur.custom = true → cur.w ≤ clCursorMax ∧ cur.h ≤ clCursorMax
  origin : cur.custom = true → IsInt32 (cx - cur.hotspotX) ∧ IsInt32 (cy - cur.hotspotY)

def InCursor (cur : ClCursor) (cx cy px py : Int) : Prop :=
  cur.hidden = false ∧
    if cur.custom then InRect (cx - cur.hotspotX) (cy - cur.hotspotY) cur.w cur.h px py
    else InRect cx cy 11 16 px py

def cursorPaint (cur : ClCursor) (cx cy : Int) (fb : DumbFb) (px py : Int) : Option UInt32 :=
  if cur.hidden then none
  else if cur.custom then shapePaint cur (cx - cur.hotspotX) (cy - cur.hotspotY) fb px py
  else arrowPaint cx cy px py

theorem drawCursor_painted {cur : ClCursor} {cx cy : Int} (hfits : CursorFits cur cx cy)
    (fb : DumbFb) :
    ∃ fb', drawCursor cur cx cy fb = some fb' ∧ Painted fb fb' (cursorPaint cur cx cy fb) := by
  unfold drawCursor cursorPaint
  cases cur.hidden with
  | true => exact ⟨fb, rfl, Painted.refl fb⟩
  | false =>
      cases hcustom : cur.custom with
      | true =>
          obtain ⟨hw, hh⟩ := hfits.size hcustom
          obtain ⟨hox, hoy⟩ := hfits.origin hcustom
          simp only [int32_of_isInt32 hox, int32_of_isInt32 hoy, if_true, Bool.false_eq_true,
            if_false]
          apply forRange_painted_once (fun _ py => py - (cy - cur.hotspotY))
          · intro r fb' hr0 hrh hframe hfresh
            exact shapeRow_painted hox hoy hw hh hr0 hrh hframe hfresh
          · intro px py hpaint
            exact (shapePaint_rect hpaint).2
      | false =>
          simp only [Bool.false_eq_true, if_false]
          apply forRange_painted_once (fun _ py => py - cy)
          · intro r fb' hr0 hr _ _
            apply forRange_painted_once (fun px _ => px - cx)
            · intro c fb'' hc0 hc _ _
              exact arrowPixel_painted hfits.x hfits.y hr0 hr hc0 hc fb''
            · intro px py hpaint
              split_ifs at hpaint
              · exact (arrowPaint_rect hpaint).1
              · exact (hpaint rfl).elim
          · intro px py hpaint
            exact (arrowPaint_rect hpaint).2

theorem cursorPaint_inCursor {cur : ClCursor} {cx cy px py : Int} {fb : DumbFb}
    (h : cursorPaint cur cx cy fb px py ≠ none) : InCursor cur cx cy px py := by
  unfold cursorPaint at h
  unfold InCursor
  cases hhidden : cur.hidden with
  | true => simp [hhidden] at h
  | false =>
      cases hcustom : cur.custom with
      | true =>
          simp only [hhidden, hcustom] at h
          exact ⟨rfl, shapePaint_rect h⟩
      | false =>
          simp only [hhidden, hcustom] at h
          exact ⟨rfl, arrowPaint_rect h⟩

/-- `v` is `s` drawn over `d`, by the alpha of `s`. -/
structure Overlaid (s d v : UInt32) : Prop where
  clear : s >>> 24 = 0 → v = d
  solid : s >>> 24 = 255 → v = s &&& 0x00ffffff
  mixed : s >>> 24 ≠ 0 → s >>> 24 ≠ 255 → ∀ shift, shift = 16 ∨ shift = 8 ∨ shift = 0 →
    channel v shift = (channel s shift * (s >>> 24).toNat +
        channel d shift * (255 - (s >>> 24).toNat)) / 255 ∧
      min (channel s shift) (channel d shift) ≤ channel v shift ∧
      channel v shift ≤ max (channel s shift) (channel d shift)
  top : s >>> 24 ≠ 0 → s >>> 24 ≠ 255 → channel v 24 = 0

theorem overlaid_blend (s d : UInt32) :
    Overlaid s d (if s >>> 24 ≠ 0 then blend s d else d) := by
  have hle := alpha_le s
  constructor
  · intro hclear
    rw [if_neg (not_not.mpr hclear)]
  · intro hsolid
    rw [if_pos (by rw [hsolid]; decide), blend]
    exact if_pos hsolid
  · intro hvisible htranslucent shift hshift
    rw [if_pos hvisible, (channel_blend htranslucent d).1 shift hshift]
    exact ⟨rfl, mix_between hle⟩
  · intro hvisible htranslucent
    rw [if_pos hvisible]
    exact (channel_blend htranslucent d).2

/--
The cursor changes pixels of the screen that lie in its rectangle, and no others;
the pixels of a shape are those of the picture with the shape over them.
-/
theorem drawCursor_overlays_cursor {cur : ClCursor} {cx cy : Int} (hfits : CursorFits cur cx cy)
    (fb : DumbFb) :
    ∃ fb', drawCursor cur cx cy fb = some fb' ∧ SameFrame fb fb' ∧
      (∀ o, fb'.map o ≠ fb.map o →
        ∃ px py, fb.OnScreen px py ∧ InCursor cur cx cy px py ∧ o = fb.offset px py) ∧
      (cur.hidden = true → fb' = fb) ∧
      (cur.custom = true → ∀ px py, fb.OnScreen px py → InCursor cur cx cy px py →
        Overlaid (shapeInk cur (cx - cur.hotspotX) (cy - cur.hotspotY) px py) (fb.pixel px py)
          (fb'.pixel px py)) := by
  obtain ⟨fb', hrun, hpaint⟩ := drawCursor_painted hfits fb
  refine ⟨fb', hrun, hpaint.frame, ?_, ?_, ?_⟩
  · intro o hchanged
    by_contra hout
    apply hchanged
    apply hpaint.padding o
    rintro px py hpix rfl
    have hsame : fb'.pixel px py = fb.pixel px py := by
      rw [hpaint.pixels px py hpix]
      by_cases hpainted : cursorPaint cur cx cy fb px py = none
      · rw [hpainted, Option.getD_none]
      · exact (hout ⟨px, py, hpix, cursorPaint_inCursor hpainted, rfl⟩).elim
    rw [DumbFb.pixel, hpaint.frame.offset] at hsame
    exact hchanged hsame
  · intro hhidden
    simp only [drawCursor, hhidden, if_true, Option.some.injEq] at hrun
    exact hrun.symm
  · rintro hcustom px py hpix ⟨hhidden, hrect⟩
    rw [if_pos hcustom] at hrect
    have hpixel : fb'.pixel px py =
        if shapeInk cur (cx - cur.hotspotX) (cy - cur.hotspotY) px py >>> 24 ≠ 0 then
          blend (shapeInk cur (cx - cur.hotspotX) (cy - cur.hotspotY) px py) (fb.pixel px py)
        else fb.pixel px py := by
      rw [hpaint.pixels px py hpix]
      simp only [cursorPaint, hhidden, hcustom, shapePaint, hrect, true_and]
      split_ifs <;> simp_all
    rw [hpixel]
    exact overlaid_blend _ _

/-- A translucent pixel, and a screen of two by two. -/
def dot : ClCursor := ⟨true, false, 1, 1, 0, 0, fun _ => 0x80ffffff⟩
def squareFb : DumbFb :=
  ⟨2, 2, 8, 16, fun _ => colorDesktop, by decide, by decide, by decide, by decide⟩

theorem drawCursor_overlays_cursor_dot :
    ∃ fb', drawCursor dot 0 0 squareFb = some fb' ∧ SameFrame squareFb fb' ∧
      (∀ o, fb'.map o ≠ squareFb.map o →
        ∃ px py, squareFb.OnScreen px py ∧ InCursor dot 0 0 px py ∧ o = squareFb.offset px py) ∧
      (dot.hidden = true → fb' = squareFb) ∧
      (dot.custom = true → ∀ px py, squareFb.OnScreen px py → InCursor dot 0 0 px py →
        Overlaid (shapeInk dot (0 - dot.hotspotX) (0 - dot.hotspotY) px py)
          (squareFb.pixel px py) (fb'.pixel px py)) := by
  apply drawCursor_overlays_cursor
  exact ⟨by decide, by decide, fun _ => by decide, fun _ => by decide⟩

end CrystallineLattice.Compositor
