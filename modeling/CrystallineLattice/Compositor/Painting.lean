import CrystallineLattice.Compositor.Model
import Mathlib.Data.Option.Basic
import Mathlib.Tactic.Ring
import Mathlib.Tactic.Linarith

/-!
# What a drawing step paints

`Painted fb fb' paint` says that `fb'` is `fb` with some of its on-screen pixels
replaced: `paint` gives the new colour of each replaced pixel, and every other
word of the mapping, the padding between rows included, is as before.  The
drawing functions are described by their `paint`, and these compose.
-/

namespace CrystallineLattice.Compositor

open CrystallineLattice.Foundation
open CrystallineLattice.Stack

/-- Two framebuffers over the same mapping. -/
structure SameFrame (fb fb' : DumbFb) : Prop where
  w : fb'.w = fb.w
  h : fb'.h = fb.h
  stride : fb'.stride = fb.stride
  size : fb'.size = fb.size

namespace SameFrame

variable {fb fb' fb'' : DumbFb}

theorem refl (fb : DumbFb) : SameFrame fb fb := ⟨rfl, rfl, rfl, rfl⟩

theorem trans (h : SameFrame fb fb') (h' : SameFrame fb' fb'') : SameFrame fb fb'' :=
  ⟨h'.w.trans h.w, h'.h.trans h.h, h'.stride.trans h.stride, h'.size.trans h.size⟩

theorem offset (h : SameFrame fb fb') (px py : Int) : fb'.offset px py = fb.offset px py := by
  simp [DumbFb.offset, h.stride]

end SameFrame

namespace DumbFb

def OnScreen (fb : DumbFb) (px py : Int) : Prop :=
  0 ≤ px ∧ px < fb.w ∧ 0 ≤ py ∧ py < fb.h

instance (fb : DumbFb) (px py : Int) : Decidable (fb.OnScreen px py) :=
  inferInstanceAs (Decidable (0 ≤ px ∧ px < fb.w ∧ 0 ≤ py ∧ py < fb.h))

theorem offset_inj {fb : DumbFb} {px py px' py' : Int} (h : fb.OnScreen px py)
    (h' : fb.OnScreen px' py') (heq : fb.offset px py = fb.offset px' py') :
    px = px' ∧ py = py' := by
  obtain ⟨hx0, hx1, -, -⟩ := h
  obtain ⟨hx0', hx1', -, -⟩ := h'
  have hpitch := fb.pitch
  unfold offset at heq
  have hrow {p q : Int} (hp0 : 0 ≤ p) (hp1 : p < fb.w) :
      (q * fb.stride + 4 * p) / fb.stride = q := by
    rw [Int.add_comm, Int.add_mul_ediv_right _ _ (by omega),
      Int.ediv_eq_zero_of_lt (by omega) (by omega), Int.zero_add]
  have hpy : py = py' := by
    rw [← hrow (q := py) hx0 hx1, heq, hrow hx0' hx1']
  subst hpy
  exact ⟨by omega, rfl⟩

theorem offset_inside {fb : DumbFb} {px py : Int} (h : fb.OnScreen px py) :
    0 ≤ fb.offset px py ∧ fb.offset px py + 4 ≤ fb.size := by
  obtain ⟨hx0, hx1, hy0, hy1⟩ := h
  have hpitch := fb.pitch
  have hroom := fb.room
  unfold offset
  constructor
  · nlinarith
  · nlinarith

end DumbFb

structure Painted (fb fb' : DumbFb) (paint : Int → Int → Option UInt32) : Prop where
  frame : SameFrame fb fb'
  pixels : ∀ px py, fb.OnScreen px py →
    fb'.pixel px py = (paint px py).getD (fb.pixel px py)
  padding : ∀ o, (∀ px py, fb.OnScreen px py → o ≠ fb.offset px py) → fb'.map o = fb.map o

namespace Painted

variable {fb fb' fb'' : DumbFb} {paint paint' : Int → Int → Option UInt32}

theorem refl (fb : DumbFb) : Painted fb fb (fun _ _ => none) :=
  ⟨.refl fb, fun _ _ _ => rfl, fun _ _ => rfl⟩

theorem congr (h : Painted fb fb' paint)
    (heq : ∀ px py, fb.OnScreen px py → paint px py = paint' px py) :
    Painted fb fb' paint' :=
  ⟨h.frame, fun px py hpix => by rw [← heq px py hpix]; exact h.pixels px py hpix, h.padding⟩

theorem trans (h : Painted fb fb' paint) (h' : Painted fb' fb'' paint') :
    Painted fb fb'' (fun px py => (paint' px py).or (paint px py)) where
  frame := h.frame.trans h'.frame
  pixels px py hpix := by
    have hpix' : fb'.OnScreen px py := by
      simpa only [DumbFb.OnScreen, h.frame.w, h.frame.h] using hpix
    rw [h'.pixels px py hpix', h.pixels px py hpix]
    cases paint' px py <;> rfl
  padding o ho := by
    have ho' : ∀ px py, fb'.OnScreen px py → o ≠ fb'.offset px py := by
      intro px py hpix
      rw [h.frame.offset]
      exact ho px py (by simpa only [DumbFb.OnScreen, h.frame.w, h.frame.h] using hpix)
    rw [h'.padding o ho', h.padding o ho]

theorem onScreen (h : Painted fb fb' paint) {px py : Int} :
    fb'.OnScreen px py ↔ fb.OnScreen px py := by
  simp only [DumbFb.OnScreen, h.frame.w, h.frame.h]

end Painted

theorem store_painted {fb : DumbFb} {x y : Int} (h : fb.OnScreen x y) (value : UInt32) :
    ∃ fb', fb.store x y value = some fb' ∧
      Painted fb fb' (fun px py => if px = x ∧ py = y then some value else none) := by
  refine ⟨fb.poke (fb.offset x y) value, if_pos (DumbFb.offset_inside h),
    ⟨rfl, rfl, rfl, rfl⟩, ?_, ?_⟩
  · intro px py hpix
    change (if fb.offset px py = fb.offset x y then value else fb.pixel px py) = _
    by_cases hat : px = x ∧ py = y
    · simp [hat.1, hat.2]
    · have hne : ¬ fb.offset px py = fb.offset x y := fun e =>
        hat (DumbFb.offset_inj hpix h e)
      simp [hat, hne]
  · intro o ho
    exact if_neg (ho x y h)

/--
A loop whose iterations each paint a part of one picture paints the picture.
`part i` is what iteration `i` paints.
-/
theorem forRange_painted {fb : DumbFb} {lo hi : Int} {body : Int → DumbFb → Option DumbFb}
    (part : Int → Int → Int → Option UInt32) {picture : Int → Int → Option UInt32}
    (hbody : ∀ i fb', lo ≤ i → i < hi → SameFrame fb fb' →
      ∃ fb'', body i fb' = some fb'' ∧ Painted fb' fb'' (part i))
    (hpart : ∀ i px py, lo ≤ i → i < hi → part i px py = none ∨ part i px py = picture px py)
    (hcover : ∀ px py, fb.OnScreen px py → picture px py ≠ none →
      ∃ i, lo ≤ i ∧ i < hi ∧ part i px py = picture px py) :
    ∃ fb', forRange lo hi body fb = some fb' ∧ Painted fb fb' picture := by
  classical
  -- what the iterations below `i` have painted
  let sofar (i : Int) (px py : Int) : Option UInt32 :=
    if ∃ j, lo ≤ j ∧ j < i ∧ part j px py ≠ none then picture px py else none
  have hloop : ∃ fb', forRange lo hi body fb = some fb' ∧
      Painted fb fb' (sofar (max lo hi)) := forRange_rule
    (P := fun i fb' => Painted fb fb' (sofar i))
    ((Painted.refl fb).congr fun px py _ => by
      have hno : ¬ ∃ j, lo ≤ j ∧ j < lo ∧ part j px py ≠ none := by
        rintro ⟨j, hj, hj', -⟩
        omega
      simp [sofar, hno])
    (fun i fb' hlo hhi hP => by
      obtain ⟨fb'', hrun, hpaint⟩ := hbody i fb' hlo hhi hP.frame
      refine ⟨fb'', hrun, (hP.trans hpaint).congr fun px py _ => ?_⟩
      cases hi_part : part i px py with
      | none =>
          have hsame : (∃ j, lo ≤ j ∧ j < i + 1 ∧ part j px py ≠ none) ↔
              ∃ j, lo ≤ j ∧ j < i ∧ part j px py ≠ none := by
            constructor
            · rintro ⟨j, hj, hj', hne⟩
              have hji : j ≠ i := fun e => hne (e ▸ hi_part)
              exact ⟨j, hj, by omega, hne⟩
            · rintro ⟨j, hj, hj', hne⟩
              exact ⟨j, hj, by omega, hne⟩
          simp only [Option.none_or, sofar, hsame]
      | some v =>
          have hdone : ∃ j, lo ≤ j ∧ j < i + 1 ∧ part j px py ≠ none :=
            ⟨i, hlo, by omega, by simp [hi_part]⟩
          have hpic : picture px py = some v := by
            rcases hpart i px py hlo hhi with h | h
            · rw [hi_part] at h
              simp at h
            · rw [← h, hi_part]
          simp only [sofar, hdone, if_true, hpic, Option.some_or])
  obtain ⟨fb', hrun, hpaint⟩ := hloop
  refine ⟨fb', hrun, hpaint.congr fun px py hpix => ?_⟩
  cases hpic : picture px py with
  | none => simp [sofar, hpic]
  | some v =>
      obtain ⟨i, hlo, hhi, hi_part⟩ := hcover px py hpix (by simp [hpic])
      have hdone : ∃ j, lo ≤ j ∧ j < max lo hi ∧ part j px py ≠ none :=
        ⟨i, hlo, by omega, by simp [hi_part, hpic]⟩
      simp only [sofar, hdone, if_true, hpic]

/--
A loop that paints each pixel in one iteration, `index`, paints the picture.  Such
an iteration finds its pixels as they were before the loop.
-/
theorem forRange_painted_once {fb : DumbFb} {lo hi : Int} {body : Int → DumbFb → Option DumbFb}
    (index : Int → Int → Int) {picture : Int → Int → Option UInt32}
    (hbody : ∀ i fb', lo ≤ i → i < hi → SameFrame fb fb' →
      (∀ px py, fb.OnScreen px py → index px py = i → fb'.pixel px py = fb.pixel px py) →
      ∃ fb'', body i fb' = some fb'' ∧
        Painted fb' fb'' (fun px py => if index px py = i then picture px py else none))
    (hpicture : ∀ px py, picture px py ≠ none → lo ≤ index px py ∧ index px py < hi) :
    ∃ fb', forRange lo hi body fb = some fb' ∧ Painted fb fb' picture := by
  have hloop : ∃ fb', forRange lo hi body fb = some fb' ∧
      Painted fb fb' (fun px py => if index px py < max lo hi then picture px py else none) := by
    apply forRange_rule (P := fun i fb' =>
      Painted fb fb' (fun px py => if index px py < i then picture px py else none))
    · apply (Painted.refl fb).congr
      intro px py _
      by_cases hpic : picture px py = none
      · simp [hpic]
      · have hindex := hpicture px py hpic
        rw [if_neg (by omega)]
    · intro i fb' hlo hhi hsofar
      obtain ⟨fb'', hrun, hpaint⟩ := hbody i fb' hlo hhi hsofar.frame (by
        intro px py hpix hindex
        rw [hsofar.pixels px py hpix, if_neg (by omega), Option.getD_none])
      refine ⟨fb'', hrun, (hsofar.trans hpaint).congr ?_⟩
      intro px py _
      by_cases hnow : index px py = i
      · rw [if_pos hnow, if_neg (by omega), if_pos (by omega), Option.or_none]
      · rw [if_neg hnow, Option.none_or]
        by_cases hbefore : index px py < i
        · rw [if_pos hbefore, if_pos (by omega)]
        · rw [if_neg hbefore, if_neg (by omega)]
  obtain ⟨fb', hrun, hpaint⟩ := hloop
  refine ⟨fb', hrun, hpaint.congr ?_⟩
  intro px py _
  by_cases hpic : picture px py = none
  · simp [hpic]
  · have hindex := hpicture px py hpic
    rw [if_pos (by omega)]

end CrystallineLattice.Compositor
