import CrystallineLattice.Foundation.Runs
import CrystallineLattice.Manager.Model
import Mathlib.Algebra.Order.Ring.Abs
import Mathlib.Data.Rat.Floor
import Mathlib.Tactic.Linarith

/-!
# What slow motion loses

A motion moves the pointer by whole pixels: `wm_pointer_motion` drops the fraction
of each delta, and keeps no account of it.
-/

namespace CrystallineLattice.Manager

open CrystallineLattice.Foundation
open CrystallineLattice.Stack

/-! ## Truncation -/

theorem truncate_of_nonneg {q : Rat} (hq : 0 ≤ q) : truncate q = ⌊q⌋ := by
  rw [truncate, Rat.floor_def', Int.tdiv_eq_ediv_of_nonneg (Rat.num_nonneg.mpr hq)]

theorem truncate_neg (q : Rat) : truncate (-q) = -truncate q := by
  simp [truncate, Int.neg_tdiv]

theorem truncate_le {q : Rat} (h : 0 < truncate q) : (truncate q : Rat) ≤ q := by
  by_cases hq : 0 ≤ q
  · rw [truncate_of_nonneg hq]
    exact Int.floor_le q
  · have hneg : 0 ≤ truncate (-q) := by
      rw [truncate_of_nonneg (by linarith)]
      exact Int.floor_nonneg.mpr (by linarith)
    rw [truncate_neg] at hneg
    omega

theorem le_truncate {q : Rat} (h : truncate q < 0) : q ≤ truncate q := by
  have hneg := truncate_le (q := -q) (by rw [truncate_neg]; omega)
  rw [truncate_neg] at hneg
  push_cast at hneg
  linarith

/-! ## One axis -/

theorem clampi_of_close {c hi : Int} {exact d : Rat} (hclose : |exact - c| < 1)
    (hlow : 0 ≤ exact) (hhigh : exact ≤ hi) (hlow' : 0 ≤ exact + d) (hhigh' : exact + d ≤ hi) :
    clampi (c + truncate d) 0 hi = c + truncate d := by
  obtain ⟨hbelow, habove⟩ := abs_lt.mp hclose
  have hc0 : 0 ≤ c := by
    have hcast : (-1 : Rat) < c := by linarith
    have hlt : (-1 : Int) < c := by exact_mod_cast hcast
    omega
  have hc1 : c ≤ hi := by
    have hcast : (c : Rat) < hi + 1 := by linarith
    have hlt : c < hi + 1 := by exact_mod_cast hcast
    omega
  unfold clampi
  by_cases hunder : c + truncate d < 0
  · have hd := le_truncate (q := d) (by omega)
    have hcast : ((c + truncate d : Int) : Rat) ≤ -1 := by exact_mod_cast (by omega)
    push_cast at hcast
    linarith
  · by_cases hover : hi < c + truncate d
    · have hd := truncate_le (q := d) (by omega)
      have hcast : ((hi + 1 : Int) : Rat) ≤ (c + truncate d : Int) := by exact_mod_cast hover
      push_cast at hcast
      linarith
    · rw [if_neg hunder, if_neg hover]

/-! ## Runs of motions -/

structure Drift where
  wm : Wm
  exactX : Rat
  exactY : Rat
  droppedX : Rat
  droppedY : Rat

namespace Drift

def start (wm : Wm) : Drift := ⟨wm, wm.cursorX, wm.cursorY, 0, 0⟩

def next (D : Drift) (p : Rat × Rat) : Drift where
  wm := wmPointerMotion D.wm p.1 p.2
  exactX := D.exactX + p.1
  exactY := D.exactY + p.2
  droppedX := D.droppedX + (p.1 - truncate p.1)
  droppedY := D.droppedY + (p.2 - truncate p.2)

def system : System Drift (Rat × Rat) := ⟨fun _ _ => True, next⟩

def Inside (D : Drift) : Prop :=
  (0 ≤ D.exactX ∧ D.exactX ≤ (D.wm.screenW - 1 : Int)) ∧
    0 ≤ D.exactY ∧ D.exactY ≤ (D.wm.screenH - 1 : Int)

/-- The pointer is less than a pixel off the exact path. -/
def Close (D : Drift) : Prop :=
  |D.wm.cursorX - D.exactX| < 1 ∧ |D.wm.cursorY - D.exactY| < 1

/-- The fractions that were dropped add up to less than a pixel. -/
def DroppedLittle (D : Drift) : Prop := |D.droppedX| < 1 ∧ |D.droppedY| < 1

instance : DecidablePred Inside := fun D =>
  inferInstanceAs (Decidable ((0 ≤ D.exactX ∧ D.exactX ≤ (D.wm.screenW - 1 : Int)) ∧
    0 ≤ D.exactY ∧ D.exactY ≤ (D.wm.screenH - 1 : Int)))

instance : DecidablePred Close := fun D =>
  inferInstanceAs (Decidable (|D.wm.cursorX - D.exactX| < 1 ∧ |D.wm.cursorY - D.exactY| < 1))

/-- The motion takes the pointer to a place on the screen. -/
def Unclamped (D : Drift) (p : Rat × Rat) : Prop :=
  (0 ≤ D.wm.cursorX + truncate p.1 ∧ D.wm.cursorX + truncate p.1 ≤ D.wm.screenW - 1) ∧
    0 ≤ D.wm.cursorY + truncate p.2 ∧ D.wm.cursorY + truncate p.2 ≤ D.wm.screenH - 1

def Accounted (D : Drift) : Prop :=
  D.exactX - D.wm.cursorX = D.droppedX ∧ D.exactY - D.wm.cursorY = D.droppedY

variable {D : Drift}

theorem close_iff (h : Accounted D) : Close D ↔ DroppedLittle D := by
  unfold Close DroppedLittle
  rw [← h.1, ← h.2, abs_sub_comm, abs_sub_comm (D.wm.cursorY : Rat)]

@[simp] theorem wmPointerMotion_cursorX (wm : Wm) (dx dy : Rat) :
    (wmPointerMotion wm dx dy).cursorX =
      clampi (wm.cursorX + truncate dx) 0 (wm.screenW - 1) := by
  unfold wmPointerMotion dragGrabbed
  split <;> rfl

@[simp] theorem wmPointerMotion_cursorY (wm : Wm) (dx dy : Rat) :
    (wmPointerMotion wm dx dy).cursorY =
      clampi (wm.cursorY + truncate dy) 0 (wm.screenH - 1) := by
  unfold wmPointerMotion dragGrabbed
  split <;> rfl

@[simp] theorem wmPointerMotion_screenW (wm : Wm) (dx dy : Rat) :
    (wmPointerMotion wm dx dy).screenW = wm.screenW := by
  unfold wmPointerMotion dragGrabbed
  split <;> rfl

@[simp] theorem wmPointerMotion_screenH (wm : Wm) (dx dy : Rat) :
    (wmPointerMotion wm dx dy).screenH = wm.screenH := by
  unfold wmPointerMotion dragGrabbed
  split <;> rfl

theorem Accounted.unclamped (h : Accounted D) {p : Rat × Rat} (hp : D.Unclamped p) :
    Accounted (D.next p) := by
  have hclampi {n hi : Int} (hlow : 0 ≤ n) (hhigh : n ≤ hi) : clampi n 0 hi = n := by
    unfold clampi
    rw [if_neg (by omega), if_neg (by omega)]
  obtain ⟨⟨hx0, hx1⟩, hy0, hy1⟩ := hp
  constructor
  · simp only [Drift.next, wmPointerMotion_cursorX, hclampi hx0 hx1, ← h.1]
    push_cast
    ring
  · simp only [Drift.next, wmPointerMotion_cursorY, hclampi hy0 hy1, ← h.2]
    push_cast
    ring

/-- While little is dropped on a path inside the screen, no motion is clamped. -/
theorem Accounted.next (h : Accounted D) (hlittle : DroppedLittle D) (hinside : Inside D)
    {p : Rat × Rat} (hinside' : Inside (D.next p)) : Accounted (D.next p) := by
  obtain ⟨⟨hx0, hx1⟩, hy0, hy1⟩ := hinside
  obtain ⟨⟨hx0', hx1'⟩, hy0', hy1'⟩ := hinside'
  simp only [Drift.next, wmPointerMotion_screenW, wmPointerMotion_screenH] at hx0' hx1' hy0' hy1'
  have hx : |D.exactX - D.wm.cursorX| < 1 := h.1 ▸ hlittle.1
  have hy : |D.exactY - D.wm.cursorY| < 1 := h.2 ▸ hlittle.2
  have hstayX := clampi_of_close hx hx0 hx1 hx0' hx1'
  have hstayY := clampi_of_close hy hy0 hy1 hy0' hy1'
  have hin {n hi : Int} (hhi : 0 ≤ hi) (hstay : clampi n 0 hi = n) : 0 ≤ n ∧ n ≤ hi := by
    unfold clampi at hstay
    split_ifs at hstay <;> omega
  have hwidth : (0 : Int) ≤ D.wm.screenW - 1 := by exact_mod_cast hx0.trans hx1
  have hheight : (0 : Int) ≤ D.wm.screenH - 1 := by exact_mod_cast hy0.trans hy1
  exact h.unclamped ⟨hin hwidth hstayX, hin hheight hstayY⟩

theorem along_close_iff (h : Accounted D) {ps : List (Rat × Rat)}
    (hinside : system.Along Inside D ps) :
    system.Along Close D ps ↔ system.Along DroppedLittle D ps := by
  induction ps generalizing D with
  | nil => exact close_iff h
  | cons p ps ih =>
      obtain ⟨hhere, hrest⟩ := hinside
      have hnext : Inside (D.next p) := by
        cases ps with
        | nil => exact hrest
        | cons p' ps => exact hrest.1
      simp only [System.Along, close_iff h]
      apply and_congr_right
      intro hlittle
      exact ih (h.next hlittle hhere hnext) hrest

theorem Accounted.exec (h : Accounted D) {ps : List (Rat × Rat)}
    (hps : system.Each Unclamped D ps) : Accounted (system.exec D ps) :=
  System.invariant (fun _ _ h hp => h.unclamped hp) hps h

/--
On an exact path inside the screen, the pointer stays less than a pixel off the
path as long as the dropped fractions add up to less than a pixel, and no longer.
After a sequence of motions that are not clamped, it is less than a pixel off exactly
if the dropped fractions of the sequence add up to less than a pixel.
-/
theorem close_iff_droppedLittle (wm : Wm) (ps : List (Rat × Rat))
    (hinside : system.Along Inside (start wm) ps) :
    (system.Along Close (start wm) ps ↔ system.Along DroppedLittle (start wm) ps) ∧
      (system.Each Unclamped (start wm) ps →
        (Close (system.exec (start wm) ps) ↔ DroppedLittle (system.exec (start wm) ps))) := by
  have hstart : Accounted (start wm) := ⟨sub_self _, sub_self _⟩
  exact ⟨along_close_iff hstart hinside, fun hps => close_iff (hstart.exec hps)⟩

/-- Four motions by half a pixel, on a screen of 100 by 100. -/
def slowMotion : List (Rat × Rat) := List.replicate 4 (1 / 2, 0)

def still : Wm := wmInit windowStackInit 100 100 0

theorem close_iff_droppedLittle_slowMotion :
    (system.Along Close (start still) slowMotion ↔
        system.Along DroppedLittle (start still) slowMotion) ∧
      (system.Each Unclamped (start still) slowMotion →
        (Close (system.exec (start still) slowMotion) ↔
          DroppedLittle (system.exec (start still) slowMotion))) :=
  close_iff_droppedLittle still slowMotion (by decide +kernel)

theorem slow_motion_lost :
    system.Along Inside (start still) slowMotion ∧
      ¬ Close (system.exec (start still) slowMotion) := by
  decide +kernel

end Drift

end CrystallineLattice.Manager
