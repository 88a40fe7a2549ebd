import CrystallineLattice.Manager.Model

/-!
# The work area

The taskbar's rectangle comes from a client, so it can lie anywhere.  The work area
keeps clear of a taskbar that spans most of an edge; it leaves the screen only
when such a taskbar reaches from the top of the screen to its bottom.
-/

namespace CrystallineLattice.Manager

open CrystallineLattice.Foundation
open CrystallineLattice.Stack

def firstTaskbar (wm : Wm) : Option Window :=
  wm.stack.windows.find? fun t => t.role == .taskbar && t.mapped

structure Area.Usable (a : Area) (wm : Wm) : Prop where
  width : 0 < a.w
  height : 0 < a.h
  left : 0 ≤ a.x
  top : 0 ≤ a.y
  right : a.x + a.w ≤ wm.screenW
  bottom : a.y + a.h ≤ wm.screenH

def Area.ClearOf (a : Area) (t : Window) : Prop :=
  ∀ px py, ¬ (a.x ≤ px ∧ px < a.x + a.w ∧ a.y ≤ py ∧ py < a.y + a.h ∧
    t.x ≤ px ∧ px < t.x + t.w ∧ t.y ≤ py ∧ py < t.y + t.h)

/-- Three quarters of the screen's width, in the integer arithmetic of the code. -/
def SpansWidth (wm : Wm) (t : Window) : Prop := (wm.screenW * 3).tdiv 4 ≤ t.w

def SpansHeight (wm : Wm) (t : Window) : Prop := (wm.screenH * 3).tdiv 4 ≤ t.h

def CoversWidth (wm : Wm) (t : Window) : Prop := t.x ≤ 0 ∧ wm.screenW ≤ t.x + t.w

def CoversHeight (wm : Wm) (t : Window) : Prop := t.y ≤ 0 ∧ wm.screenH ≤ t.y + t.h

structure ProperRect (t : Window) : Prop where
  width : 0 < t.w
  height : 0 < t.h
  x : IsInt32 t.x
  y : IsInt32 t.y
  w : IsInt32 t.w
  h : IsInt32 t.h

variable {wm : Wm} {t : Window}

theorem int32_far_edge {origin size : Int} (horigin : IsInt32 origin) (hsize : IsInt32 size)
    (hneg : origin ≤ 0) (hpos : 0 < size) : int32 (origin + size) = origin + size := by
  apply int32_of_isInt32
  unfold IsInt32 at *
  omega

theorem three_quarters {n : Int} (hn : 2 ≤ n) : (n * 3).tdiv 4 = n * 3 / 4 :=
  Int.tdiv_eq_ediv_of_nonneg (by omega)

/-- The fallback of `wm_work_area` for an area that has nothing left. -/
def orScreen (wm : Wm) (a : Area) : Area :=
  { a with
    w := if a.w < 1 then wm.screenW else a.w
    h := if a.h < 1 then wm.screenH else a.h }

theorem wmWorkArea_eq (wm : Wm) :
    wmWorkArea wm =
      orScreen wm (match firstTaskbar wm with
        | none => ⟨0, 0, wm.screenW, wm.screenH⟩
        | some t => withoutTaskbar wm t) := rfl

section Docks

variable (hw : 2 ≤ wm.screenW) (hh : 2 ≤ wm.screenH) (hw3 : IsInt32 (wm.screenW * 3))
  (hh3 : IsInt32 (wm.screenH * 3)) (ht : ProperRect t)

include hw hh hw3 hh3 ht

theorem workArea_top (hspan : SpansWidth wm t) (hy : t.y ≤ 0) :
    let a := orScreen wm (withoutTaskbar wm t)
    a.x = 0 ∧ a.w = wm.screenW ∧ a.y = max (t.y + t.h) 0 ∧
      (t.y + t.h < wm.screenH → a.h = wm.screenH - a.y) ∧
      (wm.screenH ≤ t.y + t.h → a.h = wm.screenH) := by
  unfold orScreen withoutTaskbar
  dsimp only
  rw [int32_of_isInt32 hw3, int32_of_isInt32 hh3]
  rw [if_pos ⟨hspan, hy⟩, int32_far_edge ht.y ht.h hy ht.height]
  split
  all_goals dsimp only; split_ifs <;> omega

omit ht in
theorem workArea_bottom (hspan : SpansWidth wm t) (hy : 0 < t.y) :
    let a := orScreen wm (withoutTaskbar wm t)
    a.x = 0 ∧ a.w = wm.screenW ∧ a.y = 0 ∧ a.h = min t.y wm.screenH := by
  unfold SpansWidth at hspan
  unfold orScreen withoutTaskbar
  dsimp only
  rw [int32_of_isInt32 hw3, int32_of_isInt32 hh3]
  rw [if_neg fun h => Int.not_le.mpr hy h.2, if_pos hspan]
  split
  all_goals dsimp only; split_ifs <;> omega

theorem workArea_left (hnarrow : ¬ SpansWidth wm t) (hspan : SpansHeight wm t) (hx : t.x ≤ 0) :
    let a := orScreen wm (withoutTaskbar wm t)
    a.x = max (t.x + t.w) 0 ∧ a.w = wm.screenW - a.x ∧ a.x < wm.screenW ∧
      a.y = 0 ∧ a.h = wm.screenH := by
  have hlimit : t.w < wm.screenW := by
    unfold SpansWidth at hnarrow
    rw [three_quarters hw] at hnarrow
    omega
  unfold SpansWidth SpansHeight at *
  unfold orScreen withoutTaskbar
  dsimp only
  rw [int32_of_isInt32 hw3, int32_of_isInt32 hh3]
  rw [if_neg fun h => hnarrow h.1, if_neg hnarrow, if_pos ⟨hspan, hx⟩,
    int32_far_edge ht.x ht.w hx ht.width]
  split
  all_goals dsimp only; split_ifs <;> omega

omit ht in
theorem workArea_right (hnarrow : ¬ SpansWidth wm t) (hspan : SpansHeight wm t) (hx : 0 < t.x) :
    let a := orScreen wm (withoutTaskbar wm t)
    a.x = 0 ∧ a.w = min t.x wm.screenW ∧ a.y = 0 ∧ a.h = wm.screenH := by
  unfold SpansWidth SpansHeight at *
  unfold orScreen withoutTaskbar
  dsimp only
  rw [int32_of_isInt32 hw3, int32_of_isInt32 hh3]
  rw [if_neg fun h => hnarrow h.1, if_neg hnarrow, if_neg fun h => Int.not_le.mpr hx h.2,
    if_pos hspan]
  split
  all_goals dsimp only; split_ifs <;> omega

omit ht in
theorem workArea_undocked (hnarrow : ¬ SpansWidth wm t) (hlow : ¬ SpansHeight wm t) :
    orScreen wm (withoutTaskbar wm t) = ⟨0, 0, wm.screenW, wm.screenH⟩ := by
  unfold SpansWidth SpansHeight at *
  unfold orScreen withoutTaskbar
  dsimp only
  rw [int32_of_isInt32 hw3, int32_of_isInt32 hh3]
  rw [if_neg fun h => hnarrow h.1, if_neg hnarrow, if_neg fun h => hlow h.1, if_neg hlow]
  dsimp only
  rw [if_neg (by omega), if_neg (by omega)]

theorem workArea_clear (hspan : SpansWidth wm t ∨ SpansHeight wm t) :
    (orScreen wm (withoutTaskbar wm t)).ClearOf t := by
  intro px py hin
  by_cases hwide : SpansWidth wm t
  · by_cases hy : t.y ≤ 0
    · obtain ⟨-, -, htop, -⟩ := workArea_top hw hh hw3 hh3 ht hwide hy
      omega
    · obtain ⟨-, -, htop, hheight⟩ := workArea_bottom hw hh hw3 hh3 hwide (by omega)
      omega
  · have hhigh : SpansHeight wm t := hspan.resolve_left hwide
    by_cases hx : t.x ≤ 0
    · obtain ⟨hleft, -⟩ := workArea_left hw hh hw3 hh3 ht hwide hhigh hx
      omega
    · obtain ⟨hleft, hwidth, -⟩ := workArea_right hw hh hw3 hh3 hwide hhigh (by omega)
      omega

/-- It is on the screen unless the taskbar fills the screen from top to bottom. -/
theorem workArea_usable_iff_taskbar :
    (orScreen wm (withoutTaskbar wm t)).Usable wm ↔
      ¬ (SpansWidth wm t ∧ CoversHeight wm t) := by
  by_cases hwide : SpansWidth wm t
  · by_cases hy : t.y ≤ 0
    · obtain ⟨hx, hwidth, htop, hroom, hnone⟩ := workArea_top hw hh hw3 hh3 ht hwide hy
      constructor
      · rintro husable ⟨-, -, hbottom⟩
        have hinside := husable.bottom
        rw [hnone hbottom, htop] at hinside
        omega
      · intro hcovers
        have hbottom : t.y + t.h < wm.screenH :=
          Int.not_le.mp fun hfar => hcovers ⟨hwide, hy, hfar⟩
        have hheight := hroom hbottom
        constructor <;> omega
    · obtain ⟨hx, hwidth, htop, hheight⟩ := workArea_bottom hw hh hw3 hh3 hwide (by omega)
      exact iff_of_true (by constructor <;> omega) fun h => hy h.2.1
  · refine iff_of_true ?_ fun h => hwide h.1
    by_cases hhigh : SpansHeight wm t
    · by_cases hx : t.x ≤ 0
      · obtain ⟨hleft, hwidth, hright, htop, hheight⟩ :=
          workArea_left hw hh hw3 hh3 ht hwide hhigh hx
        constructor <;> omega
      · obtain ⟨hleft, hwidth, htop, hheight⟩ := workArea_right hw hh hw3 hh3 hwide hhigh (by omega)
        constructor <;> omega
    · rw [workArea_undocked hw hh hw3 hh3 hwide hhigh]
      constructor <;> dsimp only <;> omega

end Docks

/--
On a screen of at least two by two pixels, three times whose sides are C integers,
with a taskbar of any position and positive size or without one: the work area is on
the screen and clear of a taskbar that spans three quarters of it, if and only if no
taskbar that spans its width reaches from its top to its bottom.
-/
theorem work_area_sound_iff (hw : 2 ≤ wm.screenW) (hh : 2 ≤ wm.screenH)
    (hw3 : IsInt32 (wm.screenW * 3)) (hh3 : IsInt32 (wm.screenH * 3))
    (hproper : ∀ t, firstTaskbar wm = some t → ProperRect t) :
    ((wmWorkArea wm).Usable wm ∧
        ∀ t, firstTaskbar wm = some t →
          (SpansWidth wm t ∧ ¬ CoversHeight wm t ∨ SpansHeight wm t ∧ ¬ CoversWidth wm t) →
          (wmWorkArea wm).ClearOf t) ↔
      ∀ t, firstTaskbar wm = some t → ¬ (SpansWidth wm t ∧ CoversHeight wm t) := by
  rw [wmWorkArea_eq]
  cases hbar : firstTaskbar wm with
  | none =>
      have hscreen : orScreen wm ⟨0, 0, wm.screenW, wm.screenH⟩ =
          ⟨0, 0, wm.screenW, wm.screenH⟩ := by
        unfold orScreen
        dsimp only
        rw [if_neg (by omega), if_neg (by omega)]
      refine iff_of_true ⟨?_, fun t ht => by cases ht⟩ fun t ht => by cases ht
      dsimp only
      rw [hscreen]
      constructor <;> dsimp only <;> omega
  | some t =>
      have ht := hproper t hbar
      simp only [Option.some.injEq, forall_eq']
      rw [workArea_usable_iff_taskbar hw hh hw3 hh3 ht]
      refine and_iff_left fun hspan => ?_
      exact workArea_clear hw hh hw3 hh3 ht (hspan.imp And.left And.left)

/-- A taskbar at the top of a full-HD screen. -/
theorem work_area_sound_iff_topTaskbar :
    let s : WindowStack := ⟨[newWindow 1 .taskbar 0 0 1920 40 0 []], 0, 2⟩
    let wm := wmInit s 1920 1080 0
    (wmWorkArea wm).Usable wm := by
  intro s wm
  have hbar : firstTaskbar wm = some (newWindow 1 .taskbar 0 0 1920 40 0 []) := by decide
  refine ((@work_area_sound_iff wm (by decide) (by decide) (by decide) (by decide)
    fun t ht => ?_).mpr fun t ht => ?_).1
  · rw [hbar, Option.some.injEq] at ht
    subst ht
    constructor <;> decide
  · rw [hbar, Option.some.injEq] at ht
    subst ht
    rintro ⟨-, -, hcovers⟩
    exact absurd hcovers (by decide)

/-- A taskbar of the size of the screen: the work area begins below the screen. -/
theorem work_area_off_screen :
    let s : WindowStack := ⟨[newWindow 1 .taskbar 0 0 1920 1080 0 []], 0, 2⟩
    let wm := wmInit s 1920 1080 0
    wmWorkArea wm = ⟨0, 1080, 1920, 1080⟩ ∧ ¬ (wmWorkArea wm).Usable wm := by
  intro s wm
  have harea : wmWorkArea wm = ⟨0, 1080, 1920, 1080⟩ := by decide
  refine ⟨harea, fun husable => ?_⟩
  have hbottom := husable.bottom
  rw [harea] at hbottom
  exact absurd hbottom (by decide)

end CrystallineLattice.Manager
