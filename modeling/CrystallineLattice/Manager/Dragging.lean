import CrystallineLattice.Manager.Steps

/-!
# The grabbed point

While a window is dragged, the point of its title bar at which it was taken stays
under the cursor.  The invariant carries the sizes of all windows, since any of
them can be taken next.
-/

namespace CrystallineLattice.Manager

open CrystallineLattice.Foundation
open CrystallineLattice.Stack

def Wm.CursorOnScreen (wm : Wm) : Prop :=
  0 ≤ wm.cursorX ∧ wm.cursorX < wm.screenW ∧ 0 ≤ wm.cursorY ∧ wm.cursorY < wm.screenH

structure PositiveSize (w : Window) : Prop where
  width : 0 < w.w
  height : 0 < w.h
  saved : w.snapped = true → 0 < w.savedW ∧ 0 < w.savedH

/-- The window is where the drag puts it, and it was taken by its title bar. -/
structure UnderCursor (wm : Wm) (w : Window) : Prop where
  x : w.x = wm.cursorX - wm.grabDx
  y : w.y = wm.cursorY - wm.grabDy
  grabX : 0 ≤ wm.grabDx ∧ wm.grabDx < w.w
  grabY : 0 ≤ wm.grabDy ∧ wm.grabDy < decorTitlebarH

/-- A positive size, and a right edge that is no smaller than the smallest `int`. -/
structure Takeable (w : Window) : Prop where
  size : PositiveSize w
  right : -2147483648 ≤ w.x + w.w

structure Steady (wm : Wm) : Prop where
  nodup : wm.stack.ids.Nodup
  cursor : wm.CursorOnScreen
  takeable : ∀ id w, windowById wm.stack id = some w → Takeable w
  held : wm.moving = true → ∀ w, windowById wm.stack wm.moveId = some w → UnderCursor wm w

variable {wm : Wm} {w : Window}

theorem clampi_bounds {v hi : Int} (hhi : 0 ≤ hi) : 0 ≤ clampi v 0 hi ∧ clampi v 0 hi ≤ hi := by
  unfold clampi
  split
  · omega
  · split <;> omega

/-! ## Motion -/

theorem Steady.dragGrabbed (hwm : Steady wm) {x y : Int}
    (hcursor : Wm.CursorOnScreen { wm with cursorX := x, cursorY := y }) :
    Steady (dragGrabbed { wm with cursorX := x, cursorY := y }) := by
  unfold Manager.dragGrabbed
  by_cases hmoving : wm.moving = true
  · rw [if_pos hmoving]
    have hmoved (id : Nat) := @windowById_writeById wm.stack wm.moveId
      (fun w => { w with x := x - wm.grabDx, y := y - wm.grabDy }) (fun _ => rfl) id
    refine ⟨?_, hcursor, fun id w hw => ?_, fun _ w hw => ?_⟩
    · rw [windowMove, writeById_ids wm.stack (by exact fun _ => rfl)]
      exact hwm.nodup
    · rw [windowMove, hmoved] at hw
      split at hw
      · obtain ⟨v, hv, rfl⟩ := Option.map_eq_some_iff.mp hw
        obtain ⟨hsize, -⟩ := hwm.takeable _ v hv
        have hgrab := (hwm.held hmoving v hv).grabX
        have hx := hcursor.1
        exact ⟨⟨hsize.width, hsize.height, hsize.saved⟩, by dsimp only at hx ⊢; omega⟩
      · exact hwm.takeable id w hw
    · rw [windowMove, hmoved, if_pos rfl] at hw
      obtain ⟨v, hv, rfl⟩ := Option.map_eq_some_iff.mp hw
      have hold := hwm.held hmoving v hv
      exact ⟨rfl, rfl, hold.grabX, hold.grabY⟩
  · rw [if_neg hmoving]
    exact ⟨hwm.nodup, hcursor, hwm.takeable, fun h => absurd h hmoving⟩

theorem cursorOnScreen_clampi (hwm : wm.CursorOnScreen) (x y : Int) :
    Wm.CursorOnScreen { wm with
      cursorX := clampi x 0 (wm.screenW - 1)
      cursorY := clampi y 0 (wm.screenH - 1) } := by
  obtain ⟨hx, hx', hy, hy'⟩ := hwm
  have hclampX : 0 ≤ clampi x 0 (wm.screenW - 1) ∧ _ := clampi_bounds (by omega)
  have hclampY : 0 ≤ clampi y 0 (wm.screenH - 1) ∧ _ := clampi_bounds (by omega)
  unfold Wm.CursorOnScreen
  dsimp only
  omega

/-! ## Buttons -/

theorem Steady.restack (hwm : Steady wm) {s : WindowStack} (hids : s.ids.Nodup)
    (hsame : ∀ id, windowById s id = windowById wm.stack id) :
    Steady { wm with stack := s } where
  nodup := hids
  cursor := hwm.cursor
  takeable id w hw := hwm.takeable id w (hsame id ▸ hw)
  held hmoving w hw := by
    obtain ⟨hx, hy, hgrabX, hgrabY⟩ := hwm.held hmoving w (hsame wm.moveId ▸ hw)
    exact ⟨hx, hy, hgrabX, hgrabY⟩

theorem Steady.focus (hwm : Steady wm) (id : Nat) :
    Steady { wm with stack := windowFocus wm.stack id } :=
  hwm.restack ((windowFocus_rearranges hwm.nodup id).ids.nodup_iff.mpr hwm.nodup)
    (windowById_windowFocus hwm.nodup id)

theorem Takeable.contains (hw : Takeable w) {gx gy : Int} (hin : w.contains gx gy = true) :
    w.x ≤ gx ∧ gx < w.x + w.w ∧ w.y ≤ gy := by
  have hright := hw.right
  unfold Window.contains at hin
  simp only [Bool.and_eq_true, decide_eq_true_eq] at hin
  unfold int32 at hin
  omega

theorem floatingSize_of_snapped (hw : PositiveSize w) (hsnapped : w.snapped = true) :
    floatingSize w = (w.savedW, w.savedH) := by
  obtain ⟨hwidth, hheight⟩ := hw.saved hsnapped
  simp [floatingSize, sizeGiven, hwidth, hheight]

theorem underCursor_heldWindow (hcursor : wm.CursorOnScreen) (hw : Takeable w)
    (hin : w.contains wm.cursorX wm.cursorY = true) (hbar : wm.cursorY - w.y < decorTitlebarH) :
    Takeable (heldWindow wm w) ∧
      (0 ≤ wm.cursorX - (heldWindow wm w).x ∧
        wm.cursorX - (heldWindow wm w).x < (heldWindow wm w).w) ∧
      0 ≤ wm.cursorY - (heldWindow wm w).y ∧
        wm.cursorY - (heldWindow wm w).y < decorTitlebarH := by
  obtain ⟨hx, hx', hy, hy'⟩ := hcursor
  unfold heldWindow
  by_cases hsnapped : w.snapped = true
  · obtain ⟨hwidth, hheight⟩ := hw.size.saved hsnapped
    have hhalf : w.savedW.tdiv 2 = w.savedW / 2 := Int.tdiv_eq_ediv_of_nonneg (by omega)
    rw [if_pos hsnapped, floatingSize_of_snapped hw.size hsnapped]
    dsimp only
    rw [hhalf]
    have hbarHalf : decorTitlebarH.tdiv 2 = 14 := by decide
    have hbarHeight : decorTitlebarH = 28 := rfl
    refine ⟨⟨⟨hwidth, hheight, fun h => by cases h⟩, ?_⟩, ?_, ?_⟩
    · dsimp only
      omega
    · omega
    · omega
  · obtain ⟨hleft, hright, htop⟩ := hw.contains hin
    rw [if_neg hsnapped]
    exact ⟨hw, by omega, by omega, hbar⟩

theorem Steady.wmPress (hwm : Steady wm) : Steady (wmPress wm) := by
  obtain ⟨-, s, heq, hs⟩ | ⟨w, -, -, hbar, ⟨hit, hhit, hid⟩, hw, heq⟩ := wmPress_cases wm
  · rw [heq]
    rcases hs with rfl | ⟨id, rfl⟩
    · exact hwm
    · exact hwm.focus id
  · have hfocused := hwm.focus w.id
    have hwindow : windowById wm.stack w.id = some w :=
      (windowById_windowFocus hwm.nodup w.id w.id).symm.trans hw
    obtain rfl : hit = w := by
      have hsame := windowById_windowAt hwm.nodup hhit
      rw [hid, hwindow, Option.some.injEq] at hsame
      exact hsame.symm
    have hin : hit.contains wm.cursorX wm.cursorY = true := by
      have hhit' := List.find?_some hhit
      rw [Bool.and_eq_true] at hhit'
      exact hhit'.2
    obtain ⟨htakeable, hgrabX, hgrabY⟩ :=
      underCursor_heldWindow hwm.cursor (hwm.takeable _ _ hwindow) hin hbar
    have hheld : (heldWindow { wm with stack := windowFocus wm.stack hit.id } hit).id = hit.id := by
      unfold heldWindow
      split <;> rfl
    have hreplaced (id : Nat) := windowById_replace (windowFocus wm.stack hit.id) hheld id
    rw [heq, grab_eq { wm with stack := windowFocus wm.stack hit.id } hw]
    refine ⟨?_, hwm.cursor, fun id v hv => ?_, fun _ v hv => ?_⟩
    · rw [replace_ids _ hheld]
      exact hfocused.nodup
    · rw [hreplaced] at hv
      split at hv
      · rw [hw, Option.map_some, Option.some.injEq] at hv
        exact hv ▸ htakeable
      · exact hfocused.takeable id v hv
    · rw [hreplaced, if_pos rfl, hw, Option.map_some, Option.some.injEq] at hv
      subst hv
      exact ⟨by dsimp only; omega, by dsimp only; omega, hgrabX, hgrabY⟩

theorem withoutTaskbar_x_nonneg (wm : Wm) (t : Window) : 0 ≤ (withoutTaskbar wm t).x := by
  unfold withoutTaskbar
  dsimp only
  repeat' split
  all_goals dsimp only; omega

theorem wmWorkArea_x_nonneg (wm : Wm) : 0 ≤ (wmWorkArea wm).x := by
  unfold wmWorkArea
  dsimp only
  split
  · exact Int.le_refl 0
  · exact withoutTaskbar_x_nonneg wm _

theorem wmWorkArea_w_pos (hw : 0 < wm.screenW) : 0 < (wmWorkArea wm).w := by
  unfold wmWorkArea
  dsimp only
  split <;> omega

theorem snapTarget_x_nonneg (hw : 0 < wm.screenW) {n : Area} (h : snapTarget wm = some n) :
    0 ≤ n.x := by
  have hx := wmWorkArea_x_nonneg wm
  have hpos := wmWorkArea_w_pos hw
  have hhalf : (wmWorkArea wm).w.tdiv 2 = (wmWorkArea wm).w / 2 :=
    Int.tdiv_eq_ediv_of_nonneg (by omega)
  unfold snapTarget at h
  dsimp only at h
  rw [hhalf] at h
  repeat' split at h
  all_goals simp only [Option.some.injEq, reduceCtorEq] at h
  all_goals subst h
  · exact hx
  · exact hx
  · dsimp only
    omega

theorem takeable_snapTo (hw : Takeable w) {n : Area} (hn : 0 ≤ n.x) : Takeable (snapTo n w) := by
  obtain ⟨⟨hwidth, hheight, hsaved⟩, -⟩ := hw
  have hgiven : 0 < (sizeGiven w n.w n.h).1 ∧ 0 < (sizeGiven w n.w n.h).2 := by
    unfold sizeGiven
    dsimp only
    constructor <;> split <;> assumption
  refine ⟨⟨hgiven.1, hgiven.2, fun _ => ?_⟩, ?_⟩
  · unfold snapTo saveRect
    by_cases hsnapped : w.snapped = true
    · simpa only [if_pos hsnapped] using hsaved hsnapped
    · simpa only [if_neg hsnapped] using ⟨hwidth, hheight⟩
  · change -2147483648 ≤ n.x + (sizeGiven w n.w n.h).1
    omega

theorem Steady.wmRelease (hwm : Steady wm) : Steady (wmRelease wm) := by
  unfold Manager.wmRelease
  by_cases hmoving : wm.moving = true
  · rw [if_pos hmoving]
    have hdropped : Steady { wm with moving := false, moveId := 0 } :=
      ⟨hwm.nodup, hwm.cursor, hwm.takeable, fun h => by cases h⟩
    cases hw : windowById wm.stack wm.moveId with
    | none =>
        unfold wmSnapOnRelease
        rw [hw]
        exact hdropped
    | some w =>
        rw [wmSnapOnRelease_eq { wm with moving := false, moveId := 0 } hw]
        split
        · exact hdropped
        · rename_i n hn
          have hn' := (Option.filter_eq_some_iff.mp hn).1
          have hscreen : 0 < wm.screenW := by
            have := hwm.cursor.1
            have := hwm.cursor.2.1
            omega
          have hleft : 0 ≤ n.x := snapTarget_x_nonneg hscreen hn'
          have hid : (snapTo n w).id = wm.moveId :=
            (saveRect_keeps w).1.trans (id_of_windowById hw)
          refine ⟨?_, hwm.cursor, fun id v hv => ?_, fun h => by cases h⟩
          · rw [replace_ids _ hid]
            exact hwm.nodup
          · rw [windowById_replace _ hid] at hv
            split at hv
            · rw [hw, Option.map_some, Option.some.injEq] at hv
              exact hv ▸ takeable_snapTo (hwm.takeable _ _ hw) hleft
            · exact hwm.takeable id v hv
  · rw [if_neg hmoving]
    exact hwm

/-! ## Runs -/

theorem Steady.windowFocusCycle (hwm : Steady wm) (dir : Int) :
    Steady { wm with stack := windowFocusCycle wm.stack dir } := by
  unfold Stack.windowFocusCycle
  dsimp only
  split
  · exact hwm
  · split
    · exact hwm.focus _
    · exact hwm

theorem Steady.next (hwm : Steady wm) (e : WmEvent) : Steady (wm.next e) := by
  cases e with
  | motion dx dy => exact hwm.dragGrabbed (cursorOnScreen_clampi hwm.cursor _ _)
  | motionAbs ax ay => exact hwm.dragGrabbed (cursorOnScreen_clampi hwm.cursor _ _)
  | button button pressed =>
      change Steady (wmPointerButton wm button pressed)
      unfold wmPointerButton
      split
      · exact hwm
      · split
        · exact hwm.wmPress
        · exact hwm.wmRelease
  | key keysym pressed altDown =>
      change Steady (wmKey wm keysym pressed altDown).1
      unfold wmKey
      split
      · exact hwm.windowFocusCycle 1
      · exact hwm

/--
From a window manager that is not moving a window, with its cursor on the screen,
over windows with distinct ids and positive sizes: in every state that input can
lead to, the cursor is on the screen, and a window that is moved is where the
grabbed point of its title bar is under the cursor.
-/
theorem grabbed_point_under_cursor (hidle : wm.moving = false) (hcursor : wm.CursorOnScreen)
    (hids : wm.stack.ids.Nodup)
    (hsizes : ∀ w ∈ wm.stack.windows, PositiveSize w ∧ IsInt32 w.x) (events : List WmEvent) :
    let wm' := wmSystem.exec wm events
    wm'.CursorOnScreen ∧
      (wm'.moving = true → ∀ w, windowById wm'.stack wm'.moveId = some w →
        UnderCursor wm' w ∧
          ∃ px py, 0 ≤ px ∧ px < wm'.screenW ∧ 0 ≤ py ∧ py < wm'.screenH ∧
            w.x ≤ px ∧ px < w.x + w.w ∧ w.y ≤ py ∧ py < w.y + decorTitlebarH) := by
  intro wm'
  have hstart : Steady wm := by
    refine ⟨hids, hcursor, fun id w hw => ?_, fun h => by rw [hidle] at h; cases h⟩
    obtain ⟨hsize, hx⟩ := hsizes w (mem_of_windowById hw)
    have hleft := hx.1
    have hwidth := hsize.width
    exact ⟨hsize, by omega⟩
  have hsteady : Steady wm' := System.invariant (fun _ e h _ => h.next e)
    (System.legal_of_enabled (fun _ _ => trivial) wm events) hstart
  refine ⟨hsteady.cursor, fun hmoving w hw => ?_⟩
  obtain ⟨hx, hy, hgrabX, hgrabY⟩ := hsteady.held hmoving w hw
  obtain ⟨hpx, hpx', hpy, hpy'⟩ := hsteady.cursor
  exact ⟨⟨hx, hy, hgrabX, hgrabY⟩, wm'.cursorX, wm'.cursorY, hpx, hpx', hpy, hpy', by omega,
    by omega, by omega, by omega⟩

/-- The upper of two windows is taken by its title bar and moved; Alt-Tab comes in between. -/
theorem grabbed_point_under_cursor_movedWindow :
    let s : WindowStack :=
      ⟨[newWindow 1 .normal 100 100 400 300 0 [], newWindow 2 .normal 300 200 400 300 0 []], 2, 3⟩
    let wm : Wm := ⟨s, 1920, 1080, 650, 205, false, 0, 0, 0, 0⟩
    let events : List WmEvent :=
      [.button wmBtnLeft true, .motion 25 (-10), .key wmKeyTab true true, .motionAbs 5 5]
    let wm' := wmSystem.exec wm events
    wm'.moving = true ∧ wm'.moveId = 2 ∧
      ∃ w, windowById wm'.stack wm'.moveId = some w ∧ UnderCursor wm' w := by
  intro s wm events wm'
  have hwindow : (windowById wm'.stack wm'.moveId).isSome = true := by decide +kernel
  obtain ⟨w, hw⟩ := Option.isSome_iff_exists.mp hwindow
  have hmoving : wm'.moving = true := by decide +kernel
  have hsizes : ∀ w ∈ wm.stack.windows, PositiveSize w ∧ IsInt32 w.x := by
    intro w hw
    rcases List.mem_cons.mp hw with rfl | hw
    · exact ⟨⟨by decide, by decide, by decide⟩, by decide⟩
    · rw [List.mem_singleton.mp hw]
      exact ⟨⟨by decide, by decide, by decide⟩, by decide⟩
  have hcursor : wm.CursorOnScreen := ⟨by decide, by decide, by decide, by decide⟩
  have hresult := @grabbed_point_under_cursor wm rfl hcursor (by decide) hsizes events
  exact ⟨hmoving, by decide +kernel, w, hw, (hresult.2 hmoving w hw).1⟩

end CrystallineLattice.Manager
