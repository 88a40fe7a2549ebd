import CrystallineLattice.Stack.Edits
import CrystallineLattice.Stack.Frame

/-!
# Stacking and hit testing

`window_at` searches the stack from the top down, so a window answers for a point
if no window above it does.  Raising, lowering and destroying a window change the
answer only where that window is concerned.
-/

namespace CrystallineLattice.Stack

open CrystallineLattice.Foundation

def Window.hitBy (gx gy : Int) (w : Window) : Bool := w.mapped && w.contains gx gy

def topmostHit (gx gy : Int) (windows : List Window) : Option Window :=
  windows.reverse.find? (Window.hitBy gx gy)

/-- The same windows, all but the one with the id `id` in the same order. -/
structure Reorders (id : Nat) (s s' : WindowStack) : Prop where
  windows : s'.windows.Perm s.windows
  others : s.Agree (fun id' => decide (id' ≠ id)) s'

variable {gx gy : Int} {s : WindowStack} {w : Window} {below above : List Window}

theorem windowAt_eq (s : WindowStack) (gx gy : Int) :
    windowAt s gx gy = topmostHit gx gy s.windows := rfl

theorem topmostHit_insert (below above : List Window) (w : Window) :
    topmostHit gx gy (below ++ w :: above) =
      (topmostHit gx gy above).or
        (if w.hitBy gx gy then some w else topmostHit gx gy below) := by
  unfold topmostHit
  rw [List.reverse_append, List.reverse_cons, List.append_assoc, List.find?_append]
  by_cases hw : w.hitBy gx gy = true <;> simp [hw]

theorem topmostHit_append (below above : List Window) :
    topmostHit gx gy (below ++ above) = (topmostHit gx gy above).or (topmostHit gx gy below) := by
  unfold topmostHit
  rw [List.reverse_append, List.find?_append]

theorem topmostHit_eq_none {windows : List Window} :
    topmostHit gx gy windows = none ↔ ∀ w ∈ windows, ¬ w.hitBy gx gy = true := by
  simp [topmostHit]

theorem topmostHit_mem {windows : List Window} (h : topmostHit gx gy windows = some w) :
    w ∈ windows :=
  List.mem_reverse.mp (List.mem_of_find?_eq_some h)

theorem topmostHit_delete (hanswer : topmostHit gx gy (below ++ w :: above) ≠ some w) :
    topmostHit gx gy (below ++ above) = topmostHit gx gy (below ++ w :: above) := by
  rw [topmostHit_insert] at hanswer ⊢
  rw [topmostHit_append]
  cases habove : topmostHit gx gy above with
  | some v => rfl
  | none =>
      rw [habove, Option.none_or] at hanswer
      by_cases hw : w.hitBy gx gy = true
      · exact absurd (if_pos hw) hanswer
      · rw [if_neg hw]

/-! ## The three operations on a window between two others -/

theorem topmostHit_raised (below above : List Window) (w : Window) :
    topmostHit gx gy (below ++ above ++ [w]) =
      if w.hitBy gx gy then some w else topmostHit gx gy (below ++ w :: above) := by
  rw [topmostHit_append, topmostHit_append, topmostHit_insert]
  have hsingle : topmostHit gx gy [w] = if w.hitBy gx gy then some w else none := by
    by_cases hw : w.hitBy gx gy = true <;> simp [topmostHit, hw]
  rw [hsingle]
  by_cases hw : w.hitBy gx gy = true <;> simp [hw]

theorem topmostHit_lowered (below above : List Window) (w : Window) :
    topmostHit gx gy (w :: (below ++ above)) =
      (topmostHit gx gy (below ++ above)).or (if w.hitBy gx gy then some w else none) := by
  have hbottom : topmostHit gx gy ([] ++ w :: (below ++ above)) = _ :=
    topmostHit_insert [] (below ++ above) w
  simpa [topmostHit] using hbottom

theorem topmostHit_lowered_eq_iff (hw : w ∉ below ++ above) :
    topmostHit gx gy (w :: (below ++ above)) = some w ↔
      w.hitBy gx gy = true ∧ ∀ v ∈ below ++ above, ¬ v.hitBy gx gy = true := by
  rw [topmostHit_lowered, ← topmostHit_eq_none]
  cases hother : topmostHit gx gy (below ++ above) with
  | some v =>
      have hne : v ≠ w := fun h => hw (h ▸ topmostHit_mem hother)
      simp [hne]
  | none => simp

theorem topmostHit_lowered_of_ne (hanswer : topmostHit gx gy (below ++ w :: above) ≠ some w) :
    topmostHit gx gy (w :: (below ++ above)) = topmostHit gx gy (below ++ w :: above) := by
  rw [topmostHit_lowered, topmostHit_delete hanswer]
  cases h : topmostHit gx gy (below ++ w :: above) with
  | some v => rfl
  | none =>
      have hmiss := topmostHit_eq_none.mp h w (by simp)
      rw [if_neg hmiss]
      rfl

theorem topmostHit_unmapped {w' : Window} (h : w'.hitBy gx gy = false) :
    topmostHit gx gy (below ++ w' :: above) = topmostHit gx gy (below ++ above) := by
  rw [topmostHit_insert, topmostHit_append, h]
  rfl

/-! ## Stacks -/

theorem windowRaise_reorders (s : WindowStack) (id : Nat) : Reorders id s (windowRaise s id) where
  windows := by
    rw [windowRaise_eq]
    exact KeyedList.toEnd_perm id s.windows
  others := .windowRaise s (by simp)

theorem windowLower_reorders (s : WindowStack) (id : Nat) : Reorders id s (windowLower s id) where
  windows := by
    rw [windowLower_eq]
    exact KeyedList.toFront_perm id s.windows
  others := .windowLower s (by simp)

theorem windowFocus_reorders (s : WindowStack) (id : Nat) : Reorders id s (windowFocus s id) where
  windows := by
    unfold windowFocus
    cases windowById s id with
    | none => exact List.Perm.refl _
    | some w =>
        dsimp only
        split
        · exact List.Perm.refl _
        · exact (windowRaise_reorders { s with focusId := id } id).windows
  others := .windowFocus s (by simp)

/--
For a window of a stack with distinct ids and a point: raised, it answers if it
is hit; lowered, it answers if nothing else is hit, and no answer of another
window changes; destroyed, it leaves the answer as if it were unmapped.
-/
theorem window_at_after_restacking (hs : s.ids.Nodup) (hw : w ∈ s.windows) (gx gy : Int) :
    (windowAt (windowRaise s w.id) gx gy =
        if w.mapped ∧ w.contains gx gy then some w else windowAt s gx gy) ∧
      (windowAt (windowLower s w.id) gx gy = some w ↔
        w.mapped ∧ w.contains gx gy ∧
          ∀ v ∈ s.windows, v.id ≠ w.id → ¬ (v.mapped ∧ v.contains gx gy)) ∧
      (windowAt s gx gy ≠ some w →
        windowAt (windowLower s w.id) gx gy = windowAt s gx gy) ∧
      (windowAt s gx gy ≠ some w →
        windowAt (windowDestroy s w.id) gx gy = windowAt s gx gy) ∧
      (windowAt s gx gy = some w →
        windowAt (windowDestroy s w.id) gx gy =
          windowAt (s.writeById w.id fun v => { v with mapped := false }) gx gy) ∧
      Reorders w.id s (windowRaise s w.id) ∧ Reorders w.id s (windowLower s w.id) ∧
      Reorders w.id s (windowFocus s w.id) := by
  obtain ⟨below, above, hsplit, hbelow, habove⟩ := KeyedList.exists_insert hs hw
  have hhit (v : Window) : v.hitBy gx gy = true ↔ v.mapped ∧ v.contains gx gy := by
    simp [Window.hitBy]
  have hraised : (windowRaise s w.id).windows = below ++ above ++ [w] := by
    rw [windowRaise_eq, hsplit]
    exact KeyedList.toEnd_insert hbelow rfl above
  have hlowered : (windowLower s w.id).windows = w :: (below ++ above) := by
    rw [windowLower_eq, hsplit]
    exact KeyedList.toFront_insert hbelow rfl above
  have hdestroyed : (windowDestroy s w.id).windows = below ++ above := by
    rw [windowDestroy_windows, hsplit]
    exact KeyedList.remove_insert hbelow rfl above
  have hunmapped : (s.writeById w.id fun v => { v with mapped := false }).windows =
      below ++ { w with mapped := false } :: above := by
    unfold WindowStack.writeById
    dsimp only
    rw [hsplit]
    exact KeyedList.update_append hbelow rfl
  have hothers (v : Window) : v ∈ below ++ above ↔ v ∈ s.windows ∧ v.id ≠ w.id := by
    rw [hsplit]
    exact KeyedList.mem_around_iff hbelow habove
  simp only [windowAt_eq, hraised, hlowered, hdestroyed, hunmapped]
  rw [hsplit]
  refine ⟨?_, ?_, topmostHit_lowered_of_ne, topmostHit_delete, fun _ => ?_,
    windowRaise_reorders s w.id, windowLower_reorders s w.id,
    windowFocus_reorders s w.id⟩
  · rw [topmostHit_raised]
    exact if_congr (hhit w) rfl rfl
  · rw [topmostHit_lowered_eq_iff fun h => ((hothers w).mp h).2 rfl, hhit w, and_assoc]
    refine and_congr_right fun _ => and_congr_right fun _ => ?_
    constructor
    · intro h v hv hid hmapped
      exact h v ((hothers v).mpr ⟨hsplit ▸ hv, hid⟩) ((hhit v).mpr hmapped)
    · intro h v hv hmapped
      obtain ⟨hmem, hid⟩ := (hothers v).mp hv
      exact h v (hsplit ▸ hmem) hid ((hhit v).mp hmapped)
  · exact (topmostHit_unmapped rfl).symm

/-- Two overlapping windows over a wallpaper, and the upper one of them. -/
theorem window_at_after_restacking_overlap :
    let paper := newWindow 1 .desktop 0 0 1920 1080 0 []
    let lower := newWindow 2 .normal 100 100 400 300 0 []
    let upper := newWindow 3 .normal 300 200 400 300 0 []
    let s : WindowStack := ⟨[paper, lower, upper], 3, 4⟩
    windowAt s 350 250 = some upper ∧
      windowAt (windowLower s upper.id) 350 250 ≠ some upper ∧
      windowAt (windowDestroy s upper.id) 350 250 =
        windowAt (s.writeById upper.id fun v => { v with mapped := false }) 350 250 := by
  intro paper lower upper s
  obtain ⟨-, hlower, -, -, hdestroy, -⟩ :=
    window_at_after_restacking (s := s) (w := upper) (by decide) (by decide) 350 250
  have hanswer : windowAt s 350 250 = some upper := by decide
  refine ⟨hanswer, fun h => ?_, hdestroy hanswer⟩
  exact (hlower.mp h).2.2 lower (by decide) (by decide) (by decide)

end CrystallineLattice.Stack
