import CrystallineLattice.Stack.HitTest
import Mathlib.Logic.Function.Iterate

/-!
# Alt-Tab

One call of `window_focus_cycle` raises the window it chooses, so the next one
walks a rotated array: from the second call on the focused window is on top and
the search begins at the bottom.  The normal windows then come up in the order in
which they are stacked, each one going behind those that are still to come.
-/

namespace CrystallineLattice.Stack

open CrystallineLattice.Foundation

def Window.cycled (w : Window) : Bool := w.role == .normal && w.mapped

namespace WindowStack

def cycledWindows (s : WindowStack) : List Window := s.windows.filter Window.cycled

def skippedWindows (s : WindowStack) : List Window := s.windows.filter fun w => !w.cycled

end WindowStack

def afterCycles (s : WindowStack) (n : Nat) : WindowStack :=
  (fun t => windowFocusCycle t 1)^[n] s

/-- The windows that have the focus after the first, the second, …, the `n`-th call. -/
def focusTrail (s : WindowStack) (n : Nat) : List Nat :=
  (List.range n).map fun i => (afterCycles s (i + 1)).focusId

/-- A window that Alt-Tab visits has the focus and is on top. -/
structure FocusedOnTop (s : WindowStack) : Prop where
  nodup : s.ids.Nodup
  top : ∃ below w, s.windows = below ++ [w] ∧ w.cycled = true ∧ s.focusId = w.id

variable {s : WindowStack} {w : Window}

theorem focusTrail_succ (s : WindowStack) (n : Nat) :
    focusTrail s (n + 1) =
      (windowFocusCycle s 1).focusId :: focusTrail (windowFocusCycle s 1) n := by
  unfold focusTrail
  rw [List.range_succ_eq_map, List.map_cons, List.map_map]
  rfl

/-! ## One call -/

theorem findSome?_range {α : Type*} (p : α → Bool) (l : List α) :
    (List.range l.length).findSome? (fun n => l[n]?.filter p) = l.find? p := by
  induction l with
  | nil => rfl
  | cons a l ih =>
      rw [List.length_cons, List.range_succ_eq_map, List.findSome?_cons, List.findSome?_map]
      by_cases ha : p a = true
      · simp [Option.filter, ha]
      · simpa [Option.filter, ha, Function.comp_def] using ih

theorem windowIndex_bounds (s : WindowStack) (id : Nat) :
    -1 ≤ windowIndex s id ∧ windowIndex s id < s.count := by
  unfold windowIndex WindowStack.count
  cases h : s.windows.findIdx? (fun w => w.id = id) with
  | none =>
      dsimp only
      omega
  | some i =>
      obtain ⟨hi, -⟩ := List.findIdx?_eq_some_iff_getElem.mp h
      dsimp only
      omega

theorem cycle_index {c k : Int} (hk : 0 ≤ k) (hkc : k < 2 * c) :
    (k.tmod c + c).tmod c = if k < c then k else k - c := by
  have hmod : k.tmod c = if k < c then k else k - c := by
    rw [Int.tmod_eq_emod_of_nonneg hk]
    split
    · exact Int.emod_eq_of_lt hk (by omega)
    · rw [← Int.sub_emod_right]
      exact Int.emod_eq_of_lt (by omega) (by omega)
  rw [hmod, Int.tmod_eq_emod_of_nonneg (by split <;> omega), Int.add_emod_right]
  split
  · exact Int.emod_eq_of_lt hk (by omega)
  · exact Int.emod_eq_of_lt (by omega) (by omega)

theorem cycleCandidate_eq {n : Nat} {k : Int} (hsum : windowIndex s s.focusId + n = k)
    (hk : 0 ≤ k) (hkc : k < 2 * s.count) :
    cycleCandidate s 1 n =
      s.windows[(if k < s.count then k else k - s.count).toNat]?.filter Window.cycled := by
  unfold cycleCandidate
  dsimp only
  rw [Int.one_mul, hsum, cycle_index hk hkc]
  rfl

theorem exists_cycleCandidate (hw : w ∈ s.cycledWindows) :
    ∃ n < s.count, cycleCandidate s 1 (n + 1) = some w := by
  obtain ⟨hmem, hcycled⟩ := List.mem_filter.mp hw
  obtain ⟨j, hj, hget⟩ := List.getElem_of_mem hmem
  obtain ⟨hlow, hhigh⟩ := windowIndex_bounds s s.focusId
  have hcount : j < s.count := hj
  have hfound : s.windows[j]?.filter Window.cycled = some w := by
    rw [List.getElem?_eq_getElem hj, hget]
    exact Option.filter_eq_some_iff.mpr ⟨rfl, hcycled⟩
  by_cases hafter : windowIndex s s.focusId < j
  · refine ⟨(j - windowIndex s s.focusId - 1).toNat, by omega, ?_⟩
    rw [cycleCandidate_eq (k := j) (by omega) (by omega) (by omega), if_pos (by omega)]
    exact hfound
  · refine ⟨(s.count + j - windowIndex s s.focusId - 1).toNat, by omega, ?_⟩
    rw [cycleCandidate_eq (k := j + s.count) (by omega) (by omega) (by omega),
      if_neg (by omega), Int.add_sub_cancel]
    exact hfound

theorem mem_cycled_of_candidate {step : Int} {n : Nat} (h : cycleCandidate s step n = some w) :
    w ∈ s.cycledWindows := by
  obtain ⟨hget, hcycled⟩ := Option.filter_eq_some_iff.mp h
  exact List.mem_filter.mpr ⟨List.mem_of_getElem? hget, hcycled⟩

theorem windowFocusCycle_focuses (h : s.cycledWindows ≠ []) :
    ∃ w ∈ s.cycledWindows, windowFocusCycle s 1 = windowFocus s w.id := by
  obtain ⟨w, hw⟩ := List.exists_mem_of_ne_nil _ h
  obtain ⟨n, hn, hcandidate⟩ := exists_cycleCandidate hw
  have hcount : s.count ≠ 0 := by omega
  cases hfound : (List.range s.count).findSome? fun n => cycleCandidate s 1 (n + 1) with
  | none =>
      have hnone := List.findSome?_eq_none_iff.mp hfound n (List.mem_range.mpr hn)
      rw [hcandidate] at hnone
      cases hnone
  | some u =>
      obtain ⟨m, -, hm⟩ := List.exists_of_findSome?_eq_some hfound
      refine ⟨u, mem_cycled_of_candidate hm, ?_⟩
      unfold windowFocusCycle
      rw [if_neg hcount, if_pos (by decide)]
      dsimp only
      rw [hfound]

theorem FocusedOnTop.windowFocusCycle_eq (hs : FocusedOnTop s) {v : Window} {rest : List Window}
    (hfirst : s.cycledWindows = v :: rest) : windowFocusCycle s 1 = windowFocus s v.id := by
  obtain ⟨hnodup, below, w, hwindows, -, hfocus⟩ := hs
  have hfresh : w.id ∉ below.map Window.id := by
    unfold WindowStack.ids at hnodup
    rw [hwindows, List.map_append] at hnodup
    intro hmem
    exact (List.nodup_append'.mp hnodup).2.2 hmem List.mem_cons_self
  have hcount : (s.count : Int) = below.length + 1 := by
    simp [WindowStack.count, hwindows]
  have hstart : windowIndex s s.focusId = s.count - 1 := by
    have hnone : below.findIdx? (fun v => decide (v.id = w.id)) = none := by
      simpa using hfresh
    unfold windowIndex
    rw [hwindows, hfocus, List.findIdx?_append, hnone]
    simp [hcount]
  have hcandidate (n : Nat) (hn : n ∈ List.range s.count) :
      cycleCandidate s 1 (n + 1) = s.windows[n]?.filter Window.cycled := by
    have hlt : n < s.count := List.mem_range.mp hn
    rw [cycleCandidate_eq (k := n + s.count) (by omega) (by omega) (by omega),
      if_neg (by omega), Int.add_sub_cancel]
    rfl
  have hfind : (List.range s.count).findSome? (fun n => cycleCandidate s 1 (n + 1)) = some v := by
    rw [← List.head?_filterMap, List.filterMap_congr hcandidate, List.head?_filterMap]
    exact (findSome?_range _ _).trans (List.head?_filter.symm.trans (congrArg List.head? hfirst))
  unfold windowFocusCycle
  rw [if_neg (by omega), if_pos (by decide)]
  dsimp only
  rw [hfind]

theorem windowFocus_cycled (hs : s.ids.Nodup) (hw : w ∈ s.cycledWindows) :
    (windowFocus s w.id).focusId = w.id ∧ FocusedOnTop (windowFocus s w.id) ∧
      (windowFocus s w.id).cycledWindows =
        KeyedList.toEnd Window.id w.id s.cycledWindows ∧
      (windowFocus s w.id).skippedWindows = s.skippedWindows := by
  obtain ⟨hmem, hcycled⟩ := List.mem_filter.mp hw
  have hid : windowById s w.id = some w := by
    rw [windowById_eq_lookup]
    exact (KeyedList.lookup_eq_some_iff hs).mpr ⟨hmem, rfl⟩
  have hrole : ¬ w.role = .desktop := by
    intro hdesktop
    simp [Window.cycled, hdesktop] at hcycled
  have heq : windowFocus s w.id =
      { s with focusId := w.id, windows := KeyedList.toEnd Window.id w.id s.windows } := by
    unfold windowFocus
    rw [hid]
    dsimp only
    rw [if_neg hrole, windowRaise_eq]
  obtain ⟨below, above, hsplit, hbelow, -⟩ := KeyedList.exists_insert hs hmem
  have htop : KeyedList.toEnd Window.id w.id s.windows = below ++ above ++ [w] := by
    rw [hsplit]
    exact KeyedList.toEnd_insert hbelow rfl above
  rw [heq]
  refine ⟨rfl, ⟨?_, below ++ above, w, htop, hcycled, rfl⟩, ?_, ?_⟩
  · exact ((KeyedList.toEnd_perm w.id s.windows).map Window.id).nodup_iff.mpr hs
  · exact (KeyedList.filter_toEnd hs hmem _).trans (if_pos hcycled)
  · exact (KeyedList.filter_toEnd hs hmem _).trans (if_neg (by simp [hcycled]))

/-! ## A run of calls -/

/-- From the top, the windows still to be visited come up in their order. -/
theorem FocusedOnTop.focusTrail_eq (hs : FocusedOnTop s) {toVisit visited : List Window}
    (hsplit : s.cycledWindows = toVisit ++ visited) :
    focusTrail s toVisit.length = toVisit.map Window.id := by
  induction toVisit generalizing s visited with
  | nil => rfl
  | cons v rest ih =>
      have hv : v ∈ s.cycledWindows := by
        rw [hsplit]
        exact List.mem_cons_self
      obtain ⟨hfocus, htop, hcycled, -⟩ := windowFocus_cycled hs.nodup hv
      have hrotated : (windowFocus s v.id).cycledWindows = rest ++ (visited ++ [v]) := by
        rw [hcycled, hsplit, ← List.append_assoc]
        exact KeyedList.toEnd_insert (l := []) (by simp) rfl _
      rw [List.length_cons, focusTrail_succ, hs.windowFocusCycle_eq hsplit, hfocus,
        ih htop hrotated, List.map_cons]

theorem afterCycles_keeps (hs : s.ids.Nodup) (hk : s.cycledWindows ≠ []) (n : Nat) :
    (afterCycles s n).ids.Nodup ∧ (afterCycles s n).cycledWindows ≠ [] ∧
      (afterCycles s n).skippedWindows = s.skippedWindows := by
  induction n with
  | zero => exact ⟨hs, hk, rfl⟩
  | succ n ih =>
      obtain ⟨hnodup, hnonempty, hskipped⟩ := ih
      obtain ⟨w, hw, heq⟩ := windowFocusCycle_focuses hnonempty
      obtain ⟨-, htop, hcycled, hkept⟩ := windowFocus_cycled hnodup hw
      unfold afterCycles at *
      rw [Function.iterate_succ_apply', heq]
      refine ⟨htop.nodup, fun hnil => ?_, hkept.trans hskipped⟩
      rw [hcycled] at hnil
      exact hnonempty (List.perm_nil.mp (hnil ▸ (KeyedList.toEnd_perm w.id _).symm))

/--
Alt-Tab visits every window: as many calls as there are mapped normal windows
focus each of them once, from any focus.  Every call leaves the focused window on
top, and the other windows in their order.
-/
theorem alt_tab_visits_every_window (hs : s.ids.Nodup) (hk : 1 ≤ s.cycledWindows.length) :
    (focusTrail s s.cycledWindows.length).Nodup ∧
      (∀ id, id ∈ focusTrail s s.cycledWindows.length ↔
        ∃ w ∈ s.windows, w.id = id ∧ w.role = .normal ∧ w.mapped) ∧
      ∀ n, FocusedOnTop (afterCycles s (n + 1)) ∧
        (afterCycles s (n + 1)).skippedWindows = s.skippedWindows := by
  have hnonempty : s.cycledWindows ≠ [] := List.ne_nil_of_length_pos hk
  obtain ⟨w, hw, heq⟩ := windowFocusCycle_focuses hnonempty
  obtain ⟨hfocus, htop, hcycled, -⟩ := windowFocus_cycled hs hw
  have hnodup : (s.cycledWindows.map Window.id).Nodup :=
    hs.sublist (List.filter_sublist.map Window.id)
  have hlookup := (KeyedList.lookup_eq_some_iff hnodup).mpr ⟨hw, rfl⟩
  have hrest : (windowFocus s w.id).cycledWindows =
      KeyedList.remove Window.id w.id s.cycledWindows ++ [w] := by
    rw [hcycled]
    unfold KeyedList.toEnd
    rw [hlookup]
  have hperm := KeyedList.perm_remove_cons hlookup
  have htrail : (focusTrail s s.cycledWindows.length).Perm (s.cycledWindows.map Window.id) := by
    rw [← hperm.length_eq, List.length_cons, focusTrail_succ, heq, hfocus,
      htop.focusTrail_eq hrest]
    exact hperm.map Window.id
  refine ⟨htrail.nodup_iff.mpr hnodup, fun id => ?_, fun n => ?_⟩
  · rw [htrail.mem_iff, List.mem_map]
    simp [WindowStack.cycledWindows, Window.cycled, and_assoc, and_comm, and_left_comm]
  · obtain ⟨hids, hsome, hskipped⟩ := afterCycles_keeps hs hnonempty n
    obtain ⟨v, hv, hnext⟩ := windowFocusCycle_focuses hsome
    obtain ⟨-, hontop, -, hkept⟩ := windowFocus_cycled hids hv
    unfold afterCycles at *
    rw [Function.iterate_succ_apply', hnext]
    exact ⟨hontop, hkept.trans hskipped⟩

/-- Three windows, one of them hidden, between a wallpaper and a taskbar that has the focus. -/
theorem alt_tab_visits_every_window_shell_focused :
    let s : WindowStack :=
      ⟨[newWindow 1 .desktop 0 0 1920 1080 0 [], newWindow 4 .normal 0 0 640 480 0 [],
        { newWindow 5 .normal 9 9 640 480 0 [] with mapped := false },
        newWindow 2 .taskbar 0 1040 1920 40 0 [], newWindow 3 .normal 50 50 640 480 0 []], 2, 6⟩
    s.cycledWindows.length = 2 ∧ (focusTrail s 2).Nodup ∧
      ∀ id, id ∈ focusTrail s 2 ↔ ∃ w ∈ s.windows, w.id = id ∧ w.role = .normal ∧ w.mapped := by
  intro s
  obtain ⟨hnodup, hmem, -⟩ := alt_tab_visits_every_window (s := s) (by decide) (by decide)
  exact ⟨rfl, hnodup, hmem⟩

end CrystallineLattice.Stack
