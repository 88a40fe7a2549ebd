import CrystallineLattice.Stack.Invariant

/-!
# How long window handles stay unambiguous

`next_id` is a 32-bit counter that nothing keeps from wrapping.  The id of the
`k`-th window that a run adds is `k` modulo `2^32`, whatever was destroyed in
between, so handles are good for the first `2^32 - 1` windows and the next one
gets the id 0, which callers read as "the stack is full".
-/

namespace CrystallineLattice.Stack

open CrystallineLattice.Foundation

namespace StackHistory

def Adds (r : StackHistory) : StackOp → Prop
  | .create .. => r.stack.count < winMax
  | _ => False

instance (r : StackHistory) : (op : StackOp) → Decidable (r.Adds op)
  | .create .. => inferInstanceAs (Decidable (r.stack.count < winMax))
  | .destroy _ => .isFalse id
  | .raise _ => .isFalse id
  | .lower _ => .isFalse id
  | .move .. => .isFalse id
  | .setGeometry .. => .isFalse id
  | .focus _ => .isFalse id
  | .focusCycle _ => .isFalse id

def additions : StackHistory → List StackOp → Nat
  | _, [] => 0
  | r, op :: ops => (if r.Adds op then 1 else 0) + additions (r.next op) ops

/--
What a caller of `window_create` relies on: an entry that is added has a nonzero
id that no other window has, and 0 means that nothing happened.
-/
def Unambiguous (r : StackHistory) : StackOp → Prop
  | .create role x y w h color title =>
      let (stack, id) := windowCreate r.stack role x y w h color title
      (stack.count = r.stack.count + 1 → id ≠ 0 ∧ id ∉ r.stack.ids) ∧
        (id = 0 → stack = r.stack)
  | _ => True

/-- After `k` additions the ids in use are among `1, …, k`. -/
structure Numbered (k : Nat) (r : StackHistory) : Prop where
  nodup : r.stack.ids.Nodup
  used : ∀ id ∈ r.stack.ids, id ≤ k
  counter : r.stack.nextId = uint32 (k + 1)

variable {k : Nat} {r : StackHistory}

theorem start_numbered : start.Numbered 0 where
  nodup := List.nodup_nil
  used := by simp [start, windowStackInit, WindowStack.ids]
  counter := rfl

namespace Numbered

theorem rearranges (hr : r.Numbered k) {stack : WindowStack} (h : Rearranges r.stack stack) :
    Numbered k { r with stack := stack } where
  nodup := h.ids.nodup_iff.mpr hr.nodup
  used id hid := hr.used id (h.mem_ids.mp hid)
  counter := h.nextId.trans hr.counter

theorem full (hr : r.Numbered k) {op : StackOp} (hadds : ¬ r.Adds op) :
    (r.next op).Numbered k ∧ r.Unambiguous op := by
  cases op with
  | create role x y w h color title =>
      have hfull : winMax ≤ r.stack.count := Nat.le_of_not_lt hadds
      have hcreate : windowCreate r.stack role x y w h color title = (r.stack, 0) :=
        if_pos hfull
      simp only [next, Unambiguous, hcreate]
      exact ⟨⟨hr.nodup, hr.used, hr.counter⟩, by omega, fun _ => trivial⟩
  | destroy id =>
      refine ⟨⟨?_, ?_, ?_⟩, trivial⟩
      · simp only [next, windowDestroy_ids]
        exact hr.nodup.erase id
      · intro id' hid
        exact hr.used id' ((mem_windowDestroy_ids hr.nodup).mp hid).2
      · exact (windowDestroy_nextId r.stack id).trans hr.counter
  | raise id => exact ⟨hr.rearranges (windowRaise_rearranges hr.nodup id), trivial⟩
  | lower id => exact ⟨hr.rearranges (windowLower_rearranges hr.nodup id), trivial⟩
  | move id x y => exact ⟨hr.rearranges (windowMove_rearranges _ id x y), trivial⟩
  | setGeometry id x y w h =>
      exact ⟨hr.rearranges (windowSetGeometry_rearranges _ id x y w h), trivial⟩
  | focus id => exact ⟨hr.rearranges (windowFocus_rearranges hr.nodup id), trivial⟩
  | focusCycle dir => exact ⟨hr.rearranges (windowFocusCycle_rearranges hr.nodup dir), trivial⟩

theorem adds (hr : r.Numbered k) {op : StackOp} (hadds : r.Adds op)
    (hk : k + 1 < 4294967296) : (r.next op).Numbered (k + 1) ∧ r.Unambiguous op := by
  cases op with
  | create role x y w h color title =>
      have hid : r.stack.nextId = k + 1 := by
        rw [hr.counter]
        simpa using uint32_of_lt hk
      have hfresh : k + 1 ∉ r.stack.ids := fun hmem => by
        have := hr.used _ hmem
        omega
      obtain ⟨heq, hfull⟩ | ⟨-, hcreate⟩ :=
        windowCreate_cases r.stack role x y w h color title
      · exact absurd hadds (Nat.not_lt_of_le hfull)
      · simp only [next, Unambiguous, hcreate, hid]
        refine ⟨⟨?_, ?_, ?_⟩, fun _ => ⟨Nat.succ_ne_zero k, hfresh⟩, fun h0 => by omega⟩
        · simp only [WindowStack.ids, List.map_append, List.map_cons, List.map_nil, newWindow]
          exact List.nodup_append'.mpr ⟨hr.nodup, by simp, List.disjoint_singleton.mpr hfresh⟩
        · intro id hmem
          simp only [WindowStack.ids, List.map_append, List.mem_append, List.map_cons,
            List.map_nil, List.mem_singleton, newWindow] at hmem
          rcases hmem with hmem | rfl
          · exact Nat.le_succ_of_le (hr.used id hmem)
          · exact Nat.le_refl _
        · simp
  | _ => exact hadds.elim

/-- Window number `2^32` is added under the id 0. -/
theorem wraps (hr : r.Numbered 4294967295) {op : StackOp} (hadds : r.Adds op) :
    ¬ r.Unambiguous op := by
  cases op with
  | create role x y w h color title =>
      have hid : r.stack.nextId = 0 := by
        rw [hr.counter]
        decide
      obtain ⟨heq, hfull⟩ | ⟨-, hcreate⟩ :=
        windowCreate_cases r.stack role x y w h color title
      · exact absurd hadds (Nat.not_lt_of_le hfull)
      · simp only [Unambiguous, hcreate, hid]
        intro h
        exact (h.1 (by simp [WindowStack.count])).1 rfl
  | _ => exact hadds.elim

theorem each_unambiguous_iff (hr : r.Numbered k) (hk : k < 4294967296) (ops : List StackOp) :
    system.Each Unambiguous r ops ↔ k + additions r ops < 4294967296 := by
  induction ops generalizing k r with
  | nil => exact ⟨fun _ => hk, fun _ => trivial⟩
  | cons op ops ih =>
      by_cases hadds : r.Adds op
      · simp only [System.Each, additions, if_pos hadds]
        by_cases hroom : k + 1 < 4294967296
        · obtain ⟨hnext, hop⟩ := hr.adds hadds hroom
          have hrest := ih hnext hroom
          constructor
          · intro h
            have := hrest.mp h.2
            omega
          · intro h
            exact ⟨hop, hrest.mpr (by omega)⟩
        · -- this call returns 0
          obtain rfl : k = 4294967295 := by omega
          constructor
          · exact fun h => absurd h.1 (hr.wraps hadds)
          · intro h
            omega
      · obtain ⟨hnext, hop⟩ := hr.full hadds
        simp only [System.Each, additions, if_neg hadds, Nat.zero_add]
        exact ⟨fun h => (ih hnext hk).mp h.2, fun h => ⟨hop, (ih hnext hk).mpr h⟩⟩

end Numbered

/--
In a run from `window_stack_init` every call of `window_create` returns a fresh
handle, or 0 and no change, if and only if the run adds fewer than `2^32` windows.
-/
theorem window_handles_unambiguous_iff (ops : List StackOp) :
    system.Each Unambiguous start ops ↔ additions start ops < 2 ^ 32 := by
  simpa using start_numbered.each_unambiguous_iff (by decide) ops

/-! ## A run that is long enough -/

/-- A client that opens and closes a window `n` times, on a stack whose next id is `first`. -/
def churn (first : Nat) : Nat → List StackOp
  | 0 => []
  | n + 1 => .create .normal 0 0 640 480 0 [] :: .destroy first :: churn (first + 1) n

theorem exec_churn (first n : Nat) (hroom : r.stack.count < winMax)
    (hnext : r.stack.nextId = uint32 first) (hold : ∀ id ∈ r.stack.ids, id < first)
    (hlast : first + n ≤ 4294967296) :
    (system.exec r (churn first n)).stack.windows = r.stack.windows ∧
      (system.exec r (churn first n)).stack.nextId = uint32 ((first + n : Nat) : Int) := by
  induction n generalizing first r with
  | zero => exact ⟨rfl, hnext⟩
  | succ n ih =>
      have hid : r.stack.nextId = first := by
        rw [hnext, uint32_of_lt (by omega)]
      obtain ⟨heq, hfull⟩ | ⟨-, hcreate⟩ :=
        windowCreate_cases r.stack .normal 0 0 640 480 0 []
      · exact absurd hroom (Nat.not_lt_of_le hfull)
      · rw [churn]
        set created := r.next (.create .normal 0 0 640 480 0 []) with hcreated
        set closed := created.next (.destroy first) with hclosed
        have hfresh : first ∉ r.stack.ids := fun hmem => Nat.lt_irrefl _ (hold _ hmem)
        have hwindows : closed.stack.windows = r.stack.windows := by
          simp only [hclosed, hcreated, next, hcreate, windowDestroy_windows, hid]
          rw [KeyedList.remove_insert hfresh rfl, List.append_nil]
        have hcounter : closed.stack.nextId = uint32 ((first + 1 : Nat) : Int) := by
          simp only [hclosed, hcreated, next, hcreate, windowDestroy_nextId, hid]
          rfl
        have hids : closed.stack.ids = r.stack.ids := congrArg (List.map Window.id) hwindows
        have hroom' : closed.stack.count < winMax := by
          rw [WindowStack.count, hwindows]
          exact hroom
        have hold' : ∀ id ∈ closed.stack.ids, id < first + 1 :=
          fun id h => Nat.lt_succ_of_lt (hold id (hids ▸ h))
        have hrest := ih (first + 1) hroom' hcounter hold' (by omega)
        rw [hwindows, Nat.add_assoc, Nat.add_comm 1 n] at hrest
        exact hrest

/-- The wallpaper stays while `n` windows come and go; then two more are opened. -/
def longRun (n : Nat) : List StackOp :=
  (.create .desktop 0 0 1920 1080 0 [] :: churn 2 n) ++
    [.create .normal 0 0 640 480 0 [], .create .normal 0 0 640 480 0 []]

theorem exec_longRun {n : Nat} (hn : 2 + n = 4294967296) :
    ¬ system.Each Unambiguous start (longRun n) ∧
      (system.exec start (longRun n)).stack.ids = [1, 0, 1] := by
  let opened := start.next (.create .desktop 0 0 1920 1080 0 [])
  obtain ⟨hwindows, hnext⟩ := exec_churn 2 n (r := opened) (by decide) (by decide)
    (by decide) (by omega)
  have hzero : uint32 ((2 + n : Nat) : Int) = 0 := by
    rw [hn]
    decide
  rw [hzero] at hnext
  have hlast : system.exec start (.create .desktop 0 0 1920 1080 0 [] :: churn 2 n) =
      system.exec opened (churn 2 n) := rfl
  unfold longRun
  rw [System.each_append, System.exec_append, hlast]
  generalize system.exec opened (churn 2 n) = r at hwindows hnext
  obtain ⟨⟨windows, focusId, nextId⟩, returned, destroyed⟩ := r
  subst hwindows hnext
  constructor
  · rintro ⟨-, hfirst, -⟩
    exact (hfirst.1 rfl).1 rfl
  · rfl

/-- The first of the last two windows has the id 0, the second one that of the wallpaper. -/
theorem window_handles_ambiguous_after_wrap :
    ¬ system.Each Unambiguous start (longRun (2 ^ 32 - 2)) ∧
      (system.exec start (longRun (2 ^ 32 - 2))).stack.ids = [1, 0, 1] :=
  exec_longRun (by decide)

end StackHistory

end CrystallineLattice.Stack
