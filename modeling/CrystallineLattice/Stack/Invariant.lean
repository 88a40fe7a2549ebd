import CrystallineLattice.Foundation.Runs
import CrystallineLattice.Stack.Model

/-!
# The window-stack invariant

The first part says what each operation of `window.c` does to a well-formed
stack: creation appends a record under a fresh id, destruction deletes one, and
everything else only rearranges the records and edits their geometry.  The
second part carries the invariant along every run of the operations.
-/

namespace CrystallineLattice.Stack

open CrystallineLattice.Foundation
open KeyedList (lookup remove toEnd toFront)

structure WindowStack.WellFormed (s : WindowStack) : Prop where
  bound : s.count ≤ winMax
  nodup : s.ids.Nodup
  nonzero : ∀ id ∈ s.ids, id ≠ 0
  below : ∀ id ∈ s.ids, id < s.nextId
  nextPos : 0 < s.nextId
  focus : s.focusId = 0 ∨ s.focusId ∈ s.ids

def Window.content (w : Window) : Window :=
  { w with
    x := 0, y := 0, w := 0, h := 0
    snapped := false
    savedX := 0, savedY := 0, savedW := 0, savedH := 0 }

/--
What every operation other than creation and destruction does: the same
windows in some order, with their content, and a focus that is old or live.
-/
structure Rearranges (s s' : WindowStack) : Prop where
  ids : s'.ids.Perm s.ids
  nextId : s'.nextId = s.nextId
  focus : s'.focusId = s.focusId ∨ s'.focusId ∈ s.ids
  content : ∀ id, (windowById s' id).map Window.content = (windowById s id).map Window.content

theorem mem_ids_iff {s : WindowStack} {id : Nat} :
    id ∈ s.ids ↔ ∃ w, windowById s id = some w := by
  rw [windowById_eq_lookup]
  exact KeyedList.exists_lookup_iff.symm

theorem id_of_windowById {s : WindowStack} {id : Nat} {w : Window}
    (h : windowById s id = some w) : w.id = id := by
  rw [windowById_eq_lookup] at h
  exact KeyedList.key_of_lookup h

theorem mem_of_windowById {s : WindowStack} {id : Nat} {w : Window}
    (h : windowById s id = some w) : w ∈ s.windows := by
  rw [windowById_eq_lookup] at h
  exact KeyedList.mem_of_lookup h

theorem windowById_eq_none {s : WindowStack} {id : Nat} :
    windowById s id = none ↔ id ∉ s.ids := by
  rw [windowById_eq_lookup]
  exact KeyedList.lookup_eq_none_iff

theorem windowById_writeById (s : WindowStack) {id : Nat} {f : Window → Window}
    (hid : ∀ w, (f w).id = w.id) (id' : Nat) :
    windowById (s.writeById id f) id' =
      if id' = id then (windowById s id).map f else windowById s id' := by
  have hkey : ∀ w : Window, w.id = id → (f w).id = id := fun w h => (hid w).trans h
  simp only [windowById_eq_lookup, WindowStack.writeById, KeyedList.lookup_update hkey]

theorem writeById_ids (s : WindowStack) {id : Nat} {f : Window → Window}
    (hid : ∀ w, (f w).id = w.id) : (s.writeById id f).ids = s.ids :=
  KeyedList.map_key_update (fun w h => (hid w).trans h) s.windows

theorem WindowStack.WellFormed.congr {s s' : WindowStack} (hs : s.WellFormed)
    (hids : s'.ids = s.ids) (hfocus : s'.focusId = s.focusId) (hnext : s'.nextId = s.nextId) :
    s'.WellFormed where
  bound := by
    have hlen := congrArg List.length hids
    simp only [WindowStack.ids, List.length_map] at hlen
    rw [WindowStack.count, hlen]
    exact hs.bound
  nodup := hids ▸ hs.nodup
  nonzero := hids ▸ hs.nonzero
  below := hids ▸ hnext ▸ hs.below
  nextPos := hnext ▸ hs.nextPos
  focus := by
    rw [hfocus, hids]
    exact hs.focus

theorem WindowStack.WellFormed.writeById {s : WindowStack} (hs : s.WellFormed) (id : Nat)
    {f : Window → Window} (hid : ∀ w, (f w).id = w.id) : (s.writeById id f).WellFormed :=
  hs.congr (writeById_ids s hid) rfl rfl

/-! ## Operations that rearrange -/

namespace Rearranges

theorem refl (s : WindowStack) : Rearranges s s :=
  ⟨List.Perm.refl _, rfl, .inl rfl, fun _ => rfl⟩

theorem trans {s t u : WindowStack} (h : Rearranges s t) (h' : Rearranges t u) :
    Rearranges s u where
  ids := h'.ids.trans h.ids
  nextId := h'.nextId.trans h.nextId
  focus := by
    rcases h'.focus with hfocus | hfocus
    · rw [hfocus]
      exact h.focus
    · exact .inr (h.ids.mem_iff.mp hfocus)
  content id := (h'.content id).trans (h.content id)

theorem wellFormed {s s' : WindowStack} (h : Rearranges s s') (hs : s.WellFormed) :
    s'.WellFormed where
  bound := by
    have hlen := h.ids.length_eq
    simp only [WindowStack.ids, List.length_map] at hlen
    rw [WindowStack.count, hlen]
    exact hs.bound
  nodup := h.ids.nodup_iff.mpr hs.nodup
  nonzero id hid := hs.nonzero id (h.ids.mem_iff.mp hid)
  below id hid := by
    rw [h.nextId]
    exact hs.below id (h.ids.mem_iff.mp hid)
  nextPos := by
    rw [h.nextId]
    exact hs.nextPos
  focus := by
    rcases h.focus with hfocus | hfocus
    · rw [hfocus, h.ids.mem_iff]
      exact hs.focus
    · exact .inr (h.ids.mem_iff.mpr hfocus)

theorem mem_ids {s s' : WindowStack} (h : Rearranges s s') {id : Nat} :
    id ∈ s'.ids ↔ id ∈ s.ids :=
  h.ids.mem_iff

theorem of_perm {s : WindowStack} (hs : s.ids.Nodup) {windows : List Window}
    (hperm : windows.Perm s.windows) :
    Rearranges s { s with windows := windows } where
  ids := hperm.map Window.id
  nextId := rfl
  focus := .inl rfl
  content id := by
    rw [windowById_eq_lookup, windowById_eq_lookup, KeyedList.lookup_perm hs hperm]

theorem writeById (s : WindowStack) (id : Nat) {f : Window → Window}
    (hid : ∀ w, (f w).id = w.id) (hcontent : ∀ w, (f w).content = w.content) :
    Rearranges s (s.writeById id f) where
  ids := List.Perm.of_eq (writeById_ids s hid)
  nextId := rfl
  focus := .inl rfl
  content id' := by
    rw [windowById_writeById s hid]
    split
    · rename_i h
      subst h
      rw [Option.map_map]
      exact congrArg (fun g => Option.map g _) (funext hcontent)
    · rfl

end Rearranges

theorem windowRaise_rearranges {s : WindowStack} (hs : s.ids.Nodup) (id : Nat) :
    Rearranges s (windowRaise s id) := by
  rw [windowRaise_eq]
  exact .of_perm hs (KeyedList.toEnd_perm id s.windows)

theorem windowLower_rearranges {s : WindowStack} (hs : s.ids.Nodup) (id : Nat) :
    Rearranges s (windowLower s id) := by
  rw [windowLower_eq]
  exact .of_perm hs (KeyedList.toFront_perm id s.windows)

theorem windowMove_rearranges (s : WindowStack) (id : Nat) (x y : Int) :
    Rearranges s (windowMove s id x y) :=
  .writeById s id (fun _ => rfl) (fun _ => rfl)

theorem windowSetGeometry_rearranges (s : WindowStack) (id : Nat) (x y w h : Int) :
    Rearranges s (windowSetGeometry s id x y w h) :=
  .writeById s id (fun _ => rfl) (fun _ => rfl)

theorem windowFocus_rearranges {s : WindowStack} (hs : s.ids.Nodup) (id : Nat) :
    Rearranges s (windowFocus s id) := by
  unfold windowFocus
  cases h : windowById s id with
  | none => exact .refl s
  | some w =>
      have hmem : id ∈ s.ids := mem_ids_iff.mpr ⟨w, h⟩
      have hfocus : Rearranges s { s with focusId := id } :=
        ⟨List.Perm.refl _, rfl, .inr hmem, fun _ => rfl⟩
      by_cases hrole : w.role = .desktop
      · simpa [hrole] using hfocus
      · simpa [hrole] using
          hfocus.trans (windowRaise_rearranges (s := { s with focusId := id }) hs id)

theorem windowFocusCycle_rearranges {s : WindowStack} (hs : s.ids.Nodup) (dir : Int) :
    Rearranges s (windowFocusCycle s dir) := by
  unfold windowFocusCycle
  by_cases hcount : s.count = 0
  · simpa [hcount] using Rearranges.refl s
  · simp only [hcount, if_false]
    split
    · exact windowFocus_rearranges hs _
    · exact .refl s

/-! ## Creation and destruction -/

theorem windowCreate_cases (s : WindowStack) (role : WinRole) (x y w h : Int)
    (color : UInt32) (title : List UInt8) :
    windowCreate s role x y w h color title = (s, 0) ∧ winMax ≤ s.count ∨
      s.count < winMax ∧
        windowCreate s role x y w h color title =
          (⟨s.windows ++ [newWindow s.nextId role x y w h color title], s.focusId,
            uint32 (s.nextId + 1)⟩, s.nextId) := by
  by_cases hfull : winMax ≤ s.count
  · exact .inl ⟨by simp [windowCreate, hfull], hfull⟩
  · exact .inr ⟨by omega, by simp [windowCreate, hfull]⟩

theorem WindowStack.WellFormed.append {s : WindowStack} (hs : s.WellFormed)
    (hroom : s.count < winMax) (hwrap : s.nextId + 1 < 4294967296) {win : Window}
    (hid : win.id = s.nextId) :
    WindowStack.WellFormed ⟨s.windows ++ [win], s.focusId, uint32 (s.nextId + 1)⟩ := by
  have hnext : uint32 ((s.nextId : Int) + 1) = s.nextId + 1 := by
    simpa using uint32_of_lt hwrap
  have hids : (s.windows ++ [win]).map Window.id = s.ids ++ [s.nextId] := by
    simp [WindowStack.ids, hid]
  have hfresh : s.nextId ∉ s.ids := fun hmem => Nat.lt_irrefl _ (hs.below _ hmem)
  have hmem {id : Nat} (h : id ∈ (s.windows ++ [win]).map Window.id) :
      id ∈ s.ids ∨ id = s.nextId := by
    rw [hids] at h
    simpa using h
  exact {
    bound := by
      unfold WindowStack.count at hroom ⊢
      simpa using Nat.succ_le_of_lt hroom
    nodup := by
      rw [WindowStack.ids, hids]
      exact List.nodup_append'.mpr ⟨hs.nodup, by simp, by simpa using hfresh⟩
    nonzero := fun id h => by
      rcases hmem h with h | rfl
      · exact hs.nonzero id h
      · exact Nat.pos_iff_ne_zero.mp hs.nextPos
    below := fun id h => by
      simp only [hnext]
      rcases hmem h with h | rfl
      · exact Nat.lt_succ_of_lt (hs.below id h)
      · exact Nat.lt_succ_self _
    nextPos := by simp only [hnext, Nat.zero_lt_succ]
    focus := by
      rcases hs.focus with h | h
      · exact .inl h
      · exact .inr (by
          rw [WindowStack.ids, hids]
          exact List.mem_append_left _ h) }

theorem windowDestroy_ids (s : WindowStack) (id : Nat) :
    (windowDestroy s id).ids = s.ids.erase id := by
  rw [WindowStack.ids, windowDestroy_windows, KeyedList.map_key_remove]
  rfl

theorem mem_windowDestroy_ids {s : WindowStack} (hs : s.ids.Nodup) {id id' : Nat} :
    id' ∈ (windowDestroy s id).ids ↔ id' ≠ id ∧ id' ∈ s.ids := by
  rw [windowDestroy_ids, hs.mem_erase_iff]

theorem windowDestroy_lookup_ne (s : WindowStack) {id id' : Nat} (h : id' ≠ id) :
    windowById (windowDestroy s id) id' = windowById s id' := by
  rw [windowById_eq_lookup, windowById_eq_lookup, windowDestroy_windows,
    KeyedList.lookup_remove_ne h]

theorem topId_mem {windows : List Window} :
    topId windows = 0 ∨ topId windows ∈ windows.map Window.id := by
  unfold topId
  cases h : windows.getLast? with
  | none => exact .inl rfl
  | some w => exact .inr (List.mem_map_of_mem (List.mem_of_getLast? h))

theorem WindowStack.WellFormed.destroy {s : WindowStack} (hs : s.WellFormed) (id : Nat) :
    (windowDestroy s id).WellFormed := by
  have hmem {id' : Nat} (h : id' ∈ (windowDestroy s id).ids) : id' ∈ s.ids :=
    ((mem_windowDestroy_ids hs.nodup).mp h).2
  exact {
    bound := by
      rw [WindowStack.count, windowDestroy_windows]
      exact Nat.le_trans (KeyedList.remove_sublist id s.windows).length_le hs.bound
    nodup := by
      rw [windowDestroy_ids]
      exact hs.nodup.erase id
    nonzero := fun id' h => hs.nonzero id' (hmem h)
    below := fun id' h => by
      rw [windowDestroy_nextId]
      exact hs.below id' (hmem h)
    nextPos := by
      rw [windowDestroy_nextId]
      exact hs.nextPos
    focus := by
      have hids : (windowDestroy s id).ids =
          (remove Window.id id s.windows).map Window.id := by
        rw [WindowStack.ids, windowDestroy_windows]
      rw [windowDestroy_focusId, hids]
      split
      · exact topId_mem
      · rename_i hkeep
        rcases hs.focus with h | h
        · exact .inl h
        · -- a live focus that was not destroyed is still live
          have hne : s.focusId ≠ id := fun e => hkeep ⟨e, e ▸ h⟩
          right
          rw [KeyedList.map_key_remove]
          exact (List.mem_erase_of_ne hne).mpr h }

theorem windowStackInit_wellFormed : windowStackInit.WellFormed where
  bound := by decide
  nodup := List.nodup_nil
  nonzero := by simp [windowStackInit, WindowStack.ids]
  below := by simp [windowStackInit, WindowStack.ids]
  nextPos := by decide
  focus := .inl rfl

/-! ## Runs of the window operations -/

inductive StackOp where
  | create (role : WinRole) (x y w h : Int) (color : UInt32) (title : List UInt8)
  | destroy (id : Nat)
  | raise (id : Nat)
  | lower (id : Nat)
  | move (id : Nat) (x y : Int)
  | setGeometry (id : Nat) (x y w h : Int)
  | focus (id : Nat)
  | focusCycle (dir : Int)
  deriving DecidableEq, Repr

/--
A stack together with the ids its successful creations returned and the ids of
the windows that were destroyed, in order.
-/
structure StackHistory where
  stack : WindowStack
  returned : List Nat
  destroyed : List Nat
  deriving DecidableEq, Repr

namespace StackHistory

def start : StackHistory := ⟨windowStackInit, [], []⟩

def next (r : StackHistory) : StackOp → StackHistory
  | .create role x y w h color title =>
      let (stack, id) := windowCreate r.stack role x y w h color title
      { r with stack := stack, returned := if id = 0 then r.returned else r.returned ++ [id] }
  | .destroy id =>
      { r with
        stack := windowDestroy r.stack id
        destroyed := if id ∈ r.stack.ids then r.destroyed ++ [id] else r.destroyed }
  | .raise id => { r with stack := windowRaise r.stack id }
  | .lower id => { r with stack := windowLower r.stack id }
  | .move id x y => { r with stack := windowMove r.stack id x y }
  | .setGeometry id x y w h => { r with stack := windowSetGeometry r.stack id x y w h }
  | .focus id => { r with stack := windowFocus r.stack id }
  | .focusCycle dir => { r with stack := windowFocusCycle r.stack dir }

def system : System StackHistory StackOp := ⟨fun _ _ => True, next⟩

/-- A step rearranges the windows, appends one under the next id, or deletes one. -/
theorem next_cases {r : StackHistory} (hr : r.stack.WellFormed) (op : StackOp) :
    (Rearranges r.stack (r.next op).stack ∧ (r.next op).returned = r.returned) ∨
      (r.stack.count < winMax ∧ ∃ win, win.id = r.stack.nextId ∧ win.buf = .null ∧
        (r.next op).stack =
          ⟨r.stack.windows ++ [win], r.stack.focusId, uint32 (r.stack.nextId + 1)⟩ ∧
        (r.next op).returned = r.returned ++ [r.stack.nextId]) ∨
      ∃ id, op = .destroy id ∧ (r.next op).stack = windowDestroy r.stack id ∧
        (r.next op).returned = r.returned := by
  have hnodup := hr.nodup
  cases op with
  | create role x y w h color title =>
      rcases windowCreate_cases r.stack role x y w h color title with ⟨heq, -⟩ | ⟨hroom, heq⟩
      · refine .inl ⟨?_, ?_⟩
        · simp only [next, heq]
          exact .refl _
        · simp only [next, heq, if_true]
      · have hpos : r.stack.nextId ≠ 0 := Nat.pos_iff_ne_zero.mp hr.nextPos
        refine .inr (.inl
          ⟨hroom, newWindow r.stack.nextId role x y w h color title, rfl, rfl, ?_, ?_⟩)
        · simp only [next, heq]
        · simp only [next, heq, hpos, if_false]
  | destroy id => exact .inr (.inr ⟨id, rfl, rfl, rfl⟩)
  | raise id => exact .inl ⟨windowRaise_rearranges hnodup id, rfl⟩
  | lower id => exact .inl ⟨windowLower_rearranges hnodup id, rfl⟩
  | move id x y => exact .inl ⟨windowMove_rearranges _ id x y, rfl⟩
  | setGeometry id x y w h => exact .inl ⟨windowSetGeometry_rearranges _ id x y w h, rfl⟩
  | focus id => exact .inl ⟨windowFocus_rearranges hnodup id, rfl⟩
  | focusCycle dir => exact .inl ⟨windowFocusCycle_rearranges hnodup dir, rfl⟩

/-- The stack's invariant, tied to what was returned and destroyed so far. -/
structure Inv (r : StackHistory) : Prop where
  stack : r.stack.WellFormed
  counted : r.stack.nextId = r.returned.length + 1
  issued : ∀ id ∈ r.returned, id < r.stack.nextId
  gone : ∀ id ∈ r.destroyed, id < r.stack.nextId
  live : ∀ id, id ∈ r.stack.ids ↔ id ∈ r.returned ∧ id ∉ r.destroyed

theorem Inv.rearrange {r : StackHistory} (hr : r.Inv) {s : WindowStack}
    (h : Rearranges r.stack s) : Inv { r with stack := s } where
  stack := h.wellFormed hr.stack
  counted := h.nextId.trans hr.counted
  issued id hid := by
    rw [h.nextId]
    exact hr.issued id hid
  gone id hid := by
    rw [h.nextId]
    exact hr.gone id hid
  live id := h.mem_ids.trans (hr.live id)

theorem Inv.create {r : StackHistory} (hr : r.Inv) {role : WinRole} {x y w h : Int}
    {color : UInt32} {title : List UInt8}
    (hcount : (r.next (.create role x y w h color title)).returned.length < 4294967295) :
    (r.next (.create role x y w h color title)).Inv := by
  rcases windowCreate_cases r.stack role x y w h color title with ⟨heq, -⟩ | ⟨hroom, heq⟩
  · simp only [next, heq, if_true]
    exact hr
  · have hpos : r.stack.nextId ≠ 0 := Nat.pos_iff_ne_zero.mp hr.stack.nextPos
    simp only [next, heq, hpos, if_false, List.length_append, List.length_singleton] at hcount ⊢
    have hwrap : r.stack.nextId + 1 < 4294967296 := by
      rw [hr.counted]
      omega
    have hnext : uint32 ((r.stack.nextId : Int) + 1) = r.stack.nextId + 1 := by
      simpa using uint32_of_lt hwrap
    exact {
      stack := hr.stack.append hroom hwrap rfl
      counted := by
        simp only [hnext]
        simp only [hr.counted, List.length_append, List.length_singleton]
      issued := fun id hid => by
        simp only [hnext]
        rcases List.mem_append.mp hid with h | h
        · exact Nat.lt_succ_of_lt (hr.issued id h)
        · rw [List.mem_singleton.mp h]
          exact Nat.lt_succ_self _
      gone := fun id hid => by
        simp only [hnext]
        exact Nat.lt_succ_of_lt (hr.gone id hid)
      live := fun id => by
        have hfresh : r.stack.nextId ∉ r.destroyed := fun h =>
          Nat.lt_irrefl _ (hr.gone _ h)
        have hlive := hr.live id
        simp only [WindowStack.ids] at hlive
        simp only [WindowStack.ids, List.map_append, List.map_cons, List.map_nil,
          List.mem_append, List.mem_singleton, newWindow, hlive]
        constructor
        · rintro (⟨h, h'⟩ | rfl)
          · exact ⟨.inl h, h'⟩
          · exact ⟨.inr rfl, hfresh⟩
        · rintro ⟨h | rfl, h'⟩
          · exact .inl ⟨h, h'⟩
          · exact .inr rfl }

theorem Inv.destroy {r : StackHistory} (hr : r.Inv) (id : Nat) :
    (r.next (.destroy id)).Inv where
  stack := hr.stack.destroy id
  counted := (windowDestroy_nextId _ _).trans hr.counted
  issued id' h := by
    simp only [next, windowDestroy_nextId]
    exact hr.issued id' h
  gone id' h := by
    simp only [next, windowDestroy_nextId] at h ⊢
    split at h
    · rename_i hmem
      rcases List.mem_append.mp h with h | h
      · exact hr.gone id' h
      · rw [List.mem_singleton.mp h]
        exact hr.stack.below id hmem
    · exact hr.gone id' h
  live id' := by
    simp only [next, mem_windowDestroy_ids hr.stack.nodup, hr.live]
    by_cases hmem : id ∈ r.returned ∧ id ∉ r.destroyed
    · simp only [hmem, not_false_eq_true, and_self, if_true, List.mem_append,
        List.mem_singleton]
      tauto
    · simp only [hmem, if_false]
      constructor
      · exact fun h => h.2
      · rintro h
        exact ⟨fun e => hmem (e ▸ h), h⟩

/-- Each operation keeps the invariant while fewer than `2^32 - 1` windows are created. -/
theorem Inv.step {r : StackHistory} (hr : r.Inv) (op : StackOp)
    (hcount : (r.next op).returned.length < 4294967295) : (r.next op).Inv := by
  have hnodup := hr.stack.nodup
  cases op with
  | create => exact hr.create hcount
  | destroy id => exact hr.destroy id
  | raise id => exact hr.rearrange (windowRaise_rearranges hnodup id)
  | lower id => exact hr.rearrange (windowLower_rearranges hnodup id)
  | move id x y => exact hr.rearrange (windowMove_rearranges _ id x y)
  | setGeometry id x y w h => exact hr.rearrange (windowSetGeometry_rearranges _ id x y w h)
  | focus id => exact hr.rearrange (windowFocus_rearranges hnodup id)
  | focusCycle dir => exact hr.rearrange (windowFocusCycle_rearranges hnodup dir)

theorem start_inv : start.Inv where
  stack := windowStackInit_wellFormed
  counted := rfl
  issued := by simp [start]
  gone := by simp [start]
  live := by simp [start, windowStackInit, WindowStack.ids]

theorem returned_length_mono (r : StackHistory) (op : StackOp) :
    r.returned.length ≤ (r.next op).returned.length := by
  cases op with
  | create role x y w h color title =>
      simp only [next]
      split
      · exact Nat.le_refl _
      · simp
  | _ => exact Nat.le_refl _

theorem inv_of_run (ops : List StackOp)
    (hcount : (system.exec start ops).returned.length < 4294967295) :
    (system.exec start ops).Inv :=
  System.invariant_below (B := fun r => r.returned.length < 4294967295)
    (fun r op _ h => Nat.lt_of_le_of_lt (returned_length_mono r op) h)
    (fun _ op hr _ h => hr.step op h)
    (System.legal_of_enabled (fun _ _ => trivial) start ops) start_inv hcount

end StackHistory

/--
The window stack after any run from `window_stack_init` of the eight
operations, with any arguments, in which fewer than `2^32 - 1` creations succeed.
-/
theorem window_stack_invariant (ops : List StackOp)
    (hcount : (StackHistory.system.exec .start ops).returned.length < 2 ^ 32 - 1) :
    let r := StackHistory.system.exec .start ops
    r.stack.count ≤ winMax ∧
      (∀ id ∈ r.stack.ids, id ≠ 0 ∧ id < r.stack.nextId) ∧
      r.stack.ids.Nodup ∧
      (r.stack.focusId = 0 ∨ r.stack.focusId ∈ r.stack.ids) ∧
      (r.stack.count = 0 → r.stack.focusId = 0) ∧
      ∀ id, id ∈ r.stack.ids ↔ id ∈ r.returned ∧ id ∉ r.destroyed := by
  intro r
  have hr : r.Inv := StackHistory.inv_of_run ops hcount
  refine ⟨hr.stack.bound, fun id h => ⟨hr.stack.nonzero id h, hr.stack.below id h⟩,
    hr.stack.nodup, hr.stack.focus, ?_, hr.live⟩
  intro hempty
  have hids : r.stack.ids = [] := by
    simpa [WindowStack.ids, WindowStack.count] using hempty
  simpa [hids] using hr.stack.focus

/-- Three windows, an unknown id, and the destruction of the focused top window. -/
theorem window_stack_invariant_three_windows :
    let ops : List StackOp :=
      [.create .desktop 0 0 1920 1080 0 [], .create .normal 5 5 100 100 0 [],
        .create .normal 9 9 100 100 0 [], .focus 2, .lower 7, .focusCycle 1, .destroy 3]
    let r := StackHistory.system.exec .start ops
    r.stack.count ≤ winMax ∧
      (∀ id ∈ r.stack.ids, id ≠ 0 ∧ id < r.stack.nextId) ∧
      r.stack.ids.Nodup ∧
      (r.stack.focusId = 0 ∨ r.stack.focusId ∈ r.stack.ids) ∧
      (r.stack.count = 0 → r.stack.focusId = 0) ∧
      ∀ id, id ∈ r.stack.ids ↔ id ∈ r.returned ∧ id ∉ r.destroyed :=
  window_stack_invariant _ (by decide)

end CrystallineLattice.Stack
