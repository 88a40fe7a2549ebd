import CrystallineLattice.Foundation.CInt
import CrystallineLattice.Foundation.KeyedList

/-!
# The server-owned window stack

This file models `window.c`.  The array `windows[0..count-1]` is a list, bottom
window first, so the shifting loops become deletion and insertion in a list; the
entries past `count` carry no meaning and are not kept.  A C pointer into the
array is either the record it points to, when it is only read, or an edit of the
first record with that id, when it is written through.
-/

namespace CrystallineLattice.Stack

open CrystallineLattice.Foundation

/-- What a buffer pointer can hold: nothing, a client mapping, or a block of our own heap. -/
inductive Ptr where
  | null
  | mapping (base : Nat)
  | block (address : Nat)
  deriving DecidableEq, Repr

inductive WinRole where
  | normal
  | desktop
  | taskbar
  | tray
  | menu
  | tooltip
  deriving DecidableEq, Repr

structure Window where
  id : Nat
  role : WinRole
  x : Int
  y : Int
  w : Int
  h : Int
  mapped : Bool
  color : UInt32
  title : List UInt8
  buf : Ptr
  bufW : Int
  bufH : Int
  bufStride : Int
  snapped : Bool
  savedX : Int
  savedY : Int
  savedW : Int
  savedH : Int
  appDecorated : Bool
  deriving DecidableEq, Repr

/-- Does glacier draw a server-side title bar for this window? -/
def windowHasSsd (w : Window) : Bool := w.role == .normal && !w.appDecorated

def winMax : Nat := 64

def decorTitlebarH : Int := 28

structure WindowStack where
  windows : List Window
  focusId : Nat
  nextId : Nat
  deriving DecidableEq, Repr

namespace WindowStack

def count (s : WindowStack) : Nat := s.windows.length

def ids (s : WindowStack) : List Nat := s.windows.map Window.id

/-- Assignments through the pointer that `window_by_id` returns. -/
def writeById (s : WindowStack) (id : Nat) (f : Window → Window) : WindowStack :=
  { s with windows := KeyedList.update Window.id id f s.windows }

end WindowStack

def cString (text : String) : List UInt8 := text.toUTF8.data.toList

/-- `snprintf(dst, 64, "%s", src)`: at most 63 bytes are kept. -/
def titleBytes (source : List UInt8) : List UInt8 := source.take 63

def windowStackInit : WindowStack := ⟨[], 0, 1⟩

/-- The record `window_create` writes: zeroed, then the requested fields. -/
def newWindow (id : Nat) (role : WinRole) (x y w h : Int) (color : UInt32)
    (title : List UInt8) : Window where
  id := id
  role := role
  x := x
  y := y
  w := w
  h := h
  mapped := true
  color := color
  title := titleBytes title
  buf := .null
  bufW := 0
  bufH := 0
  bufStride := 0
  snapped := false
  savedX := 0
  savedY := 0
  savedW := 0
  savedH := 0
  appDecorated := false

/-- Create a mapped window on top.  The second component is its id, or 0 if the stack is full. -/
def windowCreate (s : WindowStack) (role : WinRole) (x y w h : Int) (color : UInt32)
    (title : List UInt8) : WindowStack × Nat :=
  if winMax ≤ s.count then (s, 0)
  else
    ({ s with
        windows := s.windows ++ [newWindow s.nextId role x y w h color title]
        nextId := uint32 (s.nextId + 1) },
      s.nextId)

def windowIndex (s : WindowStack) (id : Nat) : Int :=
  match s.windows.findIdx? (fun w => w.id = id) with
  | some i => i
  | none => -1

def windowById (s : WindowStack) (id : Nat) : Option Window :=
  let i := windowIndex s id
  if i < 0 then none else s.windows[i.toNat]?

def topId (windows : List Window) : Nat :=
  match windows.getLast? with
  | some w => w.id
  | none => 0

def windowDestroy (s : WindowStack) (id : Nat) : WindowStack :=
  let idx := windowIndex s id
  if idx < 0 then s
  else
    let windows := s.windows.eraseIdx idx.toNat
    { s with
      windows := windows
      focusId := if s.focusId = id then topId windows else s.focusId }

/-- The rectangle test of `window_at`; the sums are C `int` sums. -/
def Window.contains (w : Window) (gx gy : Int) : Bool :=
  w.x ≤ gx && gx < int32 (w.x + w.w) && w.y ≤ gy && gy < int32 (w.y + w.h)

def windowAt (s : WindowStack) (gx gy : Int) : Option Window :=
  s.windows.reverse.find? fun w => w.mapped && w.contains gx gy

def moveToTop (s : WindowStack) (idx : Int) : WindowStack :=
  if idx < 0 ∨ (s.count : Int) - 1 ≤ idx then s
  else
    { s with
      windows := s.windows.eraseIdx idx.toNat ++ s.windows[idx.toNat]?.toList }

def moveToBottom (s : WindowStack) (idx : Int) : WindowStack :=
  if idx ≤ 0 ∨ (s.count : Int) ≤ idx then s
  else
    { s with
      windows := s.windows[idx.toNat]?.toList ++ s.windows.eraseIdx idx.toNat }

def windowRaise (s : WindowStack) (id : Nat) : WindowStack :=
  moveToTop s (windowIndex s id)

def windowLower (s : WindowStack) (id : Nat) : WindowStack :=
  moveToBottom s (windowIndex s id)

def windowMove (s : WindowStack) (id : Nat) (x y : Int) : WindowStack :=
  s.writeById id fun w => { w with x := x, y := y }

def windowSetGeometry (s : WindowStack) (id : Nat) (x y w h : Int) : WindowStack :=
  s.writeById id fun win =>
    { win with
      x := x
      y := y
      w := if 0 < w then w else win.w
      h := if 0 < h then h else win.h }

def windowFocus (s : WindowStack) (id : Nat) : WindowStack :=
  match windowById s id with
  | none => s
  | some w =>
      let s := { s with focusId := id }
      -- the desktop stays at the bottom
      if w.role = .desktop then s else windowRaise s id

/-- The window the `n`-th iteration of the focus-cycle loop looks at. -/
def cycleCandidate (s : WindowStack) (step : Int) (n : Nat) : Option Window :=
  let start := windowIndex s s.focusId
  let i := ((start + step * n).tmod s.count + s.count).tmod s.count
  s.windows[i.toNat]?.filter fun w => w.role == .normal && w.mapped

def windowFocusCycle (s : WindowStack) (dir : Int) : WindowStack :=
  if s.count = 0 then s
  else
    let step : Int := if 0 ≤ dir then 1 else -1
    match (List.range s.count).findSome? fun n => cycleCandidate s step (n + 1) with
    | some w => windowFocus s w.id
    | none => s

/-! ## The operations as edits of a keyed list -/

open KeyedList (lookup remove toEnd toFront)

private theorem findIdx?_split (s : WindowStack) (id : Nat) :
    (s.windows.findIdx? (fun w => w.id = id) = none ∧
        lookup Window.id id s.windows = none) ∨
      ∃ i w, s.windows.findIdx? (fun w => w.id = id) = some i ∧
        s.windows[i]? = some w ∧ lookup Window.id id s.windows = some w ∧
        s.windows.eraseIdx i = remove Window.id id s.windows := by
  cases h : s.windows.findIdx? (fun w => w.id = id) with
  | none =>
      refine .inl ⟨rfl, ?_⟩
      simpa [lookup] using h
  | some i =>
      obtain ⟨hi, -, -⟩ := List.findIdx?_eq_some_iff_getElem.mp h
      refine .inr ⟨i, s.windows[i], rfl, List.getElem?_eq_getElem hi, ?_, ?_⟩
      · unfold lookup
        rw [List.find?_eq_some_iff_getElem]
        obtain ⟨_, hid, hbefore⟩ := List.findIdx?_eq_some_iff_getElem.mp h
        exact ⟨hid, i, hi, rfl, fun j hj => by simpa using hbefore j hj⟩
      · unfold remove
        rw [List.eraseP_eq_eraseIdx, h]

theorem windowById_eq_lookup (s : WindowStack) (id : Nat) :
    windowById s id = lookup Window.id id s.windows := by
  unfold windowById windowIndex
  rcases findIdx?_split s id with ⟨hidx, hlook⟩ | ⟨i, w, hidx, hget, hlook, -⟩
  · simp [hidx, hlook]
  · simp [hidx, hlook, hget]

theorem windowDestroy_windows (s : WindowStack) (id : Nat) :
    (windowDestroy s id).windows = remove Window.id id s.windows := by
  unfold windowDestroy windowIndex
  rcases findIdx?_split s id with ⟨hidx, hlook⟩ | ⟨i, w, hidx, -, -, herase⟩
  · have hnone : ∀ w ∈ s.windows, ¬ decide (w.id = id) = true := by
      simpa [lookup] using hlook
    simp [hidx, remove, List.eraseP_of_forall_not hnone]
  · have hnonneg : ¬ (i : Int) < 0 := by omega
    simp [hidx, hnonneg, herase]

theorem windowDestroy_focusId (s : WindowStack) (id : Nat) :
    (windowDestroy s id).focusId =
      if s.focusId = id ∧ id ∈ s.ids then topId (remove Window.id id s.windows)
      else s.focusId := by
  unfold windowDestroy windowIndex
  rcases findIdx?_split s id with ⟨hidx, hlook⟩ | ⟨i, w, hidx, -, hlook, herase⟩
  · have hmem : id ∉ s.ids := KeyedList.lookup_eq_none_iff.mp hlook
    simp [hidx, hmem]
  · have hmem : id ∈ s.ids := KeyedList.exists_lookup_iff.mp ⟨w, hlook⟩
    have hnonneg : ¬ (i : Int) < 0 := by omega
    simp [hidx, hnonneg, herase, hmem]

@[simp] theorem windowDestroy_nextId (s : WindowStack) (id : Nat) :
    (windowDestroy s id).nextId = s.nextId := by
  by_cases h : windowIndex s id < 0 <;> simp [windowDestroy, h]

theorem windowRaise_eq (s : WindowStack) (id : Nat) :
    windowRaise s id = { s with windows := toEnd Window.id id s.windows } := by
  unfold windowRaise windowIndex moveToTop toEnd
  rcases findIdx?_split s id with ⟨hidx, hlook⟩ | ⟨i, w, hidx, hget, hlook, herase⟩
  · simp [hidx, hlook]
  · simp only [hidx, hlook, Int.toNat_natCast, hget, herase, Option.toList_some]
    split
    · -- already on top: the last entry is moved past nothing
      rename_i htop
      obtain ⟨hi, hw⟩ := List.getElem?_eq_some_iff.mp hget
      have hlast : i = s.windows.length - 1 := by
        unfold WindowStack.count at htop
        omega
      have hne : s.windows ≠ [] := by
        intro hnil
        simp [hnil] at hi
      have hgetLast : s.windows.getLast hne = w := by
        rw [List.getLast_eq_getElem, ← hw]
        simp only [hlast]
      rw [← herase, hlast, List.eraseIdx_length_sub_one, ← hgetLast,
        List.dropLast_append_getLast]
    · rfl

theorem windowLower_eq (s : WindowStack) (id : Nat) :
    windowLower s id = { s with windows := toFront Window.id id s.windows } := by
  unfold windowLower windowIndex moveToBottom toFront
  rcases findIdx?_split s id with ⟨hidx, hlook⟩ | ⟨i, w, hidx, hget, hlook, herase⟩
  · simp [hidx, hlook]
  · simp only [hidx, hlook, Int.toNat_natCast, hget, herase, Option.toList_some]
    split
    · -- already at the bottom
      rename_i hbottom
      obtain ⟨hi, hw⟩ := List.getElem?_eq_some_iff.mp hget
      have hzero : i = 0 := by
        unfold WindowStack.count at hbottom
        omega
      subst hzero
      have hlist : w :: remove Window.id id s.windows = s.windows := by
        rw [← herase, ← hw, List.eraseIdx_zero, List.getElem_zero, List.cons_head_tail]
      rw [hlist]
    · rfl

end CrystallineLattice.Stack
