import CrystallineLattice.Manager.Steps
import CrystallineLattice.Stack.HitTest
import Mathlib.Data.Multiset.MapFold

/-!
# Snapping and the floating size

A snapped window remembers the rectangle that it had before.  The first part shows
that no input makes it forget the size; the second part shows when a press and a
release at one point, which is no drag, leave a window as it was.
-/

namespace CrystallineLattice.Manager

open CrystallineLattice.Foundation
open CrystallineLattice.Stack

/-! ## What an event does to the windows -/

inductive Rewrites (w : Window) : Window → Prop
  | dragged (x y : Int) : Rewrites w { w with x := x, y := y }
  | snapped (n : Area) : Rewrites w (snapTo n w)
  | held (wm : Wm) : Rewrites w (heldWindow wm w)

/-- The windows are reordered, and one of them at most is rewritten. -/
inductive Edited (ws ws' : List Window) : Prop
  | reordered (h : ws'.Perm ws)
  | rewritten (w w' : Window) (rest : List Window) (hold : ws.Perm (w :: rest))
      (hnew : ws'.Perm (w' :: rest)) (h : Rewrites w w')

variable {wm : Wm} {s : WindowStack} {w w' : Window} {id : Nat}

theorem replace_perm (hw : windowById s id = some w) (w' : Window) :
    (s.writeById id fun _ => w').windows.Perm
      (w' :: KeyedList.remove Window.id id s.windows) := by
  rw [windowById_eq_lookup] at hw
  exact KeyedList.update_perm hw _

theorem windows_perm (hw : windowById s id = some w) :
    s.windows.Perm (w :: KeyedList.remove Window.id id s.windows) := by
  rw [windowById_eq_lookup] at hw
  exact (KeyedList.perm_remove_cons hw).symm

theorem Edited.replace {ws : List Window} (hs : s.windows.Perm ws)
    (hw : windowById s id = some w) (h : Rewrites w w') :
    Edited ws (s.writeById id fun _ => w').windows :=
  .rewritten w w' _ (hs.symm.trans (windows_perm hw)) (replace_perm hw w') h

theorem dragGrabbed_edited (wm : Wm) (x y : Int) :
    Edited wm.stack.windows
      (dragGrabbed { wm with cursorX := x, cursorY := y }).stack.windows := by
  unfold dragGrabbed
  split
  · cases hw : windowById wm.stack wm.moveId with
    | none =>
        have hnone : KeyedList.lookup Window.id wm.moveId wm.stack.windows = none :=
          (windowById_eq_lookup _ _).symm.trans hw
        refine .reordered (List.Perm.of_eq ?_)
        refine (KeyedList.update_congr (g := fun v => v) fun a ha => ?_).trans
          (KeyedList.update_self _ _)
        rw [hnone] at ha
        cases ha
    | some w =>
        have hmoved : windowMove wm.stack wm.moveId (x - wm.grabDx) (y - wm.grabDy) =
            wm.stack.writeById wm.moveId fun _ =>
              { w with x := x - wm.grabDx, y := y - wm.grabDy } :=
          writeById_congr hw rfl
        dsimp only
        rw [hmoved]
        exact .replace (List.Perm.refl _) hw (.dragged _ _)
  · exact .reordered (List.Perm.refl _)

theorem wmRelease_edited (wm : Wm) : Edited wm.stack.windows (wmRelease wm).stack.windows := by
  unfold wmRelease
  split
  · cases hw : windowById wm.stack wm.moveId with
    | none =>
        unfold wmSnapOnRelease
        dsimp only
        rw [hw]
        exact .reordered (List.Perm.refl _)
    | some w =>
        rw [wmSnapOnRelease_eq { wm with moving := false, moveId := 0 } hw]
        split
        · exact .reordered (List.Perm.refl _)
        · exact .replace (List.Perm.refl _) hw (.snapped _)
  · exact .reordered (List.Perm.refl _)

theorem wmPress_edited (wm : Wm) : Edited wm.stack.windows (wmPress wm).stack.windows := by
  obtain ⟨-, s, heq, rfl | ⟨id, rfl⟩⟩ | ⟨w, -, -, -, -, hw, heq⟩ := wmPress_cases wm
  · rw [heq]
    exact .reordered (List.Perm.refl _)
  · rw [heq]
    exact .reordered (windowFocus_reorders wm.stack id).windows
  · rw [heq, grab_eq { wm with stack := windowFocus wm.stack w.id } hw]
    exact .replace (windowFocus_reorders wm.stack w.id).windows hw (.held _)

theorem next_edited (wm : Wm) (e : WmEvent) :
    Edited wm.stack.windows (wm.next e).stack.windows := by
  cases e with
  | motion dx dy => exact dragGrabbed_edited wm _ _
  | motionAbs ax ay => exact dragGrabbed_edited wm _ _
  | button button pressed =>
      change Edited _ (wmPointerButton wm button pressed).stack.windows
      unfold wmPointerButton
      split
      · exact .reordered (List.Perm.refl _)
      · split
        · exact wmPress_edited wm
        · exact wmRelease_edited wm
  | key keysym pressed altDown =>
      change Edited _ (wmKey wm keysym pressed altDown).1.stack.windows
      unfold wmKey windowFocusCycle
      dsimp only
      split
      · dsimp only
        split
        · exact .reordered (List.Perm.refl _)
        · split
          · exact .reordered (windowFocus_reorders wm.stack _).windows
          · exact .reordered (List.Perm.refl _)
      · exact .reordered (List.Perm.refl _)

/-! ## The floating size -/

/--
The window `w` is what became of `w₀`: one with a title bar and a size floats in that
size, or is snapped and remembers it.
-/
structure KeepsFloating (w₀ w : Window) : Prop where
  id : w.id = w₀.id
  ssd : windowHasSsd w = windowHasSsd w₀
  size : windowHasSsd w₀ = true → 0 < w₀.w → 0 < w₀.h →
    w.snapped = false ∧ w.w = w₀.w ∧ w.h = w₀.h ∨
      w.snapped = true ∧ w.savedW = w₀.w ∧ w.savedH = w₀.h

theorem KeepsFloating.rewrites {w₀ : Window} (h : KeepsFloating w₀ w) (hw : Rewrites w w') :
    KeepsFloating w₀ w' := by
  obtain ⟨hid, hssd, hsize⟩ := h
  cases hw with
  | dragged x y => exact ⟨hid, hssd, hsize⟩
  | snapped n =>
      have hsaved : (snapTo n w).id = w.id ∧ windowHasSsd (snapTo n w) = windowHasSsd w := by
        unfold snapTo saveRect windowHasSsd
        split <;> exact ⟨rfl, rfl⟩
      refine ⟨hsaved.1.trans hid, hsaved.2.trans hssd, fun h₀ hw₀ hh₀ => .inr ?_⟩
      unfold snapTo saveRect
      rcases hsize h₀ hw₀ hh₀ with ⟨hfloats, hwidth, hheight⟩ | ⟨hsnapped, hwidth, hheight⟩
      · simp [hfloats, hwidth, hheight]
      · simp [hsnapped, hwidth, hheight]
  | held wm =>
      have hheld : (heldWindow wm w).id = w.id ∧
          windowHasSsd (heldWindow wm w) = windowHasSsd w := by
        unfold heldWindow windowHasSsd
        split <;> exact ⟨rfl, rfl⟩
      refine ⟨hheld.1.trans hid, hheld.2.trans hssd, fun h₀ hw₀ hh₀ => .inl ?_⟩
      unfold heldWindow floatingSize sizeGiven
      rcases hsize h₀ hw₀ hh₀ with ⟨hfloats, hwidth, hheight⟩ | ⟨hsnapped, hwidth, hheight⟩
      · simp [hfloats, hwidth, hheight]
      · simp [hsnapped, hwidth, hheight, hw₀, hh₀]

/-- The windows of a state are those of the start, each with its floating size. -/
def KeepsFloatingSizes (ws₀ ws : List Window) : Prop :=
  Multiset.Rel KeepsFloating (ws₀ : Multiset Window) (ws : Multiset Window)

theorem KeepsFloatingSizes.edited {ws₀ ws ws' : List Window} (h : KeepsFloatingSizes ws₀ ws)
    (hedit : Edited ws ws') : KeepsFloatingSizes ws₀ ws' := by
  unfold KeepsFloatingSizes at *
  cases hedit with
  | reordered hperm => rwa [Multiset.coe_eq_coe.mpr hperm]
  | rewritten w w' rest hold hnew hrewrites =>
      rw [Multiset.coe_eq_coe.mpr hold, ← Multiset.cons_coe, Multiset.rel_cons_right] at h
      obtain ⟨w₀, rest₀, hw, hrest, heq⟩ := h
      rw [Multiset.coe_eq_coe.mpr hnew, ← Multiset.cons_coe, heq]
      exact .cons (hw.rewrites hrewrites) hrest

theorem KeepsFloatingSizes.start {ws : List Window} (h : ∀ w ∈ ws, w.snapped = false) :
    KeepsFloatingSizes ws ws :=
  Multiset.rel_refl_of_refl_on fun w hw =>
    ⟨rfl, rfl, fun _ _ _ => .inl ⟨h w (Multiset.mem_coe.mp hw), rfl, rfl⟩⟩

theorem pressGrabs_eq (hs : wm.stack.ids.Nodup) :
    pressGrabs wm = (windowAt wm.stack wm.cursorX wm.cursorY).filter fun w =>
      windowHasSsd w && decide (wm.cursorY - w.y < decorTitlebarH) := by
  unfold pressGrabs
  cases hhit : windowAt wm.stack wm.cursorX wm.cursorY with
  | none => rfl
  | some hit =>
      dsimp only
      rw [windowById_windowFocus hs, windowById_windowAt hs hhit]

theorem windowById_wmPress (hs : wm.stack.ids.Nodup)
    (hhit : windowAt wm.stack wm.cursorX wm.cursorY = some w) (hssd : windowHasSsd w = true)
    (hbar : wm.cursorY - w.y < decorTitlebarH) :
    windowById (wmPress wm).stack w.id = some (heldWindow wm w) := by
  have hgrabs : pressGrabs wm = some w := by
    rw [pressGrabs_eq hs, hhit]
    simp [Option.filter, hssd, hbar]
  obtain ⟨hnone, -⟩ | ⟨v, hv, -, -, -, hfocused, heq⟩ := wmPress_cases wm
  · rw [hgrabs] at hnone
    cases hnone
  · rw [hgrabs, Option.some.injEq] at hv
    subst hv
    have hid : (heldWindow { wm with stack := windowFocus wm.stack w.id } w).id = w.id := by
      unfold heldWindow
      split <;> rfl
    rw [heq, grab_eq { wm with stack := windowFocus wm.stack w.id } hfocused]
    dsimp only
    rw [windowById_replace _ hid, if_pos rfl, hfocused]
    rfl

/--
Over initially unsnapped windows no input loses a floating size: in every state
that it leads to, the windows are those of the start, and each one with a server
title bar and a size of its own has that size, or is snapped and remembers it.
With distinct ids, pressing the title bar of a snapped window brings the size back.
-/
theorem floating_size_kept (hfloating : ∀ w ∈ wm.stack.windows, w.snapped = false)
    (events : List WmEvent) :
    let wm' := wmSystem.exec wm events
    KeepsFloatingSizes wm.stack.windows wm'.stack.windows ∧
      (wm'.stack.ids.Nodup → ∀ w, windowAt wm'.stack wm'.cursorX wm'.cursorY = some w →
        windowHasSsd w = true → w.snapped = true → wm'.cursorY - w.y < decorTitlebarH →
        ∃ w₀ ∈ wm.stack.windows, w₀.id = w.id ∧ (0 < w₀.w → 0 < w₀.h →
          ∃ w₁, windowById (wmPress wm').stack w.id = some w₁ ∧ w₁.snapped = false ∧
            w₁.w = w₀.w ∧ w₁.h = w₀.h)) := by
  intro wm'
  have hsizes : KeepsFloatingSizes wm.stack.windows wm'.stack.windows :=
    System.invariant (I := fun t => KeepsFloatingSizes wm.stack.windows t.stack.windows)
      (fun t e h _ => h.edited (next_edited t e))
      (System.legal_of_enabled (fun _ _ => trivial) wm events) (.start hfloating)
  refine ⟨hsizes, fun hids w hhit hssd hsnapped hbar => ?_⟩
  have hmem : w ∈ wm'.stack.windows := List.mem_reverse.mp (List.mem_of_find?_eq_some hhit)
  obtain ⟨w₀, hw₀, hid, hssd₀, hsize⟩ :=
    Multiset.exists_mem_of_rel_of_mem (Multiset.rel_flip.mpr hsizes) hmem
  refine ⟨w₀, Multiset.mem_coe.mp hw₀, hid.symm, fun hwidth hheight => ?_⟩
  refine ⟨_, windowById_wmPress hids hhit hssd hbar, ?_⟩
  rcases hsize (hssd₀ ▸ hssd) hwidth hheight with ⟨hfloats, -⟩ | ⟨-, hsavedW, hsavedH⟩
  · rw [hsnapped] at hfloats
    cases hfloats
  · unfold heldWindow floatingSize sizeGiven
    simp [hsnapped, hsavedW, hsavedH, hwidth, hheight]

def floatingWm : Wm :=
  ⟨⟨[newWindow 1 .taskbar 0 1040 1920 40 0 [], newWindow 2 .normal 500 400 300 200 0 []], 2, 3⟩,
    1920, 1080, 550, 405, false, 0, 0, 0, 0⟩

/-- Drag to the left edge, off it and to the top edge. -/
def snapTwice : List WmEvent :=
  [.button wmBtnLeft true, .motionAbs 2 540, .button wmBtnLeft false, .motionAbs 400 5,
    .button wmBtnLeft true, .motionAbs 600 2, .button wmBtnLeft false]

theorem floating_size_kept_snapTwice :
    KeepsFloatingSizes floatingWm.stack.windows
        (wmSystem.exec floatingWm snapTwice).stack.windows ∧
      windowSize (wmSystem.exec floatingWm snapTwice).stack 2 = some (1920, 1040) := by
  have hfloating : ∀ w ∈ floatingWm.stack.windows, w.snapped = false := by decide
  have hresult := floating_size_kept hfloating snapTwice
  exact ⟨hresult.1, by decide +kernel⟩

/-! ## Clicks -/

def click (wm : Wm) : Wm :=
  wmPointerButton (wmPointerButton wm wmBtnLeft true) wmBtnLeft false

/--
The window has the rectangle that it would snap to, and its saved rectangle is the
one that it would be dragged off with.
-/
structure InPlace (wm : Wm) (n : Area) (w : Window) : Prop where
  x : w.x = n.x
  y : w.y = n.y
  size : (w.w, w.h) = sizeGiven (heldWindow wm w) n.w n.h
  savedX : w.savedX = max (wm.cursorX - (floatingSize w).1.tdiv 2) 0
  savedY : w.savedY = max (wm.cursorY - decorTitlebarH.tdiv 2) 0
  savedSize : (w.savedW, w.savedH) = floatingSize w

/--
A click leaves the window that the press takes hold of as it is: it floats and the
cursor is at no edge, or it is snapped and would snap into the same place.
-/
def Undisturbed (wm : Wm) (w : Window) : Prop :=
  match snapTarget { wm with stack := windowFocus wm.stack w.id } with
  | none => w.snapped = false
  | some n => w.snapped = true ∧ InPlace wm n w

theorem undisturbed_of_floating
    (h : snapTarget { wm with stack := windowFocus wm.stack w.id } = none)
    (hfloats : w.snapped = false) : Undisturbed wm w := by
  unfold Undisturbed
  rw [h]
  exact hfloats

theorem heldWindow_eq_iff : heldWindow wm w = w ↔ w.snapped = false := by
  unfold heldWindow
  by_cases hsnapped : w.snapped = true
  · rw [if_pos hsnapped]
    refine iff_of_false (fun h => ?_) (by simp [hsnapped])
    have hflag := congrArg Window.snapped h
    rw [hsnapped] at hflag
    cases hflag
  · rw [if_neg hsnapped]
    simpa using hsnapped

theorem snapTo_of_held {n : Area} (hsnapped : w.snapped = true) :
    snapTo n (heldWindow wm w) =
      { w with
        x := n.x
        y := n.y
        w := (sizeGiven (heldWindow wm w) n.w n.h).1
        h := (sizeGiven (heldWindow wm w) n.w n.h).2
        snapped := true
        savedX := max (wm.cursorX - (floatingSize w).1.tdiv 2) 0
        savedY := max (wm.cursorY - decorTitlebarH.tdiv 2) 0
        savedW := (floatingSize w).1
        savedH := (floatingSize w).2 } := by
  unfold heldWindow
  rw [if_pos hsnapped]
  rfl

theorem snapTo_heldWindow_eq_iff {n : Area} :
    snapTo n (heldWindow wm w) = w ↔ w.snapped = true ∧ InPlace wm n w := by
  have hflag : (snapTo n (heldWindow wm w)).snapped = true := by
    unfold snapTo saveRect
    split <;> rfl
  constructor
  · intro h
    have hsnapped : w.snapped = true := h ▸ hflag
    rw [snapTo_of_held hsnapped] at h
    refine ⟨hsnapped, ?_⟩
    exact {
      x := (congrArg Window.x h).symm
      y := (congrArg Window.y h).symm
      size := Prod.ext (congrArg Window.w h).symm (congrArg Window.h h).symm
      savedX := (congrArg Window.savedX h).symm
      savedY := (congrArg Window.savedY h).symm
      savedSize := Prod.ext (congrArg Window.savedW h).symm (congrArg Window.savedH h).symm }
  · rintro ⟨hsnapped, hx, hy, hsize, hsavedX, hsavedY, hsaved⟩
    rw [snapTo_of_held hsnapped, ← hx, ← hy, ← hsize, ← hsavedX, ← hsavedY, ← hsaved, ← hsnapped]

theorem replace_perm_iff (hw : windowById s id = some w) (w' : Window) :
    (s.writeById id fun _ => w').windows.Perm s.windows ↔ w' = w := by
  rw [(replace_perm hw w').congr_left, (windows_perm hw).congr_right, ← Multiset.coe_eq_coe,
    ← Multiset.cons_coe, ← Multiset.cons_coe, Multiset.cons_inj_left]

theorem snapTarget_replace (hw : windowById s id = some w) (hssd : windowHasSsd w = true)
    (hssd' : windowHasSsd w' = true) (wm : Wm) :
    snapTarget { wm with stack := s.writeById id fun _ => w' } =
      snapTarget { wm with stack := s } := by
  have hnot {v : Window} (hv : windowHasSsd v = true) :
      (v.role == .taskbar && v.mapped) = false := by
    have hnormal : v.role = .normal := by
      simp only [windowHasSsd, Bool.and_eq_true, beq_iff_eq] at hv
      exact hv.1
    rw [hnormal]
    rfl
  have hfind : (s.writeById id fun _ => w').windows.find?
        (fun t => t.role == .taskbar && t.mapped) =
      s.windows.find? fun t => t.role == .taskbar && t.mapped :=
    KeyedList.find?_update fun v hv => by
      rw [windowById_eq_lookup, hv, Option.some.injEq] at hw
      exact ⟨hnot (hw ▸ hssd), hnot hssd'⟩
  have harea : wmWorkArea { wm with stack := s.writeById id fun _ => w' } =
      wmWorkArea { wm with stack := s } := by
    unfold wmWorkArea
    dsimp only
    rw [hfind]
    rfl
  unfold snapTarget
  rw [harea]

theorem wmRelease_grab (hw : windowById s w.id = some w) (hssd : windowHasSsd w = true) :
    (wmRelease (grab { wm with stack := s } w)).stack =
      match snapTarget { wm with stack := s } with
      | none => s.writeById w.id fun _ => heldWindow wm w
      | some n => s.writeById w.id fun _ => snapTo n (heldWindow wm w) := by
  have hheld : (heldWindow wm w).id = w.id ∧ windowHasSsd (heldWindow wm w) = true := by
    unfold heldWindow windowHasSsd at *
    split <;> exact ⟨rfl, hssd⟩
  have hfound : windowById (s.writeById w.id fun _ => heldWindow wm w) w.id =
      some (heldWindow wm w) := by
    rw [windowById_replace s hheld.1, if_pos rfl, hw, Option.map_some]
  let released : Wm :=
    { wm with
      stack := s.writeById w.id fun _ => heldWindow wm w
      moving := false
      moveId := 0
      grabDx := wm.cursorX - (heldWindow wm w).x
      grabDy := wm.cursorY - (heldWindow wm w).y
      reconfiguredId := if w.snapped then w.id else wm.reconfiguredId }
  have hrelease : wmRelease (grab { wm with stack := s } w) = wmSnapOnRelease released w.id := by
    rw [grab_eq { wm with stack := s } hw]
    rfl
  have htarget : snapTarget released = snapTarget { wm with stack := s } :=
    snapTarget_replace hw hssd hheld.2 wm
  rw [hrelease, wmSnapOnRelease_eq released hfound, htarget]
  cases snapTarget { wm with stack := s } with
  | none => rfl
  | some n =>
      have hkept : (some n).filter (fun _ => windowHasSsd (heldWindow wm w)) = some n := by
        simp [Option.filter, hheld.2]
      rw [hkept]
      exact writeById_replace s hheld.1 _

/--
While no window is moved, a left click leaves every window as it was, if and only
if the press takes hold of no window or of one that the release puts back.
-/
theorem click_keeps_windows_iff (hidle : wm.moving = false) :
    (click wm).stack.windows.Perm wm.stack.windows ↔
      ∀ w, pressGrabs wm = some w → Undisturbed wm w := by
  have hclick : click wm = wmRelease (wmPress wm) := rfl
  rw [hclick]
  obtain ⟨hnone, s, heq, hs⟩ | ⟨w, hsome, hssd, -, -, hw, heq⟩ := wmPress_cases wm
  · have hstill : wmRelease (wmPress wm) = wmPress wm := by
      unfold wmRelease
      rw [heq]
      exact if_neg (by simp [hidle])
    rw [hstill, heq, hnone]
    refine iff_of_true ?_ fun w hw => by cases hw
    rcases hs with rfl | ⟨id, rfl⟩
    · exact List.Perm.refl _
    · exact (windowFocus_reorders wm.stack id).windows
  · have hfocused := (windowFocus_reorders wm.stack w.id).windows
    rw [heq, hsome, wmRelease_grab hw hssd]
    simp only [Option.some.injEq, forall_eq']
    unfold Undisturbed
    cases snapTarget { wm with stack := windowFocus wm.stack w.id } with
    | none =>
        dsimp only
        rw [← hfocused.congr_right, replace_perm_iff hw, heldWindow_eq_iff]
    | some n =>
        dsimp only
        rw [← hfocused.congr_right, replace_perm_iff hw, snapTo_heldWindow_eq_iff]

/-- A click on the title bar of a floating window in the middle of the screen. -/
theorem click_keeps_windows_iff_floating :
    let wm := { floatingWm with cursorX := 600, cursorY := 410 }
    (click wm).stack.windows.Perm wm.stack.windows ∧
      (click wm).stack.focusId = 2 := by
  intro wm
  refine ⟨(@click_keeps_windows_iff wm rfl).mpr fun w hw => ?_, by decide +kernel⟩
  have hgrabbed : pressGrabs wm = some (newWindow 2 .normal 500 400 300 200 0 []) := by
    decide +kernel
  rw [hgrabbed, Option.some.injEq] at hw
  subst hw
  have hinside : snapTarget { wm with stack := windowFocus wm.stack 2 } = none := by
    decide +kernel
  exact undisturbed_of_floating hinside rfl

/-- A window whose title bar is at the top of the screen. -/
def topWindow : Window := newWindow 2 .normal 700 0 300 200 0 []

def leftWindow : Window :=
  { newWindow 3 .normal 0 0 960 1080 0 [] with
    snapped := true
    savedX := 500
    savedY := 400
    savedW := 300
    savedH := 200 }

/--
A click on the title bar of a window at the top of the screen maximizes it; a click
on the title bar of a snapped window that is away from the edge restores it.
-/
theorem click_snaps_and_unsnaps :
    let top : Wm := ⟨⟨[topWindow], 2, 4⟩, 1920, 1080, 800, 10, false, 0, 0, 0, 0⟩
    let left : Wm := ⟨⟨[leftWindow], 3, 4⟩, 1920, 1080, 400, 20, false, 0, 0, 0, 0⟩
    (click top).stack.windows = [{ topWindow with
        x := 0, y := 0, w := 1920, h := 1080, snapped := true
        savedX := 700, savedY := 0, savedW := 300, savedH := 200 }] ∧
      ¬ (click top).stack.windows.Perm top.stack.windows ∧
      (click left).stack.windows = [{ leftWindow with
        x := 250, y := 6, w := 300, h := 200, snapped := false }] ∧
      ¬ (click left).stack.windows.Perm left.stack.windows := by
  decide +kernel

end CrystallineLattice.Manager
