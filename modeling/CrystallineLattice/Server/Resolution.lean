import CrystallineLattice.Server.Modeset

/-!
# Changes of the resolution

`apply_mode_cb` switches the mode, makes two framebuffers of its size, and then
tells the window manager, the wallpaper and the native clients.  It works in
place: each step replaces what was there before the next one is tried.
-/

namespace CrystallineLattice.Server

open CrystallineLattice.Foundation
open CrystallineLattice.Stack
open CrystallineLattice.Native
open CrystallineLattice.Wayland
open CrystallineLattice.Manager
open CrystallineLattice.Platform

theorem reallocFb_ok (X : ServerRun) (i : Fin 2) (a : FbAnswers) (nw nh : Int) :
    (reallocFb X i a nw nh).2 = true ↔ a.Succeeds :=
  dumbFbCreate_ok _ a nw nh

theorem reallocFb_eq (X : ServerRun) (i : Fin 2) (a : FbAnswers) (nw nh : Int) :
    ∃ drm fb, (reallocFb X i a nw nh).1 = { X with drm := drm, fb := Function.update X.fb i fb } ∧
      (a.Succeeds → fb.w = nw ∧ fb.h = nh) :=
  ⟨_, _, rfl, fun ha => dumbFbCreate_size ha _ nw nh⟩

/--
A change of the resolution: no mode is switched to; or one is, but a framebuffer
of its size cannot be made; or there are two and the new size is announced.
-/
theorem applyModeCb_cases (X : ServerRun) (a : ApplyAnswers) (w h refresh : Int) :
    ((requestedMode a.mode w h refresh = none ∨ a.mode.blob = none) ∧
        applyModeCb X a w h refresh = (X, false)) ∨
      ∃ newmode blob drm fb, requestedMode a.mode w h refresh = some newmode ∧
        a.mode.blob = some blob ∧
        let Y := { X with
          drm := drm, kms := { X.kms with mode := newmode, modeBlob := blob }, fb := fb }
        ((∃ i, ¬ (a.fb i).Succeeds) ∧ applyModeCb X a w h refresh = (Y, false)) ∨
          ((∀ i, (a.fb i).Succeeds) ∧ (∀ i, (fb i).w = w ∧ (fb i).h = h) ∧
            applyModeCb X a w h refresh = (announceMode Y w h, true)) := by
  rcases kmsSetModeWh_cases X.drm X.kms a.mode w h refresh with
    ⟨newmode, blob, hmode, hblob, hok, hk⟩ | ⟨hnone, heq⟩
  · obtain ⟨hw, hh⟩ := requestedMode_size hmode
    refine .inr ⟨newmode, blob, ?_⟩
    unfold applyModeCb
    dsimp only
    simp only [hk, hok, hw, hh, if_true]
    generalize (kmsSetModeWh X.drm X.kms a.mode w h refresh).dev = dev
    generalize hX : ({ X with
      drm := dev, kms := { X.kms with mode := newmode, modeBlob := blob } } : ServerRun) = X₁
    obtain ⟨drm₀, fb₀, heq₀, hsize₀⟩ := reallocFb_eq X₁ firstFb (a.fb firstFb) w h
    obtain ⟨drm₁, fb₁, heq₁, hsize₁⟩ := reallocFb_eq (reallocFb X₁ firstFb (a.fb firstFb) w h).1
      secondFb (a.fb secondFb) w h
    by_cases hfirst : (a.fb firstFb).Succeeds
    · by_cases hsecond : (a.fb secondFb).Succeeds
      · refine ⟨drm₁, Function.update (Function.update X.fb firstFb fb₀) secondFb fb₁, hmode, hblob,
          .inr ⟨Fin.forall_fin_two.mpr ⟨hfirst, hsecond⟩,
            Fin.forall_fin_two.mpr ⟨hsize₀ hfirst, hsize₁ hsecond⟩, ?_⟩⟩
        rw [if_pos ((reallocFb_ok ..).mpr hfirst), if_pos ((reallocFb_ok ..).mpr hsecond), heq₁,
            heq₀, ← hX]
      · refine ⟨drm₁, Function.update (Function.update X.fb firstFb fb₀) secondFb fb₁, hmode, hblob,
          .inl ⟨⟨secondFb, hsecond⟩, ?_⟩⟩
        rw [if_pos ((reallocFb_ok ..).mpr hfirst), if_neg fun h => hsecond ((reallocFb_ok ..).mp h),
          heq₁, heq₀, ← hX]
    · refine ⟨drm₀, Function.update X.fb firstFb fb₀, hmode, hblob, .inl ⟨⟨firstFb, hfirst⟩, ?_⟩⟩
      rw [if_neg fun h => hfirst ((reallocFb_ok ..).mp h), heq₀, ← hX]
  · refine .inl ⟨hnone, ?_⟩
    unfold applyModeCb
    simp only [heq]
    rfl

/-! ## A change that fails -/

structure DisplayUnchanged (X Y : ServerRun) : Prop where
  mode : Y.kms.mode = X.kms.mode
  modeBlob : Y.kms.modeBlob = X.kms.modeBlob
  fb : Y.fb = X.fb
  screen : Y.wm.screenW = X.wm.screenW ∧ Y.wm.screenH = X.wm.screenH
  cursor : Y.wm.cursorX = X.wm.cursorX ∧ Y.wm.cursorY = X.wm.cursorY
  windows : Y.stack.windows = X.stack.windows
  advertised : Y.world.t.sw = X.world.t.sw ∧ Y.world.t.sh = X.world.t.sh
  needModeset : Y.needModeset = X.needModeset

/-- A mode is found and its blob made, and then a framebuffer cannot be made. -/
def StrandsMode (a : ApplyAnswers) (w h refresh : Int) : Prop :=
  (requestedMode a.mode w h refresh).isSome ∧ a.mode.blob.isSome ∧ ∃ i, ¬ (a.fb i).Succeeds

instance (a : ApplyAnswers) (w h refresh : Int) : Decidable (StrandsMode a w h refresh) := by
  unfold StrandsMode
  infer_instance

/--
A failed change of the resolution changes nothing, if and only if it did not fail
at a framebuffer.  The kernel makes a new mode blob under an id of its own.
-/
theorem unchanged_iff_not_stranded (X : ServerRun) (a : ApplyAnswers) (w h refresh : Int)
    (hblob : a.mode.blob ≠ some X.kms.modeBlob) :
    ((applyModeCb X a w h refresh).2 = false →
        DisplayUnchanged X (applyModeCb X a w h refresh).1) ↔ ¬ StrandsMode a w h refresh := by
  rcases applyModeCb_cases X a w h refresh with
    ⟨hnone, heq⟩ | ⟨newmode, blob, drm, fb, hmode, hmade, ⟨hfail, heq⟩ | ⟨hsucceed, -, heq⟩⟩
  · refine iff_of_true (fun _ => ?_) fun hstrands => ?_
    · rw [heq]
      exact ⟨rfl, rfl, rfl, ⟨rfl, rfl⟩, ⟨rfl, rfl⟩, rfl, ⟨rfl, rfl⟩, rfl⟩
    · rcases hnone with hnone | hnone
      · simpa [hnone] using hstrands.1
      · simpa [hnone] using hstrands.2.1
  · refine iff_of_false (fun hunchanged => ?_) (not_not.mpr ⟨?_, ?_, hfail⟩)
    · rw [heq] at hunchanged
      exact hblob (hmade.trans (congrArg some (hunchanged rfl).modeBlob))
    · rw [hmode, Option.isSome_some]
    · rw [hmade, Option.isSome_some]
  · refine iff_of_true (fun hfailed => ?_) fun ⟨_, _, i, hfail⟩ => hfail (hsucceed i)
    rw [heq] at hfailed
    cases hfailed

def hd : ModeInfo := ⟨74250, 1280, 1650, 720, 750, 60, 0, 0⟩

def monitor : Connector := ⟨.hdmiA, 1, [fullHd, hd]⟩

def noBuffer : FbAnswers := ⟨none, none, false, none⟩

def newBuffer (i : Fin 2) : FbAnswers :=
  ⟨some ⟨i.val.toUInt32 + 3, 5120, 3686400⟩, some (i.val.toUInt32 + 3), true,
    some (16384 * (i.val + 1))⟩

theorem unchanged_iff_not_stranded_unknownMode :
    ((applyModeCb plainSetup.start ⟨⟨some monitor, some 8⟩, newBuffer⟩ 800 600 0).2 = false →
        DisplayUnchanged plainSetup.start
          (applyModeCb plainSetup.start ⟨⟨some monitor, some 8⟩, newBuffer⟩ 800 600 0).1) ↔
      ¬ StrandsMode ⟨⟨some monitor, some 8⟩, newBuffer⟩ 800 600 0 :=
  unchanged_iff_not_stranded _ _ _ _ _ (by decide)

/-- With no memory for the first framebuffer the new mode stays. -/
theorem failed_change_keeps_mode :
    ¬ ((applyModeCb plainSetup.start ⟨⟨some monitor, some 8⟩, fun _ => noBuffer⟩ 1280 720 0).2 =
          false →
        DisplayUnchanged plainSetup.start
          (applyModeCb plainSetup.start
            ⟨⟨some monitor, some 8⟩, fun _ => noBuffer⟩ 1280 720 0).1) := by
  intro h
  have hblob := (h (by decide)).modeBlob
  revert hblob
  decide

end CrystallineLattice.Server
