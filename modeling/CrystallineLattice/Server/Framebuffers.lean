import CrystallineLattice.Compositor.Model
import CrystallineLattice.Server.Scanout
import CrystallineLattice.Server.Sizes

/-!
# The framebuffers of a run

The compositor draws into memory that `dumb_fb_create` has mapped.  As long as the
kernel's buffers hold the rows that were asked for, and no change of the resolution
fails, both of the server's framebuffers can be drawn on.
-/

namespace CrystallineLattice.Platform

open CrystallineLattice.Foundation

def FbMap.isMapping : FbMap → Bool
  | .mapping _ => true
  | _ => false

/-- The framebuffer is mapped, and the mapping holds its rows. -/
structure DumbFb.Mapped (fb : DumbFb) : Prop where
  mapping : fb.map.isMapping = true
  wInt : IsInt32 fb.w
  hInt : IsInt32 fb.h
  pitch : 4 * fb.w ≤ fb.stride.toNat
  room : fb.stride.toNat * fb.h ≤ fb.size.toNat

theorem DumbFb.mapped_iff {fb : DumbFb} : fb.Mapped ↔ fb.map.isMapping = true ∧ IsInt32 fb.w ∧
    IsInt32 fb.h ∧ 4 * fb.w ≤ fb.stride.toNat ∧ fb.stride.toNat * fb.h ≤ fb.size.toNat :=
  ⟨fun h => ⟨h.mapping, h.wInt, h.hInt, h.pitch, h.room⟩, fun ⟨h₁, h₂, h₃, h₄, h₅⟩ =>
    ⟨h₁, h₂, h₃, h₄, h₅⟩⟩

instance (fb : DumbFb) : Decidable fb.Mapped := decidable_of_iff _ DumbFb.mapped_iff.symm

/-- What the compositor draws on, if the framebuffer's memory has the given words. -/
def DumbFb.canvas (fb : DumbFb) (words : Int → UInt32) : Option Compositor.DumbFb :=
  if h : fb.Mapped then
    some ⟨fb.w, fb.h, fb.stride.toNat, fb.size.toNat, words, h.wInt, h.hInt, h.pitch, h.room⟩
  else none

/-- The kernel's buffer has rows of the width, and room for all of them. -/
def FbAnswers.Roomy (a : FbAnswers) (w h : Int) : Prop :=
  ∀ create ∈ a.createDumb, 4 * w ≤ create.pitch.toNat ∧ create.pitch.toNat * h ≤ create.size.toNat

theorem dumbFbCreate_mapped {a : FbAnswers} (ha : a.Succeeds) (dev : Drm) {w h : Int}
    (hw : IsInt32 w) (hh : IsInt32 h) (hroomy : a.Roomy w h) :
    (dumbFbCreate dev a w h).fb.Mapped := by
  obtain ⟨hcreate, hadd, hmap, hmmap⟩ := ha
  obtain ⟨create, hcreate⟩ := Option.isSome_iff_exists.mp hcreate
  obtain ⟨id, hadd⟩ := Option.isSome_iff_exists.mp hadd
  obtain ⟨base, hmmap⟩ := Option.isSome_iff_exists.mp hmmap
  obtain ⟨hpitch, hroom⟩ := hroomy create hcreate
  have hfb : (dumbFbCreate dev a w h).fb =
      ⟨id, create.handle, create.pitch, create.size, .mapping base, w, h⟩ := by
    simp [dumbFbCreate, hcreate, hadd, hmap, hmmap]
  rw [hfb]
  exact ⟨rfl, hw, hh, hpitch, hroom⟩

end CrystallineLattice.Platform

namespace CrystallineLattice.Server

open CrystallineLattice.Foundation
open CrystallineLattice.Platform

def ServerRun.FbsMapped (X : ServerRun) : Prop := ∀ i, (X.fb i).Mapped

/--
A change of the resolution that does not fail at a framebuffer, for which the kernel
makes buffers that hold the rows.
-/
def MakesRoom : ServerEvent → Prop
  | .control w h refresh a => ¬ StrandsMode a w h refresh ∧ ∀ i, (a.fb i).Roomy w h
  | _ => True

variable {X : ServerRun}

theorem reallocFb_fb (X : ServerRun) (i : Fin 2) (a : FbAnswers) (nw nh : Int) :
    (reallocFb X i a nw nh).1.fb = Function.update X.fb i
      (dumbFbCreate (dumbFbDestroy X.drm (X.fb i)).1 a nw nh).fb := rfl

theorem applyModeCb_fb_made {a : ApplyAnswers} {w h refresh : Int} {newmode : ModeInfo}
    (hmode : requestedMode a.mode w h refresh = some newmode) (hblob : a.mode.blob.isSome)
    (hall : ∀ i, (a.fb i).Succeeds) (i : Fin 2) :
    ∃ dev, (applyModeCb X a w h refresh).1.fb i = (dumbFbCreate dev (a.fb i) w h).fb := by
  rcases kmsSetModeWh_cases X.drm X.kms a.mode w h refresh with
    ⟨newmode', blob, hmode', -, hok, hk⟩ | ⟨hnone, -⟩
  · obtain ⟨hw, hh⟩ := requestedMode_size hmode'
    have hrealloc (Y : ServerRun) (i : Fin 2) : (reallocFb Y i (a.fb i) w h).2 = true :=
      (reallocFb_ok Y i (a.fb i) w h).mpr (hall i)
    unfold applyModeCb
    dsimp only
    simp only [hk, hok, hw, hh, if_true, hrealloc]
    generalize ({ X with
      drm := (kmsSetModeWh X.drm X.kms a.mode w h refresh).dev
      kms := { X.kms with mode := newmode', modeBlob := blob } } : ServerRun) = Y
    show ∃ dev, (reallocFb (reallocFb Y firstFb (a.fb firstFb) w h).1 secondFb (a.fb secondFb)
      w h).1.fb i = (dumbFbCreate dev (a.fb i) w h).fb
    by_cases hsecond : i = secondFb
    · rw [hsecond, reallocFb_fb, Function.update_self]
      exact ⟨_, rfl⟩
    · have hfirst : i = firstFb := by
        revert i
        decide
      rw [hfirst, reallocFb_fb, Function.update_of_ne (by decide), reallocFb_fb,
        Function.update_self]
      exact ⟨_, rfl⟩
  · rcases hnone with hnone | hnone
    · cases hmode.symm.trans hnone
    · simp [hnone] at hblob

theorem ServerRun.FbsMapped.control (hX : X.FbsMapped) {a : ApplyAnswers} {w h refresh : Int}
    (hroom : MakesRoom (.control w h refresh a)) :
    (applyModeCb X a w h refresh).1.FbsMapped := by
  rcases applyModeCb_cases X a w h refresh with
    ⟨-, heq⟩ | ⟨newmode, blob, drm, fb, hmode, hblob, ⟨hfail, -⟩ | ⟨hall, -, -⟩⟩
  · rw [heq]
    exact hX
  · exact (hroom.1 ⟨by rw [hmode]; rfl, by rw [hblob]; rfl, hfail⟩).elim
  · intro i
    obtain ⟨dev, hmade⟩ := applyModeCb_fb_made (X := X) hmode (by rw [hblob]; rfl) hall i
    obtain ⟨hw, hh⟩ := requestedMode_size hmode
    have hint (n : UInt16) : IsInt32 n.toNat := by
      have hlt := n.toNat_lt
      unfold IsInt32
      omega
    rw [hmade]
    exact dumbFbCreate_mapped (hall i) dev (hw ▸ hint _) (hh ▸ hint _) (hroom.2 i)

theorem ServerRun.FbsMapped.next (hX : X.FbsMapped) {e : ServerEvent} (he : MakesRoom e) :
    (X.next e).FbsMapped := by
  by_cases hcontrol : ∃ w h refresh a, e = .control w h refresh a
  · obtain ⟨w, h, refresh, a, rfl⟩ := hcontrol
    exact hX.control he
  · by_cases hframe : ∃ answers, e = .frame answers
    · obtain ⟨answers, rfl⟩ := hframe
      show (X.atFrame answers).FbsMapped
      unfold ServerRun.atFrame
      split <;> exact hX
    · have hsame := SameScanout.next X (e := e) (fun answers heq => hframe ⟨answers, heq⟩)
        fun w h refresh a heq => hcontrol ⟨w, h, refresh, a, heq⟩
      unfold FbsMapped
      rw [hsame.fb]
      exact hX

end CrystallineLattice.Server
