import CrystallineLattice.Foundation.CInt
import CrystallineLattice.Platform.Model
import Mathlib.Data.List.MinMax

/-!
# Which mode the search selects

The search of `kms_set_mode_wh` is the first minimum of a distance over the modes
of the requested size.
-/

namespace CrystallineLattice.Platform

open CrystallineLattice.Foundation

def Candidate (w h : Int) (m : ModeInfo) : Prop :=
  m.interlaced = false ∧ (m.hdisplay.toNat : Int) = w ∧ (m.vdisplay.toNat : Int) = h

instance (w h : Int) (m : ModeInfo) : Decidable (Candidate w h m) :=
  inferInstanceAs (Decidable (m.interlaced = false ∧ (m.hdisplay.toNat : Int) = w ∧
    (m.vdisplay.toNat : Int) = h))

def modeDistance (refresh : Int) (m : ModeInfo) : Nat :=
  (refreshDiff refresh (refreshMhz m)).toNat

/-! ## The search is a minimum -/

theorem betterMode_of_candidate {w h : Int} {m : ModeInfo} (hm : Candidate w h m)
    (refresh : Int) (best : Option (ModeInfo × UInt32)) :
    betterMode w h refresh best m =
      match best with
      | none => some (m, refreshDiff refresh (refreshMhz m))
      | some b =>
          if refreshDiff refresh (refreshMhz m) < b.2 then
            some (m, refreshDiff refresh (refreshMhz m))
          else some b := by
  obtain ⟨hprogressive, hw, hh⟩ := hm
  have hsize : ¬ ((m.hdisplay.toNat : Int) ≠ w ∨ (m.vdisplay.toNat : Int) ≠ h) := by
    simp [hw, hh]
  unfold betterMode
  rw [if_neg (by simp [hprogressive]), if_neg hsize]
  cases best <;> rfl

theorem betterMode_of_not_candidate {w h : Int} {m : ModeInfo} (hm : ¬ Candidate w h m)
    (refresh : Int) (best : Option (ModeInfo × UInt32)) :
    betterMode w h refresh best m = best := by
  unfold betterMode
  split
  · rfl
  · rename_i hprogressive
    rw [if_pos]
    by_contra hsize
    push Not at hsize
    exact hm ⟨by simpa using hprogressive, hsize.1, hsize.2⟩

theorem foldl_betterMode (modes : List ModeInfo) (w h refresh : Int) :
    modes.foldl (betterMode w h refresh) none =
      ((modes.filter (Candidate w h ·)).argmin (modeDistance refresh)).map
        fun b => (b, refreshDiff refresh (refreshMhz b)) := by
  induction modes using List.reverseRecOn with
  | nil => rfl
  | append_singleton modes m ih =>
      rw [List.foldl_append, ih, List.filter_append, List.foldl_cons, List.foldl_nil]
      by_cases hm : Candidate w h m
      · have hkept : [m].filter (Candidate w h ·) = [m] := by simp [hm]
        rw [hkept, List.argmin_concat, betterMode_of_candidate hm]
        cases (modes.filter (Candidate w h ·)).argmin (modeDistance refresh) with
        | none => rfl
        | some b =>
            simp only [Option.map_some, modeDistance, UInt32.lt_iff_toNat_lt]
            by_cases hcloser : (refreshDiff refresh (refreshMhz m)).toNat <
                (refreshDiff refresh (refreshMhz b)).toNat
            · simp [hcloser]
            · simp [hcloser]
      · have hdropped : [m].filter (Candidate w h ·) = [] := by simp [hm]
        rw [hdropped, List.append_nil]
        exact betterMode_of_not_candidate hm refresh _

theorem bestMode_eq (modes : List ModeInfo) (w h refresh : Int) :
    bestMode modes w h refresh =
      (modes.filter (Candidate w h ·)).argmin (modeDistance refresh) := by
  rw [bestMode, foldl_betterMode, Option.map_map]
  exact Option.map_id'

theorem bestMode_isSome {modes : List ModeInfo} {w h refresh : Int} :
    (bestMode modes w h refresh).isSome = true ↔ ∃ m ∈ modes, Candidate w h m := by
  rw [bestMode_eq, ← Option.ne_none_iff_isSome, ne_eq, List.argmin_eq_none,
    List.filter_eq_nil_iff]
  simp

theorem bestMode_spec {modes : List ModeInfo} {w h refresh : Int} {m : ModeInfo}
    (hm : bestMode modes w h refresh = some m) :
    m ∈ modes ∧ Candidate w h m ∧
      ∀ m' ∈ modes, Candidate w h m' → modeDistance refresh m ≤ modeDistance refresh m' := by
  rw [bestMode_eq] at hm
  have hmem := List.argmin_mem hm
  obtain ⟨hin, hcandidate⟩ := List.mem_filter.mp hmem
  refine ⟨hin, by simpa using hcandidate, fun m' hin' hcandidate' => ?_⟩
  have hmem' : m' ∈ modes.filter (Candidate w h ·) :=
    List.mem_filter.mpr ⟨hin', by simpa using hcandidate'⟩
  exact List.le_of_mem_argmin hmem' hm

/-! ## The distance -/

theorem toNat_ofInt_int32 {r : Nat} (hr : r < 4294967296) :
    (UInt32.ofInt (int32 r)).toNat = r := by
  have hword : (int32 r % 2 ^ 32).toNat = r := by
    unfold int32
    omega
  rw [UInt32.ofInt, hword]
  exact Nat.mod_eq_of_lt hr

theorem modeDistance_int32 {r : Nat} (hr : r < 4294967296) (hany : r ≠ 0) (m : ModeInfo) :
    modeDistance (int32 r) m = (((refreshMhz m).toNat : Int) - r).natAbs := by
  have hasked : int32 r ≠ 0 := by
    unfold int32
    omega
  have hlt := (refreshMhz m).toNat_lt
  have hword := toNat_ofInt_int32 hr
  unfold modeDistance refreshDiff
  generalize UInt32.ofInt (int32 r) = asked at hword ⊢
  generalize refreshMhz m = rm at hlt ⊢
  rw [if_pos hasked]
  split
  · rename_i hbelow
    rw [UInt32.lt_iff_toNat_lt] at hbelow
    rw [UInt32.toNat_sub_of_le _ _ (UInt32.le_iff_toNat_le.mpr hbelow.le)]
    omega
  · rename_i habove
    rw [UInt32.lt_iff_toNat_lt] at habove
    rw [UInt32.toNat_sub_of_le _ _ (UInt32.le_iff_toNat_le.mpr (Nat.le_of_not_lt habove))]
    omega

end CrystallineLattice.Platform
