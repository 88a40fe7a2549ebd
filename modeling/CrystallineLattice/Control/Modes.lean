import CrystallineLattice.Control.Model
import CrystallineLattice.Platform.Selection

/-!
# Listed and selected modes

`handle_get_outputs` lists the modes of the connector, and `kms_set_mode_wh` later
searches the same modes for the size and the rate that a `SET_MODE` asks for.
-/

namespace CrystallineLattice.Control

open CrystallineLattice.Foundation
open CrystallineLattice.Native
open CrystallineLattice.Platform

def Response.offered : Response → List GlctlMode
  | .outputs _ _ os => os.flatMap GlctlOutput.modes
  | .result _ _ _ => []

/-- A mode that is neither interlaced nor of another size. -/
def OfSize (w h : Nat) (m : ModeInfo) : Prop :=
  m.interlaced = false ∧ m.hdisplay.toNat = w ∧ m.vdisplay.toNat = h

/-- `kms_set_mode_wh` for a `SET_MODE`, after the kernel made the blob. -/
def setMode (dev : Drm) (k : Kms) (conn : Connector) (blob : UInt32) (req : GlctlRequest) :
    KmsResult :=
  kmsSetModeWh dev k ⟨some conn, some blob⟩ (int32 req.w) (int32 req.h) (int32 req.refreshMhz)

/-! ## What is listed -/

/-- The modes that the listing loop keeps. -/
def listable (modes : List ModeInfo) : List ModeInfo :=
  (modes.filter (fun m => !m.interlaced)).take glctlMaxModes

theorem listable_concat (modes : List ModeInfo) (m : ModeInfo) :
    listable (modes ++ [m]) =
      if glctlMaxModes ≤ (listable modes).length then listable modes
      else if m.interlaced then listable modes
      else listable modes ++ [m] := by
  unfold listable
  cases hm : m.interlaced with
  | true => simp [hm]
  | false =>
      simp only [List.filter_append, List.take_append, List.length_take]
      by_cases hfull : glctlMaxModes ≤ (modes.filter (fun m => !m.interlaced)).length
      · simp [hm, hfull]
      · have hkept : [m].take (glctlMaxModes - (modes.filter (fun m => !m.interlaced)).length) =
            [m] := List.take_of_length_le (by simp; omega)
        simp [hm, hfull, hkept]

theorem foldl_listMode (k : Kms) (modes : List ModeInfo) :
    modes.foldl (listMode k) [] = (listable modes).map (listedMode k) := by
  induction modes using List.reverseRecOn with
  | nil => simp [listable]
  | append_singleton modes m ih =>
      simp only [List.foldl_append, List.foldl_cons, List.foldl_nil, ih, listMode,
        listable_concat, List.length_map]
      split_ifs <;> simp

theorem offered_handleGetOutputs (k : Kms) (conn : Connector) :
    (handleGetOutputs k (some conn)).offered = (listable conn.modes).map (listedMode k) := by
  simp [handleGetOutputs, Response.offered, foldl_listMode]

theorem mem_listable {modes : List ModeInfo} {m : ModeInfo} (hm : m ∈ listable modes) :
    m ∈ modes ∧ m.interlaced = false := by
  simpa using List.mem_of_mem_take hm

/-! ## What is selected -/

theorem candidate_int32 {w h : Nat} (hw : w < 4294967296) (hh : h < 4294967296)
    (m : ModeInfo) : Candidate (int32 w) (int32 h) m ↔ OfSize w h m := by
  have hhdisplay := m.hdisplay.toNat_lt
  have hvdisplay := m.vdisplay.toNat_lt
  have hsame : ∀ {n : Nat} {asked : Nat}, n < 65536 → asked < 4294967296 →
      ((n : Int) = int32 asked ↔ n = asked) := by
    intro n asked hn hasked
    unfold int32
    omega
  simp [Candidate, OfSize, hsame hhdisplay hw, hsame hvdisplay hh]

theorem setMode_cases (dev : Drm) (k : Kms) (conn : Connector) (blob : UInt32)
    (req : GlctlRequest) :
    (∃ newmode,
        bestMode conn.modes (int32 req.w) (int32 req.h) (int32 req.refreshMhz) = some newmode ∧
        (setMode dev k conn blob req).ok = true ∧
        (setMode dev k conn blob req).k.mode = newmode) ∨
      bestMode conn.modes (int32 req.w) (int32 req.h) (int32 req.refreshMhz) = none ∧
        (setMode dev k conn blob req).ok = false := by
  rcases kmsSetModeWh_cases dev k ⟨some conn, some blob⟩ (int32 req.w) (int32 req.h)
    (int32 req.refreshMhz) with ⟨newmode, _, hmode, -, hok, hk⟩ | ⟨hmode | hblob, hfailed⟩
  · exact .inl ⟨newmode, hmode, hok, by rw [setMode, hk]⟩
  · exact .inr ⟨hmode, by rw [setMode, hfailed]⟩
  · cases hblob

section

variable {dev : Drm} {k : Kms} {conn : Connector} {blob : UInt32} {req : GlctlRequest}

theorem setMode_ok (hw : req.w < 4294967296) (hh : req.h < 4294967296) :
    (setMode dev k conn blob req).ok = true ↔ ∃ m ∈ conn.modes, OfSize req.w req.h m := by
  have hsearch := @bestMode_isSome conn.modes (int32 req.w) (int32 req.h) (int32 req.refreshMhz)
  simp only [candidate_int32 hw hh] at hsearch
  rw [← hsearch]
  rcases setMode_cases dev k conn blob req with ⟨newmode, hbest, hok, -⟩ | ⟨hbest, hok⟩
  · simp [hbest, hok]
  · simp [hbest, hok]

theorem setMode_mode (hok : (setMode dev k conn blob req).ok = true) :
    bestMode conn.modes (int32 req.w) (int32 req.h) (int32 req.refreshMhz) =
      some (setMode dev k conn blob req).k.mode := by
  rcases setMode_cases dev k conn blob req with ⟨newmode, hbest, -, hmode⟩ | ⟨-, hfailed⟩
  · rw [hbest, hmode]
  · simp [hfailed] at hok

theorem setMode_spec (hw : req.w < 4294967296) (hh : req.h < 4294967296)
    (hrefresh : req.refreshMhz < 4294967296)
    (hok : (setMode dev k conn blob req).ok = true) :
    (setMode dev k conn blob req).k.mode ∈ conn.modes ∧
      OfSize req.w req.h (setMode dev k conn blob req).k.mode ∧
      (req.refreshMhz ≠ 0 → ∀ m ∈ conn.modes, OfSize req.w req.h m →
        (((refreshMhz (setMode dev k conn blob req).k.mode).toNat : Int) -
            req.refreshMhz).natAbs ≤
          (((refreshMhz m).toNat : Int) - req.refreshMhz).natAbs) := by
  obtain ⟨hin, hcandidate, hleast⟩ := bestMode_spec (setMode_mode hok)
  simp only [candidate_int32 hw hh] at hcandidate hleast
  refine ⟨hin, hcandidate, ?_⟩
  intro hany m hm hsize
  have hle := hleast m hm hsize
  rwa [modeDistance_int32 hrefresh hany, modeDistance_int32 hrefresh hany] at hle

end

/--
A mode that is listed can be set, and every other request sets a closest mode of
its size; `shown` is the state in which the modes were listed.
-/
theorem offered_mode_is_selected (shown : Kms) (dev : Drm) (k : Kms) (conn : Connector)
    (blob : UInt32) (buf : Bytes) :
    (∀ e ∈ (handleGetOutputs shown (some conn)).offered, e.refreshMhz ≠ 0 →
        (GlctlRequest.read buf).w = e.w → (GlctlRequest.read buf).h = e.h →
        (GlctlRequest.read buf).refreshMhz = e.refreshMhz →
        (setMode dev k conn blob (GlctlRequest.read buf)).ok = true ∧
          (setMode dev k conn blob (GlctlRequest.read buf)).k.mode ∈ conn.modes ∧
          OfSize e.w e.h (setMode dev k conn blob (GlctlRequest.read buf)).k.mode ∧
          (refreshMhz (setMode dev k conn blob (GlctlRequest.read buf)).k.mode).toNat =
            e.refreshMhz) ∧
      ((setMode dev k conn blob (GlctlRequest.read buf)).ok = true ↔
        ∃ m ∈ conn.modes,
          OfSize (GlctlRequest.read buf).w (GlctlRequest.read buf).h m) ∧
      ((setMode dev k conn blob (GlctlRequest.read buf)).ok = true →
        (setMode dev k conn blob (GlctlRequest.read buf)).k.mode ∈ conn.modes ∧
          OfSize (GlctlRequest.read buf).w (GlctlRequest.read buf).h
            (setMode dev k conn blob (GlctlRequest.read buf)).k.mode ∧
          ((GlctlRequest.read buf).refreshMhz ≠ 0 → ∀ m ∈ conn.modes,
            OfSize (GlctlRequest.read buf).w (GlctlRequest.read buf).h m →
            (((refreshMhz (setMode dev k conn blob (GlctlRequest.read buf)).k.mode).toNat : Int) -
                (GlctlRequest.read buf).refreshMhz).natAbs ≤
              (((refreshMhz m).toNat : Int) - (GlctlRequest.read buf).refreshMhz).natAbs)) := by
  have hw : (GlctlRequest.read buf).w < 4294967296 := buf.u32_lt 40
  have hh : (GlctlRequest.read buf).h < 4294967296 := buf.u32_lt 44
  have hrefresh : (GlctlRequest.read buf).refreshMhz < 4294967296 := buf.u32_lt 48
  refine ⟨?_, setMode_ok hw hh, setMode_spec hw hh hrefresh⟩
  intro e he hany hwe hhe hrefreshe
  rw [offered_handleGetOutputs, List.mem_map] at he
  obtain ⟨m, hm, rfl⟩ := he
  obtain ⟨hin, hprogressive⟩ := mem_listable hm
  have hsize : OfSize (GlctlRequest.read buf).w (GlctlRequest.read buf).h m :=
    ⟨hprogressive, hwe.symm, hhe.symm⟩
  have hok : (setMode dev k conn blob (GlctlRequest.read buf)).ok = true :=
    (setMode_ok hw hh).mpr ⟨m, hin, hsize⟩
  obtain ⟨hin', hsize', hleast⟩ := setMode_spec hw hh hrefresh hok
  -- the listed mode itself is at distance 0, so the selected one is too
  have hle := hleast (by rwa [hrefreshe]) m hin hsize
  have hzero : (((refreshMhz m).toNat : Int) - (GlctlRequest.read buf).refreshMhz).natAbs = 0 := by
    simp [hrefreshe, listedMode]
  refine ⟨hok, hin', by rwa [← hwe, ← hhe], ?_⟩
  rw [← hrefreshe]
  omega

/-! ## What is flagged as current -/

/-- The entries that are flagged as current are those that show the active mode. -/
def FlagsActiveMode (k : Kms) (conn : Connector) : Prop :=
  ∀ e ∈ (handleGetOutputs k (some conn)).offered,
    (e.current = true ↔ e.w = k.mode.hdisplay.toNat ∧ e.h = k.mode.vdisplay.toNat ∧
      e.refreshMhz = (refreshMhz k.mode).toNat)

theorem listedMode_current (k : Kms) (m : ModeInfo) :
    (listedMode k m).current = true ↔
      m.hdisplay = k.mode.hdisplay ∧ m.vdisplay = k.mode.vdisplay ∧
        m.vrefresh = k.mode.vrefresh := by
  simp [listedMode]

theorem listedMode_shows (k : Kms) (m : ModeInfo) :
    ((listedMode k m).w = k.mode.hdisplay.toNat ∧ (listedMode k m).h = k.mode.vdisplay.toNat ∧
        (listedMode k m).refreshMhz = (refreshMhz k.mode).toNat) ↔
      m.hdisplay = k.mode.hdisplay ∧ m.vdisplay = k.mode.vdisplay ∧
        refreshMhz m = refreshMhz k.mode := by
  simp [listedMode, UInt16.toNat_inj, UInt32.toNat_inj]

/--
The flag compares the rates in whole hertz, the entries show them in millihertz:
the flag is right when both tell the modes of the active size apart in the same way.
-/
theorem flagsActiveMode_iff (k : Kms) (conn : Connector) :
    FlagsActiveMode k conn ↔
      ∀ m ∈ (conn.modes.filter (fun m => !m.interlaced)).take glctlMaxModes,
        m.hdisplay = k.mode.hdisplay → m.vdisplay = k.mode.vdisplay →
        (m.vrefresh = k.mode.vrefresh ↔ refreshMhz m = refreshMhz k.mode) := by
  unfold FlagsActiveMode
  rw [offered_handleGetOutputs, List.forall_mem_map]
  simp only [listedMode_current, listedMode_shows]
  constructor
  · intro hflags m hm hhdisplay hvdisplay
    simpa [hhdisplay, hvdisplay] using hflags m hm
  · intro hrates m hm
    constructor
    · rintro ⟨hhdisplay, hvdisplay, hhertz⟩
      exact ⟨hhdisplay, hvdisplay, (hrates m hm hhdisplay hvdisplay).mp hhertz⟩
    · rintro ⟨hhdisplay, hvdisplay, hexact⟩
      exact ⟨hhdisplay, hvdisplay, (hrates m hm hhdisplay hvdisplay).mpr hexact⟩

/-- A 1920x1080 mode of 60 Hz, and one of 59.94 Hz, which the kernel rounds to 60. -/
def exact60 : ModeInfo := ⟨148500, 1920, 2200, 1080, 1125, 60, 0, drmModeTypePreferred⟩
def near60 : ModeInfo := ⟨148352, 1920, 2200, 1080, 1125, 60, 0, 0⟩

theorem near60_flagged :
    ¬ ∀ (k : Kms) (conn : Connector),
        (conn.modes.filter (fun m => !m.interlaced)).length ≤ glctlMaxModes →
        k.mode ∈ conn.modes → FlagsActiveMode k conn := by
  intro hflags
  have hboth := hflags ⟨1, 2, 3, exact60, 7⟩ ⟨.hdmiA, 1, [exact60, near60]⟩ (by decide) (by decide)
  have hnear := hboth (listedMode ⟨1, 2, 3, exact60, 7⟩ near60) (by decide)
  revert hnear
  decide

end CrystallineLattice.Control
