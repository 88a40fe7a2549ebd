import Mathlib.Data.Int.Order.Basic

/-!
# The display platform

The parts of `platform.c` that a resolution change goes through: choosing a mode
of the connector, replacing the mode blob, and making and destroying a dumb
framebuffer.  What the kernel answers to each call is an argument.  A mode
carries the fields that are read here; its name and its sync timings are copied
with it and only logged.
-/

namespace CrystallineLattice.Platform

def drmModeFlagInterlace : UInt32 := 16
def drmModeTypePreferred : UInt32 := 8

structure ModeInfo where
  clock : UInt32
  hdisplay : UInt16
  htotal : UInt16
  vdisplay : UInt16
  vtotal : UInt16
  vrefresh : UInt32
  flags : UInt32
  type : UInt32
  deriving DecidableEq, Repr

inductive ConnectorType where
  | eDP
  | lvds
  | displayPort
  | hdmiA
  | hdmiB
  | vga
  | dviI
  | dviD
  | dviA
  | virtual
  | other
  deriving DecidableEq, Repr

structure Connector where
  connectorType : ConnectorType
  connectorTypeId : UInt32
  modes : List ModeInfo
  deriving DecidableEq, Repr

structure Kms where
  connectorId : UInt32
  crtcId : UInt32
  planeId : UInt32
  mode : ModeInfo
  modeBlob : UInt32
  deriving DecidableEq, Repr

structure Drm where
  blobs : List UInt32
  fbs : List UInt32
  handles : List UInt32
  maps : List (Nat × UInt64)
  deriving DecidableEq, Repr

/-! ## Changing the mode -/

def ModeInfo.interlaced (m : ModeInfo) : Bool := m.flags &&& drmModeFlagInterlace ≠ 0

/-- The refresh rate in millihertz, from the timings if they are given. -/
def refreshMhz (m : ModeInfo) : UInt32 :=
  if m.htotal ≠ 0 ∧ m.vtotal ≠ 0 then
    (m.clock.toUInt64 * 1000000 /
      (m.htotal.toUInt32 * m.vtotal.toUInt32).toUInt64).toUInt32
  else m.vrefresh * 1000

/-- How far a refresh rate is from the one asked for; 0 asks for any. -/
def refreshDiff (refresh : Int) (rm : UInt32) : UInt32 :=
  if refresh ≠ 0 then
    if UInt32.ofInt refresh < rm then rm - UInt32.ofInt refresh else UInt32.ofInt refresh - rm
  else 0

/-- One iteration of the search: the best mode so far, with its distance. -/
def betterMode (w h refresh : Int) (best : Option (ModeInfo × UInt32))
    (m : ModeInfo) : Option (ModeInfo × UInt32) :=
  if m.interlaced then best
  else if (m.hdisplay.toNat : Int) ≠ w ∨ (m.vdisplay.toNat : Int) ≠ h then best
  else
    let diff := refreshDiff refresh (refreshMhz m)
    match best with
    | none => some (m, diff)
    | some (_, bestDiff) => if diff < bestDiff then some (m, diff) else best

def bestMode (modes : List ModeInfo) (w h refresh : Int) : Option ModeInfo :=
  (modes.foldl (betterMode w h refresh) none).map Prod.fst

/-- `drmModeGetConnector`, and `drmModeCreatePropertyBlob` for the chosen mode. -/
structure ModeAnswers where
  connector : Option Connector
  blob : Option UInt32
  deriving DecidableEq, Repr

structure KmsResult where
  dev : Drm
  k : Kms
  ok : Bool

/-- `ok` is that the call returned 0. -/
def kmsSetModeWh (dev : Drm) (k : Kms) (a : ModeAnswers) (w h refresh : Int) : KmsResult :=
  match a.connector with
  | none => ⟨dev, k, false⟩
  | some conn =>
      match bestMode conn.modes w h refresh with
      | none => ⟨dev, k, false⟩
      | some newmode =>
          match a.blob with
          | none => ⟨dev, k, false⟩
          | some blob =>
              let blobs := blob :: dev.blobs
              ⟨{ dev with blobs := if k.modeBlob ≠ 0 then blobs.erase k.modeBlob else blobs },
                { k with mode := newmode, modeBlob := blob }, true⟩

def requestedMode (a : ModeAnswers) (w h refresh : Int) : Option ModeInfo :=
  a.connector.bind fun conn => bestMode conn.modes w h refresh

theorem kmsSetModeWh_cases (dev : Drm) (k : Kms) (a : ModeAnswers) (w h refresh : Int) :
    (∃ newmode blob, requestedMode a w h refresh = some newmode ∧ a.blob = some blob ∧
        (kmsSetModeWh dev k a w h refresh).ok = true ∧
        (kmsSetModeWh dev k a w h refresh).k =
          { k with mode := newmode, modeBlob := blob }) ∨
      (requestedMode a w h refresh = none ∨ a.blob = none) ∧
        kmsSetModeWh dev k a w h refresh = ⟨dev, k, false⟩ := by
  unfold kmsSetModeWh requestedMode
  cases a.connector with
  | none => simp
  | some conn =>
      dsimp only [Option.bind_some]
      cases bestMode conn.modes w h refresh with
      | none => simp
      | some newmode => cases a.blob <;> simp

/-! ## Dumb framebuffers -/

/-- A pixel mapping: the null pointer, `MAP_FAILED`, or an address. -/
inductive FbMap where
  | null
  | failed
  | mapping (base : Nat)
  deriving DecidableEq, Repr

structure DumbFb where
  fbId : UInt32
  handle : UInt32
  stride : UInt32
  size : UInt64
  map : FbMap
  w : Int
  h : Int
  deriving DecidableEq, Repr

def DumbFb.zero : DumbFb := ⟨0, 0, 0, 0, .null, 0, 0⟩

structure DumbBuffer where
  handle : UInt32
  pitch : UInt32
  size : UInt64
  deriving DecidableEq, Repr

structure FbAnswers where
  createDumb : Option DumbBuffer
  addFb2 : Option UInt32
  mapDumb : Bool
  mmap : Option Nat
  deriving DecidableEq, Repr

def dumbFbDestroy (dev : Drm) (fb : DumbFb) : Drm × DumbFb :=
  let dev :=
    match fb.map with
    | .mapping base => { dev with maps := dev.maps.erase (base, fb.size) }
    | _ => dev
  let dev := if fb.fbId ≠ 0 then { dev with fbs := dev.fbs.erase fb.fbId } else dev
  let dev := if fb.handle ≠ 0 then { dev with handles := dev.handles.erase fb.handle } else dev
  (dev, .zero)

structure FbResult where
  dev : Drm
  fb : DumbFb
  ok : Bool

/-- The error path of `dumb_fb_create`. -/
def dumbFbAbandon (dev : Drm) (fb : DumbFb) : FbResult :=
  ⟨(dumbFbDestroy dev fb).1, (dumbFbDestroy dev fb).2, false⟩

/-- `ok` is that the call returned 0. -/
def dumbFbCreate (dev : Drm) (a : FbAnswers) (w h : Int) : FbResult :=
  let fb : DumbFb := { DumbFb.zero with map := .failed, w := w, h := h }
  match a.createDumb with
  | none => ⟨dev, fb, false⟩
  | some create =>
      let dev := { dev with handles := create.handle :: dev.handles }
      let fb := { fb with handle := create.handle, stride := create.pitch, size := create.size }
      match a.addFb2 with
      | none => dumbFbAbandon dev fb
      | some id =>
          let dev := { dev with fbs := id :: dev.fbs }
          let fb := { fb with fbId := id }
          if a.mapDumb then
            match a.mmap with
            | none => dumbFbAbandon dev fb
            | some base =>
                ⟨{ dev with maps := (base, fb.size) :: dev.maps }, { fb with map := .mapping base },
                  true⟩
          else dumbFbAbandon dev fb

def FbAnswers.Succeeds (a : FbAnswers) : Prop :=
  a.createDumb.isSome ∧ a.addFb2.isSome ∧ a.mapDumb = true ∧ a.mmap.isSome

instance (a : FbAnswers) : Decidable a.Succeeds := by
  unfold FbAnswers.Succeeds
  infer_instance

theorem dumbFbCreate_ok (dev : Drm) (a : FbAnswers) (w h : Int) :
    (dumbFbCreate dev a w h).ok = true ↔ a.Succeeds := by
  unfold dumbFbCreate FbAnswers.Succeeds dumbFbAbandon
  cases a.createDumb with
  | none => simp
  | some create =>
      cases a.addFb2 with
      | none => simp
      | some id => cases a.mapDumb <;> cases a.mmap <;> simp

theorem dumbFbCreate_size {a : FbAnswers} (ha : a.Succeeds) (dev : Drm) (w h : Int) :
    (dumbFbCreate dev a w h).fb.w = w ∧ (dumbFbCreate dev a w h).fb.h = h := by
  obtain ⟨hcreate, hadd, hmap, hmmap⟩ := ha
  obtain ⟨create, hcreate⟩ := Option.isSome_iff_exists.mp hcreate
  obtain ⟨id, hadd⟩ := Option.isSome_iff_exists.mp hadd
  obtain ⟨base, hmmap⟩ := Option.isSome_iff_exists.mp hmmap
  simp [dumbFbCreate, hcreate, hadd, hmap, hmmap]

/-! ## The chosen mode -/

theorem betterMode_size {w h refresh : Int} {best : Option (ModeInfo × UInt32)}
    (hbest : ∀ p ∈ best, (p.1.hdisplay.toNat : Int) = w ∧ (p.1.vdisplay.toNat : Int) = h)
    (m : ModeInfo) : ∀ p ∈ betterMode w h refresh best m,
      (p.1.hdisplay.toNat : Int) = w ∧ (p.1.vdisplay.toNat : Int) = h := by
  unfold betterMode
  split
  · exact hbest
  · split
    · exact hbest
    · rename_i hsize
      push Not at hsize
      cases best with
      | none => simpa using hsize
      | some b =>
          dsimp only
          split
          · simpa using hsize
          · exact hbest

theorem bestMode_size {modes : List ModeInfo} {w h refresh : Int} {m : ModeInfo}
    (hm : bestMode modes w h refresh = some m) :
    (m.hdisplay.toNat : Int) = w ∧ (m.vdisplay.toNat : Int) = h := by
  have hfold : ∀ p ∈ modes.foldl (betterMode w h refresh) none,
      (p.1.hdisplay.toNat : Int) = w ∧ (p.1.vdisplay.toNat : Int) = h :=
    List.foldlRecOn (motive := fun best : Option (ModeInfo × UInt32) => ∀ p ∈ best,
        (p.1.hdisplay.toNat : Int) = w ∧ (p.1.vdisplay.toNat : Int) = h) _ _ (by simp)
      fun _ hbest m _ => betterMode_size hbest m
  obtain ⟨p, hp, rfl⟩ := Option.map_eq_some_iff.mp hm
  exact hfold p hp

theorem requestedMode_size {a : ModeAnswers} {w h refresh : Int} {m : ModeInfo}
    (hm : requestedMode a w h refresh = some m) :
    (m.hdisplay.toNat : Int) = w ∧ (m.vdisplay.toNat : Int) = h := by
  obtain ⟨conn, -, hbest⟩ := Option.bind_eq_some_iff.mp hm
  exact bestMode_size hbest

end CrystallineLattice.Platform
