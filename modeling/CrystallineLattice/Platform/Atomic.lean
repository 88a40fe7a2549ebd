import CrystallineLattice.Foundation.Writes
import CrystallineLattice.Platform.Model
import Mathlib.Data.List.Induction

/-!
# Atomic requests

The kernel keeps a value for each property of each of its objects.  An atomic
request is a list of such values, which a commit writes all at once.  Properties
have names and, on each device, ids that the server looks up when it starts.
-/

namespace CrystallineLattice.Platform

open CrystallineLattice.Foundation

/-! ## Property maps -/

structure Property where
  name : String
  id : UInt32
  value : UInt64
  deriving DecidableEq, Repr

abbrev PropMap := List Property

/-- The id of the first property of the name, or 0. -/
def propId (m : PropMap) (name : String) : UInt32 :=
  match m.find? fun p => p.name == name with
  | none => 0
  | some p => p.id

def propValue (m : PropMap) (name : String) : Option UInt64 :=
  (m.find? fun p => p.name == name).map Property.value

/--
What the kernel answers about the properties of an object: their ids and values,
and for each id the name, where `drmModeGetProperty` succeeds.
-/
structure PropAnswers where
  properties : Option (List (UInt32 × UInt64))
  memory : Bool
  name : UInt32 → Option String

/-- A property that cannot be looked up is left out.  `none` is that the call failed. -/
def propMapLoad (a : PropAnswers) : Option PropMap :=
  match a.properties with
  | none => none
  | some props =>
      if a.memory then
        some (props.filterMap fun p => (a.name p.1).map fun name => ⟨name, p.1, p.2⟩)
      else none

structure KmsProps where
  conn : PropMap
  crtc : PropMap
  plane : PropMap
  deriving DecidableEq, Repr

/-- On a device an id belongs to one property. -/
def KmsProps.Distinct (p : KmsProps) : Prop :=
  (p.conn.map Property.id).Nodup ∧ (p.crtc.map Property.id).Nodup ∧
    (p.plane.map Property.id).Nodup

instance (p : KmsProps) : Decidable p.Distinct :=
  inferInstanceAs (Decidable (_ ∧ _ ∧ _))

theorem propMapLoad_nodup {a : PropAnswers} {m : PropMap} (h : propMapLoad a = some m)
    (hprops : ∀ props, a.properties = some props → (props.map Prod.fst).Nodup) :
    (m.map Property.id).Nodup := by
  unfold propMapLoad at h
  cases hp : a.properties with
  | none =>
      rw [hp] at h
      cases h
  | some props =>
      simp only [hp] at h
      split at h
      · cases h
        have hsub : ((props.filterMap fun p =>
            (a.name p.1).map fun name => (⟨name, p.1, p.2⟩ : Property)).map Property.id).Sublist
              (props.map Prod.fst) := by
          generalize props = l
          induction l with
          | nil => exact .slnil
          | cons q l ih =>
              cases hname : a.name q.1 with
              | none => simpa [hname] using ih.cons q.1
              | some name => simpa [hname] using ih.cons_cons q.1
        exact hsub.nodup (hprops props hp)
      · cases h

theorem propId_inj {m : PropMap} (hm : (m.map Property.id).Nodup) {name name' : String}
    (hfound : propId m name ≠ 0) (h : propId m name = propId m name') : name = name' := by
  unfold propId at hfound h
  cases hp : m.find? fun p => p.name == name with
  | none => simp [hp] at hfound
  | some p =>
      simp only [hp] at hfound h
      cases hp' : m.find? fun p => p.name == name' with
      | none => exact absurd h (by simpa [hp'] using hfound)
      | some p' =>
          simp only [hp'] at h
          have hsame := List.inj_on_of_nodup_map hm (List.mem_of_find?_eq_some hp)
            (List.mem_of_find?_eq_some hp') h
          have hname : p.name = name := by simpa using List.find?_some hp
          have hname' : p'.name = name' := by simpa using List.find?_some hp'
          rw [← hname, ← hname', hsame]

/-! ## Requests -/

abbrev Kernel := UInt32 × UInt32 → UInt64

abbrev AtomicReq := List ((UInt32 × UInt32) × UInt64)

/--
`grow` is whether `drmModeAtomicAddProperty` finds the memory to make the request
longer.  The second component is that the call returned 0.
-/
def atomicAdd (grow : AtomicReq → Bool) (req : AtomicReq) (obj : UInt32) (m : PropMap)
    (name : String) (value : UInt64) : AtomicReq × Bool :=
  let id := propId m name
  if id = 0 then (req, false)
  else if grow req then (req ++ [((obj, id), value)], true)
  else (req, false)

/-- A property of an object by its name, with the value that it is to have. -/
structure Setting where
  obj : UInt32
  map : PropMap
  name : String
  value : UInt64

def Setting.write (s : Setting) : (UInt32 × UInt32) × UInt64 :=
  ((s.obj, propId s.map s.name), s.value)

def atomicAddAll (grow : AtomicReq → Bool) (req : AtomicReq) (settings : List Setting) :
    AtomicReq × Bool :=
  settings.foldl (fun r s =>
    let added := atomicAdd grow r.1 s.obj s.map s.name s.value
    (added.1, r.2 && added.2)) (req, true)

def modesetSettings (k : Kms) (p : KmsProps) : List Setting :=
  [⟨k.connectorId, p.conn, "CRTC_ID", k.crtcId.toUInt64⟩,
    ⟨k.crtcId, p.crtc, "MODE_ID", k.modeBlob.toUInt64⟩, ⟨k.crtcId, p.crtc, "ACTIVE", 1⟩]

def kmsAtomicModeset (grow : AtomicReq → Bool) (req : AtomicReq) (k : Kms) (p : KmsProps) :
    AtomicReq × Bool :=
  atomicAddAll grow req (modesetSettings k p)

def planeSettings (k : Kms) (p : KmsProps) (fbId : UInt32) : List Setting :=
  [⟨k.planeId, p.plane, "FB_ID", fbId.toUInt64⟩,
    ⟨k.planeId, p.plane, "CRTC_ID", k.crtcId.toUInt64⟩,
    ⟨k.planeId, p.plane, "SRC_X", 0⟩, ⟨k.planeId, p.plane, "SRC_Y", 0⟩,
    ⟨k.planeId, p.plane, "SRC_W", k.mode.hdisplay.toUInt64 <<< 16⟩,
    ⟨k.planeId, p.plane, "SRC_H", k.mode.vdisplay.toUInt64 <<< 16⟩,
    ⟨k.planeId, p.plane, "CRTC_X", 0⟩, ⟨k.planeId, p.plane, "CRTC_Y", 0⟩,
    ⟨k.planeId, p.plane, "CRTC_W", k.mode.hdisplay.toUInt64⟩,
    ⟨k.planeId, p.plane, "CRTC_H", k.mode.vdisplay.toUInt64⟩]

def kmsAtomicPlane (grow : AtomicReq → Bool) (req : AtomicReq) (k : Kms) (p : KmsProps)
    (fbId : UInt32) : AtomicReq × Bool :=
  atomicAddAll grow req (planeSettings k p fbId)

def modesetRequest (grow : AtomicReq → Bool) (k : Kms) (p : KmsProps) (fbId : UInt32) :
    AtomicReq × Bool :=
  let (req, ok) := kmsAtomicModeset grow [] k p
  let (req, ok') := kmsAtomicPlane grow req k p fbId
  (req, ok && ok')

def flipRequest (grow : AtomicReq → Bool) (k : Kms) (p : KmsProps) (fbId : UInt32) :
    AtomicReq × Bool :=
  atomicAdd grow [] k.planeId p.plane "FB_ID" fbId.toUInt64

def blankRequest (grow : AtomicReq → Bool) (k : Kms) (p : KmsProps) : AtomicReq × Bool :=
  atomicAdd grow [] k.crtcId p.crtc "ACTIVE" 0

/-! ## What a request holds -/

section Requests

variable {grow : AtomicReq → Bool} {req : AtomicReq}

theorem atomicAdd_whole {obj : UInt32} {m : PropMap} {name : String} {value : UInt64}
    (h : (atomicAdd grow req obj m name value).2 = true) :
    propId m name ≠ 0 ∧
      (atomicAdd grow req obj m name value).1 = req ++ [((obj, propId m name), value)] := by
  unfold atomicAdd at h ⊢
  dsimp only at h ⊢
  split at h
  · cases h
  · rename_i hid
    rw [if_neg hid]
    split at h
    · rename_i hgrow
      rw [if_pos hgrow]
      exact ⟨hid, rfl⟩
    · cases h

theorem atomicAddAll_whole {settings : List Setting}
    (h : (atomicAddAll grow req settings).2 = true) :
    (∀ s ∈ settings, propId s.map s.name ≠ 0) ∧
      (atomicAddAll grow req settings).1 = req ++ settings.map Setting.write := by
  induction settings using List.reverseRec with
  | nil => simp [atomicAddAll]
  | append_singleton settings s ih =>
      unfold atomicAddAll at h ih ⊢
      simp only [List.foldl_append, List.foldl_cons, List.foldl_nil, Bool.and_eq_true] at h ⊢
      obtain ⟨hids, heq⟩ := ih h.1
      obtain ⟨hid, hadded⟩ := atomicAdd_whole h.2
      refine ⟨fun s' hs' => ?_, ?_⟩
      · rcases List.mem_append.mp hs' with hs' | hs'
        · exact hids s' hs'
        · rw [List.mem_singleton.mp hs']
          exact hid
      · rw [hadded, heq, List.map_append, List.append_assoc]
        rfl

def frameSettings (k : Kms) (p : KmsProps) (fbId : UInt32) : List Setting :=
  modesetSettings k p ++ planeSettings k p fbId

theorem modesetRequest_whole {k : Kms} {p : KmsProps} {fbId : UInt32}
    (h : (modesetRequest grow k p fbId).2 = true) :
    (∀ s ∈ frameSettings k p fbId, propId s.map s.name ≠ 0) ∧
      (modesetRequest grow k p fbId).1 = (frameSettings k p fbId).map Setting.write := by
  unfold modesetRequest at h ⊢
  dsimp only at h ⊢
  obtain ⟨hmodeset, hplane⟩ := (Bool.and_eq_true ..).mp h
  obtain ⟨hids, heq⟩ := atomicAddAll_whole hmodeset
  obtain ⟨hids', heq'⟩ := atomicAddAll_whole hplane
  refine ⟨fun s hs => (List.mem_append.mp hs).elim (hids s) (hids' s), ?_⟩
  rw [frameSettings, List.map_append]
  rw [List.nil_append] at heq
  exact heq'.trans (congrArg (· ++ _) heq)

/-! ## One property for thirteen -/

/-- The connector, the CRTC and the plane are three objects. -/
def Kms.ThreeObjects (k : Kms) : Prop :=
  k.connectorId ≠ k.crtcId ∧ k.connectorId ≠ k.planeId ∧ k.crtcId ≠ k.planeId

instance (k : Kms) : Decidable k.ThreeObjects := inferInstanceAs (Decidable (_ ∧ _ ∧ _))

theorem writes_nodup {settings : List Setting} {mapOf : UInt32 → PropMap}
    (hnodup : (settings.map fun s => (s.obj, s.name)).Nodup)
    (hmap : ∀ s ∈ settings, s.map = mapOf s.obj)
    (hids : ∀ s ∈ settings, (s.map.map Property.id).Nodup)
    (hfound : ∀ s ∈ settings, propId s.map s.name ≠ 0) :
    ((settings.map Setting.write).map Prod.fst).Nodup := by
  rw [List.map_map]
  refine List.pairwise_map.mpr ((List.pairwise_map.mp hnodup).imp_of_mem ?_)
  intro s s' hs hs' hne heq
  obtain ⟨hobj, hid⟩ : s.obj = s'.obj ∧ propId s.map s.name = propId s'.map s'.name :=
    Prod.mk.inj heq
  have hsame : s.map = s'.map := by rw [hmap s hs, hmap s' hs', hobj]
  rw [← hsame] at hid
  exact hne (Prod.ext hobj (propId_inj (hids s hs) (hfound s hs) hid))

def KmsProps.mapOf (p : KmsProps) (k : Kms) (obj : UInt32) : PropMap :=
  if obj = k.connectorId then p.conn else if obj = k.crtcId then p.crtc else p.plane

theorem frameSettings_map {k : Kms} (hk : k.ThreeObjects) (p : KmsProps) {fbId : UInt32} :
    ∀ s ∈ frameSettings k p fbId, s.map = p.mapOf k s.obj := by
  obtain ⟨hcrtc, hplane, hplane'⟩ := hk
  simp [frameSettings, modesetSettings, planeSettings, KmsProps.mapOf, hcrtc.symm, hplane.symm,
    hplane'.symm]

theorem frameSettings_nodup {k : Kms} (hk : k.ThreeObjects) {p : KmsProps} (hp : p.Distinct)
    {fbId : UInt32} (hfound : ∀ s ∈ frameSettings k p fbId, propId s.map s.name ≠ 0) :
    (((frameSettings k p fbId).map Setting.write).map Prod.fst).Nodup := by
  refine writes_nodup ?_ (frameSettings_map hk p) (fun s hs => ?_) hfound
  · obtain ⟨hcrtc, hplane, hplane'⟩ := hk
    simp [frameSettings, modesetSettings, planeSettings, hcrtc, hplane, hplane']
  · rw [frameSettings_map hk p s hs]
    unfold KmsProps.mapOf
    split
    · exact hp.1
    · split
      · exact hp.2.1
      · exact hp.2.2

def fbSetting (k : Kms) (p : KmsProps) (fbId : UInt32) : Setting :=
  ⟨k.planeId, p.plane, "FB_ID", fbId.toUInt64⟩

def steadySettings (k : Kms) (p : KmsProps) : List Setting :=
  modesetSettings k p ++ (planeSettings k p 0).tail

theorem mem_frameSettings {k : Kms} {p : KmsProps} {fbId : UInt32} {s : Setting} :
    s ∈ frameSettings k p fbId ↔ s = fbSetting k p fbId ∨ s ∈ steadySettings k p := by
  have hplane : planeSettings k p fbId = fbSetting k p fbId :: (planeSettings k p 0).tail := rfl
  rw [frameSettings, steadySettings, hplane, List.mem_append, List.mem_append, List.mem_cons]
  tauto

/-- All properties are known, and the kernel has all settings but that of the framebuffer. -/
structure Programmed (K : Kernel) (k : Kms) (p : KmsProps) : Prop where
  fb : propId p.plane "FB_ID" ≠ 0
  found : ∀ s ∈ steadySettings k p, propId s.map s.name ≠ 0
  set : ∀ s ∈ steadySettings k p, K s.write.1 = s.value

theorem Programmed.frame {K : Kernel} {k : Kms} {p : KmsProps} (hK : Programmed K k p)
    (fbId : UInt32) : ∀ s ∈ frameSettings k p fbId, propId s.map s.name ≠ 0 := by
  intro s hs
  rcases mem_frameSettings.mp hs with rfl | hs
  · exact hK.fb
  · exact hK.found s hs

theorem programmed_of_frame {k : Kms} (hk : k.ThreeObjects) {p : KmsProps} (hp : p.Distinct)
    {fbId : UInt32} (hfound : ∀ s ∈ frameSettings k p fbId, propId s.map s.name ≠ 0)
    (K : Kernel) :
    Programmed (applyWrites K ((frameSettings k p fbId).map Setting.write)) k p where
  fb := hfound _ (mem_frameSettings.mpr (.inl rfl))
  found s hs := hfound s (mem_frameSettings.mpr (.inr hs))
  set _ hs := Writes.applyWrites_of_mem (frameSettings_nodup hk hp hfound)
    (List.mem_map_of_mem (mem_frameSettings.mpr (.inr hs)))

/-- Where the kernel has the other settings, a flip does what a modeset commit would do. -/
theorem flip_eq_modeset {k : Kms} (hk : k.ThreeObjects) {p : KmsProps} (hp : p.Distinct)
    {K : Kernel} (hK : Programmed K k p) {fbId : UInt32}
    (hwhole : (flipRequest grow k p fbId).2 = true) :
    applyWrites K (flipRequest grow k p fbId).1 =
      applyWrites K ((frameSettings k p fbId).map Setting.write) := by
  have hflip : (flipRequest grow k p fbId).1 = [(fbSetting k p fbId).write] :=
    (atomicAdd_whole hwhole).2
  rw [hflip]
  refine Writes.applyWrites_skip (frameSettings_nodup hk hp (hK.frame fbId)) (by simp)
    (fun w hw => ?_) fun w hw hrest => ?_
  · rw [List.mem_singleton.mp hw]
    exact List.mem_map_of_mem (mem_frameSettings.mpr (.inl rfl))
  · obtain ⟨s, hs, rfl⟩ := List.mem_map.mp hw
    rcases mem_frameSettings.mp hs with rfl | hs
    · exact (hrest (List.mem_singleton_self _)).elim
    · exact hK.set s hs

end Requests

end CrystallineLattice.Platform
