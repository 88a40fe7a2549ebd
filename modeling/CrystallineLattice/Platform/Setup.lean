import CrystallineLattice.Platform.Atomic

/-!
# Finding a pipeline

`kms_setup` looks for a connector that has modes, a CRTC for it, and a primary
plane for that CRTC.  On the way it is given objects by libdrm and memory, and it
has to give all of them back, on every path.
-/

namespace CrystallineLattice.Platform

/-! ## What is held -/

inductive DrmObject where
  | resources
  | connector (id : UInt32)
  | encoder (id : UInt32)
  | planes
  | plane (id : UInt32)
  | properties (obj : UInt32)
  | property (id : UInt32)
  | propMap (obj : UInt32)
  deriving DecidableEq, Repr

/-- What is held; `none` is that something was given back that was not held. -/
abbrev Held := Option (List DrmObject)

namespace Held

def get (h : Held) (o : DrmObject) : Held := h.map (o :: ·)

def free (h : Held) (o : DrmObject) : Held :=
  h.bind fun l => if o ∈ l then some (l.erase o) else none

def Is (h : Held) (l : List DrmObject) : Prop := ∃ l', h = some l' ∧ l'.Perm l

variable {h : Held} {l : List DrmObject} {o : DrmObject}

theorem Is.get (hl : h.Is l) (o : DrmObject) : (h.get o).Is (o :: l) := by
  obtain ⟨l', rfl, hperm⟩ := hl
  exact ⟨o :: l', rfl, hperm.cons o⟩

theorem Is.free (hl : h.Is (o :: l)) : (h.free o).Is l := by
  obtain ⟨l', rfl, hperm⟩ := hl
  have hmem : o ∈ l' := hperm.mem_iff.mpr List.mem_cons_self
  refine ⟨l'.erase o, if_pos hmem, ?_⟩
  simpa using hperm.erase o

theorem Is.perm {l' : List DrmObject} (hl : h.Is l) (hperm : l.Perm l') : h.Is l' := by
  obtain ⟨held, rfl, hheld⟩ := hl
  exact ⟨held, rfl, hheld.trans hperm⟩

theorem Is.free_behind (l : List DrmObject) {l' : List DrmObject} (hl : h.Is (l ++ o :: l')) :
    (h.free o).Is (l ++ l') :=
  (hl.perm List.perm_middle).free

theorem Is.swap {o' : DrmObject} (hl : h.Is (o :: o' :: l)) : h.Is (o' :: o :: l) :=
  hl.perm (.swap o' o l)

end Held

/-! ## Answers -/

structure ConnectorInfo where
  id : UInt32
  connected : Bool
  modes : List ModeInfo
  encoderId : UInt32
  encoders : List UInt32
  deriving DecidableEq, Repr

structure EncoderInfo where
  crtcId : UInt32
  possibleCrtcs : UInt32
  deriving DecidableEq, Repr

structure PlaneInfo where
  id : UInt32
  possibleCrtcs : UInt32
  deriving DecidableEq, Repr

/--
What the kernel answers: the connectors and CRTCs of the device, each connector,
the connector's current encoder, each encoder and plane, the properties of the
planes that are looked at and then of the three objects that were chosen, and the
mode blob.
-/
structure SetupAnswers where
  resources : Option (List UInt32 × List UInt32)
  connector : UInt32 → Option ConnectorInfo
  current : Option EncoderInfo
  encoder : UInt32 → Option EncoderInfo
  planes : Option (List UInt32)
  plane : UInt32 → Option PlaneInfo
  probe : UInt32 → PropAnswers
  connProps : PropAnswers
  crtcProps : PropAnswers
  planeProps : PropAnswers
  blob : Option UInt32

/-! ## The search -/

/-- `prop_map_load` with the objects it is given; the map itself is held if there is one. -/
def loadMap (h : Held) (obj : UInt32) (a : PropAnswers) : Held × Option PropMap :=
  match a.properties with
  | none => (h, none)
  | some props =>
      let h := h.get (.properties obj)
      if a.memory then
        let h := h.get (.propMap obj)
        let h := props.foldl (fun h p =>
          if (a.name p.1).isSome then (h.get (.property p.1)).free (.property p.1) else h) h
        (h.free (.properties obj), propMapLoad a)
      else (h.free (.properties obj), none)

/-- `prop_map_free`, which does nothing to a map that was not loaded. -/
def propMapFree (h : Held) (obj : UInt32) (m : Option PropMap) : Held :=
  if m.isSome then h.free (.propMap obj) else h

def ConnectorInfo.Usable (c : ConnectorInfo) : Prop := c.connected = true ∧ c.modes ≠ []

instance (c : ConnectorInfo) : Decidable c.Usable := inferInstanceAs (Decidable (_ ∧ _))

def findConnector (a : SetupAnswers) (h : Held) : List UInt32 → Held × Option ConnectorInfo
  | [] => (h, none)
  | id :: ids =>
      match a.connector id with
      | none => findConnector a h ids
      | some c =>
          let h := h.get (.connector c.id)
          if c.Usable then (h, some c) else findConnector a (h.free (.connector c.id)) ids

def ModeInfo.preferred (m : ModeInfo) : Bool := m.type &&& drmModeTypePreferred ≠ 0

def defaultMode (modes : List ModeInfo) : Option ModeInfo :=
  match modes.find? ModeInfo.preferred with
  | some m => some m
  | none => modes.head?

/-- The CRTC that drives the connector now, or 0. -/
def currentCrtc (a : SetupAnswers) (h : Held) (c : ConnectorInfo) : Held × UInt32 :=
  if c.encoderId ≠ 0 then
    match a.current with
    | none => (h, 0)
    | some e => ((h.get (.encoder c.encoderId)).free (.encoder c.encoderId), e.crtcId)
  else (h, 0)

/--
Bit `i` of a mask of CRTCs, which are numbered as the device lists them.  C leaves a
shift by less than 0 or more than 31 undefined; here the amount is taken modulo 32.
-/
def possible (mask : UInt32) (i : Int) : Bool := mask.toNat.testBit (i % 32).toNat

def possibleCrtc (crtcs : List UInt32) (e : EncoderInfo) : UInt32 :=
  match crtcs.zipIdx.find? fun c => possible e.possibleCrtcs c.2 with
  | none => 0
  | some c => c.1

/-- The loop over the encoders ends when there is a CRTC. -/
def firstCrtc (a : SetupAnswers) (crtcs : List UInt32) (h : Held) (crtcId : UInt32) :
    List UInt32 → Held × UInt32
  | [] => (h, crtcId)
  | id :: ids =>
      if crtcId ≠ 0 then (h, crtcId)
      else
        match a.encoder id with
        | none => firstCrtc a crtcs h crtcId ids
        | some e =>
            firstCrtc a crtcs ((h.get (.encoder id)).free (.encoder id)) (possibleCrtc crtcs e) ids

def crtcIndexOf (crtcs : List UInt32) (crtcId : UInt32) : Int :=
  match crtcs.idxOf? crtcId with
  | none => -1
  | some i => i

def drmPlaneTypePrimary : UInt64 := 1

def isPrimary (m : Option PropMap) : Bool :=
  (m.bind fun m => propValue m "type") == some drmPlaneTypePrimary

def findPlane (a : SetupAnswers) (crtcIndex : Int) (h : Held) (planeId : UInt32) :
    List UInt32 → Held × UInt32
  | [] => (h, planeId)
  | id :: ids =>
      if planeId ≠ 0 then (h, planeId)
      else
        match a.plane id with
        | none => findPlane a crtcIndex h planeId ids
        | some p =>
            let h := h.get (.plane p.id)
            if possible p.possibleCrtcs crtcIndex then
              let (h, m) := loadMap h p.id (a.probe p.id)
              findPlane a crtcIndex ((propMapFree h p.id m).free (.plane p.id))
                (if isPrimary m then p.id else planeId) ids
            else findPlane a crtcIndex (h.free (.plane p.id)) planeId ids

/-! ## The whole -/

/-- `kms_finish`: the mode blob and the maps are given back, those that there are. -/
def kmsFinish (dev : Drm) (h : Held) (k : Kms) (conn crtc plane : Option PropMap) : Drm × Held :=
  let dev := if k.modeBlob ≠ 0 then { dev with blobs := dev.blobs.erase k.modeBlob } else dev
  let h := propMapFree h k.connectorId conn
  let h := propMapFree h k.crtcId crtc
  (dev, propMapFree h k.planeId plane)

structure SetupResult where
  dev : Drm
  held : Held
  target : Option (Kms × KmsProps)

def giveUp (dev : Drm) (h : Held) (conn : ConnectorInfo) : SetupResult :=
  ⟨dev, (h.free (.connector conn.id)).free .resources, none⟩

def loadNext (r : Held × Option PropMap) (obj : UInt32) (a : PropAnswers) :
    Held × Option PropMap :=
  if r.2.isSome then loadMap r.1 obj a else (r.1, none)

/-- The end of `kms_setup`: the property maps, up to the first that fails, and the mode blob. -/
def loadTarget (dev : Drm) (h : Held) (a : SetupAnswers) (conn : ConnectorInfo) (k : Kms) :
    SetupResult :=
  let conn' := loadMap h k.connectorId a.connProps
  let crtc := loadNext conn' k.crtcId a.crtcProps
  let plane := loadNext crtc k.planeId a.planeProps
  let h := (plane.1.free (.connector conn.id)).free .resources
  match conn'.2, crtc.2, plane.2, a.blob with
  | some conn, some crtc, some plane, some blob =>
      ⟨{ dev with blobs := blob :: dev.blobs }, h,
        some ({ k with modeBlob := blob }, ⟨conn, crtc, plane⟩)⟩
  | conn, crtc, plane, _ =>
      let (dev, h) := kmsFinish dev h k conn crtc plane
      ⟨dev, h, none⟩

def kmsSetup (dev : Drm) (a : SetupAnswers) : SetupResult :=
  match a.resources with
  | none => ⟨dev, some [], none⟩
  | some (connectors, crtcs) =>
      let h : Held := some [.resources]
      match findConnector a h connectors with
      | (h, none) => ⟨dev, h.free .resources, none⟩
      | (h, some conn) =>
          match defaultMode conn.modes with
          | none => giveUp dev h conn
          | some mode =>
              let (h, current) := currentCrtc a h conn
              let (h, crtcId) := firstCrtc a crtcs h current conn.encoders
              if crtcId = 0 then giveUp dev h conn
              else
                match a.planes with
                | none => giveUp dev h conn
                | some planes =>
                    let (h, planeId) :=
                      findPlane a (crtcIndexOf crtcs crtcId) (h.get .planes) 0 planes
                    let h := h.free .planes
                    if planeId = 0 then giveUp dev h conn
                    else loadTarget dev h a conn ⟨conn.id, crtcId, planeId, mode, 0⟩

/-! ## Everything is given back -/

section Holding

variable {h : Held} {l : List DrmObject} {a : SetupAnswers}

theorem Held.Is.glance (hl : h.Is l) (o : DrmObject) : ((h.get o).free o).Is l := (hl.get o).free

def withMap (obj : UInt32) (m : Option PropMap) (l : List DrmObject) : List DrmObject :=
  if m.isSome then .propMap obj :: l else l

theorem loadMap_is (hl : h.Is l) (obj : UInt32) (a : PropAnswers) :
    (loadMap h obj a).1.Is (withMap obj (loadMap h obj a).2 l) := by
  unfold loadMap propMapLoad
  cases hprops : a.properties with
  | none => exact hl
  | some props =>
      dsimp only
      cases hmemory : a.memory with
      | false => exact hl.glance _
      | true =>
          have hloop (props : List (UInt32 × UInt64)) {h : Held} {l : List DrmObject}
              (hl : h.Is l) : (props.foldl (fun h p =>
                if (a.name p.1).isSome then (h.get (.property p.1)).free (.property p.1)
                else h) h).Is l := by
            refine List.foldlRecOn (motive := fun h : Held => h.Is l) _ _ hl fun h hh p _ => ?_
            split
            · exact hh.glance _
            · exact hh
          exact (hloop props ((hl.get (.properties obj)).get (.propMap obj))).swap.free

theorem propMapFree_is {obj : UInt32} {m : Option PropMap} (hl : h.Is (withMap obj m l)) :
    (propMapFree h obj m).Is l := by
  unfold propMapFree
  cases m with
  | none => exact hl
  | some m => exact hl.free

theorem findConnector_is (hl : h.Is l) (ids : List UInt32) :
    match findConnector a h ids with
    | (h', none) => h'.Is l
    | (h', some c) => h'.Is (.connector c.id :: l) := by
  induction ids generalizing h with
  | nil => exact hl
  | cons id ids ih =>
      unfold findConnector
      cases a.connector id with
      | none => exact ih hl
      | some c =>
          dsimp only
          by_cases husable : c.Usable
          · rw [if_pos husable]
            exact hl.get _
          · rw [if_neg husable]
            exact ih (hl.glance _)

theorem currentCrtc_is (hl : h.Is l) (c : ConnectorInfo) : (currentCrtc a h c).1.Is l := by
  unfold currentCrtc
  split
  · cases a.current with
    | none => exact hl
    | some e => exact hl.glance _
  · exact hl

theorem firstCrtc_is (hl : h.Is l) (crtcs : List UInt32) (crtcId : UInt32) (ids : List UInt32) :
    (firstCrtc a crtcs h crtcId ids).1.Is l := by
  induction ids generalizing h crtcId with
  | nil => exact hl
  | cons id ids ih =>
      unfold firstCrtc
      split
      · exact hl
      · cases a.encoder id with
        | none => exact ih hl crtcId
        | some e => exact ih (hl.glance _) _

theorem findPlane_is (hl : h.Is l) (crtcIndex : Int) (planeId : UInt32)
    (ids : List UInt32) : (findPlane a crtcIndex h planeId ids).1.Is l := by
  induction ids generalizing h planeId with
  | nil => exact hl
  | cons id ids ih =>
      unfold findPlane
      split
      · exact hl
      · cases a.plane id with
        | none => exact ih hl planeId
        | some p =>
            dsimp only
            split
            · exact ih (propMapFree_is (loadMap_is (hl.get _) p.id (a.probe p.id))).free _
            · exact ih (hl.glance _) _

def mapsOf (k : Kms) (conn crtc plane : Option PropMap) (l : List DrmObject) : List DrmObject :=
  withMap k.planeId plane (withMap k.crtcId crtc (withMap k.connectorId conn l))

theorem mapsOf_append (k : Kms) (conn crtc plane : Option PropMap) (l : List DrmObject) :
    mapsOf k conn crtc plane l = mapsOf k conn crtc plane [] ++ l := by
  cases conn <;> cases crtc <;> cases plane <;> rfl

theorem kmsFinish_is (dev : Drm) {k : Kms} {conn crtc plane : Option PropMap}
    (hl : h.Is (mapsOf k conn crtc plane [])) : (kmsFinish dev h k conn crtc plane).2.Is [] := by
  refine propMapFree_is (propMapFree_is (propMapFree_is ?_))
  have hreversed : (mapsOf k conn crtc plane []).Perm
      (withMap k.connectorId conn (withMap k.crtcId crtc (withMap k.planeId plane []))) := by
    refine (List.reverse_perm _).symm.trans (.of_eq ?_)
    cases conn <;> cases crtc <;> cases plane <;> rfl
  exact hl.perm hreversed

/-- At the end nothing is held but the maps of the target, and there is one blob more. -/
def SetupResult.Tidy (dev : Drm) (r : SetupResult) : Prop :=
  match r.target with
  | none => r.held.Is [] ∧ r.dev = dev
  | some (k, p) => r.held.Is (mapsOf k (some p.conn) (some p.crtc) (some p.plane) []) ∧
      r.dev = { dev with blobs := k.modeBlob :: dev.blobs }

theorem giveUp_tidy (dev : Drm) {conn : ConnectorInfo}
    (hl : h.Is [.connector conn.id, .resources]) : (giveUp dev h conn).Tidy dev :=
  ⟨hl.free.free, rfl⟩

theorem loadNext_is {r : Held × Option PropMap} (hl : r.1.Is l) (obj : UInt32)
    (a : PropAnswers) : (loadNext r obj a).1.Is (withMap obj (loadNext r obj a).2 l) := by
  unfold loadNext
  split
  · exact loadMap_is hl obj a
  · exact hl

theorem loadTarget_tidy (dev : Drm) {conn : ConnectorInfo} {k : Kms} (hblob : k.modeBlob = 0)
    (hl : h.Is [.connector conn.id, .resources]) : (loadTarget dev h a conn k).Tidy dev := by
  have hplane := loadNext_is (loadNext_is (loadMap_is hl k.connectorId a.connProps) k.crtcId
    a.crtcProps) k.planeId a.planeProps
  unfold loadTarget
  dsimp only
  generalize loadMap h k.connectorId a.connProps = conn' at hplane ⊢
  generalize loadNext conn' k.crtcId a.crtcProps = crtc at hplane ⊢
  generalize loadNext crtc k.planeId a.planeProps = plane at hplane ⊢
  have hmaps : ((plane.1.free (.connector conn.id)).free .resources).Is
      (mapsOf k conn'.2 crtc.2 plane.2 []) := by
    have hall : plane.1.Is
        (mapsOf k conn'.2 crtc.2 plane.2 [] ++ [.connector conn.id, .resources]) :=
      (mapsOf_append k conn'.2 crtc.2 plane.2 _) ▸ hplane
    simpa using (hall.free_behind _).free_behind
  generalize (plane.1.free (.connector conn.id)).free .resources = h' at hmaps ⊢
  split
  · rename_i heq₁ heq₂ heq₃ _
    rw [heq₁, heq₂, heq₃] at hmaps
    exact ⟨hmaps, rfl⟩
  · exact ⟨kmsFinish_is dev hmaps, if_neg (not_not.mpr hblob)⟩

/-- Whatever the kernel answers, `kms_setup` gives back all that it was given on the way. -/
theorem kmsSetup_tidy (dev : Drm) (a : SetupAnswers) : (kmsSetup dev a).Tidy dev := by
  unfold kmsSetup
  cases a.resources with
  | none => exact ⟨⟨[], rfl, .refl _⟩, rfl⟩
  | some res =>
      obtain ⟨connectors, crtcs⟩ := res
      have hstart : Held.Is (some [.resources]) [.resources] := ⟨_, rfl, .refl _⟩
      have hconn := findConnector_is (a := a) hstart connectors
      dsimp only
      generalize findConnector a (some [.resources]) connectors = r at hconn ⊢
      obtain ⟨h, _ | conn⟩ := r
      · exact ⟨hconn.free, rfl⟩
      · dsimp only at hconn ⊢
        cases defaultMode conn.modes with
        | none => exact giveUp_tidy dev hconn
        | some mode =>
            have hcrtc := firstCrtc_is (a := a) (currentCrtc_is (a := a) hconn conn) crtcs
              (currentCrtc a h conn).2 conn.encoders
            dsimp only
            generalize firstCrtc a crtcs (currentCrtc a h conn).1 (currentCrtc a h conn).2
              conn.encoders = r at hcrtc ⊢
            split
            · exact giveUp_tidy dev hcrtc
            · cases a.planes with
              | none => exact giveUp_tidy dev hcrtc
              | some planes =>
                  have hplane := (findPlane_is (a := a) (hcrtc.get .planes)
                    (crtcIndexOf crtcs r.2) 0 planes).free
                  dsimp only
                  split
                  · exact giveUp_tidy dev hplane
                  · exact loadTarget_tidy dev rfl hplane

end Holding

/-! ## The pipeline -/

/-- The connector is the first one that is connected and has modes. -/
def FirstUsable (a : SetupAnswers) (connectors : List UInt32) (conn : ConnectorInfo) : Prop :=
  ∃ before id after, connectors = before ++ id :: after ∧ a.connector id = some conn ∧
    conn.Usable ∧ ∀ id' ∈ before, ∀ c, a.connector id' = some c → ¬ c.Usable

/-- The mode is the first preferred one, or the first of all if none is preferred. -/
def DefaultMode (modes : List ModeInfo) (m : ModeInfo) : Prop :=
  ∃ before after, modes = before ++ m :: after ∧ (∀ m' ∈ before, m'.preferred = false) ∧
    (m.preferred = true ∨ before = [] ∧ ∀ m' ∈ modes, m'.preferred = false)

/-- The connector is driven by the CRTC already, or one of its encoders could be. -/
def Drives (a : SetupAnswers) (crtcs : List UInt32) (conn : ConnectorInfo) (crtcId : UInt32) :
    Prop :=
  (∃ e, a.current = some e ∧ e.crtcId = crtcId) ∨
    ∃ id ∈ conn.encoders, ∃ e, ∃ i : Nat, a.encoder id = some e ∧ crtcs[i]? = some crtcId ∧
      possible e.possibleCrtcs i = true

/-- The plane is a primary plane of the CRTC with the index. -/
def Carries (a : SetupAnswers) (planes : List UInt32) (crtcIndex : Int) (planeId : UInt32) :
    Prop :=
  ∃ id ∈ planes, ∃ p, a.plane id = some p ∧ p.id = planeId ∧
    possible p.possibleCrtcs crtcIndex = true ∧
    ∃ m, propMapLoad (a.probe p.id) = some m ∧ propValue m "type" = some drmPlaneTypePrimary

/-- What the search ends with: a plane for the index that was computed for the CRTC. -/
structure Found (a : SetupAnswers) (k : Kms) (p : KmsProps) : Prop where
  path : ∃ connectors crtcs planes conn, a.resources = some (connectors, crtcs) ∧
    a.planes = some planes ∧ FirstUsable a connectors conn ∧ k.connectorId = conn.id ∧
    DefaultMode conn.modes k.mode ∧ k.crtcId ≠ 0 ∧ Drives a crtcs conn k.crtcId ∧
    k.planeId ≠ 0 ∧ Carries a planes (crtcIndexOf crtcs k.crtcId) k.planeId
  maps : propMapLoad a.connProps = some p.conn ∧ propMapLoad a.crtcProps = some p.crtc ∧
    propMapLoad a.planeProps = some p.plane
  blob : a.blob = some k.modeBlob

section Search

variable {h : Held} {a : SetupAnswers}

theorem findConnector_first {ids : List UInt32} {conn : ConnectorInfo}
    (hfind : (findConnector a h ids).2 = some conn) : FirstUsable a ids conn := by
  induction ids generalizing h with
  | nil => cases hfind
  | cons id ids ih =>
      unfold findConnector at hfind
      have hskip (hskipped : ∀ c, a.connector id = some c → ¬ c.Usable)
          (hrest : FirstUsable a ids conn) : FirstUsable a (id :: ids) conn := by
        obtain ⟨before, id', after, rfl, hconn, husable, hbefore⟩ := hrest
        refine ⟨id :: before, id', after, rfl, hconn, husable, fun id'' hmem => ?_⟩
        rcases List.mem_cons.mp hmem with rfl | hmem
        · exact hskipped
        · exact hbefore id'' hmem
      cases hc : a.connector id with
      | none =>
          rw [hc] at hfind
          exact hskip (fun c h => nomatch hc.symm.trans h) (ih hfind)
      | some c =>
          rw [hc] at hfind
          dsimp only at hfind
          by_cases husable : c.Usable
          · rw [if_pos husable] at hfind
            cases hfind
            exact ⟨[], id, ids, rfl, hc, husable, by simp⟩
          · rw [if_neg husable] at hfind
            refine hskip (fun c' h => ?_) (ih hfind)
            cases hc.symm.trans h
            exact husable

theorem defaultMode_default {modes : List ModeInfo} {m : ModeInfo}
    (hm : defaultMode modes = some m) : DefaultMode modes m := by
  unfold defaultMode at hm
  cases hfind : modes.find? ModeInfo.preferred with
  | some m' =>
      rw [hfind] at hm
      cases hm
      obtain ⟨hpreferred, before, after, hmodes, hbefore⟩ := List.find?_eq_some_iff_append.mp hfind
      exact ⟨before, after, hmodes, fun m' h => by simpa using hbefore m' h, .inl hpreferred⟩
  | none =>
      rw [hfind] at hm
      obtain ⟨rest, rfl⟩ : ∃ rest, modes = m :: rest := by
        cases modes with
        | nil => cases hm
        | cons m' rest =>
            cases hm
            exact ⟨rest, rfl⟩
      have hnone : ∀ m' ∈ m :: rest, m'.preferred = false := by
        simpa using List.find?_eq_none.mp hfind
      exact ⟨[], rest, rfl, by simp, .inr ⟨rfl, hnone⟩⟩

theorem possibleCrtc_possible {crtcs : List UInt32} {e : EncoderInfo}
    (hne : possibleCrtc crtcs e ≠ 0) : ∃ i : Nat, crtcs[i]? = some (possibleCrtc crtcs e) ∧
      possible e.possibleCrtcs i = true := by
  unfold possibleCrtc at hne ⊢
  cases hfind : crtcs.zipIdx.find? fun c => possible e.possibleCrtcs c.2 with
  | none =>
      rw [hfind] at hne
      exact (hne rfl).elim
  | some c =>
      have hmem := List.mem_of_find?_eq_some hfind
      exact ⟨c.2, List.mem_zipIdx_iff_getElem?.mp hmem, by simpa using List.find?_some hfind⟩

theorem currentCrtc_drives (crtcs : List UInt32) {conn : ConnectorInfo}
    (hne : (currentCrtc a h conn).2 ≠ 0) : Drives a crtcs conn (currentCrtc a h conn).2 := by
  unfold currentCrtc at hne ⊢
  by_cases hid : conn.encoderId ≠ 0
  · rw [if_pos hid] at hne ⊢
    cases he : a.current with
    | none =>
        rw [he] at hne
        exact (hne rfl).elim
    | some e => exact .inl ⟨e, he, rfl⟩
  · rw [if_neg hid] at hne
    exact (hne rfl).elim

theorem firstCrtc_drives {crtcs : List UInt32} {conn : ConnectorInfo} {crtcId : UInt32}
    {ids : List UInt32} (hids : ids ⊆ conn.encoders)
    (hcurrent : crtcId ≠ 0 → Drives a crtcs conn crtcId)
    (hne : (firstCrtc a crtcs h crtcId ids).2 ≠ 0) :
    Drives a crtcs conn (firstCrtc a crtcs h crtcId ids).2 := by
  induction ids generalizing h crtcId with
  | nil => exact hcurrent hne
  | cons id ids ih =>
      obtain ⟨hid, hids⟩ := List.cons_subset.mp hids
      unfold firstCrtc at hne ⊢
      by_cases hfound : crtcId ≠ 0
      · rw [if_pos hfound]
        exact hcurrent hfound
      · rw [if_neg hfound] at hne ⊢
        cases he : a.encoder id with
        | none =>
            rw [he] at hne
            exact ih hids hcurrent hne
        | some e =>
            rw [he] at hne
            refine ih hids (fun hpossible => ?_) hne
            obtain ⟨i, hi, hbit⟩ := possibleCrtc_possible hpossible
            exact .inr ⟨id, hid, e, i, he, hi, hbit⟩

theorem loadMap_snd (h : Held) (obj : UInt32) (a : PropAnswers) :
    (loadMap h obj a).2 = propMapLoad a := by
  unfold loadMap
  cases hprops : a.properties with
  | none => simp [propMapLoad, hprops]
  | some props =>
      cases hmemory : a.memory with
      | false => simp [propMapLoad, hprops, hmemory]
      | true => rfl

theorem exists_of_isPrimary {m : Option PropMap} (hm : isPrimary m = true) :
    ∃ m', m = some m' ∧ propValue m' "type" = some drmPlaneTypePrimary := by
  cases m with
  | none => exact absurd hm (by decide)
  | some m => exact ⟨m, rfl, by simpa [isPrimary] using hm⟩

theorem findPlane_carries {planes : List UInt32} {crtcIndex : Int} {planeId : UInt32}
    {ids : List UInt32} (hids : ids ⊆ planes)
    (hcurrent : planeId ≠ 0 → Carries a planes crtcIndex planeId)
    (hne : (findPlane a crtcIndex h planeId ids).2 ≠ 0) :
    Carries a planes crtcIndex (findPlane a crtcIndex h planeId ids).2 := by
  induction ids generalizing h planeId with
  | nil => exact hcurrent hne
  | cons id ids ih =>
      obtain ⟨hid, hids⟩ := List.cons_subset.mp hids
      unfold findPlane at hne ⊢
      by_cases hfound : planeId ≠ 0
      · rw [if_pos hfound]
        exact hcurrent hfound
      · rw [if_neg hfound] at hne ⊢
        cases hp : a.plane id with
        | none =>
            rw [hp] at hne
            exact ih hids hcurrent hne
        | some p =>
            simp only [hp] at hne ⊢
            by_cases hbit : possible p.possibleCrtcs crtcIndex = true
            · rw [if_pos hbit] at hne ⊢
              refine ih hids (fun hchosen => ?_) hne
              by_cases hprimary : isPrimary (loadMap (h.get (.plane p.id)) p.id (a.probe p.id)).2
              · rw [if_pos hprimary]
                obtain ⟨m, hm, htype⟩ := exists_of_isPrimary hprimary
                rw [loadMap_snd] at hm
                exact ⟨id, hid, p, hp, rfl, hbit, m, hm, htype⟩
              · rw [if_neg hprimary] at hchosen
                exact (hfound hchosen).elim
            · rw [if_neg hbit] at hne ⊢
              exact ih hids hcurrent hne

theorem loadNext_snd {r : Held × Option PropMap} {obj : UInt32} {a : PropAnswers} {m : PropMap}
    (hm : (loadNext r obj a).2 = some m) : propMapLoad a = some m := by
  unfold loadNext at hm
  split at hm
  · rwa [loadMap_snd] at hm
  · cases hm

theorem loadTarget_target {dev : Drm} {conn : ConnectorInfo} {k k' : Kms} {p : KmsProps}
    (htarget : (loadTarget dev h a conn k).target = some (k', p)) :
    (∃ blob, a.blob = some blob ∧ k' = { k with modeBlob := blob }) ∧
      propMapLoad a.connProps = some p.conn ∧ propMapLoad a.crtcProps = some p.crtc ∧
      propMapLoad a.planeProps = some p.plane := by
  unfold loadTarget at htarget
  dsimp only at htarget
  split at htarget
  · rename_i hconn hcrtc hplane hblob
    cases htarget
    exact ⟨⟨_, hblob, rfl⟩, loadMap_snd .. ▸ hconn, loadNext_snd hcrtc, loadNext_snd hplane⟩
  · cases htarget

theorem kmsSetup_found {dev : Drm} {k : Kms} {p : KmsProps}
    (htarget : (kmsSetup dev a).target = some (k, p)) : Found a k p := by
  unfold kmsSetup at htarget
  cases hres : a.resources with
  | none =>
      rw [hres] at htarget
      cases htarget
  | some res =>
      obtain ⟨connectors, crtcs⟩ := res
      rw [hres] at htarget
      have hfirst (conn : ConnectorInfo) :
          (findConnector a (some [.resources]) connectors).2 = some conn →
            FirstUsable a connectors conn := findConnector_first
      dsimp only at htarget
      generalize findConnector a (some [.resources]) connectors = r at hfirst htarget
      obtain ⟨h, _ | conn⟩ := r
      · cases htarget
      · dsimp only at htarget
        cases hmode : defaultMode conn.modes with
        | none =>
            rw [hmode] at htarget
            cases htarget
        | some mode =>
            rw [hmode] at htarget
            have hdrives := firstCrtc_drives (a := a) (h := (currentCrtc a h conn).1)
              (List.Subset.refl conn.encoders) (currentCrtc_drives (h := h) crtcs)
            dsimp only at htarget
            generalize firstCrtc a crtcs (currentCrtc a h conn).1 (currentCrtc a h conn).2
              conn.encoders = r at hdrives htarget
            by_cases hcrtc : r.2 = 0
            · rw [if_pos hcrtc] at htarget
              cases htarget
            · rw [if_neg hcrtc] at htarget
              cases hplanes : a.planes with
              | none =>
                  rw [hplanes] at htarget
                  cases htarget
              | some planes =>
                  rw [hplanes] at htarget
                  have hcarries : _ → Carries a planes (crtcIndexOf crtcs r.2)
                      (findPlane a (crtcIndexOf crtcs r.2) (r.1.get .planes) 0 planes).2 :=
                    findPlane_carries (List.Subset.refl planes) fun h => (h rfl).elim
                  dsimp only at htarget
                  by_cases hplane :
                      (findPlane a (crtcIndexOf crtcs r.2) (r.1.get .planes) 0 planes).2 = 0
                  · rw [if_pos hplane] at htarget
                    cases htarget
                  · rw [if_neg hplane] at htarget
                    obtain ⟨⟨blob, hblob, rfl⟩, hmaps⟩ := loadTarget_target htarget
                    exact ⟨⟨connectors, crtcs, planes, conn, hres, hplanes, hfirst conn rfl, rfl,
                      defaultMode_default hmode, hcrtc, hdrives hcrtc, hplane, hcarries hplane⟩,
                      hmaps, hblob⟩

end Search

/-! ## Devices as they are -/

/--
At most 32 CRTCs, among them the one that drives the connector, and no id twice in
the list of an object's properties.
-/
structure SetupAnswers.Orderly (a : SetupAnswers) : Prop where
  crtcs : ∀ connectors crtcs, a.resources = some (connectors, crtcs) → crtcs.length ≤ 32 ∧
    ∀ e, a.current = some e → e.crtcId ≠ 0 → e.crtcId ∈ crtcs
  properties : ∀ p ∈ [a.connProps, a.crtcProps, a.planeProps], ∀ props, p.properties = some props →
    (props.map Prod.fst).Nodup

/--
A target that a commit can work with: a connector with its mode, a CRTC of the device
that can drive it, a primary plane that the CRTC can show, their properties and a blob.
-/
structure Pipeline (a : SetupAnswers) (k : Kms) (p : KmsProps) : Prop where
  path : ∃ connectors crtcs planes conn, a.resources = some (connectors, crtcs) ∧
    a.planes = some planes ∧ FirstUsable a connectors conn ∧ k.connectorId = conn.id ∧
    DefaultMode conn.modes k.mode ∧ Drives a crtcs conn k.crtcId ∧
    ∃ i : Nat, i < 32 ∧ crtcs[i]? = some k.crtcId ∧ Carries a planes i k.planeId
  maps : propMapLoad a.connProps = some p.conn ∧ propMapLoad a.crtcProps = some p.crtc ∧
    propMapLoad a.planeProps = some p.plane
  distinct : p.Distinct
  blob : a.blob = some k.modeBlob

theorem getElem?_of_mem {crtcs : List UInt32} {crtcId : UInt32} (hmem : crtcId ∈ crtcs) :
    ∃ i : Nat, crtcIndexOf crtcs crtcId = i ∧ crtcs[i]? = some crtcId := by
  cases hindex : crtcs.idxOf? crtcId with
  | none => exact (List.idxOf?_eq_none_iff.mp hindex hmem).elim
  | some i =>
      obtain ⟨hlt, heq, -⟩ := List.findIdx?_eq_some_iff_getElem.mp hindex
      refine ⟨i, by rw [crtcIndexOf, hindex], ?_⟩
      rw [List.getElem?_eq_getElem hlt]
      exact congrArg some (by simpa using heq)

theorem Found.pipeline {a : SetupAnswers} {k : Kms} {p : KmsProps} (h : Found a k p)
    (ha : a.Orderly) : Pipeline a k p where
  path := by
    obtain ⟨connectors, crtcs, planes, conn, hres, hplanes, hfirst, hid, hmode, hcrtc, hdrives, -,
      hcarries⟩ := h.path
    obtain ⟨hfew, hlisted⟩ := ha.crtcs connectors crtcs hres
    have hmem : k.crtcId ∈ crtcs := by
      rcases hdrives with ⟨e, he, heq⟩ | ⟨-, -, -, i, -, hi, -⟩
      · rw [← heq] at hcrtc ⊢
        exact hlisted e he hcrtc
      · exact List.mem_of_getElem? hi
    obtain ⟨i, hindex, hi⟩ := getElem?_of_mem hmem
    have hlt : i < crtcs.length := (List.getElem?_eq_some_iff.mp hi).1
    rw [hindex] at hcarries
    exact ⟨connectors, crtcs, planes, conn, hres, hplanes, hfirst, hid, hmode, hdrives, i,
      by omega, hi, hcarries⟩
  maps := h.maps
  distinct := ⟨propMapLoad_nodup h.maps.1 (ha.properties _ (by simp)),
    propMapLoad_nodup h.maps.2.1 (ha.properties _ (by simp)),
    propMapLoad_nodup h.maps.2.2 (ha.properties _ (by simp))⟩
  blob := h.blob

/--
Whatever the kernel answers of a device with at most 32 CRTCs, among them the one that
is reported to drive the connector: `kms_setup` gives back all that it was given on the
way, on its error paths too; and a target that it finds is a pipeline that can show a
picture.
-/
theorem setup_tidy_and_whole (dev : Drm) {a : SetupAnswers} (ha : a.Orderly) :
    (kmsSetup dev a).Tidy dev ∧ ∀ target ∈ (kmsSetup dev a).target, Pipeline a target.1 target.2 :=
  ⟨kmsSetup_tidy dev a, fun _ htarget => (kmsSetup_found htarget).pipeline ha⟩

/-- A device with one of each, whose CRTC drives the connector already. -/
def panelDevice : SetupAnswers where
  resources := some ([1], [2])
  connector _ := some ⟨1, true, [⟨148500, 1920, 2200, 1080, 1125, 60, 0, 0⟩], 3, [3]⟩
  current := some ⟨2, 1⟩
  encoder _ := some ⟨2, 1⟩
  planes := some [4]
  plane _ := some ⟨4, 1⟩
  probe _ := ⟨some [(8, drmPlaneTypePrimary)], true, fun _ => some "type"⟩
  connProps := ⟨some [(20, 0)], true, fun _ => some "CRTC_ID"⟩
  crtcProps := ⟨some [(21, 0)], true, fun _ => some "ACTIVE"⟩
  planeProps := ⟨some [(8, drmPlaneTypePrimary)], true, fun _ => some "type"⟩
  blob := some 5

theorem panelDevice_orderly : panelDevice.Orderly where
  crtcs := by
    rintro connectors crtcs ⟨⟩
    exact ⟨by decide, fun e he _ => by cases he; decide⟩
  properties := by
    intro p hp props hprops
    simp only [panelDevice, List.mem_cons, List.not_mem_nil, or_false] at hp
    rcases hp with rfl | rfl | rfl <;> cases hprops <;> decide

theorem setup_tidy_and_whole_panelDevice :
    (kmsSetup ⟨[], [], [], []⟩ panelDevice).Tidy ⟨[], [], [], []⟩ ∧
      ∀ target ∈ (kmsSetup ⟨[], [], [], []⟩ panelDevice).target,
        Pipeline panelDevice target.1 target.2 :=
  setup_tidy_and_whole _ panelDevice_orderly

/-- The CRTC, the plane and the blob of the device are found. -/
example : (kmsSetup ⟨[], [], [], []⟩ panelDevice).target.map (fun target =>
    (target.1.crtcId, target.1.planeId, target.1.modeBlob)) = some (2, 4, 5) := by decide +kernel

end CrystallineLattice.Platform
