import CrystallineLattice.Platform.Setup

/-!
# Kernel objects and their records

A framebuffer and a modeset target are records of kernel objects.  The functions
of `platform.c` keep them so: an object is made and recorded, or given up and
forgotten, on error paths too.
-/

namespace CrystallineLattice.Platform

instance : Append Drm :=
  ⟨fun d d' => ⟨d.blobs ++ d'.blobs, d.fbs ++ d'.fbs, d.handles ++ d'.handles, d.maps ++ d'.maps⟩⟩

theorem Drm.append_def (d d' : Drm) : d ++ d' =
    ⟨d.blobs ++ d'.blobs, d.fbs ++ d'.fbs, d.handles ++ d'.handles, d.maps ++ d'.maps⟩ := rfl

structure Drm.Same (d d' : Drm) : Prop where
  blobs : d.blobs.Perm d'.blobs
  fbs : d.fbs.Perm d'.fbs
  handles : d.handles.Perm d'.handles
  maps : d.maps.Perm d'.maps

namespace Drm.Same

variable {d d' d'' : Drm}

theorem refl (d : Drm) : d.Same d := ⟨.refl _, .refl _, .refl _, .refl _⟩

theorem trans (h : d.Same d') (h' : d'.Same d'') : d.Same d'' where
  blobs := h.blobs.trans h'.blobs
  fbs := h.fbs.trans h'.fbs
  handles := h.handles.trans h'.handles
  maps := h.maps.trans h'.maps

theorem symm (h : d.Same d') : d'.Same d :=
  ⟨h.blobs.symm, h.fbs.symm, h.handles.symm, h.maps.symm⟩

theorem append_left (d : Drm) (h : d'.Same d'') : (d ++ d').Same (d ++ d'') where
  blobs := h.blobs.append_left d.blobs
  fbs := h.fbs.append_left d.fbs
  handles := h.handles.append_left d.handles
  maps := h.maps.append_left d.maps

theorem left_comm (d d' d'' : Drm) : (d ++ (d' ++ d'')).Same (d' ++ (d ++ d'')) where
  blobs := List.perm_append_comm_assoc ..
  fbs := List.perm_append_comm_assoc ..
  handles := List.perm_append_comm_assoc ..
  maps := List.perm_append_comm_assoc ..

end Drm.Same

/-- The object that an id names: 0 names none. -/
def named (id : UInt32) : List UInt32 := if id ≠ 0 then [id] else []

def DumbFb.objects (fb : DumbFb) : Drm where
  blobs := []
  fbs := named fb.fbId
  handles := named fb.handle
  maps :=
    match fb.map with
    | .mapping base => [(base, fb.size)]
    | _ => []

def Kms.objects (k : Kms) : Drm := ⟨named k.modeBlob, [], [], []⟩

/-- The kernel gives no object the number 0. -/
structure FbAnswers.Nonzero (a : FbAnswers) : Prop where
  handle : ∀ create ∈ a.createDumb, create.handle ≠ 0
  fb : ∀ id ∈ a.addFb2, id ≠ 0

section Records

variable {dev rest : Drm}

theorem named_of_ne {id : UInt32} (h : id ≠ 0) : named id = [id] := if_pos h

theorem perm_of_erase {α : Type} [BEq α] [LawfulBEq α] {l r : List α} {x : α}
    (h : l.Perm (x :: r)) : (l.erase x).Perm r := by
  have herased := h.erase x
  rwa [List.erase_cons_head] at herased

theorem perm_of_named {l r : List UInt32} {id : UInt32} (h : l.Perm (named id ++ r)) :
    (if id ≠ 0 then l.erase id else l).Perm r := by
  unfold named at h
  split
  · rw [if_pos ‹_›] at h
    exact perm_of_erase h
  · rwa [if_neg ‹_›] at h

theorem dumbFbDestroy_dev (dev : Drm) (fb : DumbFb) : (dumbFbDestroy dev fb).1 =
    { blobs := dev.blobs
      fbs := if fb.fbId ≠ 0 then dev.fbs.erase fb.fbId else dev.fbs
      handles := if fb.handle ≠ 0 then dev.handles.erase fb.handle else dev.handles
      maps :=
        match fb.map with
        | .mapping base => dev.maps.erase (base, fb.size)
        | _ => dev.maps } := by
  unfold dumbFbDestroy
  cases fb.map <;> dsimp only <;> split <;> split <;> rfl

theorem dumbFbDestroy_same {fb : DumbFb} (h : dev.Same (fb.objects ++ rest)) :
    (dumbFbDestroy dev fb).1.Same rest := by
  rw [dumbFbDestroy_dev]
  refine ⟨h.blobs, perm_of_named h.fbs, perm_of_named h.handles, ?_⟩
  have hmaps := h.maps
  simp only [Drm.append_def, DumbFb.objects] at hmaps
  cases hmap : fb.map with
  | mapping base =>
      rw [hmap] at hmaps
      exact perm_of_erase hmaps
  | null => simpa [hmap] using hmaps
  | failed => simpa [hmap] using hmaps

theorem dumbFbAbandon_same {fb : DumbFb} (h : dev.Same (fb.objects ++ rest)) :
    (dumbFbAbandon dev fb).dev.Same ((dumbFbAbandon dev fb).fb.objects ++ rest) :=
  dumbFbDestroy_same h

theorem dumbFbCreate_same {a : FbAnswers} (ha : a.Nonzero) (dev : Drm) (w h : Int) :
    (dumbFbCreate dev a w h).dev.Same ((dumbFbCreate dev a w h).fb.objects ++ dev) := by
  unfold dumbFbCreate
  cases hcreate : a.createDumb with
  | none => exact .refl dev
  | some create =>
      have hhandle := named_of_ne (ha.handle create hcreate)
      cases hadd : a.addFb2 with
      | none =>
          refine dumbFbAbandon_same ?_
          simp only [Drm.append_def, DumbFb.objects, hhandle]
          exact .refl _
      | some id =>
          have hid := named_of_ne (ha.fb id hadd)
          dsimp only
          split
          · cases a.mmap with
            | none =>
                refine dumbFbAbandon_same ?_
                simp only [Drm.append_def, DumbFb.objects, hhandle, hid]
                exact .refl _
            | some base =>
                simp only [Drm.append_def, DumbFb.objects, hhandle, hid]
                exact .refl _
          · refine dumbFbAbandon_same ?_
            simp only [Drm.append_def, DumbFb.objects, hhandle, hid]
            exact .refl _

theorem dumbFbCreate_failed (dev : Drm) (a : FbAnswers) (w h : Int)
    (hfailed : (dumbFbCreate dev a w h).ok = false) :
    (dumbFbCreate dev a w h).fb.objects = ⟨[], [], [], []⟩ := by
  unfold dumbFbCreate at hfailed ⊢
  cases hcreate : a.createDumb with
  | none => rfl
  | some create =>
      simp only [hcreate] at hfailed ⊢
      cases hadd : a.addFb2 with
      | none => rfl
      | some id =>
          simp only [hadd] at hfailed ⊢
          split
          · rw [if_pos ‹_›] at hfailed
            cases hmmap : a.mmap with
            | none => rfl
            | some base =>
                rw [hmmap] at hfailed
                cases hfailed
          · rfl

theorem kmsSetModeWh_same {k : Kms} {a : ModeAnswers} (ha : ∀ blob ∈ a.blob, blob ≠ 0)
    (w h refresh : Int) (hdev : dev.Same (k.objects ++ rest)) :
    let r := kmsSetModeWh dev k a w h refresh
    r.dev.Same (r.k.objects ++ rest) := by
  unfold kmsSetModeWh
  cases a.connector with
  | none => exact hdev
  | some conn =>
      dsimp only
      cases bestMode conn.modes w h refresh with
      | none => exact hdev
      | some newmode =>
          cases hblob : a.blob with
          | none => exact hdev
          | some blob =>
              refine ⟨?_, hdev.fbs, hdev.handles, hdev.maps⟩
              have hnew : (named blob ++ rest.blobs) = blob :: rest.blobs :=
                congrArg (· ++ rest.blobs) (named_of_ne (ha blob hblob))
              refine perm_of_named ((hdev.blobs.cons blob).trans ?_)
              show (blob :: (named k.modeBlob ++ rest.blobs)).Perm
                (named k.modeBlob ++ (named blob ++ rest.blobs))
              rw [hnew]
              exact List.perm_middle.symm

theorem kmsFinish_same {k : Kms} (h : Held) (conn crtc plane : Option PropMap)
    (hdev : dev.Same (k.objects ++ rest)) :
    (kmsFinish dev h k conn crtc plane).1.Same rest := by
  have hblobs := perm_of_named hdev.blobs
  unfold kmsFinish
  dsimp only
  split
  · rw [if_pos ‹_›] at hblobs
    exact ⟨hblobs, hdev.fbs, hdev.handles, hdev.maps⟩
  · rw [if_neg ‹_›] at hblobs
    exact ⟨hblobs, hdev.fbs, hdev.handles, hdev.maps⟩

theorem SetupResult.Tidy.ready {r : SetupResult} (h : r.Tidy dev) {k : Kms} {p : KmsProps}
    (htarget : r.target = some (k, p)) (hblob : k.modeBlob ≠ 0) :
    r.dev.Same (k.objects ++ dev) ∧
      r.held.Is (mapsOf k (some p.conn) (some p.crtc) (some p.plane) []) := by
  unfold SetupResult.Tidy at h
  rw [htarget] at h
  refine ⟨?_, h.1⟩
  rw [h.2, Drm.append_def, Kms.objects, named_of_ne hblob]
  exact .refl _

theorem SetupResult.Tidy.failed {r : SetupResult} (h : r.Tidy dev) (htarget : r.target = none) :
    r.dev.Same dev ∧ r.held.Is [] := by
  unfold SetupResult.Tidy at h
  rw [htarget] at h
  rw [h.2]
  exact ⟨.refl dev, h.1⟩

end Records

end CrystallineLattice.Platform
