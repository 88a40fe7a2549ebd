import CrystallineLattice.Platform.Objects
import CrystallineLattice.Server.Scanout

/-!
# From start to cleanup

`server_run` takes a modeset target and two framebuffers before its loop and gives
them up after it; a change of the resolution replaces them, or fails half way.
This file follows the kernel objects through the life of the process.
-/

namespace CrystallineLattice.Server

open CrystallineLattice.Foundation
open CrystallineLattice.Platform

/-! ## Before and after the loop -/

structure StartAnswers where
  setup : SetupAnswers
  fb : Fin 2 → FbAnswers

structure Target where
  kms : Kms
  props : KmsProps
  fb : Fin 2 → DumbFb

/-- `target` is what the loop works with, if it is reached. -/
structure StartResult where
  dev : Drm
  held : Held
  target : Option Target

/-- The end of `server_run`, with the framebuffers that there are. -/
def cleanup (dev : Drm) (h : Held) (k : Kms) (p : KmsProps) (fbs : List DumbFb) : Drm × Held :=
  kmsFinish (fbs.foldl (fun dev fb => (dumbFbDestroy dev fb).1) dev) h k
    (some p.conn) (some p.crtc) (some p.plane)

/-- A framebuffer could not be made: those before it are destroyed. -/
def abandon (dev : Drm) (h : Held) (k : Kms) (p : KmsProps) (fbs : List DumbFb) : StartResult :=
  ⟨(cleanup dev h k p fbs).1, (cleanup dev h k p fbs).2, none⟩

def startDisplay (dev : Drm) (a : StartAnswers) : StartResult :=
  let r := kmsSetup dev a.setup
  match r.target with
  | none => ⟨r.dev, r.held, none⟩
  | some (k, p) =>
      let w : Int := k.mode.hdisplay.toNat
      let h : Int := k.mode.vdisplay.toNat
      let first := dumbFbCreate r.dev (a.fb firstFb) w h
      if first.ok then
        let second := dumbFbCreate first.dev (a.fb secondFb) w h
        if second.ok then
          ⟨second.dev, r.held, some ⟨k, p, fun i => if i = firstFb then first.fb else second.fb⟩⟩
        else abandon second.dev r.held k p [first.fb]
      else abandon first.dev r.held k p []

structure StartAnswers.Nonzero (a : StartAnswers) : Prop where
  blob : ∀ blob ∈ a.setup.blob, blob ≠ 0
  fb : ∀ i, (a.fb i).Nonzero

structure ApplyAnswers.Nonzero (a : ApplyAnswers) : Prop where
  blob : ∀ blob ∈ a.mode.blob, blob ≠ 0
  fb : ∀ i, (a.fb i).Nonzero

/-! ## The loop -/

namespace ServerRun

def objects (X : ServerRun) (rest : Drm) : Drm :=
  X.kms.objects ++ ((X.fb firstFb).objects ++ ((X.fb secondFb).objects ++ rest))

/-- The kernel has the objects that the records name, and the target is still that of the start. -/
structure Allots (rest : Drm) (k : Kms) (X : ServerRun) : Prop where
  objects : X.drm.Same (X.objects rest)
  target : X.kms = { k with mode := X.kms.mode, modeBlob := X.kms.modeBlob }

section Changes

variable {X : ServerRun} {rest : Drm} {k : Kms}

theorem objects_front (X : ServerRun) (rest : Drm) (i : Fin 2) : (X.objects rest).Same
    ((X.fb i).objects ++ (X.kms.objects ++ ((X.fb (otherFb i)).objects ++ rest))) := by
  unfold objects
  match i with
  | 0 => exact .left_comm ..
  | 1 => exact (Drm.Same.append_left _ (.left_comm ..)).trans (.left_comm ..)

theorem reallocFb_same {i : Fin 2} {a : FbAnswers} (ha : a.Nonzero) (nw nh : Int)
    (h : X.drm.Same ((X.fb i).objects ++ rest)) :
    (reallocFb X i a nw nh).1.drm.Same (((reallocFb X i a nw nh).1.fb i).objects ++ rest) := by
  have hnew : (reallocFb X i a nw nh).1.fb i =
      (dumbFbCreate (dumbFbDestroy X.drm (X.fb i)).1 a nw nh).fb := Function.update_self ..
  rw [hnew]
  exact (dumbFbCreate_same ha _ nw nh).trans (Drm.Same.append_left _ (dumbFbDestroy_same h))

theorem Allots.realloc (hX : X.Allots rest k) (i : Fin 2) {a : FbAnswers} (ha : a.Nonzero)
    (nw nh : Int) : (reallocFb X i a nw nh).1.Allots rest k := by
  have hreplaced := reallocFb_same ha nw nh (hX.objects.trans (objects_front X rest i))
  have hother : (reallocFb X i a nw nh).1.fb (otherFb i) = X.fb (otherFb i) :=
    Function.update_of_ne (otherFb_ne i) _ _
  have hfront := objects_front (reallocFb X i a nw nh).1 rest i
  rw [hother] at hfront
  exact ⟨hreplaced.trans hfront.symm, hX.target⟩

theorem Allots.setMode (hX : X.Allots rest k) {a : ModeAnswers} (ha : ∀ blob ∈ a.blob, blob ≠ 0)
    (w h refresh : Int) :
    let r := kmsSetModeWh X.drm X.kms a w h refresh
    ({ X with drm := r.dev, kms := r.k } : ServerRun).Allots rest k := by
  refine ⟨kmsSetModeWh_same ha w h refresh hX.objects, ?_⟩
  rcases kmsSetModeWh_cases X.drm X.kms a w h refresh with
    ⟨newmode, blob, -, -, -, hk⟩ | ⟨-, heq⟩
  · dsimp only
    rw [hk, hX.target]
  · rw [heq]
    exact hX.target

theorem Allots.applyModeCb (hX : X.Allots rest k) {a : ApplyAnswers} (ha : a.Nonzero)
    (w h refresh : Int) : (applyModeCb X a w h refresh).1.Allots rest k := by
  have hmode := hX.setMode ha.blob w h refresh
  unfold Server.applyModeCb
  dsimp only at hmode ⊢
  split
  · have hfirst := hmode.realloc firstFb (ha.fb firstFb)
      (kmsSetModeWh X.drm X.kms a.mode w h refresh).k.mode.hdisplay.toNat
      (kmsSetModeWh X.drm X.kms a.mode w h refresh).k.mode.vdisplay.toNat
    split
    · have hsecond := hfirst.realloc secondFb (ha.fb secondFb)
        (kmsSetModeWh X.drm X.kms a.mode w h refresh).k.mode.hdisplay.toNat
        (kmsSetModeWh X.drm X.kms a.mode w h refresh).k.mode.vdisplay.toNat
      split
      · exact ⟨hsecond.objects, hsecond.target⟩
      · exact hsecond
    · exact hfirst
  · exact hmode

theorem Allots.same {Y : ServerRun} (hX : X.Allots rest k) (h : SameScanout X Y) :
    Y.Allots rest k := by
  refine ⟨?_, by rw [h.kms]; exact hX.target⟩
  rw [h.drm, ServerRun.objects, h.kms, h.fb]
  exact hX.objects

theorem Allots.next (hX : X.Allots rest k) {e : ServerEvent}
    (he : ∀ w h refresh a, e = .control w h refresh a → a.Nonzero) : (X.next e).Allots rest k := by
  cases e with
  | control w h refresh a => exact hX.applyModeCb (he w h refresh a rfl) w h refresh
  | frame answers =>
      show (X.atFrame answers).advance.Allots rest k
      unfold atFrame
      split <;> exact ⟨hX.objects, hX.target⟩
  | _ => exact hX.same (.next X (by simp) (by simp))

theorem Allots.exec (hX : X.Allots rest k) {es : List ServerEvent}
    (hes : ∀ w h refresh a, .control w h refresh a ∈ es → a.Nonzero) :
    (system.exec X es).Allots rest k := by
  induction es generalizing X with
  | nil => exact hX
  | cons e es ih =>
      have hstep : (X.next e).Allots rest k :=
        hX.next fun w h refresh a he => hes w h refresh a (he ▸ List.mem_cons_self)
      exact ih hstep fun w h refresh a he => hes w h refresh a (List.mem_cons_of_mem e he)

end Changes

end ServerRun

/-! ## The whole process -/

section Process

variable {dev rest : Drm} {h : Held}

theorem destroyed_same (fbs : List DumbFb)
    (hdev : dev.Same (fbs.foldr (fun fb d => fb.objects ++ d) rest)) :
    (fbs.foldl (fun dev fb => (dumbFbDestroy dev fb).1) dev).Same rest := by
  induction fbs generalizing dev with
  | nil => exact hdev
  | cons fb fbs ih => exact ih (dumbFbDestroy_same hdev)

theorem cleanup_same {k : Kms} {p : KmsProps} (fbs : List DumbFb)
    (hdev : dev.Same (fbs.foldr (fun fb d => fb.objects ++ d) (k.objects ++ rest)))
    (hheld : h.Is (mapsOf k (some p.conn) (some p.crtc) (some p.plane) [])) :
    (cleanup dev h k p fbs).1.Same rest ∧ (cleanup dev h k p fbs).2.Is [] :=
  ⟨kmsFinish_same h _ _ _ (destroyed_same fbs hdev), kmsFinish_is _ hheld⟩

/-- A start that ends before the loop leaves nothing; the loop starts with what is recorded. -/
structure StartResult.Clean (dev : Drm) (r : StartResult) : Prop where
  failed : r.target = none → r.dev.Same dev ∧ r.held.Is []
  ready : ∀ T, r.target = some T →
    r.dev.Same (T.kms.objects ++
      ((T.fb firstFb).objects ++ ((T.fb secondFb).objects ++ dev))) ∧
    r.held.Is (mapsOf T.kms (some T.props.conn) (some T.props.crtc) (some T.props.plane) [])

theorem abandon_clean {k : Kms} {p : KmsProps} (fbs : List DumbFb)
    (hdev : dev.Same (fbs.foldr (fun fb d => fb.objects ++ d) (k.objects ++ rest)))
    (hheld : h.Is (mapsOf k (some p.conn) (some p.crtc) (some p.plane) [])) :
    (abandon dev h k p fbs).Clean rest :=
  ⟨fun _ => cleanup_same fbs hdev hheld, nofun⟩

theorem startDisplay_clean (dev : Drm) {a : StartAnswers} (ha : a.Nonzero) :
    (startDisplay dev a).Clean dev := by
  have htidy := kmsSetup_tidy dev a.setup
  have hblob {k : Kms} {p : KmsProps} (htarget : (kmsSetup dev a.setup).target = some (k, p)) :
      k.modeBlob ≠ 0 := ha.blob _ (kmsSetup_found htarget).blob
  unfold startDisplay
  dsimp only
  generalize kmsSetup dev a.setup = r at htidy hblob ⊢
  cases htarget : r.target with
  | none => exact ⟨fun _ => htidy.failed htarget, nofun⟩
  | some target =>
      obtain ⟨k, p⟩ := target
      obtain ⟨hkms, hheld⟩ := htidy.ready htarget (hblob htarget)
      dsimp only
      generalize (k.mode.hdisplay.toNat : Int) = w
      generalize (k.mode.vdisplay.toNat : Int) = h
      have hfirst := (dumbFbCreate_same (ha.fb firstFb) r.dev w h).trans
        (Drm.Same.append_left _ hkms)
      have hnofirst := dumbFbCreate_failed r.dev (a.fb firstFb) w h
      generalize dumbFbCreate r.dev (a.fb firstFb) w h = first at hfirst hnofirst ⊢
      have hsecond := (dumbFbCreate_same (ha.fb secondFb) first.dev w h).trans
        (Drm.Same.append_left _ hfirst)
      have hnosecond := dumbFbCreate_failed first.dev (a.fb secondFb) w h
      generalize dumbFbCreate first.dev (a.fb secondFb) w h = second at hsecond hnosecond ⊢
      split
      · split
        · refine ⟨nofun, fun T hT => ?_⟩
          cases hT
          have hsorted : (second.fb.objects ++ (first.fb.objects ++ (k.objects ++ dev))).Same
              (k.objects ++ (first.fb.objects ++ (second.fb.objects ++ dev))) :=
            ((Drm.Same.left_comm ..).trans (Drm.Same.append_left _ (.left_comm ..))).trans
              (.left_comm ..)
          exact ⟨hsecond.trans hsorted, hheld⟩
        · rw [hnosecond (Bool.eq_false_of_not_eq_true ‹_›)] at hsecond
          exact abandon_clean [first.fb] hsecond hheld
      · rw [hnofirst (Bool.eq_false_of_not_eq_true ‹_›)] at hfirst
        exact abandon_clean [] hfirst hheld

/-- The loop starts with what was made before it. -/
structure Target.Starts (T : Target) (dev : Drm) (S : Setup) : Prop where
  drm : S.drm = dev
  kms : S.kms = T.kms
  fb : S.fb = T.fb

/--
Whatever the kernel answers: a start that fails leaves the kernel objects as they
were, and so does the cleanup after any run of the loop.  While the loop runs, the
kernel has exactly the objects that the records name besides.
-/
theorem process_leaves_nothing (dev : Drm) (a : StartAnswers) (ha : a.Nonzero) :
    match startDisplay dev a with
    | ⟨dev', h, none⟩ => dev'.Same dev ∧ h.Is []
    | ⟨dev', h, some T⟩ => ∀ S, T.Starts dev' S → ∀ es : List ServerEvent,
        (∀ w h refresh b, .control w h refresh b ∈ es → b.Nonzero) →
        let X := ServerRun.system.exec S.start es
        let r := cleanup X.drm h X.kms T.props [X.fb firstFb, X.fb secondFb]
        X.drm.Same (X.objects dev) ∧ r.1.Same dev ∧ r.2.Is [] := by
  have hclean := startDisplay_clean dev ha
  generalize startDisplay dev a = r at hclean ⊢
  obtain ⟨dev', h, _ | T⟩ := r
  · exact hclean.failed rfl
  · intro S hS es hes
    obtain ⟨hdev, hheld⟩ := hclean.ready T rfl
    have hstart : S.start.Allots dev T.kms := by
      constructor
      · show S.drm.Same
          (S.kms.objects ++ ((S.fb firstFb).objects ++ ((S.fb secondFb).objects ++ dev)))
        rw [hS.drm, hS.kms, hS.fb]
        exact hdev
      · show S.kms = { T.kms with mode := S.kms.mode, modeBlob := S.kms.modeBlob }
        rw [hS.kms]
    have hX := hstart.exec hes
    dsimp only
    generalize ServerRun.system.exec S.start es = X at hX ⊢
    have hsorted : (X.objects dev).Same
        ((X.fb firstFb).objects ++ ((X.fb secondFb).objects ++ (X.kms.objects ++ dev))) :=
      (ServerRun.objects_front X dev firstFb).trans (.append_left _ (.left_comm ..))
    have hmaps : h.Is (mapsOf X.kms (some T.props.conn) (some T.props.crtc)
        (some T.props.plane) []) := by
      rw [hX.target]
      exact hheld
    exact ⟨hX.objects, cleanup_same [X.fb firstFb, X.fb secondFb]
      (hX.objects.trans hsorted) hmaps⟩

end Process

def plainAnswers : StartAnswers where
  setup :=
    { resources := some ([1], [2])
      connector := fun id => some ⟨id, true, [fullHd], 0, [4]⟩
      current := none
      encoder := fun _ => some ⟨0, 1⟩
      planes := some [3]
      plane := fun id => some ⟨id, 1⟩
      probe := fun _ => ⟨some [(8, 1)], true, fun _ => some "type"⟩
      connProps := ⟨some [(20, 0)], true, fun _ => some "CRTC_ID"⟩
      crtcProps := ⟨some [(21, 0)], true, fun _ => some "ACTIVE"⟩
      planeProps := ⟨some [(17, 0)], true, fun _ => some "FB_ID"⟩
      blob := some 7 }
  fb := fun i =>
    ⟨some ⟨i.val.toUInt32 + 1, 7680, 8294400⟩, some (i.val.toUInt32 + 1), true,
      some (4096 * (i.val + 1))⟩

def noObjects : Drm := ⟨[], [], [], []⟩

/-- A change of the resolution that fails at the first framebuffer. -/
def strandedRun : List ServerEvent :=
  [.control 1280 720 0 ⟨⟨some monitor, some 8⟩, fun _ => noBuffer⟩]

theorem plainAnswers_nonzero : plainAnswers.Nonzero where
  blob blob hblob := by
    obtain rfl := Option.some.inj hblob
    decide
  fb i := by
    have hne : (i.val.toUInt32 + 1 : UInt32) ≠ 0 := by
      revert i
      decide
    constructor
    · intro create hcreate
      obtain rfl := Option.some.inj hcreate
      exact hne
    · intro id hid
      obtain rfl := Option.some.inj hid
      exact hne

theorem process_leaves_nothing_strandedRun :
    let X := ServerRun.system.exec plainSetup.start strandedRun
    let r := cleanup X.drm (startDisplay noObjects plainAnswers).held X.kms
      ⟨[⟨"CRTC_ID", 20, 0⟩], [⟨"ACTIVE", 21, 0⟩], [⟨"FB_ID", 17, 0⟩]⟩
      [X.fb firstFb, X.fb secondFb]
    X.drm.Same (X.objects noObjects) ∧ r.1.Same noObjects ∧ r.2.Is [] := by
  have hrun := process_leaves_nothing noObjects plainAnswers plainAnswers_nonzero
  refine hrun plainSetup ⟨rfl, rfl, ?_⟩ strandedRun ?_
  · funext i
    match i with
    | 0 => rfl
    | 1 => rfl
  · intro w h refresh b hb
    cases List.mem_singleton.mp hb
    refine ⟨fun blob hblob => ?_, fun i => ⟨nofun, nofun⟩⟩
    obtain rfl := Option.some.inj hblob
    decide

end CrystallineLattice.Server
