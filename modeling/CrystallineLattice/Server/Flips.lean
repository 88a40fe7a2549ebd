import CrystallineLattice.Platform.Atomic
import CrystallineLattice.Server.Blanking
import CrystallineLattice.Server.Sizes

/-!
# Page flips

With `need_modeset` a frame is committed with all the state of the pipeline, and
without it with the framebuffer alone.  This file runs the server beside the
kernel's properties, which others may change while the seat is not active, when
a connector changes, and when a framebuffer is destroyed.
-/

namespace CrystallineLattice.Server

open CrystallineLattice.Foundation
open CrystallineLattice.Platform

structure KmsRun where
  run : ServerRun
  props : KmsProps
  kernel : Kernel

/-- An event of the server, with what others leave the properties at, and the request's memory. -/
structure KmsEvent where
  event : ServerEvent
  left : Kernel
  grow : AtomicReq → Bool

namespace KmsRun

def request (D : KmsRun) (grow : AtomicReq → Bool) : AtomicReq × Bool :=
  let fbId := (D.run.fb (otherFb D.run.front)).fbId
  if D.run.needModeset then modesetRequest grow D.run.kms D.props fbId
  else flipRequest grow D.run.kms D.props fbId

def frameWrites (D : KmsRun) : AtomicReq :=
  (frameSettings D.run.kms D.props (D.run.fb (otherFb D.run.front)).fbId).map Setting.write

/--
Others change the pipeline when the check of the seat finds it away or regained.  A seat
that is lost and regained within one `seat_dispatch` is not seen, and not followed here.
-/
def nextKernel (D : KmsRun) (e : KmsEvent) : Kernel :=
  match e.event with
  | .seat active => if D.run.master && active then D.kernel else e.left
  | .idle now committed =>
      if D.run.Blanks now ∧ committed = true then
        applyWrites D.kernel (blankRequest e.grow D.run.kms D.props).1
      else D.kernel
  | .frame answers =>
      if D.run.Presents ∧ answers.committed = true then
        applyWrites D.kernel (D.request e.grow).1
      else D.kernel
  | .control w h refresh a => if SwitchesMode a w h refresh then e.left else D.kernel
  | .hotplug changed => if changed then e.left else D.kernel
  | _ => D.kernel

def next (D : KmsRun) (e : KmsEvent) : KmsRun :=
  { D with run := D.run.next e.event, kernel := D.nextKernel e }

/-- `added` is that the request got all it should. -/
def enabled (D : KmsRun) (e : KmsEvent) : Prop :=
  D.run.enabled e.event ∧ ∀ answers, e.event = .frame answers → D.run.Presents →
    answers.added = (D.request e.grow).2

def system : System KmsRun KmsEvent := ⟨enabled, next⟩

def Accepted (D : KmsRun) (e : KmsEvent) : Prop :=
  D.run.FrameSucceeds e.event ∧ Settles e.event

/-- The presented frame left the kernel with all the state of the pipeline. -/
def FramesWhole (D : KmsRun) (e : KmsEvent) : Prop :=
  ∀ answers, e.event = .frame answers → D.run.Presents →
    (D.next e).kernel = applyWrites D.kernel D.frameWrites

/-- While the panel is lit and no modeset is asked for, the pipeline is set up. -/
structure Inv (D : KmsRun) : Prop where
  objects : D.run.kms.ThreeObjects
  distinct : D.props.Distinct
  programmed : D.run.master = true → D.run.needModeset = false → D.run.blanked = false →
    Programmed D.kernel D.run.kms D.props

variable {D : KmsRun}

theorem Inv.keep (hD : D.Inv) {e : KmsEvent} (hkernel : D.nextKernel e = D.kernel)
    (hkms : (D.run.next e.event).kms = D.run.kms)
    (hflags : (D.run.next e.event).master = true → (D.run.next e.event).needModeset = false →
      (D.run.next e.event).blanked = false →
      D.run.master = true ∧ D.run.needModeset = false ∧ D.run.blanked = false) :
    (D.next e).Inv where
  objects := by
    rw [next, hkms]
    exact hD.objects
  distinct := hD.distinct
  programmed hmaster hmodeset hlit := by
    obtain ⟨hmaster, hmodeset, hlit⟩ := hflags hmaster hmodeset hlit
    rw [next, hkernel, hkms]
    exact hD.programmed hmaster hmodeset hlit

theorem Inv.forget (hD : D.Inv) {e : KmsEvent}
    (hobjects : (D.run.next e.event).kms.ThreeObjects)
    (hflags : (D.run.next e.event).master = true → (D.run.next e.event).blanked = false →
      (D.run.next e.event).needModeset = true) : (D.next e).Inv where
  objects := hobjects
  distinct := hD.distinct
  programmed hmaster hmodeset hlit := nomatch hmodeset.symm.trans (hflags hmaster hlit)

theorem Inv.seat (hD : D.Inv) (active : Bool) (left : Kernel) (grow : AtomicReq → Bool) :
    (D.next ⟨.seat active, left, grow⟩).Inv := by
  have hnext : D.run.next (.seat active) = (D.run.atSeat active).advance := rfl
  unfold ServerRun.atSeat at hnext
  cases hmaster : D.run.master <;> cases active <;>
    simp only [hmaster, Bool.not_true, Bool.not_false, Bool.and_self, Bool.and_true,
      Bool.and_false, Bool.false_eq_true, if_true, if_false]
      at hnext
  · exact hD.forget (by rw [hnext]; exact hD.objects) fun h => by
      rw [hnext] at h
      cases hmaster.symm.trans h
  · exact hD.forget (by rw [hnext]; exact hD.objects) fun _ _ => by rw [hnext]; rfl
  · exact hD.forget (by rw [hnext]; exact hD.objects) fun h => by
      rw [hnext] at h
      cases h
  · refine hD.keep ?_ (by rw [hnext]; rfl) fun h h' h'' => ?_
    · simp [nextKernel, hmaster]
    · rw [hnext] at h h' h''
      exact ⟨h, h', h''⟩

theorem Inv.idle (hD : D.Inv) (now : Int) (committed : Bool) (left : Kernel)
    (grow : AtomicReq → Bool) : (D.next ⟨.idle now committed, left, grow⟩).Inv := by
  have hkms : (D.run.atIdle now committed).kms = D.run.kms :=
    (SameScanout.atIdle D.run now committed).kms
  by_cases hblanks : D.run.Blanks now ∧ committed = true
  · refine hD.forget (hkms ▸ hD.objects) fun _ hlit => ?_
    have hdark : (D.run.atIdle now committed).blanked = true := by
      rw [D.run.atIdle_of_blanks hblanks.1, hblanks.2]
      exact Bool.or_true _
    exact nomatch hdark.symm.trans hlit
  · -- a lit panel was lit before, or it has just been woken with a modeset
    have hwoken : (D.run.atIdle now committed).master = (D.run.wake now).master ∧
        (D.run.atIdle now committed).needModeset = (D.run.wake now).needModeset ∧
        ((D.run.atIdle now committed).blanked = false → (D.run.wake now).blanked = false) := by
      by_cases h : D.run.Blanks now
      · rw [D.run.atIdle_of_blanks h]
        exact ⟨rfl, rfl, fun hlit => (Bool.or_eq_false_iff.mp hlit).1⟩
      · rw [D.run.atIdle_of_not_blanks h]
        exact ⟨rfl, rfl, fun hlit => hlit⟩
    refine hD.keep (if_neg hblanks) hkms fun hmaster hmodeset hlit => ?_
    have hmaster := hwoken.1.symm.trans hmaster
    have hmodeset := hwoken.2.1.symm.trans hmodeset
    have hlit := hwoken.2.2 hlit
    cases hactivity : D.run.activity with
    | false =>
        rw [D.run.wake_of_quiet hactivity] at hmaster hmodeset hlit
        exact ⟨hmaster, hmodeset, hlit⟩
    | true =>
        obtain ⟨-, -, -, hsame, -, hasks, hkept⟩ := D.run.wake_of_activity now hactivity
        cases hblanked : D.run.blanked with
        | false => exact ⟨hsame.symm.trans hmaster, (hkept hblanked).symm.trans hmodeset, rfl⟩
        | true => exact nomatch (hasks hblanked).1.symm.trans hmodeset

/-- A frame that is accepted as a whole leaves the pipeline set up, with a modeset or without. -/
theorem Inv.present (hD : D.Inv) {answers : CommitAnswers} (left : Kernel)
    {grow : AtomicReq → Bool} (hpresents : D.run.Presents)
    (hwhole : (D.request grow).2 = true) (hcommitted : answers.committed = true) :
    (D.next ⟨.frame answers, left, grow⟩).kernel = applyWrites D.kernel D.frameWrites ∧
      Programmed (applyWrites D.kernel D.frameWrites) D.run.kms D.props := by
  have hkernel : (D.next ⟨.frame answers, left, grow⟩).kernel =
      applyWrites D.kernel (D.request grow).1 := if_pos ⟨hpresents, hcommitted⟩
  rw [hkernel]
  unfold request at hwhole ⊢
  dsimp only at hwhole ⊢
  cases hmodeset : D.run.needModeset with
  | true =>
      rw [if_pos hmodeset] at hwhole
      obtain ⟨hfound, heq⟩ := modesetRequest_whole hwhole
      rw [if_pos rfl, heq]
      exact ⟨rfl, programmed_of_frame hD.objects hD.distinct hfound D.kernel⟩
  | false =>
      rw [if_neg (by simp [hmodeset])] at hwhole
      have hprogrammed := hD.programmed hpresents.1 hmodeset hpresents.2.2
      rw [if_neg (by simp), flip_eq_modeset hD.objects hD.distinct hprogrammed hwhole]
      exact ⟨rfl, programmed_of_frame hD.objects hD.distinct (hprogrammed.frame _) D.kernel⟩

theorem Inv.aside (hD : D.Inv) {e : KmsEvent} (he : Aside e.event) : (D.next e).Inv := by
  have hdisplay := display_next D.run he
  have hkernel : D.nextKernel e = D.kernel := by
    obtain ⟨event, left, grow⟩ := e
    cases event <;> first | rfl | exact he.elim
  exact hD.keep hkernel (congrArg DisplayState.kms hdisplay) fun h h' h'' =>
    ⟨(congrArg DisplayState.master hdisplay).symm.trans h,
      (congrArg DisplayState.needModeset hdisplay).symm.trans h',
      (congrArg DisplayState.blanked hdisplay).symm.trans h''⟩

theorem Inv.step (hD : D.Inv) {e : KmsEvent} (hen : D.enabled e) (haccepted : D.Accepted e) :
    (D.next e).Inv := by
  obtain ⟨event, left, grow⟩ := e
  cases event with
  | seat active => exact hD.seat active left grow
  | idle now committed => exact hD.idle now committed left grow
  | frame answers =>
      have hkms : (D.run.atFrame answers).kms = D.run.kms := by
        unfold ServerRun.atFrame
        split <;> rfl
      by_cases hpresents : D.run.Presents
      · have hboth := (Bool.and_eq_true ..).mp (haccepted.1 answers rfl hpresents)
        have hwhole := (hen.2 answers rfl hpresents).symm.trans hboth.1
        obtain ⟨hkernel, hprogrammed⟩ := hD.present left hpresents hwhole hboth.2
        exact ⟨hkms ▸ hD.objects, hD.distinct, fun _ _ _ => by
          rw [hkernel]
          exact hkms ▸ hprogrammed⟩
      · have hidle : D.run.next (.frame answers) = D.run.advance := by
          show (D.run.atFrame answers).advance = _
          rw [ServerRun.atFrame, if_neg hpresents]
        exact hD.keep (if_neg fun h => hpresents h.1) hkms fun h h' h'' => by
          rw [hidle] at h h' h''
          exact ⟨h, h', h''⟩
  | control w h refresh a =>
      rcases applyModeCb_cases D.run a w h refresh with
        ⟨hnone, heq⟩ | ⟨newmode, blob, drm, fb, hmode, hmade, ⟨hfail, -⟩ | ⟨-, -, heq⟩⟩
      · have hnext : D.run.next (.control w h refresh a) = D.run := congrArg Prod.fst heq
        have hkms := congrArg ServerRun.kms hnext
        refine hD.keep (if_neg fun hswitches => ?_) hkms fun h h' h'' => by
          rw [hnext] at h h' h''
          exact ⟨h, h', h''⟩
        rcases hnone with hnone | hnone
        · simpa [hnone] using hswitches.1
        · simpa [hnone] using hswitches.2
      · exact (haccepted.2 ⟨by rw [hmode]; rfl, by rw [hmade]; rfl, hfail⟩).elim
      · have hnext := congrArg Prod.fst heq
        exact hD.forget (by rw [ServerRun.next, hnext]; exact hD.objects) fun _ _ => by
          rw [ServerRun.next, hnext]
          rfl
  | hotplug changed =>
      cases changed with
      | false => exact hD.keep rfl rfl fun h h' h'' => ⟨h, h', h''⟩
      | true => exact hD.forget hD.objects fun _ _ => rfl
  | _ => exact hD.aside trivial

theorem start_inv (S : Setup) {props : KmsProps} (hobjects : S.kms.ThreeObjects)
    (hdistinct : props.Distinct) (K : Kernel) : (⟨S.start, props, K⟩ : KmsRun).Inv :=
  ⟨hobjects, hdistinct, fun h => nomatch h⟩

end KmsRun

/--
In every run of the server in which frames are accepted as a whole and no change
of the resolution fails at a framebuffer, each frame leaves the kernel's
properties as a frame with all the modeset state would, whether it was committed
with that state or with the framebuffer alone, and whatever others have left of
the pipeline in the meantime.
-/
theorem flips_set_whole_pipeline (S : Setup) {props : KmsProps} (K : Kernel)
    (hobjects : S.kms.ThreeObjects) (hdistinct : props.Distinct) (es : List KmsEvent)
    (hrun : KmsRun.system.Legal ⟨S.start, props, K⟩ es)
    (haccepted : KmsRun.system.Each KmsRun.Accepted ⟨S.start, props, K⟩ es) :
    KmsRun.system.Each KmsRun.FramesWhole ⟨S.start, props, K⟩ es := by
  refine System.each_of_invariant (I := KmsRun.Inv) (fun D e hD h => hD.step h.1 h.2)
    (fun D e hD h => ?_) (System.each_and hrun haccepted)
    (KmsRun.start_inv S hobjects hdistinct K)
  obtain ⟨event, left, grow⟩ := e
  rintro answers rfl hpresents
  have hboth := (Bool.and_eq_true ..).mp (h.2.1 answers rfl hpresents)
  have hwhole := (h.1.2 answers rfl hpresents).symm.trans hboth.1
  exact (hD.present left hpresents hwhole hboth.2).1

def smallProps : KmsProps where
  conn := [⟨"CRTC_ID", 20, 0⟩]
  crtc := [⟨"ACTIVE", 21, 0⟩, ⟨"MODE_ID", 22, 0⟩]
  plane := [⟨"type", 8, 1⟩, ⟨"FB_ID", 17, 0⟩, ⟨"CRTC_ID", 20, 0⟩, ⟨"CRTC_X", 13, 0⟩,
    ⟨"CRTC_Y", 14, 0⟩, ⟨"CRTC_W", 15, 0⟩, ⟨"CRTC_H", 16, 0⟩, ⟨"SRC_X", 9, 0⟩, ⟨"SRC_Y", 10, 0⟩,
    ⟨"SRC_W", 11, 0⟩, ⟨"SRC_H", 12, 0⟩]

/-- Two frames, the second without the modeset state; another session has used the device. -/
def twoFrames : List KmsEvent :=
  [.seat true, .idle 10 false, .frame ⟨true, true⟩, .input (.motion 3 4), .pass, .pass, .pass,
    .pass, .hotplug false, .tail, .seat true, .idle 20 false, .frame ⟨true, true⟩].map
      fun e => ⟨e, fun _ => 5, fun _ => true⟩

theorem twoFrames_legal :
    KmsRun.system.Legal ⟨plainSetup.start, smallProps, fun _ => 5⟩ twoFrames := by
  refine ⟨⟨⟨rfl, rfl⟩, nofun⟩, ⟨rfl, nofun⟩, ⟨rfl, ?_⟩, ⟨rfl, nofun⟩, ⟨.inl rfl, nofun⟩,
    ⟨.inr (.inl rfl), nofun⟩, ⟨.inr (.inr (.inl rfl)), nofun⟩, ⟨.inr (.inr (.inr rfl)), nofun⟩,
    ⟨rfl, nofun⟩, ⟨rfl, nofun⟩, ⟨⟨rfl, rfl⟩, nofun⟩, ⟨rfl, nofun⟩, ⟨rfl, ?_⟩, trivial⟩
  · rintro answers ⟨⟩ -
    decide +kernel
  · rintro answers ⟨⟩ -
    decide +kernel

theorem flips_set_whole_pipeline_twoFrames :
    KmsRun.system.Each KmsRun.FramesWhole ⟨plainSetup.start, smallProps, fun _ => 5⟩
      twoFrames := by
  have hframe (X : ServerRun) : X.FrameSucceeds (.frame ⟨true, true⟩) := by
    rintro answers ⟨⟩ -
    rfl
  exact flips_set_whole_pipeline plainSetup _ (by decide) (by decide) twoFrames twoFrames_legal
    ⟨⟨nofun, trivial⟩, ⟨nofun, trivial⟩, ⟨hframe _, trivial⟩, ⟨nofun, trivial⟩, ⟨nofun, trivial⟩,
      ⟨nofun, trivial⟩, ⟨nofun, trivial⟩, ⟨nofun, trivial⟩, ⟨nofun, trivial⟩, ⟨nofun, trivial⟩,
      ⟨nofun, trivial⟩, ⟨nofun, trivial⟩, ⟨hframe _, trivial⟩, trivial⟩

/-- The second frame of `twoFrames` sets one property. -/
example :
    let D := KmsRun.system.exec ⟨plainSetup.start, smallProps, fun _ => 5⟩ (twoFrames.take 12)
    (D.request fun _ => true).1 = [((3, 17), 1)] := by decide +kernel

end CrystallineLattice.Server
