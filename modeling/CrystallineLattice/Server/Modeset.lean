import CrystallineLattice.Server.Loop

/-!
# Modesets and repaints that are asked for

`need_modeset` and `dirty` are set by every part of the server and cleared in one
place, where a frame is committed.  Whether the kernel accepted the frame does
not matter there.
-/

namespace CrystallineLattice.Server

open CrystallineLattice.Foundation
open CrystallineLattice.Stack
open CrystallineLattice.Native
open CrystallineLattice.Wayland
open CrystallineLattice.Manager
open CrystallineLattice.Platform

/-- What was asked for is still asked for, and nothing was committed but a blanking. -/
structure Steady (X Y : ServerRun) : Prop where
  modeset : X.needModeset = true → Y.needModeset = true
  dirty : X.dirty = true → Y.dirty = true
  commits : ∃ l, Y.commits = X.commits ++ l ∧ ∀ c ∈ l, ∃ ok, c = .blank ok

namespace Steady

variable {X Y Z : ServerRun}

theorem of_eq (hmodeset : Y.needModeset = X.needModeset)
    (hdirty : X.dirty = true → Y.dirty = true) (hcommits : Y.commits = X.commits) :
    Steady X Y :=
  ⟨fun h => hmodeset ▸ h, hdirty, [], by simp [hcommits], by simp⟩

theorem refl (X : ServerRun) : Steady X X := of_eq rfl (fun h => h) rfl

theorem trans (h : Steady X Y) (h' : Steady Y Z) : Steady X Z where
  modeset hX := h'.modeset (h.modeset hX)
  dirty hX := h'.dirty (h.dirty hX)
  commits := by
    obtain ⟨l, hl, hblank⟩ := h.commits
    obtain ⟨l', hl', hblank'⟩ := h'.commits
    refine ⟨l ++ l', by rw [hl', hl, List.append_assoc], fun c hc => ?_⟩
    rcases List.mem_append.mp hc with hc | hc
    · exact hblank c hc
    · exact hblank' c hc

/-! ## The stages -/

theorem onKey (X : ServerRun) (keysym keycode : Nat) (pressed altDown : Bool) :
    Steady X (onKey X keysym keycode pressed altDown) := by
  have htracked : Steady X (trackModifiers X keycode pressed) := by
    unfold trackModifiers
    split
    · exact of_eq rfl (fun h => h) rfl
    · split <;> exact of_eq rfl (fun h => h) rfl
  refine htracked.trans ?_
  unfold Server.onKey
  generalize trackModifiers X keycode pressed = Y
  dsimp only
  split
  · exact refl Y
  · split
    · exact of_eq rfl (fun h => h) rfl
    · split
      · exact of_eq rfl (fun _ => rfl) rfl
      · exact of_eq rfl (fun h => h) rfl

theorem onInput (X : ServerRun) (ev : InputEvent) : Steady X (onInput X ev) := by
  have hactive : Steady X { X with activity := true } := of_eq rfl (fun h => h) rfl
  refine hactive.trans ?_
  cases ev with
  | motion dx dy => exact of_eq rfl (fun _ => rfl) rfl
  | motionAbs ax ay => exact of_eq rfl (fun _ => rfl) rfl
  | button button pressed => exact of_eq rfl (fun _ => rfl) rfl
  | key keysym keycode pressed altDown => exact onKey _ keysym keycode pressed altDown

theorem applyModeCb (X : ServerRun) (a : ApplyAnswers) (w h refresh : Int) :
    Steady X (applyModeCb X a w h refresh).1 := by
  have hannounce (Y : ServerRun) (nw nh : Int) : Steady Y (announceMode Y nw nh) :=
    ⟨fun _ => rfl, fun _ => rfl, [], by simp [announceMode, ServerRun.setTransport,
      ServerRun.setWorld, ServerRun.setWm], by simp⟩
  have hrealloc (Y : ServerRun) (i : Fin 2) (a : FbAnswers) (nw nh : Int) :
      Steady Y (reallocFb Y i a nw nh).1 := of_eq rfl (fun h => h) rfl
  unfold Server.applyModeCb
  dsimp only
  have hmode : Steady X { X with
      drm := (kmsSetModeWh X.drm X.kms a.mode w h refresh).dev
      kms := (kmsSetModeWh X.drm X.kms a.mode w h refresh).k } := of_eq rfl (fun h => h) rfl
  refine hmode.trans ?_
  split
  · split
    · split
      · exact ((hrealloc _ 0 _ _ _).trans (hrealloc _ 1 _ _ _)).trans (hannounce _ _ _)
      · exact (hrealloc _ 0 _ _ _).trans (hrealloc _ 1 _ _ _)
    · exact hrealloc _ 0 _ _ _
  · exact refl _

theorem atIdle (X : ServerRun) (now : Int) (committed : Bool) :
    Steady X (X.atIdle now committed) := by
  have hwake : Steady X (X.wake now) := by
    unfold ServerRun.wake
    split
    · dsimp only
      split
      · exact ⟨fun _ => rfl, fun _ => rfl, [], by simp, by simp⟩
      · exact of_eq rfl (fun h => h) rfl
    · exact refl X
  refine hwake.trans ?_
  unfold ServerRun.atIdle
  dsimp only
  split
  · exact ⟨fun h => h, fun h => h, [.blank committed], rfl, by simp⟩
  · exact refl _

theorem notifyReconfigured (X : ServerRun) : Steady X X.notifyReconfigured := by
  unfold ServerRun.notifyReconfigured
  split
  · exact of_eq rfl (fun _ => rfl) rfl
  · exact refl X

theorem atTail (X : ServerRun) : Steady X X.atTail := by
  have hfocus : Steady X (({ X with
      seat := wlFrontendKeyboardFocus X.fe X.seat X.stack.focusId } : ServerRun).setTransport
        (transportUpdateFocus X.world.t X.stack.focusId)) := of_eq rfl (fun h => h) rfl
  exact hfocus.trans (notifyReconfigured _)

theorem next {e : ServerEvent} (X : ServerRun) (he : ∀ answers, e ≠ .frame answers) :
    Steady X (X.next e) := by
  have hadvance (Y : ServerRun) : Steady Y Y.advance := of_eq rfl (fun h => h) rfl
  have hset (Y : ServerRun) : Steady Y { Y with needModeset := true, dirty := true } :=
    ⟨fun _ => rfl, fun _ => rfl, [], by simp, by simp⟩
  cases e with
  | seat active =>
      refine trans ?_ (hadvance _)
      unfold ServerRun.atSeat
      split
      · exact ⟨fun _ => rfl, fun _ => rfl, [], by simp, by simp⟩
      · split
        · exact of_eq rfl (fun h => h) rfl
        · exact refl X
  | idle now committed => exact (atIdle X now committed).trans (hadvance _)
  | frame answers => exact (he answers rfl).elim
  | input raw => exact onInput X (emit X raw)
  | transport e => exact of_eq rfl (fun h => by simp [ServerRun.next, ServerRun.atTransport, h]) rfl
  | wayland e =>
      cases e with
      | surface client e =>
          exact of_eq rfl (fun h => by simp [ServerRun.next, ServerRun.atWayland, h]) rfl
      | getPointer client resource version => exact of_eq rfl (fun h => h) rfl
      | getKeyboard client resource version => exact of_eq rfl (fun h => h) rfl
      | unlink r => exact of_eq rfl (fun h => h) rfl
      | bindOutput client resource => exact of_eq rfl (fun h => h) rfl
  | control w h refresh answers => exact applyModeCb X answers w h refresh
  | hotplug changed =>
      cases changed with
      | false => exact hadvance X
      | true => exact (hset X).trans (hadvance _)
  | tail => exact (atTail X).trans (hadvance _)
  | pass => exact hadvance X

end Steady

/-! ## What a run forgets -/

namespace ServerRun

/-- What was committed in the run `es` from `X`. -/
def committed (X : ServerRun) (es : List ServerEvent) : List AtomicCommit :=
  (system.exec X es).commits.drop X.commits.length

/--
Wherever in the run a modeset is asked for, it is asked for until a commit with
the modeset state succeeds, and a repaint until a frame is committed.
-/
def Remembers (X : ServerRun) (es : List ServerEvent) : Prop :=
  ∀ before during after, es = before ++ (during ++ after) →
    let Y := system.exec X before
    (Y.needModeset = true → .frame true true ∉ Y.committed during →
        (system.exec Y during).needModeset = true) ∧
      (Y.dirty = true → (∀ modeset, .frame modeset true ∉ Y.committed during) →
        (system.exec Y during).dirty = true)

/-- If a frame is committed, all state is added to the request and the kernel accepts it. -/
def FrameSucceeds (X : ServerRun) (e : ServerEvent) : Prop :=
  ∀ answers, e = .frame answers → X.Presents → (answers.added && answers.committed) = true

theorem commits_next (X : ServerRun) (e : ServerEvent) :
    ∃ l, (X.next e).commits = X.commits ++ l := by
  by_cases he : ∃ answers, e = .frame answers
  · obtain ⟨answers, rfl⟩ := he
    show ∃ l, (X.atFrame answers).commits = X.commits ++ l
    unfold atFrame
    split
    · exact ⟨_, rfl⟩
    · exact ⟨[], by simp⟩
  · obtain ⟨l, hl, -⟩ := (Steady.next X fun answers heq => he ⟨answers, heq⟩).commits
    exact ⟨l, hl⟩

theorem commits_exec (X : ServerRun) (es : List ServerEvent) :
    ∃ l, (system.exec X es).commits = X.commits ++ l := by
  induction es generalizing X with
  | nil => exact ⟨[], by simp⟩
  | cons e es ih =>
      obtain ⟨l, hl⟩ := commits_next X e
      obtain ⟨l', hl'⟩ := ih (X.next e)
      exact ⟨l ++ l', by rw [← List.append_assoc, ← hl, ← hl']; rfl⟩

theorem committed_cons (X : ServerRun) (e : ServerEvent) (es : List ServerEvent) :
    X.committed (e :: es) = X.committed [e] ++ (X.next e).committed es := by
  obtain ⟨l, hl⟩ := commits_next X e
  obtain ⟨l', hl'⟩ := commits_exec (X.next e) es
  unfold committed
  rw [show system.exec X (e :: es) = system.exec (X.next e) es from rfl,
    show system.exec X [e] = X.next e from rfl, hl', hl]
  simp

/-- A step forgets something exactly if it commits a frame in vain. -/
theorem forgets_iff (X : ServerRun) (e : ServerEvent) :
    ((X.needModeset = true → .frame true true ∉ X.committed [e] →
          (X.next e).needModeset = true) ∧
        (X.dirty = true → (∀ modeset, .frame modeset true ∉ X.committed [e]) →
          (X.next e).dirty = true)) ↔ X.FrameSucceeds e := by
  by_cases he : ∃ answers, e = .frame answers
  · obtain ⟨answers, rfl⟩ := he
    by_cases hpresents : X.Presents
    · have hcommitted : X.committed [.frame answers] =
          [.frame X.needModeset (answers.added && answers.committed)] := by
        simp [committed, system, next, atFrame, advance, hpresents]
      have hcleared : (X.next (.frame answers)).dirty = false := by
        simp [next, atFrame, advance, hpresents]
      rw [hcommitted, hcleared]
      constructor
      · rintro ⟨-, hdirty⟩ answers' heq -
        cases heq
        by_contra hfail
        have := hdirty hpresents.2.1 (by simpa using hfail)
        cases this
      · intro hsucceeds
        rw [hsucceeds answers rfl hpresents]
        exact ⟨fun hset hnot => (hnot (by simp [hset])).elim,
          fun _ hnot => (hnot X.needModeset (by simp)).elim⟩
    · have hkept : X.next (.frame answers) = X.advance := by
        simp [next, atFrame, hpresents]
      rw [hkept]
      exact iff_of_true ⟨fun h _ => h, fun h _ => h⟩ fun _ _ h => (hpresents h).elim
  · have hsteady := Steady.next X fun answers heq => he ⟨answers, heq⟩
    exact iff_of_true ⟨fun h _ => hsteady.modeset h, fun h _ => hsteady.dirty h⟩
      fun answers heq => (he ⟨answers, heq⟩).elim

theorem remembers_of_each {X : ServerRun} {es : List ServerEvent}
    (h : system.Each FrameSucceeds X es) :
    (X.needModeset = true → .frame true true ∉ X.committed es →
        (system.exec X es).needModeset = true) ∧
      (X.dirty = true → (∀ modeset, .frame modeset true ∉ X.committed es) →
        (system.exec X es).dirty = true) := by
  induction es generalizing X with
  | nil => exact ⟨fun h _ => h, fun h _ => h⟩
  | cons e es ih =>
      obtain ⟨hfirst, hrest⟩ := h
      obtain ⟨hmodeset, hdirty⟩ := (forgets_iff X e).mpr hfirst
      obtain ⟨hmodeset', hdirty'⟩ := ih hrest
      rw [committed_cons]
      simp only [List.mem_append, not_or]
      exact ⟨fun hset hnot => hmodeset' (hmodeset hset hnot.1) hnot.2,
        fun hset hnot => hdirty' (hdirty hset fun m => (hnot m).1) fun m => (hnot m).2⟩

end ServerRun

/--
In a run of the loop, from any state, what is asked for stays asked for until it
was committed successfully, if and only if each frame that is committed succeeds.
-/
theorem remembers_iff_frames_succeed (X : ServerRun) (es : List ServerEvent) :
    X.Remembers es ↔ ServerRun.system.Each ServerRun.FrameSucceeds X es := by
  constructor
  · intro h
    induction es generalizing X with
    | nil => trivial
    | cons e es ih =>
        refine ⟨(ServerRun.forgets_iff X e).mp (h [] [e] es rfl), ih (X.next e) ?_⟩
        intro before during after heq
        exact h (e :: before) during after (by rw [heq]; rfl)
  · rintro h before during after rfl
    have hrest := ((System.each_append X before (during ++ after)).mp h).2
    exact ServerRun.remembers_of_each ((System.each_append _ during after).mp hrest).1

def fullHd : ModeInfo := ⟨148500, 1920, 2200, 1080, 1125, 60, 0, drmModeTypePreferred⟩

/-- A server that starts on one screen, with the Wine shell to come. -/
def plainSetup : Setup where
  drm := ⟨[7], [2, 1], [2, 1], [(8192, 8294400), (4096, 8294400)]⟩
  kms := ⟨1, 2, 3, fullHd, 7⟩
  fb := fun i => ⟨i.val.toUInt32 + 1, i.val.toUInt32 + 1, 7680, 8294400,
    .mapping (4096 * (i.val + 1)), 1920, 1080⟩
  seeded := false
  reconfiguredId := 0
  hasXkb := true
  hasKeymap := true
  idleMs := 300000
  now := 0
  fits := fun _ => ⟨rfl, rfl⟩

/-- The first iteration up to its frame, which the kernel rejects. -/
def rejectedRun : List ServerEvent := [.seat true, .idle 0 false, .frame ⟨true, false⟩]

/-- After the failed commit of `rejectedRun` neither a modeset nor a repaint is asked for. -/
theorem failed_commit_forgotten :
    ServerRun.system.Legal plainSetup.start rejectedRun ∧
      ¬ plainSetup.start.Remembers rejectedRun := by
  refine ⟨⟨⟨rfl, rfl⟩, rfl, rfl, trivial⟩, fun h => ?_⟩
  have hkept := (h [.seat true, .idle 0 false] [.frame ⟨true, false⟩] [] rfl).1 rfl (by decide)
  cases hkept

end CrystallineLattice.Server
