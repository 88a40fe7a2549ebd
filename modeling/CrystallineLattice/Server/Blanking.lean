import CrystallineLattice.Server.Scanout

/-!
# Idle blanking

Input is noticed at the next look at the clock: it restarts the timer and wakes a
blanked panel.  When the timer has run for more than `idle_ms`, the panel is
turned off.
-/

namespace CrystallineLattice.Server

open CrystallineLattice.Foundation
open CrystallineLattice.Stack
open CrystallineLattice.Native
open CrystallineLattice.Wayland
open CrystallineLattice.Manager

namespace ServerRun

variable (X : ServerRun)

/-- The timer has run out while the panel is lit and ours. -/
def Blanks (now : Int) : Prop :=
  (X.wake now).master = true ∧ (X.wake now).blanked = false ∧ 0 < (X.wake now).idleMs ∧
    (X.wake now).idleMs < now - (X.wake now).lastActivity

instance (now : Int) : Decidable (X.Blanks now) := inferInstanceAs (Decidable (_ ∧ _ ∧ _ ∧ _))

theorem atIdle_of_blanks {now : Int} (h : X.Blanks now) (committed : Bool) :
    X.atIdle now committed = { X.wake now with
      commits := (X.wake now).commits ++ [.blank committed]
      blanked := (X.wake now).blanked || committed } :=
  if_pos h

theorem atIdle_of_not_blanks {now : Int} (h : ¬ X.Blanks now) (committed : Bool) :
    X.atIdle now committed = X.wake now :=
  if_neg h

theorem wake_of_quiet {now : Int} (h : X.activity = false) : X.wake now = X :=
  if_neg (by simp [h])

theorem wake_of_activity (now : Int) (h : X.activity = true) :
    (X.wake now).activity = false ∧ (X.wake now).lastActivity = now ∧
      (X.wake now).blanked = false ∧ (X.wake now).master = X.master ∧
      (X.wake now).idleMs = X.idleMs ∧
      (X.blanked = true → (X.wake now).needModeset = true ∧ (X.wake now).dirty = true) ∧
      (X.blanked = false → (X.wake now).needModeset = X.needModeset) := by
  unfold wake
  rw [if_pos h]
  dsimp only
  cases hblanked : X.blanked <;> simp

theorem not_blanks_of_activity {now : Int} (h : X.activity = true) : ¬ X.Blanks now := by
  rintro ⟨-, -, hpos, hlate⟩
  rw [(X.wake_of_activity now h).2.1] at hlate
  omega

theorem blanks_iff {now : Int} : X.Blanks now ↔ X.activity = false ∧ X.master = true ∧
    X.blanked = false ∧ 0 < X.idleMs ∧ X.idleMs < now - X.lastActivity := by
  constructor
  · intro h
    have hquiet : X.activity = false :=
      eq_false_of_ne_true fun hactivity => X.not_blanks_of_activity hactivity h
    unfold Blanks at h
    rw [X.wake_of_quiet hquiet] at h
    exact ⟨hquiet, h⟩
  · rintro ⟨hquiet, h⟩
    unfold Blanks
    rw [X.wake_of_quiet hquiet]
    exact h

/-- The event turns the panel off: it makes a commit that does, or the panel is off after it. -/
def TurnsOff (e : ServerEvent) : Prop :=
  (∃ ok, .blank ok ∈ X.committed [e]) ∨ X.blanked = false ∧ (X.next e).blanked = true

/-! ## The timer between two looks at the clock -/

structure SameTimer (X Y : ServerRun) : Prop where
  lastActivity : Y.lastActivity = X.lastActivity
  blanked : Y.blanked = X.blanked
  idleMs : Y.idleMs = X.idleMs
  activity : X.activity = true → Y.activity = true

namespace SameTimer

variable {X Y Z : ServerRun}

theorem refl (X : ServerRun) : SameTimer X X := ⟨rfl, rfl, rfl, fun h => h⟩

theorem trans (h : SameTimer X Y) (h' : SameTimer Y Z) : SameTimer X Z where
  lastActivity := h'.lastActivity.trans h.lastActivity
  blanked := h'.blanked.trans h.blanked
  idleMs := h'.idleMs.trans h.idleMs
  activity hX := h'.activity (h.activity hX)

theorem of_display (h : Y.display = X.display)
    (hactivity : X.activity = true → Y.activity = true) : SameTimer X Y :=
  ⟨congrArg DisplayState.lastActivity h, congrArg DisplayState.blanked h,
    congrArg DisplayState.idleMs h, hactivity⟩

theorem activity_onInput (X : ServerRun) (ev : InputEvent) : (onInput X ev).activity = true := by
  cases ev with
  | key keysym keycode pressed altDown =>
      show (onKey { X with activity := true } keysym keycode pressed altDown).activity = true
      have htracked :
          (trackModifiers { X with activity := true } keycode pressed).activity = true := by
        unfold trackModifiers
        split
        · rfl
        · split <;> rfl
      unfold onKey
      generalize trackModifiers { X with activity := true } keycode pressed = Y at htracked ⊢
      dsimp only
      split
      · exact htracked
      · split
        · exact htracked
        · split <;> exact htracked
  | _ => rfl

theorem activity_atTail (X : ServerRun) : X.atTail.activity = X.activity := by
  have hnotify (Y : ServerRun) : Y.notifyReconfigured.activity = Y.activity := by
    unfold notifyReconfigured
    split <;> rfl
  exact hnotify _

theorem applyModeCb (X : ServerRun) (a : ApplyAnswers) (w h refresh : Int) :
    SameTimer X (applyModeCb X a w h refresh).1 := by
  rcases applyModeCb_cases X a w h refresh with
    ⟨-, heq⟩ | ⟨newmode, blob, drm, fb, -, -, ⟨-, heq⟩ | ⟨-, -, heq⟩⟩ <;> rw [heq] <;>
    exact ⟨rfl, rfl, rfl, fun h => h⟩

theorem next (X : ServerRun) {e : ServerEvent} (he : ∀ now committed, e ≠ .idle now committed) :
    SameTimer X (X.next e) := by
  have hadvance (Y : ServerRun) : SameTimer Y Y.advance := ⟨rfl, rfl, rfl, fun h => h⟩
  cases e with
  | seat active =>
      refine trans ?_ (hadvance _)
      unfold atSeat
      split
      · exact ⟨rfl, rfl, rfl, fun h => h⟩
      · split <;> exact ⟨rfl, rfl, rfl, fun h => h⟩
  | idle now committed => exact (he now committed rfl).elim
  | frame answers =>
      refine trans ?_ (hadvance _)
      unfold atFrame
      split
      · exact ⟨rfl, rfl, rfl, fun h => h⟩
      · exact refl X
  | control w h refresh a => exact applyModeCb X a w h refresh
  | hotplug changed => cases changed <;> exact ⟨rfl, rfl, rfl, fun h => h⟩
  | input raw => exact of_display (display_next X trivial) fun _ => activity_onInput X _
  | transport e => exact of_display (display_next X trivial) fun h => h
  | wayland e =>
      refine of_display (display_next X trivial) fun h => ?_
      cases e <;> exact h
  | tail =>
      refine of_display (display_next X trivial) fun h => ?_
      exact (activity_atTail X).trans h
  | pass => exact of_display (display_next X trivial) fun h => h

end SameTimer

theorem not_blank_of_ne_idle (X : ServerRun) {e : ServerEvent}
    (he : ∀ now committed, e ≠ .idle now committed) {ok : Bool} : .blank ok ∉ X.committed [e] := by
  have hkept (h : (X.next e).commits = X.commits) : .blank ok ∉ X.committed [e] := by
    show .blank ok ∉ (X.next e).commits.drop X.commits.length
    simp [h]
  have haside (h : (X.next e).display = X.display) : .blank ok ∉ X.committed [e] :=
    hkept (congrArg DisplayState.commits h)
  cases e with
  | seat active =>
      refine hkept ?_
      show (X.atSeat active).commits = X.commits
      unfold atSeat
      split
      · rfl
      · split <;> rfl
  | idle now committed => exact (he now committed rfl).elim
  | frame answers =>
      show .blank ok ∉ (X.atFrame answers).commits.drop X.commits.length
      unfold atFrame
      split <;> simp
  | control w h refresh a =>
      refine hkept ?_
      rcases applyModeCb_cases X a w h refresh with
        ⟨-, heq⟩ | ⟨newmode, blob, drm, fb, -, -, ⟨-, heq⟩ | ⟨-, -, heq⟩⟩
      all_goals
        show (applyModeCb X a w h refresh).1.commits = X.commits
        rw [heq]
      rfl
  | hotplug changed => cases changed <;> exact hkept rfl
  | _ => exact haside (display_next X trivial)

theorem blanks_of_turnsOff {e : ServerEvent} (h : X.TurnsOff e) :
    ∃ now committed, e = .idle now committed ∧ X.Blanks now := by
  by_cases he : ∃ now committed, e = .idle now committed
  · obtain ⟨now, committed, rfl⟩ := he
    refine ⟨now, committed, rfl, ?_⟩
    by_contra hlate
    have hnext : X.next (.idle now committed) = (X.wake now).advance := by
      show (X.atIdle now committed).advance = _
      rw [atIdle_of_not_blanks X hlate]
    have hwake : (X.wake now).commits = X.commits ∧
        (X.blanked = false → (X.wake now).blanked = false) := by
      unfold wake
      split
      · dsimp only
        split <;> exact ⟨rfl, fun h => by first | rfl | exact h⟩
      · exact ⟨rfl, fun h => h⟩
    rcases h with ⟨ok, hok⟩ | ⟨hlit, hdark⟩
    · have hnone : X.committed [.idle now committed] = [] := by
        show (X.next (.idle now committed)).commits.drop X.commits.length = []
        rw [hnext]
        show (X.wake now).commits.drop X.commits.length = []
        rw [hwake.1, List.drop_length]
      rw [hnone] at hok
      cases hok
    · rw [hnext] at hdark
      exact absurd hdark (by simp [advance, hwake.2 hlit])
  · push Not at he
    rcases h with ⟨ok, hok⟩ | ⟨hlit, hdark⟩
    · exact (not_blank_of_ne_idle X he hok).elim
    · rw [(SameTimer.next X he).blanked, hlit] at hdark
      cases hdark

/-! ## Runs -/

def idleTime : ServerEvent → Option Int
  | .idle now _ => some now
  | _ => none

/-- When the events first look at the clock. -/
def noticed (es : List ServerEvent) : Option Int := es.findSome? idleTime

def ClockOrdered (start : Int) (es : List ServerEvent) : Prop :=
  (start :: es.filterMap idleTime).Pairwise (· ≤ ·)

instance (start : Int) (es : List ServerEvent) : Decidable (ClockOrdered start es) :=
  inferInstanceAs (Decidable (List.Pairwise _ _))

variable {X : ServerRun} {es : List ServerEvent}

theorem noticed_eq_none_iff :
    noticed es = none ↔ ∀ e ∈ es, ∀ now committed, e ≠ .idle now committed := by
  rw [noticed, List.findSome?_eq_none_iff]
  refine forall_congr' fun e => imp_congr_right fun _ => ?_
  cases e <;> simp [idleTime]

theorem SameTimer.exec (h : noticed es = none) : SameTimer X (system.exec X es) := by
  induction es generalizing X with
  | nil => exact .refl X
  | cons e es ih =>
      rw [noticed_eq_none_iff] at h ih
      have hfirst : SameTimer X (X.next e) := .next X (h e List.mem_cons_self)
      exact hfirst.trans (ih fun e' he' => h e' (List.mem_cons_of_mem _ he'))

theorem idleMs_wake (now : Int) : (X.wake now).idleMs = X.idleMs := by
  cases hactivity : X.activity with
  | false => rw [X.wake_of_quiet hactivity]
  | true => exact (X.wake_of_activity now hactivity).2.2.2.2.1

theorem timer_atIdle (now : Int) (committed : Bool) :
    (X.next (.idle now committed)).lastActivity = (X.wake now).lastActivity ∧
      (X.next (.idle now committed)).idleMs = X.idleMs := by
  show (X.atIdle now committed).lastActivity = _ ∧ (X.atIdle now committed).idleMs = _
  by_cases h : X.Blanks now
  · rw [atIdle_of_blanks X h]
    exact ⟨rfl, idleMs_wake now⟩
  · rw [atIdle_of_not_blanks X h]
    exact ⟨rfl, idleMs_wake now⟩

theorem lastActivity_wake {t now : Int} (h : t ≤ X.lastActivity) (hnow : t ≤ now) :
    t ≤ (X.wake now).lastActivity := by
  cases hactivity : X.activity with
  | false => rwa [X.wake_of_quiet hactivity]
  | true => rwa [(X.wake_of_activity now hactivity).2.1]

theorem lastActivity_exec {t : Int} (h : t ≤ X.lastActivity)
    (htimes : ∀ now ∈ es.filterMap idleTime, t ≤ now) :
    t ≤ (system.exec X es).lastActivity := by
  induction es generalizing X with
  | nil => exact h
  | cons e es ih =>
      by_cases he : ∃ now committed, e = .idle now committed
      · obtain ⟨now, committed, rfl⟩ := he
        have hnow : t ≤ now := htimes now (by simp [idleTime])
        refine ih (X := X.next (.idle now committed)) ?_ fun now' h' => htimes now' ?_
        · rw [(timer_atIdle now committed).1]
          exact lastActivity_wake h hnow
        · exact List.mem_cons_of_mem _ h'
      · push Not at he
        refine ih (X := X.next e) ?_ fun now' h' => htimes now' ?_
        · rw [(SameTimer.next X he).lastActivity]
          exact h
        · obtain ⟨e', he', htime⟩ := List.mem_filterMap.mp h'
          exact List.mem_filterMap.mpr ⟨e', List.mem_cons_of_mem _ he', htime⟩

theorem idleMs_exec : (system.exec X es).idleMs = X.idleMs := by
  induction es generalizing X with
  | nil => rfl
  | cons e es ih =>
      refine (ih (X := X.next e)).trans ?_
      by_cases he : ∃ now committed, e = .idle now committed
      · obtain ⟨now, committed, rfl⟩ := he
        exact (timer_atIdle now committed).2
      · push Not at he
        exact (SameTimer.next X he).idleMs

/-- What input does to the timer: it is noticed, and from then on the timer runs anew. -/
theorem blanks_late {during : List ServerEvent} {now : Int} (hactivity : X.activity = true)
    (hclock : (during.filterMap idleTime ++ [now]).Pairwise (· ≤ ·))
    (hblanks : (system.exec X during).Blanks now) :
    ∃ t, noticed during = some t ∧ X.idleMs < now - t := by
  cases hnoticed : noticed during with
  | none =>
      have hstill := (SameTimer.exec (X := X) hnoticed).activity hactivity
      exact (not_blanks_of_activity _ hstill hblanks).elim
  | some t =>
      refine ⟨t, rfl, ?_⟩
      obtain ⟨d₁, e, d₂, rfl, htime, hbefore⟩ := List.findSome?_eq_some_iff.mp hnoticed
      cases e with
      | idle t' committed =>
          cases htime
          have hstill : (system.exec X d₁).activity = true := by
            refine (SameTimer.exec (X := X) ?_).activity hactivity
            exact List.findSome?_eq_none_iff.mpr hbefore
          have hset : ((system.exec X d₁).next (.idle t committed)).lastActivity = t := by
            rw [(timer_atIdle t committed).1]
            exact (wake_of_activity _ _ hstill).2.1
          rw [List.filterMap_append, List.filterMap_cons_some (by rfl : idleTime _ = some t),
            List.append_assoc, List.pairwise_append] at hclock
          have hlater := (List.pairwise_cons.mp hclock.2.1).1
          have hkept : t ≤ (system.exec X (d₁ ++ .idle t committed :: d₂)).lastActivity := by
            rw [System.exec_append]
            exact lastActivity_exec (X := (system.exec X d₁).next (.idle t committed))
              (le_of_eq hset.symm) fun now' h' => hlater now' (List.mem_append_left _ h')
          have hwaked := lastActivity_wake hkept (hlater now (by simp))
          obtain ⟨-, -, -, hlate⟩ := hblanks
          rw [idleMs_wake, idleMs_exec] at hlate
          omega
      | _ => cases htime

theorem wakes {during : List ServerEvent} (hactivity : X.activity = true)
    (hblanked : X.blanked = true) (hnoticed : noticed during = none) (now : Int)
    (committed : Bool) (answers : CommitAnswers) :
    let Z := (system.exec X during).next (.idle now committed)
    Z.blanked = false ∧ Z.dirty = true ∧ Z.needModeset = true ∧
      (Z.master = true → (Z.next (.frame answers)).commits =
        Z.commits ++ [.frame true (answers.added && answers.committed)]) := by
  have htimer := SameTimer.exec (X := X) hnoticed
  generalize system.exec X during = Y at htimer ⊢
  have hstill := htimer.activity hactivity
  obtain ⟨-, -, hlit, -, -, hasks, -⟩ := Y.wake_of_activity now hstill
  obtain ⟨hmodeset, hdirty⟩ := hasks (htimer.blanked.trans hblanked)
  have hnext : Y.next (.idle now committed) = (Y.wake now).advance := by
    show (Y.atIdle now committed).advance = _
    rw [atIdle_of_not_blanks Y (Y.not_blanks_of_activity hstill)]
  intro Z
  have hZ : Z = (Y.wake now).advance := hnext
  rw [hZ]
  refine ⟨hlit, hdirty, hmodeset, fun hmaster => ?_⟩
  have hpresents : (Y.wake now).advance.Presents := ⟨hmaster, hdirty, hlit⟩
  have hframe : (Y.wake now).advance.needModeset = true := hmodeset
  show ((Y.wake now).advance.atFrame answers).commits = _
  rw [atFrame, if_pos hpresents, hframe]

end ServerRun

/--
In every run whose clock does not go back: where the panel is turned off, it was lit
and ours, and more than `idle_ms` have passed since the start and since each input
before was noticed; and input that arrives while the panel is off is noticed at the
next look at the clock, after which the panel counts as lit, a repaint is asked for,
and the next frame is committed with the modeset state.
-/
theorem idle_blanking (S : Setup) {es : List ServerEvent} {e : ServerEvent}
    (hclock : ServerRun.ClockOrdered S.now (es ++ [e])) :
    let Y := ServerRun.system.exec S.start es
    let Z := Y.next e
    (Y.TurnsOff e → ∃ now committed, e = .idle now committed ∧ Y.master = true ∧
      Y.blanked = false ∧ 0 < S.idleMs ∧ S.idleMs < now - S.now ∧
      ∀ before raw during, es = before ++ .input raw :: during →
        ∃ t, ServerRun.noticed during = some t ∧ S.idleMs < now - t) ∧
      ∀ now committed, e = .idle now committed →
        ∀ before raw during, es = before ++ .input raw :: during →
          (ServerRun.system.exec S.start before).blanked = true →
          ServerRun.noticed during = none →
          Z.blanked = false ∧ Z.dirty = true ∧ Z.needModeset = true ∧
            ∀ answers, Z.master = true → (Z.next (.frame answers)).commits =
              Z.commits ++ [.frame true (answers.added && answers.committed)] := by
  have hexec (before during : List ServerEvent) (raw : RawInput) :
      ServerRun.system.exec S.start (before ++ .input raw :: during) =
        ServerRun.system.exec ((ServerRun.system.exec S.start before).next (.input raw))
          during := by
    rw [System.exec_append]
    rfl
  have hactivity (X : ServerRun) (raw : RawInput) : (X.next (.input raw)).activity = true :=
    ServerRun.SameTimer.activity_onInput _ _
  intro Y Z
  have hidleMs : Y.idleMs = S.idleMs := ServerRun.idleMs_exec
  constructor
  · intro hoff
    obtain ⟨now, committed, rfl, hblanks⟩ := Y.blanks_of_turnsOff hoff
    obtain ⟨-, hmaster, hlit, hpos, hlate⟩ := Y.blanks_iff.mp hblanks
    unfold ServerRun.ClockOrdered at hclock
    rw [hidleMs] at hpos hlate
    refine ⟨now, committed, rfl, hmaster, hlit, hpos, ?_, ?_⟩
    · have hstarted : S.now ≤ Y.lastActivity := by
        refine ServerRun.lastActivity_exec (X := S.start) (le_refl S.now) fun time htime => ?_
        rw [List.filterMap_append] at hclock
        exact (List.pairwise_cons.mp hclock).1 time (List.mem_append_left _ htime)
      omega
    · rintro before raw during rfl
      have hYidle : ((ServerRun.system.exec S.start before).next (.input raw)).idleMs =
          S.idleMs := by
        rw [(ServerRun.SameTimer.next _ (by simp)).idleMs]
        exact ServerRun.idleMs_exec
      rw [← hYidle]
      refine ServerRun.blanks_late (hactivity _ raw) ?_ (hexec before during raw ▸ hblanks)
      rw [List.append_assoc, List.filterMap_append, List.cons_append,
        List.filterMap_cons_none rfl, List.filterMap_append] at hclock
      exact hclock.sublist ((List.sublist_append_right _ _).cons _)
  · rintro now committed rfl before raw during rfl hblanked hnoticed
    have hdark : ((ServerRun.system.exec S.start before).next (.input raw)).blanked = true := by
      rw [(ServerRun.SameTimer.next _ (by simp)).blanked]
      exact hblanked
    have hwakes := ServerRun.wakes (hactivity _ raw) hdark hnoticed now committed
    rw [← hexec before during raw] at hwakes
    obtain ⟨hlit, hdirty, hmodeset, -⟩ := hwakes ⟨true, true⟩
    exact ⟨hlit, hdirty, hmodeset, fun answers => (hwakes answers).2.2.2⟩

/-- The pointer is moved and then left at rest. -/
def restRun : List ServerEvent :=
  [.seat true, .idle 10 false, .frame ⟨true, true⟩, .input (.motion 3 4), .pass, .pass, .pass,
    .pass, .hotplug false, .tail, .seat true, .idle 20 false, .frame ⟨true, true⟩, .pass, .pass,
    .pass, .pass, .hotplug false, .tail, .seat true]

/-- The panel is turned off; then somebody moves the pointer again. -/
def returnRun : List ServerEvent :=
  restRun ++ [.idle 300021 true, .frame ⟨true, true⟩, .input (.motion 1 0), .pass, .pass, .pass,
    .pass, .hotplug false, .tail, .seat true]

theorem idle_blanking_returnRun :
    let Y := ServerRun.system.exec plainSetup.start returnRun
    let Z := Y.next (.idle 300030 false)
    (Y.TurnsOff (.idle 300030 false) → ∃ now committed,
      ServerEvent.idle 300030 false = .idle now committed ∧ Y.master = true ∧
      Y.blanked = false ∧ 0 < plainSetup.idleMs ∧ plainSetup.idleMs < now - plainSetup.now ∧
      ∀ before raw during, returnRun = before ++ .input raw :: during →
        ∃ t, ServerRun.noticed during = some t ∧ plainSetup.idleMs < now - t) ∧
      ∀ now committed, ServerEvent.idle 300030 false = .idle now committed →
        ∀ before raw during, returnRun = before ++ .input raw :: during →
          (ServerRun.system.exec plainSetup.start before).blanked = true →
          ServerRun.noticed during = none →
          Z.blanked = false ∧ Z.dirty = true ∧ Z.needModeset = true ∧
            ∀ answers, Z.master = true → (Z.next (.frame answers)).commits =
              Z.commits ++ [.frame true (answers.added && answers.committed)] :=
  idle_blanking plainSetup (by decide)

/-- At the end of `restRun` the panel is turned off. -/
example : (ServerRun.system.exec plainSetup.start restRun).TurnsOff (.idle 300021 true) :=
  .inr (by decide +kernel)

end CrystallineLattice.Server
