import CrystallineLattice.Compositor.Safety
import CrystallineLattice.Server.Blanking
import CrystallineLattice.Server.Framebuffers
import CrystallineLattice.Server.Housekeeping

/-!
# What is on the screen

The server draws into one framebuffer while the kernel shows the other, and it
turns the two around after every frame, also when the kernel has rejected it.
This file follows the words in both framebuffers, and which of them the kernel
shows, in runs in which the flush may destroy clients and another session may take
the screen.
-/

namespace CrystallineLattice.Server

open CrystallineLattice.Foundation
open CrystallineLattice.Stack
open CrystallineLattice.Compositor (Block DumbFb)
open CrystallineLattice.Native
open CrystallineLattice.Wayland

/--
An event of the server.  `shared` is what the clients have mapped, as a frame finds
it; `served` is whether `wl_frontend_dispatch` was called in the stage that ends;
`lost` is what the flush destroys; and `taken` is whether another session has had
the screen by then.
-/
structure ScreenEvent where
  event : ServerEvent
  shared : Nat → Block
  served : Bool
  lost : List ClientEvent
  taken : Bool

def ServerRun.proceed (X : ServerRun) (e : ScreenEvent) : ServerRun :=
  match e.event with
  | .pass => if X.stage = .wayland ∧ e.served = true then X.collect.advance else X.advance
  | .tail => (X.atTailLosing e.lost).advance
  | event => X.next event

/-- The frames in a row that were not shown, since the last one that was. -/
def missed (commits : List AtomicCommit) : Nat :=
  commits.foldl (fun n c =>
    match c with
    | .blank _ => n
    | .frame _ ok => if ok then 0 else n + 1) 0

theorem missed_append_blank (commits : List AtomicCommit) {l : List AtomicCommit}
    (h : ∀ c ∈ l, ∃ ok, c = .blank ok) : missed (commits ++ l) = missed commits := by
  unfold missed
  rw [List.foldl_append]
  generalize commits.foldl _ 0 = n
  induction l with
  | nil => rfl
  | cons c l ih =>
      obtain ⟨ok, rfl⟩ := h c List.mem_cons_self
      exact ih fun c hc => h c (List.mem_cons_of_mem _ hc)

theorem missed_append_frame (commits : List AtomicCommit) (modeset ok : Bool) :
    missed (commits ++ [.frame modeset ok]) = if ok then 0 else missed commits + 1 := by
  simp [missed]

namespace ServerRun

variable {X : ServerRun}

theorem feDirty_housekeeping : Housekeeping fun X Y => Y.fe.dirty = X.fe.dirty where
  trans h h' := h'.trans h
  same _ hfe _ _ := by rw [hfe]
  send _ _ := rfl
  rearrange _ _ := rfl

theorem Reports.next {e : ServerEvent} (hen : X.enabled e)
    (hframe : ∀ answers, e ≠ .frame answers) (hwithin : (X.next e).Within) :
    Reports X (X.next e) where
  inv hX := hX.step hen hwithin
  within := Within.mono hen
  clean hX hclean := by
    refine ⟨⟨?_, ?_⟩, .next hX hen hclean.1⟩
    · refine eq_false_of_ne_true fun hdirty => ?_
      exact nomatch ((Steady.next X hframe).dirty hdirty).symm.trans hclean.1
    · by_cases houtside : Housekeeping.Outside e
      · cases e with
        | transport e => exact hclean.2
        | wayland e =>
            cases e with
            | surface client e =>
                have hraised := (repaints_next hX.coherent hen.2.1 hen.2.2).raised
                exact hraised (Bool.or_eq_false_iff.mp hclean.1).2
            | _ => exact houtside.elim
        | _ => exact houtside.elim
      · exact (feDirty_housekeeping.next X houtside).symm.trans hclean.2

theorem atFrame_of_not_presents (h : ¬ X.Presents) (answers : CommitAnswers) :
    X.next (.frame answers) = X.advance := by
  show (X.atFrame answers).advance = X.advance
  rw [atFrame, if_neg h]

theorem Reports.proceed {e : ScreenEvent} (hen : X.enabled e.event)
    (hlost : e.event = .tail → dropSystem.Legal X.focusKeyboard e.lost)
    (hidle : ∀ answers, e.event = .frame answers → ¬ X.Presents)
    (hwithin : (X.proceed e).Within) : Reports X (X.proceed e) := by
  have hadvance (Y : ServerRun) : Reports Y Y.advance := of_eq rfl rfl rfl rfl
  obtain ⟨event, shared, served, lost, taken⟩ := e
  cases event with
  | pass =>
      unfold ServerRun.proceed
      dsimp only
      split
      · exact (collect X).trans (hadvance _)
      · exact hadvance X
  | tail =>
      have hrest := hadvance (X.atTailLosing lost)
      exact (atTailLosing (hlost rfl) (hrest.within hwithin)).trans hrest
  | frame answers =>
      show Reports X (X.next (.frame answers))
      rw [atFrame_of_not_presents (hidle answers rfl)]
      exact hadvance X
  | _ => exact next hen (fun _ => by simp) hwithin

variable {e : ScreenEvent} (hidle : ∀ answers, e.event = .frame answers → ¬ X.Presents)

include hidle in
theorem missed_proceed : missed (X.proceed e).commits = missed X.commits := by
  obtain ⟨event, shared, served, lost, taken⟩ := e
  have hsteady (he : ∀ answers, event ≠ .frame answers) :
      missed (X.next event).commits = missed X.commits := by
    obtain ⟨l, hl, hblank⟩ := (Steady.next X he).commits
    rw [hl]
    exact missed_append_blank _ hblank
  cases event with
  | pass =>
      unfold ServerRun.proceed
      dsimp only
      split <;> rfl
  | tail => exact congrArg (fun d => missed d.commits) (display_atTailLosing X lost)
  | frame answers =>
      show missed (X.next (.frame answers)).commits = missed X.commits
      rw [atFrame_of_not_presents (hidle answers rfl)]
      rfl
  | _ => exact hsteady fun _ => by simp

include hidle in
theorem sameScanout_proceed (hcontrol : ∀ w h refresh a, e.event ≠ .control w h refresh a) :
    SameScanout X (X.proceed e) := by
  obtain ⟨event, shared, served, lost, taken⟩ := e
  have hsame (hframe : ∀ answers, event ≠ .frame answers)
      (hcontrol : ∀ w h refresh a, event ≠ .control w h refresh a) :
      SameScanout X (X.next event) := .next X hframe hcontrol
  cases event with
  | pass =>
      unfold ServerRun.proceed
      dsimp only
      split <;> exact .of_display rfl
  | tail => exact .of_display (display_atTailLosing X lost)
  | frame answers =>
      show SameScanout X (X.next (.frame answers))
      rw [atFrame_of_not_presents (hidle answers rfl)]
      exact .of_display rfl
  | control w h refresh a => exact (hcontrol w h refresh a rfl).elim
  | _ => exact hsame (fun _ => by simp) fun _ _ _ _ => by simp

end ServerRun

/-- The words in a framebuffer, and the clients' memory that its frame was drawn from. -/
structure Drawn where
  words : Int → UInt32
  shared : Option (Nat → Block)

/--
The server with its framebuffers.  `shown` is the one that the kernel shows, where
that is known: from an accepted frame with the modeset state, until the seat is lost,
the panel is turned off, the framebuffer is destroyed, or a request lacks a property.
-/
structure Screen where
  run : ServerRun
  drawn : Fin 2 → Drawn
  shown : Option (Fin 2)

namespace Screen

/-- `dumb_fb_create` clears the framebuffers. -/
def start (X : ServerRun) : Screen := ⟨X, fun _ => ⟨fun _ => 0, none⟩, none⟩

def back (D : Screen) : Fin 2 := otherFb D.run.front

/-- What `composite` leaves in the back framebuffer, unless it faults. -/
def composed (D : Screen) (shared : Nat → Block) : Option DumbFb :=
  ((D.run.fb D.back).canvas (D.drawn D.back).words).bind (D.run.frame shared)

def nextDrawn (D : Screen) (e : ScreenEvent) : Fin 2 → Drawn :=
  match e.event with
  | .frame _ =>
      if D.run.Presents then
        match D.composed e.shared with
        | some fb => Function.update D.drawn D.back ⟨fb.map, some e.shared⟩
        | none => D.drawn
      else D.drawn
  | .control w h refresh a => fun i =>
      if Destroys a w h refresh i then ⟨fun _ => 0, none⟩ else D.drawn i
  | _ => D.drawn

def nextShown (D : Screen) (e : ScreenEvent) : Option (Fin 2) :=
  match e.event with
  | .seat active => if D.run.master && !active then none else D.shown
  | .idle now committed => if D.run.Blanks now ∧ committed = true then none else D.shown
  | .frame answers =>
      if D.run.Presents ∧ answers.committed = true then
        if answers.added then
          if D.run.needModeset then some D.back else D.shown.map fun _ => D.back
        else none
      else D.shown
  | .control w h refresh a => D.shown.filter fun i => ¬ Destroys a w h refresh i
  | _ => D.shown

def next (D : Screen) (e : ScreenEvent) : Screen where
  run := D.run.proceed e
  drawn := D.nextDrawn e
  shown := if e.taken then none else D.nextShown e

/-- No freed record is used, no frame faults, and the flush destroys what goes with clients. -/
structure Enabled (D : Screen) (e : ScreenEvent) : Prop where
  event : D.run.enabled e.event
  live : ∀ client e', e.event = .wayland (.surface client e') → D.run.fe.UsesLive e'
  draws : ∀ answers, e.event = .frame answers → D.run.Presents → (D.composed e.shared).isSome
  lost : e.event = .tail → ServerRun.dropSystem.Legal D.run.focusKeyboard e.lost

def system : System Screen ScreenEvent := ⟨Enabled, next⟩

/-- The framebuffer has what `composite` leaves when it draws the server's state. -/
def Holds (D : Screen) (i : Fin 2) (shared : Nat → Block) : Prop :=
  ∃ words fb fb', (D.run.fb i).canvas words = some fb ∧ D.run.frame shared fb = some fb' ∧
    (D.drawn i).words = fb'.map

/--
The framebuffer has the frame that would be drawn now, of the windows, the cursor and
the frontend's memory as they are, and of the clients' memory as it was.
-/
def Current (D : Screen) (i : Fin 2) : Prop :=
  ∃ shared, (D.drawn i).shared = some shared ∧ D.Holds i shared

/--
The framebuffer at the front has the scene, as long as no repaint is asked for.
It is the one that is shown after an even number of missed frames.
-/
structure Inv (D : Screen) : Prop where
  run : D.run.Inv
  front : ∀ shared, (D.drawn D.run.front).shared = some shared → D.run.Clean →
    D.Holds D.run.front shared
  turned : ∀ i, D.shown = some i →
    D.run.front = if Even (missed D.run.commits) then i else otherFb i
  painted : ∀ i, D.shown = some i → (D.drawn i).shared.isSome

variable {D : Screen} {e : ScreenEvent}

theorem nextShown_of_shown {i : Fin 2} (hi : (D.next e).shown = some i) :
    D.nextShown e = some i := by
  unfold next at hi
  dsimp only at hi
  split at hi
  · cases hi
  · exact hi

theorem Holds.keep {D' : Screen} {i : Fin 2} {shared : Nat → Block} (h : D.Holds i shared)
    (hfb : D'.run.fb i = D.run.fb i) (hwords : (D'.drawn i).words = (D.drawn i).words)
    (hsame : D.run.SameFrame D'.run) : D'.Holds i shared := by
  obtain ⟨words, fb, fb', hcanvas, hframe, hdrawn⟩ := h
  exact ⟨words, fb, fb', hfb ▸ hcanvas, (hsame.frame shared fb).trans hframe, hwords.trans hdrawn⟩

theorem Inv.idle (hD : D.Inv) (hen : D.Enabled e) (hwithin : (D.next e).run.Within)
    (hidle : ∀ answers, e.event = .frame answers → ¬ D.run.Presents)
    (hfront : (D.next e).run.front = D.run.front)
    (hdrawn : ∀ i, ((D.next e).drawn i).shared.isSome →
      (D.next e).drawn i = D.drawn i ∧ (D.next e).run.fb i = D.run.fb i)
    (hshown : ∀ i, (D.next e).shown = some i →
      D.shown = some i ∧ (D.next e).drawn i = D.drawn i) : (D.next e).Inv := by
  have hreports : ServerRun.Reports D.run (D.next e).run :=
    .proceed hen.event hen.lost hidle hwithin
  constructor
  · exact hreports.inv hD.run
  · intro shared hshared hclean
    obtain ⟨hclean, hsame⟩ := hreports.clean hD.run hclean
    rw [hfront] at hshared ⊢
    obtain ⟨hkept, hfb⟩ := hdrawn _ (by rw [hshared]; rfl)
    rw [hkept] at hshared
    exact (hD.front shared hshared hclean).keep hfb (by rw [hkept]) hsame
  · intro i hi
    rw [hfront, next, ServerRun.missed_proceed hidle]
    exact hD.turned i (hshown i hi).1
  · intro i hi
    obtain ⟨hi, hkept⟩ := hshown i hi
    rw [hkept]
    exact hD.painted i hi

/-- A frame that is accepted shows the framebuffer that it was drawn into, or nothing is known. -/
theorem shown_next_frame {answers : CommitAnswers} {i : Fin 2} (he : e.event = .frame answers)
    (hpresents : D.run.Presents) (hi : (D.next e).shown = some i) :
    (answers.committed = false ∧ D.shown = some i) ∨
      (answers.committed = true ∧ answers.added = true ∧ i = D.back) := by
  have hi := nextShown_of_shown hi
  unfold nextShown at hi
  rw [he] at hi
  cases hcommitted : answers.committed with
  | false => exact .inl ⟨rfl, by simpa [hcommitted] using hi⟩
  | true =>
      cases hadded : answers.added with
      | false => simp [hpresents, hcommitted, hadded] at hi
      | true =>
          refine .inr ⟨rfl, rfl, ?_⟩
          cases hmodeset : D.run.needModeset with
          | false =>
              simp [hpresents, hcommitted, hadded, hmodeset] at hi
              exact hi.2.symm
          | true =>
              simp [hpresents, hcommitted, hadded, hmodeset] at hi
              exact hi.symm

/-- The back framebuffer gets the scene, and it comes to the front. -/
theorem Inv.present (hD : D.Inv) (hen : D.Enabled e) (hwithin : (D.next e).run.Within)
    {answers : CommitAnswers} (he : e.event = .frame answers) (hpresents : D.run.Presents) :
    (D.next e).Inv := by
  obtain ⟨fb', hcomposed⟩ := Option.isSome_iff_exists.mp (hen.draws answers he hpresents)
  obtain ⟨fb, hcanvas, hframe⟩ := Option.bind_eq_some_iff.mp hcomposed
  have hrun : (D.next e).run = D.run.next (.frame answers) := by
    rw [next, ServerRun.proceed, he]
  have hpresented : D.run.next (.frame answers) = ServerRun.advance { D.run with
      commits := D.run.commits ++
        [.frame D.run.needModeset (answers.added && answers.committed)]
      front := D.back
      needModeset := false
      dirty := false } := congrArg ServerRun.advance (if_pos hpresents)
  have hsame : D.run.SameFrame (D.next e).run := by
    rw [hrun]
    exact (ServerRun.SameFrame.atFrame D.run answers).trans (.of_eq rfl rfl rfl)
  have hdrawn : (D.next e).drawn = Function.update D.drawn D.back ⟨fb'.map, some e.shared⟩ := by
    simp [next, nextDrawn, he, hpresents, hcomposed]
  have hfront : (D.next e).run.front = D.back := by
    rw [hrun, hpresented]
    rfl
  have hmissed : missed (D.next e).run.commits =
      if answers.added && answers.committed then 0 else missed D.run.commits + 1 := by
    rw [hrun, hpresented]
    exact missed_append_frame ..
  constructor
  · rw [hrun] at hwithin ⊢
    exact hD.run.step (he ▸ hen.event) hwithin
  · intro shared hshared _
    rw [hfront, hdrawn, Function.update_self] at hshared
    cases hshared
    rw [hfront]
    refine ⟨(D.drawn D.back).words, fb, fb', ?_, (hsame.frame e.shared fb).trans hframe, ?_⟩
    · rw [hrun, hpresented]
      exact hcanvas
    · rw [hdrawn, Function.update_self]
  · intro i hi
    rw [hfront, hmissed]
    rcases shown_next_frame he hpresents hi with ⟨hrejected, hi⟩ | ⟨hcommitted, hadded, rfl⟩
    · have hturned := hD.turned i hi
      rw [hrejected, Bool.and_false, if_neg Bool.false_ne_true, back, hturned]
      by_cases heven : Even (missed D.run.commits)
      · rw [if_pos heven, if_neg (by rw [Nat.even_add_one]; exact not_not.mpr heven)]
      · rw [if_neg heven, if_pos (Nat.even_add_one.mpr heven), otherFb_otherFb]
    · rw [hcommitted, hadded, Bool.and_self, if_pos rfl, if_pos Even.zero]
  · intro i hi
    rw [hdrawn]
    by_cases hback : i = D.back
    · rw [hback, Function.update_self]
      rfl
    · rw [Function.update_of_ne hback]
      rcases shown_next_frame he hpresents hi with ⟨-, hi⟩ | ⟨-, -, hi⟩
      · exact hD.painted i hi
      · exact (hback hi).elim

theorem Inv.control (hD : D.Inv) (hen : D.Enabled e) (hwithin : (D.next e).run.Within)
    {w h refresh : Int} {a : ApplyAnswers} (he : e.event = .control w h refresh a) :
    (D.next e).Inv := by
  have hrun : (D.next e).run = (applyModeCb D.run a w h refresh).1 := by
    rw [next, ServerRun.proceed, he]
    rfl
  have hdrawn (i : Fin 2) : (D.next e).drawn i =
      if Destroys a w h refresh i then ⟨fun _ => 0, none⟩ else D.drawn i := by
    rw [next, nextDrawn, he]
  refine hD.idle hen hwithin (fun answers heq => ?_) ?_ (fun i hi => ?_) fun i hi => ?_
  · cases he.symm.trans heq
  · rw [hrun]
    exact applyModeCb_front ..
  · rw [hdrawn] at hi ⊢
    split at hi
    · cases hi
    · rename_i hkept
      rw [if_neg hkept, hrun]
      exact ⟨rfl, applyModeCb_fb _ _ _ _ _ hkept⟩
  · have hi := nextShown_of_shown hi
    unfold nextShown at hi
    rw [he] at hi
    obtain ⟨hi, hkept⟩ := Option.filter_eq_some_iff.mp hi
    rw [hdrawn, if_neg (of_decide_eq_true hkept)]
    exact ⟨hi, rfl⟩

section Aside

variable (hidle : ∀ answers, e.event = .frame answers → ¬ D.run.Presents)
  (hcontrol : ∀ w h refresh a, e.event ≠ .control w h refresh a)

include hidle hcontrol

theorem drawn_next : (D.next e).drawn = D.drawn := by
  show D.nextDrawn e = D.drawn
  obtain ⟨event, shared, served, lost, taken⟩ := e
  cases event with
  | frame answers => exact if_neg (hidle answers rfl)
  | control w h refresh a => exact (hcontrol w h refresh a rfl).elim
  | _ => rfl

theorem shown_next {i : Fin 2} (hi : (D.next e).shown = some i) : D.shown = some i := by
  have hi := nextShown_of_shown hi
  obtain ⟨event, shared, served, lost, taken⟩ := e
  unfold nextShown at hi
  cases event with
  | seat active =>
      dsimp only at hi
      split at hi
      · cases hi
      · exact hi
  | idle now committed =>
      dsimp only at hi
      split at hi
      · cases hi
      · exact hi
  | frame answers =>
      dsimp only at hi
      rwa [if_neg fun h => hidle answers rfl h.1] at hi
  | control w h refresh a => exact (hcontrol w h refresh a rfl).elim
  | _ => exact hi

end Aside

theorem Inv.step (hD : D.Inv) (hen : D.Enabled e) (hwithin : (D.next e).run.Within) :
    (D.next e).Inv := by
  by_cases hpresents : ∃ answers, e.event = .frame answers ∧ D.run.Presents
  · obtain ⟨answers, he, hpresents⟩ := hpresents
    exact hD.present hen hwithin he hpresents
  · have hidle (answers : CommitAnswers) (he : e.event = .frame answers) : ¬ D.run.Presents :=
      fun h => hpresents ⟨answers, he, h⟩
    by_cases hcontrol : ∃ w h refresh a, e.event = .control w h refresh a
    · obtain ⟨w, h, refresh, a, he⟩ := hcontrol
      exact hD.control hen hwithin he
    · have hcontrol (w h refresh : Int) (a : ApplyAnswers) : e.event ≠ .control w h refresh a :=
        fun he => hcontrol ⟨w, h, refresh, a, he⟩
      have hscanout : SameScanout D.run (D.next e).run :=
        ServerRun.sameScanout_proceed hidle hcontrol
      refine hD.idle hen hwithin hidle hscanout.front (fun i _ => ?_) fun i hi => ?_
      · rw [drawn_next hidle hcontrol, hscanout.fb]
        exact ⟨rfl, rfl⟩
      · rw [drawn_next hidle hcontrol]
        exact ⟨shown_next hidle hcontrol hi, rfl⟩

theorem within_of_next (hen : D.Enabled e) (hwithin : (D.next e).run.Within) :
    D.run.Within := by
  by_cases hframe : ∃ answers, e.event = .frame answers
  · obtain ⟨answers, he⟩ := hframe
    have hrun : (D.next e).run = D.run.next e.event := by
      rw [next, ServerRun.proceed, he]
    exact ServerRun.Within.mono hen.event (hrun ▸ hwithin)
  · refine (ServerRun.Reports.proceed hen.event hen.lost (fun answers he => ?_) hwithin).within
      hwithin
    exact (hframe ⟨answers, he⟩).elim

theorem start_inv (S : Setup) : (start S.start).Inv where
  run := S.start_inv
  front _ h := nomatch h
  turned _ h := nomatch h
  painted _ h := nomatch h

theorem Inv.run_inv {es : List ScreenEvent} (hD : D.Inv) (hlegal : system.Legal D es)
    (hwithin : (system.exec D es).run.Within) : (system.exec D es).Inv :=
  System.invariant_below (B := fun D => D.run.Within)
    (fun _ _ hen h => within_of_next hen h) (fun _ _ hI hen h => hI.step hen h) hlegal hD hwithin

theorem Inv.current (hD : D.Inv) {i : Fin 2} (hshown : D.shown = some i)
    (heven : Even (missed D.run.commits)) (hclean : D.run.Clean) : D.Current i := by
  have hfront := hD.turned i hshown
  rw [if_pos heven] at hfront
  obtain ⟨shared, hshared⟩ := Option.isSome_iff_exists.mp (hD.painted i hshown)
  exact ⟨shared, hshared, hfront ▸ hD.front shared (hfront ▸ hshared) hclean⟩

theorem answered_next {answers : CommitAnswers} (he : e.event = .frame answers)
    (hmaster : (D.next e).run.master = true) (hlit : (D.next e).run.blanked = false) :
    (D.next e).run.dirty = false := by
  have hrun : (D.next e).run = (D.run.atFrame answers).advance := by
    rw [next, ServerRun.proceed, he]
    rfl
  rw [hrun] at hmaster hlit ⊢
  revert hmaster hlit
  show (D.run.atFrame answers).master = true → (D.run.atFrame answers).blanked = false →
    (D.run.atFrame answers).dirty = false
  unfold ServerRun.atFrame
  split
  · exact fun _ _ => rfl
  · rename_i hidle
    exact fun hmaster hlit => by_contra fun hdirty =>
      hidle ⟨hmaster, eq_true_of_ne_false hdirty, hlit⟩

theorem feDirty_next (h : D.run.fe.dirty = false) (hlost : e.lost = []) :
    (D.next e).run.fe.dirty = false := by
  have hnext (event : ServerEvent) : (D.run.next event).fe.dirty = false := by
    by_cases houtside : Housekeeping.Outside event
    · cases event with
      | transport e => exact h
      | wayland e =>
          cases e with
          | surface client e => rfl
          | _ => exact houtside.elim
      | _ => exact houtside.elim
    · exact (ServerRun.feDirty_housekeeping.next D.run houtside).trans h
  obtain ⟨event, shared, served, lost, taken⟩ := e
  cases hlost
  cases event with
  | pass =>
      unfold next ServerRun.proceed
      dsimp only
      split
      · rfl
      · exact h
  | tail =>
      show (D.run.atTailLosing []).fe.dirty = false
      rw [ServerRun.atTailLosing_nil]
      exact hnext .tail
  | _ => exact hnext _

theorem feDirty_run {es : List ScreenEvent} (h : D.run.fe.dirty = false)
    (hlost : ∀ e ∈ es, e.lost = []) : (system.exec D es).run.fe.dirty = false :=
  System.invariant (I := fun D => D.run.fe.dirty = false)
    (fun _ _ h hlost => feDirty_next h hlost) (System.each_of_mem D hlost) h

end Screen

/--
In every run of the server, whenever no repaint is asked for, neither by the server
nor by the frontend, the framebuffer that the kernel shows has the frame that
`composite` would draw, unless an odd number of frames was rejected since.  Each time
the server goes to wait for events, with the seat active and the panel lit, it asks
for no repaint itself; and the frontend asks for none as long as no flush has
destroyed a client.
-/
theorem screen_shows_scene (S : Setup) (es : List ScreenEvent)
    (hrun : Screen.system.Legal (.start S.start) es)
    (hwithin : (Screen.system.exec (.start S.start) es).run.Within) :
    let D := Screen.system.exec (.start S.start) es
    (∀ i, D.shown = some i → Even (missed D.run.commits) → D.run.Clean → D.Current i) ∧
      (∀ e answers, e.event = .frame answers → (D.next e).run.master = true →
        (D.next e).run.blanked = false → (D.next e).run.dirty = false) ∧
      ((∀ e ∈ es, e.lost = []) → D.run.fe.dirty = false) := by
  have hD := (Screen.start_inv S).run_inv hrun hwithin
  refine ⟨fun i hshown heven hclean => hD.current hshown heven hclean, ?_, fun hlost => ?_⟩
  · exact fun e answers he hmaster hlit => Screen.answered_next he hmaster hlit
  · exact Screen.feDirty_run rfl hlost

theorem Screen.composed_of_bare {D : Screen} (hfbs : D.run.FbsMapped)
    (hbare : ∀ w ∈ D.run.stack.windows, w.buf = .null) (shared : Nat → Block) :
    (D.composed shared).isSome := by
  have hdraws : Compositor.Draws fun fb => D.run.frame shared fb :=
    Compositor.composite_draws (fun w hw hshows => (hshows (hbare w hw)).elim) _ _ _
  obtain ⟨fb', hframe, -⟩ := hdraws _
  exact Option.isSome_iff_exists.mpr
    ⟨fb', Option.bind_eq_some_iff.mpr ⟨_, dif_pos (hfbs D.back), hframe⟩⟩

def plainly (event : ServerEvent) : ScreenEvent :=
  ⟨event, fun _ => ⟨0, fun _ => 0⟩, false, [], false⟩

/--
The kernel accepts the first frame.  A client makes a surface, the flush destroys the
client, and the next frame, after a hotplug, is rejected.
-/
def flipRun : List ScreenEvent :=
  [plainly (.seat true), plainly (.idle 0 false), plainly (.frame ⟨true, true⟩), plainly .pass,
    plainly .pass, plainly (.wayland (.surface 5 (.createSurface true (some 1)))), plainly .pass,
    plainly .pass, plainly (.hotplug true),
    { plainly .tail with lost := [.surface 5 (.destroy 1)] }, plainly (.seat true),
    plainly (.idle 16 false), plainly (.frame ⟨true, false⟩)]

theorem flipRun_legal : Screen.system.Legal (.start plainSetup.start) flipRun := by
  have haside (D : Screen) (event : ServerEvent) (hen : D.run.enabled event)
      (hours : ∀ client e, event ≠ .wayland (.surface client e))
      (hframe : ∀ answers, event ≠ .frame answers) : D.Enabled (plainly event) :=
    ⟨hen, fun client e he => (hours client e he).elim, fun answers he => (hframe answers he).elim,
      fun _ => trivial⟩
  have hdraws (D : Screen) (answers : CommitAnswers) (hen : D.run.stage = .frame)
      (hfb : D.run.fb = plainSetup.start.fb) (hbare : D.run.stack.windows = []) :
      D.Enabled (plainly (.frame answers)) := by
    refine ⟨hen, nofun, fun _ _ _ => ?_, nofun⟩
    have hfbs : D.run.FbsMapped := by
      unfold ServerRun.FbsMapped
      rw [hfb]
      decide
    exact Screen.composed_of_bare hfbs (fun w hw => by simp [hbare] at hw) _
  refine ⟨haside _ _ ⟨rfl, rfl⟩ nofun nofun, haside _ _ rfl nofun nofun, hdraws _ _ rfl rfl rfl,
    haside _ _ (.inl rfl) nofun nofun, haside _ _ (.inr (.inl rfl)) nofun nofun, ?_,
    haside _ _ (.inr (.inr (.inl rfl))) nofun nofun,
    haside _ _ (.inr (.inr (.inr rfl))) nofun nofun, haside _ _ rfl nofun nofun, ?_,
    haside _ _ ⟨rfl, rfl⟩ nofun nofun, haside _ _ rfl nofun nofun, hdraws _ _ rfl rfl rfl, trivial⟩
  · refine ⟨⟨rfl, Frontend.newHandle_of_none rfl, nofun⟩, ?_, nofun, nofun⟩
    rintro client e ⟨⟩
    decide
  · exact ⟨rfl, nofun, nofun, fun _ => ⟨⟨⟨_, rfl⟩, by decide⟩, trivial⟩⟩

theorem screen_shows_scene_flipRun :
    let D := Screen.system.exec (.start plainSetup.start) flipRun
    (∀ i, D.shown = some i → Even (missed D.run.commits) → D.run.Clean → D.Current i) ∧
      (∀ e answers, e.event = .frame answers → (D.next e).run.master = true →
        (D.next e).run.blanked = false → (D.next e).run.dirty = false) ∧
      ((∀ e ∈ flipRun, e.lost = []) → D.run.fe.dirty = false) :=
  screen_shows_scene plainSetup flipRun flipRun_legal (by decide +kernel)

/--
In every run of the server, the next frame is drawn into the framebuffer that the
kernel shows if and only if an odd number of frames was rejected since the last
one that was accepted.
-/
theorem draws_on_screen_iff_odd_missed (S : Setup) (es : List ScreenEvent)
    (hrun : Screen.system.Legal (.start S.start) es)
    (hwithin : (Screen.system.exec (.start S.start) es).run.Within) :
    let D := Screen.system.exec (.start S.start) es
    ∀ i, D.shown = some i → (D.back = i ↔ Odd (missed D.run.commits)) := by
  intro D i hshown
  rw [Screen.back, ((Screen.start_inv S).run_inv hrun hwithin).turned i hshown,
    ← Nat.not_even_iff_odd]
  split
  · rename_i heven
    exact iff_of_false (otherFb_ne i) (not_not.mpr heven)
  · rename_i hodd
    exact iff_of_true (otherFb_otherFb i) hodd

theorem draws_on_screen_iff_odd_missed_flipRun :
    let D := Screen.system.exec (.start plainSetup.start) flipRun
    ∀ i, D.shown = some i → (D.back = i ↔ Odd (missed D.run.commits)) :=
  draws_on_screen_iff_odd_missed plainSetup flipRun flipRun_legal (by decide +kernel)

/-- After the rejected frame the next one is drawn where the user sees it. -/
example :
    let D := Screen.system.exec (.start plainSetup.start) flipRun
    D.shown = some D.back := by decide +kernel

end CrystallineLattice.Server
