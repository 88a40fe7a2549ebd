import CrystallineLattice.Wayland.Sending

/-!
# Whose frame callbacks fire

A client asks for a frame callback on a surface, to learn when it may draw the
next frame there.  The frontend has one list for the callbacks of all surfaces,
and `fire_frame_callbacks` empties it.
-/

namespace CrystallineLattice.Wayland

open CrystallineLattice.Foundation
open CrystallineLattice.Stack

structure FrameRequest where
  callback : Nat
  surface : Nat
  deriving DecidableEq, Repr

structure Animating where
  fe : Frontend
  pending : List FrameRequest

namespace Animating

def start (stack : WindowStack) : Animating := ⟨.start stack, []⟩

def pendingAfter (w : Animating) : FeEvent → List FrameRequest
  | .frame r (some cb) =>
      match w.fe.resources r with
      | some res =>
          if (w.fe.recordAt r).isSome then ⟨cb, res.data⟩ :: w.pending else w.pending
      | none => w.pending
  | .commit r _ _ =>
      if (w.fe.recordAt r).any (·.unconfigured.isNone) then [] else w.pending
  | .destroyCallback cb => w.pending.eraseP fun p => p.callback = cb
  | _ => w.pending

def next (w : Animating) (e : FeEvent) : Animating := ⟨w.fe.next e, w.pendingAfter e⟩

def system : System Animating FeEvent := ⟨fun w e => w.fe.enabled e, next⟩

/-- A callback that the step completes was requested on the surface that the step commits. -/
def CompletesOwn (w : Animating) (e : FeEvent) : Prop :=
  ∀ p ∈ w.pending, w.fe.Sends e (.done p.callback) →
    ∃ r shm heap, e = .commit r shm heap ∧ w.fe.resources r = some ⟨.surface, p.surface⟩

/--
A commit, unless it is answered by the first configure, finds only callbacks
waiting that were requested on its own surface.
-/
def AloneWaiting (w : Animating) : FeEvent → Prop
  | .commit r _ _ => ∀ a s, w.fe.resources r = some ⟨.surface, a⟩ → w.fe.surfaces a = some s →
      (s.xdgSurface = none ∨ s.initialConfigured = true) → ∀ p ∈ w.pending, p.surface = a
  | _ => True

def Listed (w : Animating) : Prop := w.fe.frameCallbacks = w.pending.map FrameRequest.callback

variable {w : Animating} {e : FeEvent}

theorem map_eraseP (pending : List FrameRequest) (cb : Nat) :
    (pending.eraseP fun p => p.callback = cb).map FrameRequest.callback =
      (pending.map FrameRequest.callback).erase cb := by
  induction pending with
  | nil => rfl
  | cons p pending ih =>
      by_cases heq : p.callback = cb
      · simp [heq]
      · simp [heq, ih]

theorem Listed.next (h : w.Listed) (e : FeEvent) : (w.next e).Listed := by
  have hafter := (w.fe.says_next e).frameCallbacks
  unfold Listed at h ⊢
  simp only [Animating.next]
  rw [hafter]
  cases e with
  | frame r callback =>
      cases callback with
      | none => exact h
      | some cb =>
          simp only [Frontend.callbacksAfter, pendingAfter]
          cases hr : w.fe.resources r with
          | none => simpa [Frontend.recordAt, hr] using h
          | some res =>
              dsimp only
              split <;> simp [h]
  | commit r shm heap =>
      simp only [Frontend.callbacksAfter, pendingAfter]
      split
      · rfl
      · exact h
  | destroyCallback cb =>
      simp only [Frontend.callbacksAfter, pendingAfter]
      rw [map_eraseP, h]
  | _ => exact h

theorem unconfigured_eq_none {s : FeSurface} :
    s.unconfigured = none ↔ s.xdgSurface = none ∨ s.initialConfigured = true := by
  unfold FeSurface.unconfigured
  cases s.initialConfigured <;> simp

theorem done_mem_said {s : FeSurface} {frameCallbacks : List Nat} {cb : Nat} :
    .done cb ∈ s.said frameCallbacks ↔ s.unconfigured = none ∧ cb ∈ frameCallbacks := by
  unfold FeSurface.said
  cases s.unconfigured <;> simp

theorem commit_of_done {fe : Frontend} {cb : Nat} (h : .done cb ∈ fe.said e) :
    ∃ r shm heap s, e = .commit r shm heap ∧ fe.recordAt r = some s ∧
      .done cb ∈ s.said fe.frameCallbacks := by
  cases e with
  | commit r shm heap =>
      cases hrecord : fe.recordAt r with
      | none => simp [Frontend.said, hrecord] at h
      | some s => exact ⟨r, shm, heap, s, rfl, hrecord, by simpa [Frontend.said, hrecord] using h⟩
  | getDecoration r resource =>
      cases resource with
      | none => cases h
      | some d => simp [Frontend.said] at h
  | _ => cases h

theorem completesOwn_iff (hlisted : w.Listed) (hen : w.fe.enabled e) :
    w.CompletesOwn e ↔ w.AloneWaiting e := by
  constructor
  · intro hown
    cases e with
    | commit r shm heap =>
        intro a s hr hs hready p hp
        have hdone : .done p.callback ∈ w.fe.said (.commit r shm heap) := by
          rw [Frontend.said_commit hr hs, done_mem_said, hlisted]
          exact ⟨unconfigured_eq_none.mpr hready, List.mem_map_of_mem hp⟩
        obtain ⟨r', shm', heap', heq, hr'⟩ := hown p hp (Frontend.sends_iff.mpr hdone)
        cases heq
        rw [hr] at hr'
        cases hr'
        rfl
    | _ => trivial
  · intro halone p hp hdone
    obtain ⟨r, shm, heap, s, rfl, hrecord, hsaid⟩ := commit_of_done (Frontend.sends_iff.mp hdone)
    obtain ⟨⟨a, hr⟩, -⟩ := hen
    have hs : w.fe.surfaces a = some s := by simpa [Frontend.recordAt, hr] using hrecord
    have hready := unconfigured_eq_none.mp (done_mem_said.mp hsaid).1
    exact ⟨r, shm, heap, rfl, by rw [halone a s hr hs hready p hp, hr]⟩

/--
In a run, callbacks are completed by commits of their own surfaces exactly when a
firing commit never finds a callback of another surface.
-/
theorem callbacks_complete_own_iff (stack : WindowStack) (es : List FeEvent)
    (hrun : system.Legal (start stack) es) :
    system.Each CompletesOwn (start stack) es ↔ system.Each AloneWaiting (start stack) es :=
  System.each_congr (fun _ e hlisted _ => Listed.next hlisted e)
    (fun _ _ hlisted hen => completesOwn_iff hlisted hen) hrun rfl

/-- Two surfaces: a callback is requested on the first, and the second is committed. -/
def neighbourRun : List FeEvent :=
  [.createSurface true (some 1), .createSurface true (some 2), .frame 1 (some 10),
    .commit 2 none none]

theorem neighbourRun_legal : system.Legal (start windowStackInit) neighbourRun := by
  have hnew := @Frontend.newHandle_of_none
  exact ⟨hnew rfl, hnew rfl, ⟨0, rfl⟩, ⟨⟨1, rfl⟩, Frontend.newBlock_none _ _⟩, trivial⟩

theorem callbacks_complete_own_iff_neighbourRun :
    system.Each CompletesOwn (start windowStackInit) neighbourRun ↔
      system.Each AloneWaiting (start windowStackInit) neighbourRun :=
  callbacks_complete_own_iff windowStackInit neighbourRun neighbourRun_legal

theorem neighbour_completes_callback :
    system.Legal (start windowStackInit) neighbourRun ∧
      ¬ system.Each CompletesOwn (start windowStackInit) neighbourRun := by
  refine ⟨neighbourRun_legal, ?_⟩
  rintro ⟨-, -, -, hlast, -⟩
  have hdone : .done 10 ∈ Frontend.said
      (system.exec (start windowStackInit) (neighbourRun.take 3)).fe (.commit 2 none none) := by
    decide
  obtain ⟨r, shm, heap, heq, hr⟩ :=
    hlast ⟨10, 0⟩ List.mem_cons_self (Frontend.sends_iff.mpr hdone)
  cases heq
  cases hr

end Animating

end CrystallineLattice.Wayland
