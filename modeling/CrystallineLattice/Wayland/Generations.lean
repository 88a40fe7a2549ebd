import CrystallineLattice.Wayland.Roles
import CrystallineLattice.Wayland.Sending

/-!
# One `wl_surface`, several `xdg_surface`s

A client may destroy the `xdg_surface` of a `wl_surface` and get a new one.  It
then commits once and waits for a configure.  `initial_configured` is a flag of
the record, which outlives the `xdg_surface`, and is never reset.
-/

namespace CrystallineLattice.Wayland

open CrystallineLattice.Foundation
open CrystallineLattice.Stack

/-- For each record, the `xdg_surface` that was made for it and not committed since. -/
abbrev Awaiting := Nat → Option Nat

def Awaiting.after (objects : Nat → Option Resource) (awaiting : Awaiting) : FeEvent → Awaiting
  | .getXdgSurface r (some x) =>
      match objects r with
      | some res => Function.update awaiting res.data (some x)
      | none => awaiting
  | .commit r _ _ =>
      match objects r with
      | some res => Function.update awaiting res.data none
      | none => awaiting
  | .destroy r => fun a => if awaiting a = some r then none else awaiting a
  | _ => awaiting

/-! ## What is awaited, in terms of the roles -/

/-- The new `xdg_surface` is the only one of its record, which lives. -/
def RoleState.OneRole (S : RoleState) : FeEvent → Prop
  | .getXdgSurface r (some x) => S.objects x = none ∧
      ∃ a role, S.objects r = some ⟨.surface, a⟩ ∧ S.roles a = some role ∧
        ∀ y, S.objects y ≠ some ⟨.xdgSurface, a⟩
  | .createSurface _ (some r) => S.objects r = none
  | _ => True

/-- An awaited `xdg_surface` lives, and is the one that its record names. -/
structure Expects (S : RoleState) (awaiting : Awaiting) : Prop where
  single : ∀ {x x' a}, S.objects x = some ⟨.xdgSurface, a⟩ →
    S.objects x' = some ⟨.xdgSurface, a⟩ → x = x'
  below : ∀ {r res}, S.objects r = some res → res.data < S.nextSurface
  object : ∀ {a x}, awaiting a = some x → S.objects x = some ⟨.xdgSurface, a⟩
  role : ∀ {a x role}, awaiting a = some x → S.roles a = some role → role.xdgSurface = some x

def Unconfigured (S : RoleState) (awaiting : Awaiting) : Prop :=
  ∀ a x role, awaiting a = some x → S.roles a = some role → role.configured = false

namespace Expects

variable {S : RoleState} {awaiting : Awaiting} {r a x : Nat}

theorem create (h : Expects S awaiting) (hr : S.objects r = none) :
    Expects (S.next (.createSurface true (some r))) awaiting where
  single {x x' a'} h₁ h₂ := by
    rcases PartialMap.found_of_store h₁ with ⟨-, heq⟩ | ⟨-, hold₁⟩
    · cases heq
    · rcases PartialMap.found_of_store h₂ with ⟨-, heq⟩ | ⟨-, hold₂⟩
      · cases heq
      · exact h.single hold₁ hold₂
  below {r' res} hr' := by
    rcases PartialMap.found_of_store hr' with ⟨-, rfl⟩ | ⟨-, hold⟩
    · exact Nat.lt_succ_self _
    · exact (h.below hold).trans (Nat.lt_succ_self _)
  object {a' x} ha := by
    have hold := h.object ha
    refine PartialMap.found_of_ne ?_ _ hold
    rintro rfl
    rw [hr] at hold
    cases hold
  role {a' x role} ha hrole := by
    have hlt := h.below (h.object ha)
    rcases PartialMap.found_of_store hrole with ⟨rfl, -⟩ | ⟨-, hold⟩
    · exact (Nat.lt_irrefl _ hlt).elim
    · exact h.role ha hold

theorem next_getXdgSurface (hr : S.objects r = some ⟨.surface, a⟩) {role : Role}
    (hrole : S.roles a = some role) (x : Nat) :
    S.next (.getXdgSurface r (some x)) =
      { S with
        objects := Function.update S.objects x (some ⟨.xdgSurface, a⟩)
        roles := Function.update S.roles a (some { role with xdgSurface := some x }) } := by
  simp only [RoleState.next, hr, hrole]

theorem getXdgSurface (h : Expects S awaiting) (hone : S.OneRole (.getXdgSurface r (some x))) :
    Expects (S.next (.getXdgSurface r (some x)))
      (awaiting.after S.objects (.getXdgSurface r (some x))) := by
  obtain ⟨hx, a, role, hr, hrole, hfirst⟩ := hone
  rw [next_getXdgSurface hr hrole, Awaiting.after, hr]
  constructor
  all_goals dsimp only
  · intro x₁ x₂ a' h₁ h₂
    rcases PartialMap.found_of_store h₁ with ⟨rfl, heq₁⟩ | ⟨-, hold₁⟩
    · rcases PartialMap.found_of_store h₂ with ⟨rfl, -⟩ | ⟨-, hold₂⟩
      · rfl
      · cases heq₁
        exact (hfirst _ hold₂).elim
    · rcases PartialMap.found_of_store h₂ with ⟨rfl, heq₂⟩ | ⟨-, hold₂⟩
      · cases heq₂
        exact (hfirst _ hold₁).elim
      · exact h.single hold₁ hold₂
  · intro r' res hr'
    rcases PartialMap.found_of_store hr' with ⟨-, rfl⟩ | ⟨-, hold'⟩
    · have hlt := h.below hr
      exact hlt
    · exact h.below hold'
  · intro a' x' ha'
    rcases PartialMap.found_of_store ha' with ⟨rfl, rfl⟩ | ⟨-, hawaited⟩
    · exact Function.update_self ..
    · have hobject := h.object hawaited
      refine PartialMap.found_of_ne ?_ _ hobject
      rintro rfl
      rw [hx] at hobject
      cases hobject
  · intro a' x' role' ha' hrole'
    rcases PartialMap.found_of_store ha' with ⟨rfl, rfl⟩ | ⟨hne, hawaited⟩
    · rw [Function.update_self] at hrole'
      cases hrole'
      rfl
    · rw [Function.update_of_ne hne] at hrole'
      exact h.role hawaited hrole'

theorem next_commit (S : RoleState) (r : Nat) (shm : Option ShmBuffer) (heap : Option Nat) :
    (S.next (.commit r shm heap)).objects = S.objects ∧
      (S.next (.commit r shm heap)).nextSurface = S.nextSurface ∧
      ∀ a, (S.next (.commit r shm heap)).roles a = S.roles a ∨
        ∃ res x, S.objects r = some res ∧ res.data = a ∧ S.roles a = some ⟨some x, false⟩ ∧
          (S.next (.commit r shm heap)).roles a = some ⟨some x, true⟩ := by
  simp only [RoleState.next]
  cases hr : S.objects r with
  | none => exact ⟨rfl, rfl, fun _ => .inl rfl⟩
  | some res =>
      obtain ⟨kind, a⟩ := res
      dsimp only
      split
      · rename_i x hrole
        refine ⟨rfl, rfl, ?_⟩
        intro a'
        by_cases heq : a' = a
        · rw [heq]
          exact .inr ⟨_, x, rfl, rfl, hrole, Function.update_self ..⟩
        · exact .inl (Function.update_of_ne heq _ _)
      · exact ⟨rfl, rfl, fun _ => .inl rfl⟩

theorem after_commit {a' : Nat} (shm : Option ShmBuffer) (heap : Option Nat)
    (ha : awaiting.after S.objects (.commit r shm heap) a' = some x) : awaiting a' = some x := by
  unfold Awaiting.after at ha
  cases hr : S.objects r with
  | none => simpa [hr] using ha
  | some res =>
      simp only [hr] at ha
      exact (PartialMap.found_of_erase ha).2

theorem commit (h : Expects S awaiting) (r : Nat) (shm : Option ShmBuffer) (heap : Option Nat) :
    Expects (S.next (.commit r shm heap)) (awaiting.after S.objects (.commit r shm heap)) := by
  obtain ⟨hobjects, hnext, hroles⟩ := next_commit S r shm heap
  constructor
  · rw [hobjects]
    exact h.single
  · rw [hobjects, hnext]
    exact h.below
  · intro a' x' ha'
    rw [hobjects]
    exact h.object (after_commit shm heap ha')
  · intro a' x' role' ha' hrole'
    have hawaited := after_commit shm heap ha'
    rcases hroles a' with hsame | ⟨_, y, -, -, hbefore, hafter⟩
    · rw [hsame] at hrole'
      exact h.role hawaited hrole'
    · rw [hafter] at hrole'
      cases hrole'
      have hname := h.role hawaited hbefore
      exact hname

theorem next_destroy (S : RoleState) (r : Nat) :
    (S.next (.destroy r)).objects = Function.update S.objects r none ∧
      (S.next (.destroy r)).nextSurface = S.nextSurface ∧
      ∀ a, (S.next (.destroy r)).roles a = S.roles a ∨
        S.objects r = some ⟨.surface, a⟩ ∧ (S.next (.destroy r)).roles a = none ∨
        S.objects r = some ⟨.xdgSurface, a⟩ ∧
          (S.next (.destroy r)).roles a = (S.roles a).map ({ · with xdgSurface := none }) := by
  simp only [RoleState.next, RoleState.destroy]
  split
  · rename_i a hr
    refine ⟨rfl, rfl, fun a' => ?_⟩
    by_cases heq : a' = a
    · rw [heq]
      exact .inr (.inl ⟨hr, Function.update_self ..⟩)
    · exact .inl (Function.update_of_ne heq _ _)
  · rename_i a hr
    refine ⟨rfl, rfl, fun a' => ?_⟩
    by_cases heq : a' = a
    · rw [heq]
      exact .inr (.inr ⟨hr, Function.update_self ..⟩)
    · exact .inl (Function.update_of_ne heq _ _)
  · exact ⟨rfl, rfl, fun _ => .inl rfl⟩

theorem destroy (h : Expects S awaiting) (r : Nat) :
    Expects (S.next (.destroy r)) (awaiting.after S.objects (.destroy r)) := by
  obtain ⟨hobjects, hnext, hroles⟩ := next_destroy S r
  have hafter {a' x' : Nat} (ha : awaiting.after S.objects (.destroy r) a' = some x') :
      awaiting a' = some x' ∧ x' ≠ r := by
    simp only [Awaiting.after] at ha
    split at ha
    · cases ha
    · rename_i hother
      refine ⟨ha, ?_⟩
      rintro rfl
      exact hother ha
  constructor
  · rw [hobjects]
    intro x₁ x₂ a' h₁ h₂
    exact h.single (PartialMap.found_of_erase h₁).2 (PartialMap.found_of_erase h₂).2
  · rw [hobjects, hnext]
    intro r' res hr'
    exact h.below (PartialMap.found_of_erase hr').2
  · intro a' x' ha'
    obtain ⟨hawaited, hne⟩ := hafter ha'
    rw [hobjects, Function.update_of_ne hne]
    exact h.object hawaited
  · intro a' x' role' ha' hrole'
    obtain ⟨hawaited, hne⟩ := hafter ha'
    rcases hroles a' with hsame | ⟨-, hgone⟩ | ⟨hr, -⟩
    · exact h.role hawaited (hsame ▸ hrole')
    · rw [hgone] at hrole'
      cases hrole'
    · exact (hne (h.single (h.object hawaited) hr)).elim

theorem next (h : Expects S awaiting) {e : FeEvent} (hone : S.OneRole e) :
    Expects (S.next e) (awaiting.after S.objects e) := by
  cases e with
  | createSurface memory resource =>
      cases memory with
      | false => exact h
      | true =>
          cases resource with
          | none => exact h
          | some r => exact h.create hone
  | getXdgSurface r resource =>
      cases resource with
      | none => exact h
      | some x => exact h.getXdgSurface hone
  | commit r shm heap => exact h.commit r shm heap
  | destroy r => exact h.destroy r
  | _ => exact h

end Expects

/-! ## Configured records -/

theorem Unconfigured.next {S : RoleState} {awaiting : Awaiting}
    (hnew : Unconfigured S awaiting) {e : FeEvent} (hone : S.OneRole e)
    (hfirst : ∀ r x a role, e = .getXdgSurface r (some x) → S.objects r = some ⟨.surface, a⟩ →
      S.roles a = some role → role.configured = false) :
    Unconfigured (S.next e) (awaiting.after S.objects e) := by
  intro a x role ha hrole
  cases e with
  | createSurface memory resource =>
      cases memory with
      | false => exact hnew a x role ha hrole
      | true =>
          cases resource with
          | none => exact hnew a x role ha hrole
          | some r =>
              rcases PartialMap.found_of_store hrole with ⟨-, rfl⟩ | ⟨-, hold⟩
              · rfl
              · exact hnew a x role ha hold
  | getXdgSurface r resource =>
      cases resource with
      | none => exact hnew a x role ha hrole
      | some x' =>
          obtain ⟨-, a', role', hr, hrole', -⟩ := hone
          rw [Expects.next_getXdgSurface hr hrole'] at hrole
          simp only [Awaiting.after, hr] at ha
          rcases PartialMap.found_of_store ha with ⟨rfl, rfl⟩ | ⟨hne, hawaited⟩
          · simp only [Function.update_self, Option.some.injEq] at hrole
            rw [← hrole]
            exact hfirst r x _ role' rfl hr hrole'
          · dsimp only at hrole
            rw [Function.update_of_ne hne] at hrole
            exact hnew a x role hawaited hrole
  | commit r shm heap =>
      have hawaited := Expects.after_commit shm heap ha
      obtain ⟨-, -, hroles⟩ := Expects.next_commit S r shm heap
      rcases hroles a with hsame | ⟨res, y, hr, rfl, -, -⟩
      · exact hnew a x role hawaited (hsame ▸ hrole)
      · simp [Awaiting.after, hr] at ha
  | destroy r =>
      have hawaited : awaiting a = some x := by
        simp only [Awaiting.after] at ha
        split at ha
        · cases ha
        · exact ha
      obtain ⟨-, -, hroles⟩ := Expects.next_destroy S r
      rcases hroles a with hsame | ⟨-, hgone⟩ | ⟨-, hless⟩
      · exact hnew a x role hawaited (hsame ▸ hrole)
      · rw [hgone] at hrole
        cases hrole
      · rw [hless] at hrole
        obtain ⟨role', hrole', rfl⟩ := Option.map_eq_some_iff.mp hrole
        have hbefore := hnew a x role' hawaited hrole'
        exact hbefore
  | _ => exact hnew a x role ha hrole

/-! ## Runs -/

structure Awaited where
  fe : Frontend
  awaiting : Awaiting

namespace Awaited

def start (stack : WindowStack) : Awaited := ⟨.start stack, fun _ => none⟩

def next (w : Awaited) (e : FeEvent) : Awaited :=
  ⟨w.fe.next e, w.awaiting.after w.fe.resources e⟩

/-- A `wl_surface` gets an `xdg_surface` when it has none. -/
def OneAlive (w : Awaited) : FeEvent → Prop
  | .getXdgSurface r (some _) => ∀ a, w.fe.resources r = some ⟨.surface, a⟩ →
      ∀ y, w.fe.resources y ≠ some ⟨.xdgSurface, a⟩
  | _ => True

def system : System Awaited FeEvent := ⟨fun w e => w.fe.enabled e ∧ w.OneAlive e, next⟩

/-- The first commit for a live `xdg_surface` makes the server configure it. -/
def Answered (w : Awaited) : FeEvent → Prop
  | .commit r shm heap => ∀ a x, w.fe.resources r = some ⟨.surface, a⟩ → w.awaiting a = some x →
      w.fe.Sends (.commit r shm heap) (.surfaceConfigure x)
  | _ => True

/-- The first commit for a live `xdg_surface` finds its surface unconfigured. -/
def CommitsUnconfigured (w : Awaited) : FeEvent → Prop
  | .commit r _ _ => ∀ a x s, w.fe.resources r = some ⟨.surface, a⟩ → w.awaiting a = some x →
      w.fe.surfaces a = some s → s.initialConfigured = false
  | _ => True

/-- An `xdg_surface` is made for a surface that was never configured. -/
def FirstRole (w : Awaited) : FeEvent → Prop
  | .getXdgSurface r (some _) => ∀ a s, w.fe.resources r = some ⟨.surface, a⟩ →
      w.fe.surfaces a = some s → s.initialConfigured = false
  | _ => True

variable {w : Awaited} {e : FeEvent}

theorem oneRole (hen : w.fe.enabled e) (hone : w.OneAlive e) (hlive : w.fe.UsesLive e) :
    w.fe.roles.OneRole e := by
  cases e with
  | createSurface memory resource =>
      cases resource with
      | none => trivial
      | some r => exact Frontend.roles_objects_none (hen r rfl)
  | getXdgSurface r resource =>
      cases resource with
      | none => trivial
      | some x =>
          obtain ⟨⟨a, hr⟩, hx⟩ := hen
          obtain ⟨s, hs⟩ := hlive.record rfl hr (by simp)
          refine ⟨Frontend.roles_objects_none (hx x rfl), a, s.role, Frontend.roles_objects hr rfl,
            Frontend.roles_roles hs, ?_⟩
          intro y hy
          exact hone a hr y (Frontend.roles_objects_eq_some.mp hy).1
  | _ => trivial

theorem after_roles (hen : w.fe.enabled e) :
    w.awaiting.after w.fe.resources e = w.awaiting.after w.fe.roles.objects e := by
  cases e with
  | getXdgSurface r resource =>
      obtain ⟨⟨a, hr⟩, -⟩ := hen
      cases resource with
      | none => rfl
      | some x => simp only [Awaiting.after, hr, Frontend.roles_objects hr rfl]
  | commit r shm heap =>
      obtain ⟨⟨a, hr⟩, -⟩ := hen
      simp only [Awaiting.after, hr, Frontend.roles_objects hr rfl]
  | _ => rfl

theorem expects_start (stack : WindowStack) :
    Expects (start stack).fe.roles (start stack).awaiting := by
  constructor <;> simp [start, Frontend.start, Frontend.roles]

theorem expects_next (h : Expects w.fe.roles w.awaiting) (hen : w.fe.enabled e)
    (hone : w.OneAlive e) (hlive : w.fe.UsesLive e) :
    Expects (w.next e).fe.roles (w.next e).awaiting := by
  rw [next, Frontend.roles_next hen, after_roles hen]
  exact h.next (oneRole hen hone hlive)

theorem unconfigured_next (hnew : Unconfigured w.fe.roles w.awaiting) (hen : w.fe.enabled e)
    (hone : w.OneAlive e) (hlive : w.fe.UsesLive e) (hfirst : w.FirstRole e) :
    Unconfigured (w.next e).fe.roles (w.next e).awaiting := by
  rw [next, Frontend.roles_next hen, after_roles hen]
  apply hnew.next (oneRole hen hone hlive)
  rintro r x a role rfl hr hrole
  obtain ⟨s, hs, rfl⟩ := Option.map_eq_some_iff.mp hrole
  exact hfirst a s (Frontend.roles_objects_eq_some.mp hr).1 hs

theorem surfaceConfigure_mem_said {s : FeSurface} {frameCallbacks : List Nat} {x : Nat} :
    .surfaceConfigure x ∈ s.said frameCallbacks ↔ s.unconfigured = some x := by
  unfold FeSurface.said
  cases s.unconfigured <;> simp [eq_comm]

theorem answered_iff (h : Expects w.fe.roles w.awaiting) (hlive : w.fe.UsesLive e) :
    w.Answered e ↔ w.CommitsUnconfigured e := by
  cases e with
  | commit r shm heap =>
      have hname {a x : Nat} {s : FeSurface} (ha : w.awaiting a = some x)
          (hs : w.fe.surfaces a = some s) : s.xdgSurface = some x :=
        h.role ha (Frontend.roles_roles hs)
      constructor
      · intro hanswered a x s hr ha hs
        have hconfigure := hanswered a x hr ha
        rw [Frontend.sends_iff, Frontend.said_commit hr hs, surfaceConfigure_mem_said] at hconfigure
        cases hconfigured : s.initialConfigured with
        | false => rfl
        | true => simp [FeSurface.unconfigured, hconfigured] at hconfigure
      · intro hunconfigured a x hr ha
        obtain ⟨s, hs⟩ := hlive.record rfl hr (by simp)
        rw [Frontend.sends_iff, Frontend.said_commit hr hs, surfaceConfigure_mem_said]
        simp [FeSurface.unconfigured, hunconfigured a x s hr ha hs, hname ha hs]
  | _ => exact Iff.rfl

theorem commitsUnconfigured (hnew : Unconfigured w.fe.roles w.awaiting) :
    w.CommitsUnconfigured e := by
  cases e with
  | commit r shm heap =>
      intro a x s _ ha hs
      exact hnew a x s.role ha (Frontend.roles_roles hs)
  | _ => trivial

/--
In a run that uses no freed record, the first commit of each `xdg_surface` is answered
exactly when it finds its surface unconfigured; all are when no surface that was
configured gets another.
-/
theorem configures_answered_iff (stack : WindowStack) (es : List FeEvent)
    (hrun : system.Legal (start stack) es)
    (hlive : system.Each (fun w e => w.fe.UsesLive e) (start stack) es) :
    (system.Each Answered (start stack) es ↔ system.Each CommitsUnconfigured (start stack) es) ∧
      (system.Each FirstRole (start stack) es → system.Each Answered (start stack) es) := by
  have hsteps := System.each_and hrun hlive
  constructor
  · exact System.each_congr (fun w e h hen => expects_next h hen.1.1 hen.1.2 hen.2)
      (fun w e h hen => answered_iff h hen.2) hsteps (expects_start stack)
  · intro hfirst
    have hnone : Unconfigured (start stack).fe.roles (start stack).awaiting := by
      intro a x role ha
      cases ha
    refine System.each_of_invariant
      (I := fun w => Expects w.fe.roles w.awaiting ∧ Unconfigured w.fe.roles w.awaiting)
      ?_ ?_ (System.each_and hsteps hfirst) ⟨expects_start stack, hnone⟩
    · rintro w e ⟨h, hnew⟩ ⟨⟨hen, hlive⟩, hfirst⟩
      exact ⟨expects_next h hen.1 hen.2 hlive, unconfigured_next hnew hen.1 hen.2 hlive hfirst⟩
    · rintro w e ⟨h, hnew⟩ ⟨⟨hen, hlive⟩, -⟩
      exact (answered_iff h hlive).mpr (commitsUnconfigured hnew)

/-- A surface gets an `xdg_surface`, commits, gives it up and starts again. -/
def regainRun : List FeEvent :=
  [.createSurface true (some 1), .getXdgSurface 1 (some 2), .commit 1 none none, .destroy 2,
    .getXdgSurface 1 (some 3), .commit 1 none none]

theorem regainRun_legal : system.Legal (start windowStackInit) regainRun := by
  have hnew := @Frontend.newHandle_of_none
  have hnoBlock := Frontend.newBlock_none
  refine ⟨⟨hnew rfl, trivial⟩, ⟨⟨⟨0, rfl⟩, hnew rfl⟩, ?_⟩, ⟨⟨⟨0, rfl⟩, hnoBlock _ _⟩, trivial⟩,
    ⟨⟨_, rfl⟩, trivial⟩, ⟨⟨⟨0, rfl⟩, hnew rfl⟩, ?_⟩, ⟨⟨⟨0, rfl⟩, hnoBlock _ _⟩, trivial⟩, trivial⟩
  · intro a _ y hy
    rcases PartialMap.found_of_store hy with ⟨-, heq⟩ | ⟨-, hold⟩
    · cases heq
    · cases hold
  · intro a _ y hy
    obtain ⟨hne, hy⟩ := PartialMap.found_of_erase hy
    rcases PartialMap.found_of_store hy with ⟨heq, -⟩ | ⟨-, hy⟩
    · exact hne heq
    · rcases PartialMap.found_of_store hy with ⟨-, heq⟩ | ⟨-, hold⟩
      · cases heq
      · cases hold

theorem configures_answered_iff_regainRun :
    (system.Each Answered (start windowStackInit) regainRun ↔
        system.Each CommitsUnconfigured (start windowStackInit) regainRun) ∧
      (system.Each FirstRole (start windowStackInit) regainRun →
        system.Each Answered (start windowStackInit) regainRun) := by
  refine configures_answered_iff windowStackInit regainRun regainRun_legal ?_
  refine ⟨?_, ?_, ?_, ?_, ?_, ?_, trivial⟩
  all_goals decide +kernel

theorem second_xdgSurface_unanswered :
    system.Legal (start windowStackInit) regainRun ∧
      ¬ system.Each Answered (start windowStackInit) regainRun := by
  refine ⟨regainRun_legal, ?_⟩
  rintro ⟨-, -, -, -, -, hlast, -⟩
  have hconfigure := Frontend.sends_iff.mp (hlast 0 3 rfl rfl)
  have hsilent : Frontend.said (system.exec (start windowStackInit) (regainRun.take 5)).fe
    (.commit 1 none none) = [] := rfl
  exact absurd (hsilent ▸ hconfigure) List.not_mem_nil

end Awaited

end CrystallineLattice.Wayland
