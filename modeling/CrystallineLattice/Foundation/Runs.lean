import Mathlib.Data.List.Basic

/-!
# Runs of event-driven systems

A system is a next-state function together with the condition under which an
event can happen.  Whatever the environment decides (a clock reading, the
result of a system call, an address chosen by an allocator) is part of the
event, so a run is determined by its start state and its list of events.
-/

namespace CrystallineLattice.Foundation

structure System (σ ε : Type*) where
  enabled : σ → ε → Prop
  next : σ → ε → σ

namespace System

variable {σ ε : Type*} (S : System σ ε)

def exec (s : σ) (es : List ε) : σ := es.foldl S.next s

/-- Every step of the run, in the state it starts from, satisfies `C`. -/
def Each (C : σ → ε → Prop) : σ → List ε → Prop
  | _, [] => True
  | s, e :: es => C s e ∧ Each C (S.next s e) es

/-- Every event of the run is possible where it happens. -/
def Legal (s : σ) (es : List ε) : Prop := S.Each S.enabled s es

/-- Every state the run visits, its first and last included, satisfies `P`. -/
def Along (P : σ → Prop) : σ → List ε → Prop
  | s, [] => P s
  | s, e :: es => P s ∧ Along P (S.next s e) es

variable {S}

instance decidableAlong {P : σ → Prop} [DecidablePred P] :
    (s : σ) → (es : List ε) → Decidable (S.Along P s es)
  | s, [] => inferInstanceAs (Decidable (P s))
  | s, e :: es => @instDecidableAnd (P s) _ _ (decidableAlong (S.next s e) es)

@[simp] theorem exec_nil (s : σ) : S.exec s [] = s := rfl

@[simp] theorem exec_cons (s : σ) (e : ε) (es : List ε) :
    S.exec s (e :: es) = S.exec (S.next s e) es := rfl

theorem exec_append (s : σ) (es es' : List ε) :
    S.exec s (es ++ es') = S.exec (S.exec s es) es' := by
  simp [exec, List.foldl_append]

@[simp] theorem legal_nil (s : σ) : S.Legal s [] := trivial

@[simp] theorem legal_cons (s : σ) (e : ε) (es : List ε) :
    S.Legal s (e :: es) ↔ S.enabled s e ∧ S.Legal (S.next s e) es := Iff.rfl

theorem each_append {C : σ → ε → Prop} (s : σ) (es es' : List ε) :
    S.Each C s (es ++ es') ↔ S.Each C s es ∧ S.Each C (S.exec s es) es' := by
  induction es generalizing s with
  | nil => simp [Each]
  | cons e es ih => simp [Each, ih, and_assoc]

theorem each_mono {C D : σ → ε → Prop} (h : ∀ s e, C s e → D s e) {s : σ} {es : List ε}
    (hrun : S.Each C s es) : S.Each D s es := by
  induction es generalizing s with
  | nil => trivial
  | cons e es ih => exact ⟨h s e hrun.1, ih hrun.2⟩

theorem each_of_mem {C : ε → Prop} (s : σ) {es : List ε} (h : ∀ e ∈ es, C e) :
    S.Each (fun _ => C) s es := by
  induction es generalizing s with
  | nil => trivial
  | cons e es ih =>
      exact ⟨h e List.mem_cons_self, ih _ fun e' he' => h e' (List.mem_cons_of_mem _ he')⟩

theorem legal_append (s : σ) (es es' : List ε) :
    S.Legal s (es ++ es') ↔ S.Legal s es ∧ S.Legal (S.exec s es) es' :=
  each_append s es es'

theorem legal_of_enabled (h : ∀ s e, S.enabled s e) (s : σ) (es : List ε) :
    S.Legal s es := by
  induction es generalizing s with
  | nil => trivial
  | cons e es ih => exact ⟨h s e, ih _⟩

theorem along_last {P : σ → Prop} {s : σ} {es : List ε} (h : S.Along P s es) :
    P (S.exec s es) := by
  induction es generalizing s with
  | nil => exact h
  | cons e es ih => exact ih h.2

/-! ## Invariants -/

/-- A bound that steps never come back below holds at the start if it holds at the end. -/
theorem bound_at_start {B : σ → Prop} {C : σ → ε → Prop}
    (hmono : ∀ s e, C s e → B (S.next s e) → B s)
    {s : σ} {es : List ε} (hrun : S.Each C s es) (hB : B (S.exec s es)) : B s := by
  induction es generalizing s with
  | nil => exact hB
  | cons e es ih => exact hmono s e hrun.1 (ih hrun.2 hB)

/--
An invariant of the steps taken below a bound holds at the end of every run
that ends below the bound, provided steps never come back below it.
-/
theorem invariant_below {I B : σ → Prop} {C : σ → ε → Prop}
    (hmono : ∀ s e, C s e → B (S.next s e) → B s)
    (hstep : ∀ s e, I s → C s e → B (S.next s e) → I (S.next s e))
    {s : σ} {es : List ε} (hrun : S.Each C s es) (hI : I s)
    (hB : B (S.exec s es)) : I (S.exec s es) := by
  induction es generalizing s with
  | nil => exact hI
  | cons e es ih =>
      exact ih hrun.2 (hstep s e hI hrun.1 (bound_at_start hmono hrun.2 hB)) hB

theorem invariant {I : σ → Prop} {C : σ → ε → Prop}
    (hstep : ∀ s e, I s → C s e → I (S.next s e))
    {s : σ} {es : List ε} (hrun : S.Each C s es) (hI : I s) : I (S.exec s es) :=
  invariant_below (B := fun _ => True) (fun _ _ _ _ => trivial)
    (fun s e h hC _ => hstep s e h hC) hrun hI trivial

theorem each_below {B : σ → Prop} {C : σ → ε → Prop}
    (hmono : ∀ s e, C s e → B (S.next s e) → B s)
    {s : σ} {es : List ε} (hrun : S.Each C s es) (hB : B (S.exec s es)) :
    S.Each (fun s e => C s e ∧ B (S.next s e)) s es := by
  induction es generalizing s with
  | nil => trivial
  | cons e es ih => exact ⟨⟨hrun.1, bound_at_start hmono hrun.2 hB⟩, ih hrun.2 hB⟩

/-- An invariant of the steps that meet `C` holds all along a run of such steps. -/
theorem along_of_each {I P : σ → Prop} {C : σ → ε → Prop} (hP : ∀ s, I s → P s)
    (hstep : ∀ s e, I s → C s e → I (S.next s e))
    {s : σ} {es : List ε} (hrun : S.Each C s es) (hI : I s) : S.Along P s es := by
  induction es generalizing s with
  | nil => exact hP s hI
  | cons e es ih => exact ⟨hP s hI, ih hrun.2 (hstep s e hI hrun.1)⟩

theorem each_of_along {P : σ → Prop} {C : σ → ε → Prop} (hC : ∀ s e, P s → C s e) {s : σ}
    {es : List ε} (h : S.Along P s es) : S.Each C s es := by
  induction es generalizing s with
  | nil => trivial
  | cons e es ih => exact ⟨hC s e h.1, ih h.2⟩

theorem each_of_invariant {I : σ → Prop} {C D : σ → ε → Prop}
    (hstep : ∀ s e, I s → C s e → I (S.next s e)) (h : ∀ s e, I s → C s e → D s e)
    {s : σ} {es : List ε} (hrun : S.Each C s es) (hI : I s) : S.Each D s es := by
  induction es generalizing s with
  | nil => trivial
  | cons e es ih => exact ⟨h s e hI hrun.1, ih hrun.2 (hstep s e hI hrun.1)⟩

theorem each_and {C D : σ → ε → Prop} {s : σ} {es : List ε} (hC : S.Each C s es)
    (hD : S.Each D s es) : S.Each (fun s e => C s e ∧ D s e) s es := by
  induction es generalizing s with
  | nil => trivial
  | cons e es ih => exact ⟨⟨hC.1, hD.1⟩, ih hC.2 hD.2⟩

/-! ## The exact condition on a run -/

/-- Two conditions that agree on the steps from states with the invariant agree on runs. -/
theorem each_congr {I : σ → Prop} {E C D : σ → ε → Prop}
    (hstep : ∀ s e, I s → E s e → I (S.next s e))
    (hiff : ∀ s e, I s → E s e → (C s e ↔ D s e))
    {s : σ} {es : List ε} (hrun : S.Each E s es) (hI : I s) : S.Each C s es ↔ S.Each D s es := by
  induction es generalizing s with
  | nil => exact Iff.rfl
  | cons e es ih =>
      exact and_congr (hiff s e hI hrun.1) (ih hrun.2 (hstep s e hI hrun.1))

/--
If a step keeps the invariant exactly when it meets `C`, and a step that does
not meet `C` makes `P` fail, then `P` holds all along a run exactly when each of
its steps meets `C`.
-/
theorem along_iff_each {I P : σ → Prop} {E C : σ → ε → Prop}
    (hP : ∀ s, I s → P s)
    (hkeep : ∀ s e, I s → E s e → C s e → I (S.next s e))
    (hbreak : ∀ s e, I s → E s e → ¬ C s e → ¬ P (S.next s e))
    {s : σ} {es : List ε} (hrun : S.Each E s es) (hI : I s) :
    S.Along P s es ↔ S.Each C s es := by
  induction es generalizing s with
  | nil => exact ⟨fun _ => trivial, fun _ => hP s hI⟩
  | cons e es ih =>
      obtain ⟨he, hrest⟩ := hrun
      have hfirst : S.Along P (S.next s e) es → P (S.next s e) := by
        cases es with
        | nil => exact fun h => h
        | cons e' es => exact fun h => h.1
      by_cases hC : C s e
      · have htail := ih hrest (hkeep s e hI he hC)
        exact ⟨fun h => ⟨hC, htail.mp h.2⟩, fun h => ⟨hP s hI, htail.mpr h.2⟩⟩
      · exact ⟨fun h => (hbreak s e hI he hC (hfirst h.2)).elim, fun h => (hC h.1).elim⟩

/-! ## What a run does up to an event -/

variable (S) in
/--
Every step that an event with `stop` follows satisfies `C`, which also speaks of
the state after the first such event.
-/
def EachUntil (stop : ε → Prop) (C : σ → ε → σ → Prop) (s : σ) (es : List ε) : Prop :=
  ∀ es₁ e es₂ last es₃, es = es₁ ++ e :: (es₂ ++ last :: es₃) → (∀ e' ∈ es₂, ¬ stop e') →
    stop last → C (S.exec s es₁) e (S.exec s (es₁ ++ e :: (es₂ ++ [last])))

theorem eachUntil_congr {stop : ε → Prop} {I : σ → Prop} {E : σ → ε → Prop}
    {C D : σ → ε → σ → Prop} (hstep : ∀ s e, I s → E s e → I (S.next s e))
    (hiff : ∀ s e t, I s → E s e → I t → (C s e t ↔ D s e t))
    {s : σ} {es : List ε} (hrun : S.Each E s es) (hI : I s) :
    S.EachUntil stop C s es ↔ S.EachUntil stop D s es := by
  unfold EachUntil
  refine forall_congr' fun es₁ => forall_congr' fun e => forall_congr' fun es₂ =>
    forall_congr' fun last => forall_congr' fun es₃ => forall_congr' fun hes =>
      imp_congr_right fun _ => imp_congr_right fun _ => ?_
  have hsplit : es = (es₁ ++ e :: (es₂ ++ [last])) ++ es₃ := by
    rw [hes]
    simp
  rw [hsplit] at hrun
  have hdone := ((each_append s _ es₃).mp hrun).1
  obtain ⟨hbefore, he, -⟩ := (each_append s es₁ _).mp hdone
  exact hiff _ e _ (invariant hstep hbefore hI) he (invariant hstep hdone hI)

/-! ## Reaching a state by certain events -/

variable (S) in
def Reaches (P : ε → Prop) (s s' : σ) : Prop :=
  ∃ es, (∀ e ∈ es, P e) ∧ S.Legal s es ∧ S.exec s es = s'

namespace Reaches

variable {P Q : ε → Prop} {s t u : σ}

theorem refl (P : ε → Prop) (s : σ) : S.Reaches P s s :=
  ⟨[], by simp, trivial, rfl⟩

theorem of_eq (h : s = t) : S.Reaches P s t := h ▸ refl P s

theorem single {e : ε} (hP : P e) (he : S.enabled s e) (h : S.next s e = t) :
    S.Reaches P s t :=
  ⟨[e], by simpa using hP, ⟨he, trivial⟩, h⟩

theorem trans (h : S.Reaches P s t) (h' : S.Reaches P t u) : S.Reaches P s u := by
  obtain ⟨es, hP, hrun, rfl⟩ := h
  obtain ⟨es', hP', hrun', rfl⟩ := h'
  refine ⟨es ++ es', fun e he => ?_, (legal_append _ _ _).mpr ⟨hrun, hrun'⟩, exec_append _ _ _⟩
  rcases List.mem_append.mp he with he | he
  · exact hP e he
  · exact hP' e he

theorem mono (hPQ : ∀ e, P e → Q e) (h : S.Reaches P s t) : S.Reaches Q s t := by
  obtain ⟨es, hP, hrun, heq⟩ := h
  exact ⟨es, fun e he => hPQ e (hP e he), hrun, heq⟩

theorem keeps {I : σ → Prop} (hstep : ∀ s e, I s → S.enabled s e → P e → I (S.next s e))
    (h : S.Reaches P s t) (hI : I s) : I t := by
  obtain ⟨es, hP, hrun, rfl⟩ := h
  induction es generalizing s with
  | nil => exact hI
  | cons e es ih =>
      exact ih (hstep s e hI hrun.1 (hP e List.mem_cons_self))
        (fun e' he' => hP e' (List.mem_cons_of_mem _ he')) hrun.2

theorem keeps_below {I B : σ → Prop} (hmono : ∀ s e, B (S.next s e) → B s)
    (hstep : ∀ s e, I s → S.enabled s e → P e → B (S.next s e) → I (S.next s e))
    (h : S.Reaches P s t) (hI : I s) (hB : B t) : I t := by
  obtain ⟨es, hP, hrun, rfl⟩ := h
  induction es generalizing s with
  | nil => exact hI
  | cons e es ih =>
      have hfirst : B (S.next s e) := bound_at_start (fun s e _ => hmono s e) hrun.2 hB
      exact ih (hstep s e hI hrun.1 (hP e List.mem_cons_self) hfirst)
        (fun e' he' => hP e' (List.mem_cons_of_mem _ he')) hrun.2 hB

end Reaches

/-! ## Refinement -/

/-- Each step of `S` from a state with `I` is a legal run of `A`, read through `abs`. -/
def Refines {σ' ε' : Type*} (S : System σ ε) (A : System σ' ε') (I : σ → Prop)
    (abs : σ → σ') : Prop :=
  ∀ s e, I s → S.enabled s e → A.Reaches (fun _ => True) (abs s) (abs (S.next s e))

end System

end CrystallineLattice.Foundation
