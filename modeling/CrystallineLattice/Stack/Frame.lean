import CrystallineLattice.Stack.Model

/-!
# What the stack operations leave alone

An operation on one window keeps every other record as it was, and keeps the
others in their order: only the window it names is rewritten, moved or deleted.
-/

namespace CrystallineLattice.Stack

open CrystallineLattice.Foundation

/-- The windows with an id in `q` are the same records, in the same order. -/
def WindowStack.Agree (q : Nat → Bool) (s s' : WindowStack) : Prop :=
  KeyedList.AgreeOn Window.id q s.windows s'.windows

namespace WindowStack.Agree

variable {q : Nat → Bool} {s s' s'' : WindowStack} {id : Nat}

theorem refl (q : Nat → Bool) (s : WindowStack) : Agree q s s := rfl

theorem of_eq (h : s'.windows = s.windows) : Agree q s s' := by
  unfold Agree KeyedList.AgreeOn
  rw [h]

theorem trans (h : Agree q s s') (h' : Agree q s' s'') : Agree q s s'' :=
  KeyedList.AgreeOn.trans h h'

theorem windowById_eq (h : Agree q s s') (hid : q id = true) :
    windowById s' id = windowById s id := by
  rw [windowById_eq_lookup, windowById_eq_lookup]
  exact KeyedList.AgreeOn.lookup_eq hid h

/-! ## One lemma for each way to change a stack -/

theorem writeById (s : WindowStack) (hid : q id = false) {f : Window → Window}
    (hf : ∀ w, (f w).id = w.id) : Agree q s (s.writeById id f) :=
  KeyedList.AgreeOn.update hid (fun w hw => (hf w).trans hw) s.windows

theorem append (s : WindowStack) {w : Window} (hid : q w.id = false) (focusId nextId : Nat) :
    Agree q s ⟨s.windows ++ [w], focusId, nextId⟩ :=
  KeyedList.AgreeOn.append hid s.windows

theorem windowDestroy (s : WindowStack) (hid : q id = false) : Agree q s (windowDestroy s id) := by
  unfold Agree
  rw [windowDestroy_windows]
  exact KeyedList.AgreeOn.remove hid s.windows

theorem windowRaise (s : WindowStack) (hid : q id = false) : Agree q s (windowRaise s id) := by
  rw [windowRaise_eq]
  exact KeyedList.AgreeOn.toEnd hid s.windows

theorem windowLower (s : WindowStack) (hid : q id = false) : Agree q s (windowLower s id) := by
  rw [windowLower_eq]
  exact KeyedList.AgreeOn.toFront hid s.windows

theorem windowSetGeometry (s : WindowStack) (hid : q id = false) (x y w h : Int) :
    Agree q s (windowSetGeometry s id x y w h) :=
  writeById s hid fun _ => rfl

theorem windowFocus (s : WindowStack) (hid : q id = false) : Agree q s (windowFocus s id) := by
  unfold Stack.windowFocus
  cases windowById s id with
  | none => exact .refl q s
  | some w =>
      dsimp only
      split
      · exact .of_eq rfl
      · exact .trans (.of_eq rfl) (windowRaise _ hid)

end WindowStack.Agree

end CrystallineLattice.Stack
