import CrystallineLattice.Stack.Invariant

/-!
# Edits of one window

An edit rewrites a window or destroys it.  Edits of two windows of a stack commute,
with the focus that a destroyed window leaves behind included: it goes to the top
of what is left, and that does not depend on the order.
-/

namespace CrystallineLattice.Stack

open CrystallineLattice.Foundation

inductive WindowEdit where
  | rewrite (f : Window → Window) (hid : ∀ w, (f w).id = w.id)
  | destroy

namespace WindowEdit

def apply (s : WindowStack) (id : Nat) : WindowEdit → WindowStack
  | .rewrite f _ => s.writeById id f
  | .destroy => windowDestroy s id

end WindowEdit

variable {s : WindowStack} {id id' : Nat}

theorem topId_map {ws ws' : List Window} (h : ws'.map Window.id = ws.map Window.id) :
    topId ws' = topId ws := by
  have hlast := congrArg List.getLast? h
  rw [List.getLast?_map, List.getLast?_map] at hlast
  unfold topId
  cases hws : ws.getLast? <;> cases hws' : ws'.getLast? <;> simp_all

theorem topId_remove {ws : List Window} (hne : topId ws ≠ id) :
    topId (KeyedList.remove Window.id id ws) = topId ws := by
  unfold topId at hne ⊢
  cases hlast : ws.getLast? with
  | none =>
      rw [List.getLast?_eq_none_iff.mp hlast]
      rfl
  | some w =>
      rw [hlast] at hne
      rw [KeyedList.getLast?_remove hlast hne]

theorem windowDestroy_eq (s : WindowStack) (id : Nat) :
    windowDestroy s id =
      { s with
        windows := KeyedList.remove Window.id id s.windows
        focusId :=
          if s.focusId = id ∧ id ∈ s.ids then topId (KeyedList.remove Window.id id s.windows)
          else s.focusId } := by
  have hwindows := windowDestroy_windows s id
  have hfocus := windowDestroy_focusId s id
  have hnext := windowDestroy_nextId s id
  cases hs : windowDestroy s id with
  | mk windows focusId nextId =>
      rw [hs] at hwindows hfocus hnext
      subst hwindows hfocus hnext
      rfl

theorem windowDestroy_rewritten (s : WindowStack) (id : Nat) {f : Window → Window}
    (hf : ∀ w, (f w).id = w.id) : windowDestroy (s.writeById id f) id = windowDestroy s id := by
  rw [windowDestroy_eq, windowDestroy_eq, writeById_ids s hf]
  unfold WindowStack.writeById
  dsimp only
  rw [KeyedList.remove_update_self fun w h => (hf w).trans h]

theorem writeById_writeById (s : WindowStack) (id : Nat) {f g : Window → Window}
    (hg : ∀ w, (g w).id = w.id) :
    (s.writeById id g).writeById id f = s.writeById id fun w => f (g w) := by
  unfold WindowStack.writeById
  dsimp only
  rw [KeyedList.update_update fun w h => (hg w).trans h]

theorem writeById_congr {f g : Window → Window} {w : Window} (hw : windowById s id = some w)
    (h : f w = g w) : s.writeById id f = s.writeById id g := by
  rw [windowById_eq_lookup] at hw
  have hupdate : KeyedList.update Window.id id f s.windows =
      KeyedList.update Window.id id g s.windows :=
    KeyedList.update_congr fun v hv => by
      rw [hw, Option.some.injEq] at hv
      exact hv ▸ h
  unfold WindowStack.writeById
  rw [hupdate]

theorem writeById_same {w : Window} (hw : windowById s id = some w) :
    s.writeById id (fun _ => w) = s := by
  have hself : s.writeById id (fun v => v) = s := by
    unfold WindowStack.writeById
    rw [KeyedList.update_self]
  rw [writeById_congr (g := fun v => v) hw rfl, hself]

theorem replace_ids (s : WindowStack) {w : Window} (hid : w.id = id) :
    (s.writeById id fun _ => w).ids = s.ids :=
  KeyedList.map_key_update (fun _ _ => hid) s.windows

theorem windowById_replace (s : WindowStack) {w : Window} (hid : w.id = id) (id' : Nat) :
    windowById (s.writeById id fun _ => w) id' =
      if id' = id then (windowById s id).map fun _ => w else windowById s id' := by
  simp only [windowById_eq_lookup, WindowStack.writeById, KeyedList.lookup_update fun _ _ => hid]

theorem writeById_replace (s : WindowStack) {w : Window} (hid : w.id = id) (f : Window → Window) :
    (s.writeById id fun _ => w).writeById id f = s.writeById id fun _ => f w := by
  unfold WindowStack.writeById
  dsimp only
  rw [KeyedList.update_update fun _ _ => hid]

section Distinct

variable (s) (hne : id ≠ id')

include hne

theorem writeById_comm {f g : Window → Window} (hf : ∀ w, (f w).id = w.id)
    (hg : ∀ w, (g w).id = w.id) :
    (s.writeById id' g).writeById id f = (s.writeById id f).writeById id' g := by
  unfold WindowStack.writeById
  dsimp only
  rw [KeyedList.update_comm hne (fun w h => (hf w).trans h) fun w h => (hg w).trans h]

theorem windowDestroy_writeById {f : Window → Window} (hf : ∀ w, (f w).id = w.id) :
    windowDestroy (s.writeById id' f) id = (windowDestroy s id).writeById id' f := by
  have hkey (w : Window) (h : w.id = id') : (f w).id = id' := (hf w).trans h
  rw [windowDestroy_eq, windowDestroy_eq, writeById_ids s hf]
  unfold WindowStack.writeById
  dsimp only
  rw [KeyedList.remove_update hne hkey, topId_map (KeyedList.map_key_update hkey _)]

theorem windowDestroy_comm (hs : s.ids.Nodup) (hid : id ∈ s.ids) (hid' : id' ∈ s.ids) :
    windowDestroy (windowDestroy s id') id = windowDestroy (windowDestroy s id) id' := by
  have hleft {a b : Nat} (hab : a ≠ b) (ha : a ∈ s.ids) : a ∈ (windowDestroy s b).ids :=
    (mem_windowDestroy_ids hs).mpr ⟨hab, ha⟩
  have htop {a b : Nat} (hb : topId (KeyedList.remove Window.id a s.windows) ≠ b) :
      topId (KeyedList.remove Window.id b (KeyedList.remove Window.id a s.windows)) =
        topId (KeyedList.remove Window.id a s.windows) := topId_remove hb
  have hcomm : KeyedList.remove Window.id id (KeyedList.remove Window.id id' s.windows) =
      KeyedList.remove Window.id id' (KeyedList.remove Window.id id s.windows) :=
    KeyedList.remove_comm hne s.windows
  rw [windowDestroy_eq (windowDestroy s id'), windowDestroy_eq (windowDestroy s id)]
  simp only [hleft hne hid, hleft hne.symm hid', and_true]
  simp only [windowDestroy_eq s, hid, hid', and_true, hcomm]
  congr 1
  grind

end Distinct

namespace WindowEdit

/-- Edits of two windows commute. -/
theorem apply_comm (hs : s.ids.Nodup) (hne : id ≠ id') (hid : id ∈ s.ids) (hid' : id' ∈ s.ids)
    (e e' : WindowEdit) : apply (apply s id' e') id e = apply (apply s id e) id' e' := by
  cases e with
  | rewrite f hf =>
      cases e' with
      | rewrite g hg => exact writeById_comm s hne hf hg
      | destroy => exact (windowDestroy_writeById s hne.symm hf).symm
  | destroy =>
      cases e' with
      | rewrite g hg => exact windowDestroy_writeById s hne hg
      | destroy => exact windowDestroy_comm s hne hs hid hid'

end WindowEdit

end CrystallineLattice.Stack
