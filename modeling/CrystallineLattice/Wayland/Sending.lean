import CrystallineLattice.Wayland.Buffers

/-!
# What each step sends

The messages of a step, and the frame callbacks that wait after it.  Most of the
frontend works silently: only a commit and the choice of a decoration say
something, and only requests for a frame and commits change who waits.
-/

namespace CrystallineLattice.Wayland

open CrystallineLattice.Foundation

def FeSurface.unconfigured (s : FeSurface) : Option Nat :=
  if s.initialConfigured then none else s.xdgSurface

def FeSurface.said (s : FeSurface) (frameCallbacks : List Nat) : List FeMessage :=
  match s.unconfigured with
  | some x => s.xdgToplevel.toList.map (.toplevelConfigure · 0 0) ++ [.surfaceConfigure x]
  | none => s.pending.toList.map .release ++ frameCallbacks.map .done

namespace Frontend

def recordAt (fe : Frontend) (r : Nat) : Option FeSurface :=
  (fe.resources r).bind fun res => fe.surfaces res.data

def said (fe : Frontend) : FeEvent → List FeMessage
  | .getDecoration r (some d) => ((fe.recordAt r).map fun _ => .forceSsd d).toList
  | .commit r _ _ => (fe.recordAt r).elim [] (·.said fe.frameCallbacks)
  | _ => []

def callbacksAfter (fe : Frontend) : FeEvent → List Nat
  | .frame r (some cb) =>
      if (fe.recordAt r).isSome then cb :: fe.frameCallbacks else fe.frameCallbacks
  | .commit r _ _ =>
      if (fe.recordAt r).any (·.unconfigured.isNone) then [] else fe.frameCallbacks
  | .destroyCallback cb => fe.frameCallbacks.erase cb
  | _ => fe.frameCallbacks

/-! ## Silent handlers -/

structure Silent (fe fe' : Frontend) : Prop where
  sent : fe'.sent = fe.sent
  frameCallbacks : fe'.frameCallbacks = fe.frameCallbacks

namespace Silent

variable {fe fe' fe'' : Frontend} {a : Nat} {s : FeSurface}

theorem refl (fe : Frontend) : Silent fe fe := ⟨rfl, rfl⟩

theorem trans (h : Silent fe fe') (h' : Silent fe' fe'') : Silent fe fe'' :=
  ⟨h'.sent.trans h.sent, h'.frameCallbacks.trans h.frameCallbacks⟩

theorem onSurface {f : FeSurface → Frontend} (hf : ∀ s, fe.surfaces a = some s → Silent fe (f s)) :
    Silent fe (fe.onSurface a f) := by
  unfold Frontend.onSurface
  cases hs : fe.surfaces a with
  | none => exact ⟨rfl, rfl⟩
  | some s => exact hf s hs

theorem onResource {r : Nat} {f : Nat → Frontend} (hf : ∀ a, Silent fe (f a)) :
    Silent fe (fe.onResource r f) := by
  unfold Frontend.onResource
  cases fe.resources r with
  | none => exact refl fe
  | some res => exact hf res.data

theorem surfaceUnmap (fe : Frontend) (a : Nat) : Silent fe (surfaceUnmap fe a) := by
  apply onSurface
  intro s _
  dsimp only
  split <;> exact ⟨rfl, rfl⟩

theorem copyShmBuffer (fe : Frontend) (a : Nat) (shmb : ShmBuffer) (heap : Option Nat) :
    Silent fe (copyShmBuffer fe a shmb heap) := by
  apply onSurface
  intro s _
  split
  · exact refl fe
  · split
    · cases heap <;> exact ⟨rfl, rfl⟩
    · cases s.content <;> exact ⟨rfl, rfl⟩

theorem surfaceMapOrUpdate (fe : Frontend) (a : Nat) : Silent fe (surfaceMapOrUpdate fe a) := by
  apply onSurface
  intro s _
  split
  · exact ⟨rfl, rfl⟩
  · dsimp only
    split <;> exact ⟨rfl, rfl⟩

theorem destructor (fe : Frontend) (res : Resource) : Silent fe (destructor fe res) := by
  unfold Wayland.destructor
  split
  · apply onSurface
    intro s _
    exact ⟨(surfaceUnmap fe res.data).sent, (surfaceUnmap fe res.data).frameCallbacks⟩
  · exact onSurface fun s _ => ⟨rfl, rfl⟩
  · apply onSurface
    intro s _
    have hset : Silent fe (fe.setSurface res.data { s with xdgToplevel := none }) := ⟨rfl, rfl⟩
    exact hset.trans (surfaceUnmap _ _)
  · exact refl fe

end Silent

/-! ## Commits -/

variable {fe fe' : Frontend} {a : Nat} {s : FeSurface}

/-- What a handler adds to the messages, and the callbacks that wait after it. -/
structure Says (fe fe' : Frontend) (messages : List FeMessage) (frameCallbacks : List Nat) :
    Prop where
  sent : fe'.sent = fe.sent ++ messages
  frameCallbacks : fe'.frameCallbacks = frameCallbacks

theorem Silent.saysNothing (h : Silent fe fe') : Says fe fe' [] fe.frameCallbacks :=
  ⟨by rw [h.sent, List.append_nil], h.frameCallbacks⟩

theorem Says.between {fe₁ fe₂ : Frontend} {messages : List FeMessage} {cbs : List Nat}
    (h : Says fe₁ fe₂ messages cbs) (hbefore : Silent fe fe₁) (hafter : Silent fe₂ fe') :
    Says fe fe' messages cbs :=
  ⟨by rw [hafter.sent, h.sent, hbefore.sent], by rw [hafter.frameCallbacks, h.frameCallbacks]⟩

theorem says_send (fe : Frontend) (m : FeMessage) : Says fe (fe.send m) [m] fe.frameCallbacks :=
  ⟨rfl, rfl⟩

theorem says_commitBuffer (fe : Frontend) (a buffer : Nat) (shm : Option ShmBuffer)
    (heap : Option Nat) :
    Says fe (commitBuffer fe a buffer shm heap) [.release buffer] fe.frameCallbacks := by
  cases shm with
  | none => exact says_send fe _
  | some shmb =>
      have hcopy := Silent.copyShmBuffer fe a shmb heap
      rw [← hcopy.frameCallbacks]
      apply (says_send (copyShmBuffer fe a shmb heap) (.release buffer)).between hcopy
      apply Silent.onSurface
      intro s _
      split
      · exact Silent.surfaceMapOrUpdate _ a
      · exact Silent.refl _

theorem says_fireFrameCallbacks {messages : List FeMessage} {cbs : List Nat}
    (h : Says fe fe' messages cbs) :
    Says fe (fireFrameCallbacks fe') (messages ++ cbs.map .done) [] := by
  refine ⟨?_, rfl⟩
  rw [fireFrameCallbacks, h.sent, h.frameCallbacks, List.append_assoc]

theorem says_sendConfigures (fe : Frontend) (x : Nat) (xdgToplevel : Option Nat) :
    Says fe (sendConfigures fe x xdgToplevel)
      (xdgToplevel.toList.map (.toplevelConfigure · 0 0) ++ [.surfaceConfigure x])
      fe.frameCallbacks := by
  cases xdgToplevel with
  | none => exact ⟨rfl, rfl⟩
  | some toplevel =>
      refine ⟨?_, rfl⟩
      simp [sendConfigures, send]

theorem says_surfCommit (ha : fe.surfaces a = some s) (shm : Option ShmBuffer)
    (heap : Option Nat) :
    Says fe (surfCommit fe a shm heap) (s.said fe.frameCallbacks)
      (if s.unconfigured.isNone then [] else fe.frameCallbacks) := by
  rw [surfCommit, onSurface_eq ha]
  unfold FeSurface.said
  split
  · rename_i x hx hconfigured
    have hu : s.unconfigured = some x := by simp [FeSurface.unconfigured, hx, hconfigured]
    simp only [hu]
    exact (says_sendConfigures fe x s.xdgToplevel).between (.refl fe) ⟨rfl, rfl⟩
  · rename_i hready
    have hu : s.unconfigured = none := by
      unfold FeSurface.unconfigured
      split
      · rfl
      · rename_i hconfigured
        cases hx : s.xdgSurface with
        | none => rfl
        | some x => exact (hready x hx (by simpa using hconfigured)).elim
    simp only [hu]
    split
    · rename_i hattached
      have htaken : Silent fe
          (fe.setSurface a { s with attached := false, pendingBuffer := none }) := ⟨rfl, rfl⟩
      have hpending : s.pending = s.pendingBuffer := by simp [FeSurface.pending, hattached]
      rw [hpending]
      cases s.pendingBuffer with
      | none =>
          exact says_fireFrameCallbacks (htaken.trans (Silent.surfaceUnmap _ a)).saysNothing
      | some buffer =>
          apply says_fireFrameCallbacks
          have hcopy := says_commitBuffer
            (fe.setSurface a { s with attached := false, pendingBuffer := none }) a buffer shm heap
          exact hcopy.between htaken (.refl _)
    · rename_i hattached
      have hpending : s.pending = none := by simp [FeSurface.pending, hattached]
      rw [hpending]
      exact says_fireFrameCallbacks (Silent.refl fe).saysNothing

/-! ## Every step -/

theorem silent_of_no_record {r : Nat} (hrecord : fe.recordAt r = none)
    {f : Nat → FeSurface → Frontend} :
    Silent fe (fe.onResource r fun a => fe.onSurface a (f a)) := by
  unfold onResource
  cases hr : fe.resources r with
  | none => exact .refl fe
  | some res =>
      have hs : fe.surfaces res.data = none := by simpa [recordAt, hr] using hrecord
      simp only [onSurface, hs]
      exact ⟨rfl, rfl⟩

theorem onRecord_eq {r : Nat} (hrecord : fe.recordAt r = some s) {f : Nat → FeSurface → Frontend} :
    ∃ a, fe.surfaces a = some s ∧
      (fe.onResource r fun a => fe.onSurface a (f a)) = f a s := by
  obtain ⟨res, hr, hs⟩ := Option.bind_eq_some_iff.mp hrecord
  exact ⟨res.data, hs, by rw [onResource_eq hr, onSurface_eq hs]⟩

theorem says_getDecoration (fe : Frontend) (r : Nat) (resource : Option Nat) :
    Says fe (fe.next (.getDecoration r resource)) (fe.said (.getDecoration r resource))
      (fe.callbacksAfter (.getDecoration r resource)) := by
  cases resource with
  | none =>
      have h : Silent fe (fe.onResource r fun a => decomgrGet fe a none) :=
        Silent.onResource fun a => .refl fe
      exact h.saysNothing
  | some d =>
      simp only [next, decomgrGet, said, callbacksAfter]
      cases hrecord : fe.recordAt r with
      | none => exact (silent_of_no_record hrecord).saysNothing
      | some s =>
          obtain ⟨a, -, heq⟩ := onRecord_eq hrecord (f := fun a s =>
            ((fe.setSurface a { s with decoration := some d }).addResource d .decoration a).send
              (.forceSsd d))
          rw [heq]
          exact ⟨rfl, rfl⟩

theorem says_frame (fe : Frontend) (r : Nat) (callback : Option Nat) :
    Says fe (fe.next (.frame r callback)) (fe.said (.frame r callback))
      (fe.callbacksAfter (.frame r callback)) := by
  cases callback with
  | none =>
      have h : Silent fe (fe.onResource r fun a => surfFrame fe a none) :=
        Silent.onResource fun a => Silent.onSurface fun s _ => .refl fe
      exact h.saysNothing
  | some cb =>
      simp only [next, surfFrame, said, callbacksAfter]
      cases hrecord : fe.recordAt r with
      | none => exact (silent_of_no_record hrecord).saysNothing
      | some s =>
          obtain ⟨a, -, heq⟩ := onRecord_eq hrecord
            (f := fun _ _ => { fe with frameCallbacks := cb :: fe.frameCallbacks })
          rw [heq]
          exact ⟨(List.append_nil _).symm, rfl⟩

theorem says_commit (fe : Frontend) (r : Nat) (shm : Option ShmBuffer) (heap : Option Nat) :
    Says fe (fe.next (.commit r shm heap)) (fe.said (.commit r shm heap))
      (fe.callbacksAfter (.commit r shm heap)) := by
  simp only [next, said, callbacksAfter]
  cases hrecord : fe.recordAt r with
  | none =>
      unfold surfCommit
      exact (silent_of_no_record hrecord).saysNothing
  | some s =>
      obtain ⟨res, hr, hs⟩ := Option.bind_eq_some_iff.mp hrecord
      rw [onResource_eq hr]
      exact says_surfCommit hs shm heap

theorem says_next (fe : Frontend) (e : FeEvent) :
    Says fe (fe.next e) (fe.said e) (fe.callbacksAfter e) := by
  cases e with
  | createSurface memory resource =>
      have h : Silent fe (compCreateSurface fe memory resource) := by
        unfold compCreateSurface
        split <;> exact ⟨rfl, rfl⟩
      exact h.saysNothing
  | getXdgSurface r resource =>
      have h : Silent fe (fe.onResource r fun a => wmGetXdgSurface fe a resource) := by
        apply Silent.onResource
        intro a
        cases resource with
        | none => exact .refl fe
        | some x => exact Silent.onSurface fun s _ => ⟨rfl, rfl⟩
      exact h.saysNothing
  | getToplevel r resource =>
      have h : Silent fe (fe.onResource r fun a => xsGetToplevel fe a resource) := by
        apply Silent.onResource
        intro a
        cases resource with
        | none => exact .refl fe
        | some x => exact Silent.onSurface fun s _ => ⟨rfl, rfl⟩
      exact h.saysNothing
  | getDecoration r resource => exact says_getDecoration fe r resource
  | setTitle r title =>
      have h : Silent fe (fe.onResource r fun a => tlSetTitle fe a title) := by
        apply Silent.onResource
        intro a
        apply Silent.onSurface
        intro s _
        dsimp only
        split <;> exact ⟨rfl, rfl⟩
      exact h.saysNothing
  | attach r buffer =>
      have h : Silent fe (fe.onResource r fun a => surfAttach fe a buffer) :=
        Silent.onResource fun a => Silent.onSurface fun s _ => ⟨rfl, rfl⟩
      exact h.saysNothing
  | frame r callback => exact says_frame fe r callback
  | commit r shm heap => exact says_commit fe r shm heap
  | destroy r =>
      have h : Silent fe (wlResourceDestroy fe r) := by
        unfold wlResourceDestroy
        cases fe.resources r with
        | none => exact .refl fe
        | some res =>
            have h := Silent.destructor fe res
            exact ⟨h.sent, h.frameCallbacks⟩
      exact h.saysNothing
  | destroyCallback cb => exact ⟨(List.append_nil _).symm, rfl⟩
  | outside stack => exact ⟨(List.append_nil _).symm, rfl⟩

def Sends (fe : Frontend) (e : FeEvent) (m : FeMessage) : Prop :=
  ∃ messages, (fe.next e).sent = fe.sent ++ messages ∧ m ∈ messages

theorem sends_iff {e : FeEvent} {m : FeMessage} : fe.Sends e m ↔ m ∈ fe.said e := by
  constructor
  · rintro ⟨messages, hsent, hm⟩
    rw [(says_next fe e).sent] at hsent
    rwa [List.append_cancel_left hsent]
  · intro hm
    exact ⟨_, (says_next fe e).sent, hm⟩

theorem said_commit {r : Nat} (hr : fe.resources r = some ⟨.surface, a⟩)
    (hs : fe.surfaces a = some s) (shm : Option ShmBuffer) (heap : Option Nat) :
    fe.said (.commit r shm heap) = s.said fe.frameCallbacks := by
  simp [said, recordAt, hr, hs]

end Frontend

end CrystallineLattice.Wayland
