import CrystallineLattice.Native.Upkeep

/-!
# Who sets the shape of the cursor

There is one cursor, and `on_set_cursor` takes its shape from every client that
has shaken hands.  A watched run remembers the client that the shape is from for
as long as it stays connected.
-/

namespace CrystallineLattice.Native

open CrystallineLattice.Foundation
open CrystallineLattice.Stack

/-- The request hides the cursor, brings the default back, or brings pixels that can be mapped. -/
def CursorAccepted (m : ClSetCursor) (fds : List Int) (k : Kernel) : Prop :=
  m.hide ≠ 0 ∨ fds = [] ∨
    (0 < int32 m.width ∧ 0 < int32 m.height ∧ int32 m.width ≤ clCursorMax ∧
      int32 m.height ≤ clCursorMax) ∧ k.mmap ≠ none

instance (m : ClSetCursor) (fds : List Int) (k : Kernel) : Decidable (CursorAccepted m fds k) :=
  inferInstanceAs (Decidable (_ ∨ _))

def AlreadyShown (c : ClCursor) (m : ClSetCursor) (fds : List Int) (k : Kernel) : Prop :=
  if m.hide ≠ 0 ∨ fds = [] then c.custom = false ∧ c.hidden = decide (m.hide ≠ 0)
  else
    (c.custom = true ∧ c.hidden = false ∧ c.w = int32 m.width ∧ c.h = int32 m.height ∧
      c.hotspotX = m.hotspotX ∧ c.hotspotY = m.hotspotY) ∧
      ∀ o < (int32 m.width).toNat * (int32 m.height).toNat, c.argb o = k.pixels o

def askedShape (c : ClCursor) (m : ClSetCursor) (fds : List Int) (k : Kernel) : ClCursor :=
  if m.hide ≠ 0 ∨ fds = [] then { c with custom := false, hidden := m.hide ≠ 0 }
  else
    ⟨true, false, int32 m.width, int32 m.height, m.hotspotX, m.hotspotY, fun o =>
      if o < (int32 m.width).toNat * (int32 m.height).toNat then k.pixels o else c.argb o⟩

theorem askedShape_eq_self_iff (c : ClCursor) (m : ClSetCursor) (fds : List Int) (k : Kernel) :
    askedShape c m fds k = c ↔ AlreadyShown c m fds k := by
  obtain ⟨custom, hidden, w, h, hotspotX, hotspotY, argb⟩ := c
  unfold askedShape AlreadyShown
  split
  · simp [eq_comm]
  · have hpixels : (argb = fun o => if o < (int32 m.width).toNat * (int32 m.height).toNat
        then k.pixels o else argb o) ↔
        ∀ o < (int32 m.width).toNat * (int32 m.height).toNat, argb o = k.pixels o := by
      refine funext_iff.trans (forall_congr' fun o => ?_)
      by_cases ho : o < (int32 m.width).toNat * (int32 m.height).toNat <;> simp [ho]
    rw [eq_comm]
    simp only [ClCursor.mk.injEq, hpixels, and_assoc]

theorem onSetCursor_cursor (t : Transport) (m : ClSetCursor) (fds : List Int) (k : Kernel) :
    (onSetCursor t m fds k).cursor =
      if CursorAccepted m fds k then askedShape t.cursor m fds k else t.cursor := by
  unfold onSetCursor askedShape
  dsimp only
  by_cases hplain : m.hide ≠ 0 ∨ fds = []
  · have haccepted : CursorAccepted m fds k :=
      hplain.elim Or.inl fun hfds => Or.inr (Or.inl hfds)
    rw [if_pos hplain, if_pos haccepted, if_pos hplain]
    rfl
  · have hrest : CursorAccepted m fds k ↔ (0 < int32 m.width ∧ 0 < int32 m.height ∧
        int32 m.width ≤ clCursorMax ∧ int32 m.height ≤ clCursorMax) ∧ k.mmap ≠ none := by
      rw [CursorAccepted, ← or_assoc, or_iff_right hplain]
    simp only [if_neg hplain, hrest]
    by_cases hsize : 0 < int32 m.width ∧ 0 < int32 m.height ∧ int32 m.width ≤ clCursorMax ∧
        int32 m.height ≤ clCursorMax
    · rw [if_neg (by omega)]
      cases k.mmap with
      | none => simp [closeFds]
      | some base => simp [closeFds, hsize]
    · rw [if_pos (by omega), if_neg fun h => hsize h.1]
      rfl

theorem onSetCursor_same_iff (t : Transport) (m : ClSetCursor) (fds : List Int) (k : Kernel) :
    (onSetCursor t m fds k).cursor = t.cursor ↔
      (CursorAccepted m fds k → AlreadyShown t.cursor m fds k) := by
  rw [onSetCursor_cursor, ← askedShape_eq_self_iff]
  by_cases haccepted : CursorAccepted m fds k <;> simp [haccepted]

/-! ## Connections that are lost -/

/-- The event ends the connection of a client that has shaken hands. -/
def Drops (t : Transport) (i : Fin clMaxClients) : Event → Prop
  | .hangup i' _ => i' = i
  | .datagram i' d _ _ => i' = i ∧ Refusable t i d
  | _ => False

theorem dispatch_refused {t : Transport} {i : Fin clMaxClients} {d : Datagram}
    (hready : (t.clients i).hello = true) (hrefuse : Refusable t i d) (k : Kernel)
    (dirty : Bool) : dispatch t i d k dirty = rejected t d dirty := by
  unfold dispatch
  rw [hready]
  split
  · rfl
  · rename_i hlong
    rw [if_pos rfl]
    have hshort : d.n < needed (d.buf.u32 0) := by
      rcases hrefuse with h | h | h
      · exact (hlong h).elim
      · simp [hready] at h
      · exact h
    unfold dispatchRequest
    unfold needed at hshort
    dsimp only
    split_ifs at hshort ⊢ <;> first | rfl | omega

theorem World.next_client {W : World} {e : Event} (hen : W.enabled e) {i : Fin clMaxClients}
    (hopen : 0 ≤ (W.t.clients i).fd) (hready : (W.t.clients i).hello = true) :
    (Drops W.t i e ∧ ((W.next e).t.clients i).fd < 0) ∨
      (¬ Drops W.t i e ∧ ((W.next e).t.clients i).fd = (W.t.clients i).fd ∧
        ((W.next e).t.clients i).hello = true) := by
  have hdropped (t : Transport) (now : Int) : ((clientDrop t i now).clients i).fd < 0 := by
    rw [(clientDrop_frame t i now).2.1]
    decide
  cases e with
  | addClient fd epollOk =>
      refine .inr ⟨fun h => h, ?_⟩
      have hsame : (transportAddClient W.t fd epollOk).clients i = W.t.clients i := by
        unfold transportAddClient
        cases hslot : clientByFd W.t (-1) with
        | none => rfl
        | some i' =>
            have hfree : (W.t.clients i').fd = -1 := by simpa using firstIndex_eq_some hslot
            have hne : i ≠ i' := fun heq => by
              rw [heq, hfree] at hopen
              omega
            cases epollOk <;> simp [Transport.setClient, hne]
      exact ⟨congrArg ClClient.fd hsame, (congrArg ClClient.hello hsame).trans hready⟩
  | datagram i' d k now =>
      simp only [World.next]
      by_cases hi : i' = i
      · subst hi
        by_cases hrefuse : Refusable W.t i' d
        · refine .inl ⟨⟨rfl, hrefuse⟩, ?_⟩
          unfold clientDatagram
          rw [dispatch_refused hready hrefuse]
          exact hdropped _ now
        · refine .inr ⟨fun h => hrefuse h.2, ?_⟩
          rcases clientDatagram_cases W.t i' d k now false with heq | ⟨h, -⟩
          · rw [heq]
            rcases dispatch_frame W.t i' d k false with htable | ⟨hfresh, -⟩
            · obtain ⟨hfd, hhello, -⟩ := htable.session i'
              exact ⟨hfd, hhello.trans hready⟩
            · simp [hready] at hfresh
          · exact (hrefuse h).elim
      · refine .inr ⟨fun h => hi h.1, ?_⟩
        rw [(clientDatagram_sessions W.t i' d k now false).1 i fun h => hi h.symm]
        exact ⟨rfl, hready⟩
  | hangup i' now =>
      simp only [World.next]
      by_cases hi : i' = i
      · subst hi
        exact .inl ⟨rfl, hdropped _ now⟩
      · refine .inr ⟨fun h => hi h, ?_⟩
        rw [(clientDrop_frame W.t i' now).1 i fun h => hi h.symm]
        exact ⟨rfl, hready⟩
  | expire now =>
      have hsame := orphansExpire_clients W.t now
      simp only [World.next]
      generalize orphansExpire W.t now = r at hsame ⊢
      rw [hsame]
      exact .inr ⟨fun h => h, rfl, hready⟩
  | updateFocus focusId =>
      obtain ⟨hfd, hhello, -⟩ := (notifyFocus_frame W.t (.client i) focusId).session i
      exact .inr ⟨fun h => h, hfd, hhello.trans hready⟩
  | other op => exact .inr ⟨fun h => h, rfl, hready⟩

/-! ## What an event does to the cursor -/

structure SetsCursor (t : Transport) (i : Fin clMaxClients) (d : Datagram) (k : Kernel) :
    Prop where
  asks : AsksCursor t i d
  accepted : CursorAccepted (.read d.buf) d.fds k

instance (t : Transport) (i : Fin clMaxClients) (d : Datagram) (k : Kernel) :
    Decidable (SetsCursor t i d k) :=
  decidable_of_iff (((t.clients i).hello = true ∧ d.buf.u32 0 = clSetCursorType ∧
      ClSetCursor.size ≤ d.n) ∧ CursorAccepted (.read d.buf) d.fds k)
    ⟨fun ⟨⟨ready, type, full⟩, accepted⟩ => ⟨⟨ready, type, full⟩, accepted⟩,
      fun ⟨⟨ready, type, full⟩, accepted⟩ => ⟨⟨ready, type, full⟩, accepted⟩⟩

theorem cursor_upkeep : Upkeep fun t u => u.cursor = t.cursor where
  trans h h' := h'.trans h
  still h := h.cursor
  destroy _ _ := rfl
  redraw _ _ _ _ := rfl

theorem clientDatagram_cursor (t : Transport) (i : Fin clMaxClients) (d : Datagram) (k : Kernel)
    (now : Int) (dirty : Bool) :
    (clientDatagram t i d k now dirty).t.cursor = t.cursor ↔
      (SetsCursor t i d k → AlreadyShown t.cursor (.read d.buf) d.fds k) := by
  have hunasked {u : Transport} (hu : u.cursor = t.cursor) (hno : ¬ AsksCursor t i d) :
      u.cursor = t.cursor ↔
        (SetsCursor t i d k → AlreadyShown t.cursor (.read d.buf) d.fds k) :=
    iff_of_true hu fun h => (hno h.asks).elim
  cases cursor_upkeep.clientDatagram t i d k now dirty with
  | upkeep kept uncreated unplaced unasked => exact hunasked kept unasked
  | creates j request result cursor =>
      exact hunasked cursor fun h => absurd (request.type.symm.trans h.type) (by decide)
  | places j request result =>
      exact hunasked result.cursor fun h => absurd (request.type.symm.trans h.type) (by decide)
  | cursor request result =>
      rw [result, onSetCursor_same_iff]
      exact ⟨fun h hsets => h hsets.accepted, fun h haccepted => h ⟨request, haccepted⟩⟩

theorem World.next_cursor {W : World} {e : Event} (hquiet : ∀ i d k now, e ≠ .datagram i d k now) :
    (W.next e).t.cursor = W.t.cursor := by
  by_cases hours : ∃ op, e = .other op
  · obtain ⟨op, rfl⟩ := hours
    rfl
  · exact W.upkeep_next cursor_upkeep (fun op h => hours ⟨op, h⟩) hquiet

/-! ## Watched runs -/

/-- The transport, and the client that the cursor's shape is from while it stays connected. -/
structure CursorRun where
  world : World
  setter : Option (Fin clMaxClients)

namespace CursorRun

def start (sw sh : Int) : CursorRun := ⟨.start sw sh, none⟩

/-- The client whose request for a shape the event carries out. -/
def setBy (W : World) : Event → Option (Fin clMaxClients)
  | .datagram i d k _ => if SetsCursor W.t i d k then some i else none
  | _ => none

def next (X : CursorRun) (e : Event) : CursorRun where
  world := X.world.next e
  setter := ((setBy X.world e).or X.setter).filter fun i =>
    0 ≤ ((X.world.next e).t.clients i).fd

def system : System CursorRun Event := ⟨fun X => X.world.enabled, next⟩

def Shaped (X : CursorRun) : Prop :=
  X.world.t.cursor.custom = true ∨ X.world.t.cursor.hidden = true

instance (X : CursorRun) : Decidable X.Shaped := inferInstanceAs (Decidable (_ ∨ _))

/-- A shape that is not the default one is from a client that is still connected. -/
def FromConnected (X : CursorRun) : Prop :=
  X.Shaped → ∃ i, X.setter = some i ∧ 0 ≤ (X.world.t.clients i).fd

instance (X : CursorRun) : Decidable X.FromConnected :=
  inferInstanceAs (Decidable (X.Shaped → ∃ i, X.setter = some i ∧ 0 ≤ (X.world.t.clients i).fd))

/-- The request of a client without the focus leaves the cursor alone. -/
def Undisturbed (X : CursorRun) : Event → Prop
  | .datagram i d k now =>
      d.buf.u32 0 = clSetCursorType →
        ¬ X.world.t.Names (.client i) X.world.t.stack.focusId →
          (X.world.next (.datagram i d k now)).t.cursor = X.world.t.cursor
  | _ => True

/-- A client that has a request carried out has the focus, or asks for what there is. -/
def Entitled (X : CursorRun) : Event → Prop
  | .datagram i d k _ =>
      SetsCursor X.world.t i d k →
        X.world.t.Names (.client i) X.world.t.stack.focusId ∨
          AlreadyShown X.world.t.cursor (.read d.buf) d.fds k
  | _ => True

/-- No client is lost while the cursor has its shape. -/
def KeepsSetter (X : CursorRun) (e : Event) : Prop :=
  X.Shaped → ∀ i, X.setter = some i → ¬ Drops X.world.t i e

variable {X : CursorRun}

theorem undisturbed_iff_entitled (X : CursorRun) (e : Event) : X.Undisturbed e ↔ X.Entitled e := by
  cases e with
  | datagram i d k now =>
      have hcursor := clientDatagram_cursor X.world.t i d k now false
      constructor
      · intro h hsets
        by_cases hfocus : X.world.t.Names (.client i) X.world.t.stack.focusId
        · exact .inl hfocus
        · exact .inr (hcursor.mp (h hsets.asks.type hfocus) hsets)
      · intro h _ hfocus
        exact hcursor.mpr fun hsets => (h hsets).resolve_left hfocus
  | _ => exact Iff.rfl

def Attributed (X : CursorRun) : Prop :=
  ∀ i, X.setter = some i →
    0 ≤ (X.world.t.clients i).fd ∧ (X.world.t.clients i).hello = true

theorem fromConnected_iff (hX : X.Attributed) :
    X.FromConnected ↔ (X.Shaped → X.setter.isSome = true) := by
  refine forall_congr' fun _ => ?_
  rw [Option.isSome_iff_exists]
  exact exists_congr fun i => ⟨fun h => h.1, fun h => ⟨h, (hX i h).1⟩⟩

theorem setBy_eq_some {W : World} {e : Event} {i : Fin clMaxClients} (h : setBy W e = some i) :
    ∃ d k now, e = .datagram i d k now ∧ SetsCursor W.t i d k := by
  cases e with
  | datagram i' d k now =>
      simp only [setBy] at h
      split at h
      · rename_i hsets
        cases h
        exact ⟨d, k, now, rfl, hsets⟩
      · cases h
  | _ => cases h

theorem cursor_of_setBy_none {W : World} {e : Event} (h : setBy W e = none) :
    (W.next e).t.cursor = W.t.cursor := by
  by_cases hquiet : ∃ i d k now, e = .datagram i d k now
  · obtain ⟨i, d, k, now, rfl⟩ := hquiet
    refine (clientDatagram_cursor W.t i d k now false).mpr fun hsets => ?_
    simp [setBy, hsets] at h
  · exact World.next_cursor fun i d k now heq => hquiet ⟨i, d, k, now, heq⟩

theorem Attributed.claimant (hX : X.Attributed) {e : Event} (hen : X.world.enabled e)
    {i : Fin clMaxClients} (h : (setBy X.world e).or X.setter = some i) :
    0 ≤ (X.world.t.clients i).fd ∧ (X.world.t.clients i).hello = true := by
  cases hset : setBy X.world e with
  | none =>
      rw [hset] at h
      exact hX i h
  | some i' =>
      rw [hset] at h
      obtain ⟨d, k, now, rfl, hsets⟩ := setBy_eq_some hset
      cases h
      exact ⟨hen.1, hsets.asks.ready⟩

theorem next_setter {e : Event} {i : Fin clMaxClients} :
    (X.next e).setter = some i ↔
      (setBy X.world e).or X.setter = some i ∧ 0 ≤ ((X.world.next e).t.clients i).fd := by
  simp [next, Option.filter_eq_some_iff]

theorem Attributed.step (hX : X.Attributed) {e : Event} (hen : X.world.enabled e) :
    (X.next e).Attributed := by
  intro i hi
  obtain ⟨hclaim, hopen⟩ := next_setter.mp hi
  obtain ⟨hfd, hready⟩ := hX.claimant hen hclaim
  rcases World.next_client hen hfd hready with ⟨-, hlost⟩ | ⟨-, -, hhello⟩
  · exact absurd hopen (by omega)
  · exact ⟨hopen, hhello⟩

theorem Attributed.fromConnected_step (hX : X.Attributed) (hfrom : X.FromConnected) {e : Event}
    (hen : X.world.enabled e) : (X.next e).FromConnected ↔ X.KeepsSetter e := by
  rw [fromConnected_iff (hX.step hen), Option.isSome_iff_exists]
  have hkept {i : Fin clMaxClients} (hclaim : (setBy X.world e).or X.setter = some i) :
      (X.next e).setter = some i ↔ ¬ Drops X.world.t i e := by
    rw [next_setter, and_iff_right hclaim]
    obtain ⟨hfd, hready⟩ := hX.claimant hen hclaim
    rcases World.next_client hen hfd hready with ⟨hdrop, hlost⟩ | ⟨hdrop, hsame, -⟩
    · exact iff_of_false (by omega) fun h => h hdrop
    · exact iff_of_true (by omega) hdrop
  cases hset : setBy X.world e with
  | some i =>
      obtain ⟨d, k, now, rfl, hsets⟩ := setBy_eq_some hset
      have hfull : ¬ Refusable X.world.t i d :=
        not_refusable hsets.asks.ready hsets.asks.type hsets.asks.full (by decide)
      refine iff_of_true (fun _ => ⟨i, (hkept (by rw [hset]; rfl)).mpr fun h => hfull h.2⟩) ?_
      rintro - i' - ⟨rfl, hrefuse⟩
      exact hfull hrefuse
  | none =>
      have hshaped : (X.next e).Shaped ↔ X.Shaped := by
        unfold Shaped next
        dsimp only
        rw [cursor_of_setBy_none hset]
      rw [hshaped]
      refine forall_congr' fun hshape => ?_
      obtain ⟨i, hi, -⟩ := hfrom hshape
      have hclaim : (setBy X.world e).or X.setter = some i := by
        rw [hset, hi]
        rfl
      have honly {i' : Fin clMaxClients} (h : (X.next e).setter = some i') : i' = i :=
        Option.some.inj ((next_setter.mp h).1.symm.trans hclaim)
      constructor
      · rintro ⟨i', hi'⟩ i'' hi''
        cases honly hi'
        cases hi.symm.trans hi''
        exact (hkept hclaim).mp hi'
      · intro hkeep
        exact ⟨i, (hkept hclaim).mpr (hkeep i hi)⟩

end CursorRun

/--
In a run, requests of clients without the focus leave the cursor alone and a shape
that is not the default one is always from a connected client, exactly if every
request that is carried out is from the client with the focus or asks for what
there is, and no client is lost while the cursor has its shape.
-/
theorem cursor_controlled_iff (sw sh : Int) (es : List Event)
    (hrun : CursorRun.system.Legal (.start sw sh) es) :
    CursorRun.system.Each CursorRun.Undisturbed (.start sw sh) es ∧
        CursorRun.system.Along CursorRun.FromConnected (.start sw sh) es ↔
      CursorRun.system.Each CursorRun.Entitled (.start sw sh) es ∧
        CursorRun.system.Each CursorRun.KeepsSetter (.start sw sh) es := by
  have hstart : (CursorRun.start sw sh).Attributed := fun i hi => by cases hi
  refine and_congr ?_ ?_
  · exact System.each_congr (I := CursorRun.Attributed) (fun X e hX hen => hX.step hen)
      (fun X e _ _ => X.undisturbed_iff_entitled e) hrun hstart
  · refine System.along_iff_each (I := fun X => X.Attributed ∧ X.FromConnected)
      (fun X hI => hI.2) ?_ ?_ hrun ⟨hstart, ?_⟩
    · rintro X e ⟨hX, hfrom⟩ hen hkeep
      exact ⟨hX.step hen, (hX.fromConnected_step hfrom hen).mpr hkeep⟩
    · rintro X e ⟨hX, hfrom⟩ hen hlost hnext
      exact hlost ((hX.fromConnected_step hfrom hen).mp hnext)
    · rintro (hcustom | hhidden)
      · cases hcustom
      · cases hhidden

/-- A client creates a window, which gets the focus, and hides the cursor. -/
def typingRun : List Event :=
  [.addClient 7 true,
    .datagram 0 (.ofWords [clHelloType, clMagic, 2, 1, 0] []) ⟨none, fun _ => 0⟩ 10,
    .datagram 0 (.ofWords [clCreateWindowType, 3, 0, 20, 30, 300, 200] []) ⟨none, fun _ => 0⟩ 20,
    .datagram 0 (.ofWords [clSetCursorType, 0, 0, 0, 0, 1] []) ⟨none, fun _ => 0⟩ 30]

theorem cursor_controlled_iff_typingRun :
    CursorRun.system.Each CursorRun.Undisturbed (.start 1920 1080) typingRun ∧
      CursorRun.system.Along CursorRun.FromConnected (.start 1920 1080) typingRun :=
  (cursor_controlled_iff 1920 1080 typingRun
    ⟨Int.natCast_nonneg 7, ⟨by decide, by decide⟩, ⟨by decide, by decide⟩,
      ⟨by decide, by decide⟩, trivial⟩).mpr
    ⟨⟨trivial, fun h => absurd h.asks.type (by decide), fun h => absurd h.asks.type (by decide),
        fun _ => .inl (by decide), trivial⟩,
      fun h => absurd h (by decide), fun h => absurd h (by decide),
      fun h => absurd h (by decide), fun h => absurd h (by decide), trivial⟩

/-- A client without a window hides the cursor and leaves. -/
def strayRun : List Event :=
  [.addClient 7 true,
    .datagram 0 (.ofWords [clHelloType, clMagic, 2, 1, 0] []) ⟨none, fun _ => 0⟩ 10,
    .datagram 0 (.ofWords [clSetCursorType, 0, 0, 0, 0, 1] []) ⟨none, fun _ => 0⟩ 20,
    .hangup 0 30]

/-- Both halves fail: the client without the focus hides the cursor, and it stays hidden. -/
theorem cursor_hidden_for_good :
    CursorRun.system.Legal (.start 1920 1080) strayRun ∧
      ¬ CursorRun.system.Each CursorRun.Undisturbed (.start 1920 1080) strayRun ∧
        ¬ CursorRun.system.Along CursorRun.FromConnected (.start 1920 1080) strayRun := by
  refine ⟨⟨Int.natCast_nonneg 7, ⟨by decide, by decide⟩, ⟨by decide, by decide⟩, ?_, trivial⟩,
    fun h => ?_, by decide +kernel⟩
  · show (0 : Int) ≤ _
    decide +kernel
  · have hhidden := congrArg ClCursor.hidden (h.2.2.1 (by decide) (by decide +kernel))
    exact absurd hhidden (by decide +kernel)

end CrystallineLattice.Native
