import CrystallineLattice.Wayland.Records
import CrystallineLattice.Wayland.Seat

/-!
# What a device hears

To a `wl_pointer` or a `wl_keyboard` the messages of the seat are steps of a protocol:
a surface is entered, then there is input, then the surface is left.  Each handler of
the seat tells all devices of one client the same, and this file says which.
-/

namespace CrystallineLattice.Wayland

open CrystallineLattice.Foundation
open CrystallineLattice.Stack

/-! ## The protocol -/

inductive DeviceEvent where
  | enter (surface : Nat)
  | leave
  | input
  deriving DecidableEq, Repr

def Frontend.recordOf (fe : Frontend) (surface : Nat) : Option Nat :=
  (fe.resources surface).map Resource.data

/--
The state of a device is the record that it has entered and not left.  A surface that
was destroyed needs no leave.
-/
def deviceProtocol (fe : Frontend) : System (Option Nat) DeviceEvent where
  enabled inside
    | .enter _ => ∀ a, inside = some a → fe.surfaces a = none
    | .leave => inside ≠ none
    | .input => inside ≠ none
  next inside
    | .enter surface => fe.recordOf surface
    | .leave => none
    | .input => inside

def SeatMessage.onDevice : SeatMessage → Option (Nat × DeviceEvent)
  | .enter pointer _ surface _ _ => some (pointer, .enter surface)
  | .leave pointer _ _ => some (pointer, .leave)
  | .motion pointer _ _ => some (pointer, .input)
  | .button pointer _ _ _ => some (pointer, .input)
  | .kbdEnter keyboard _ surface => some (keyboard, .enter surface)
  | .kbdLeave keyboard _ _ => some (keyboard, .leave)
  | .key keyboard _ _ _ => some (keyboard, .input)
  | .frame _ => none
  | .keymap _ => none
  | .repeatInfo _ => none
  | .modifiers _ _ _ => none
  | .mode _ _ _ => none

def heardBy (r : Nat) (sent : List (Nat × SeatMessage)) : List DeviceEvent :=
  sent.filterMap fun q => q.2.onDevice.bind fun p => if p.1 = r then some p.2 else none

def told (devices : List Device) (client : Nat) (ev : DeviceEvent) (r : Nat) : List DeviceEvent :=
  (devices.filter fun d => d.client = client).filterMap fun d =>
    if d.resource = r then some ev else none

/-- What it hears when the devices are those of the client whose surface has the focus. -/
def toldFocus (fe : Frontend) (client : Nat → Nat) (devices : List Device) (focus : Nat)
    (ev : FeSurface → DeviceEvent) (r : Nat) : List DeviceEvent :=
  (surfaceByWindow fe focus).elim [] fun p => told devices (client p.1) (ev p.2) r

def toldRefocus (fe : Frontend) (client : Nat → Nat) (devices : List Device)
    (focus focus' : Nat) (r : Nat) : List DeviceEvent :=
  if focus' = focus then []
  else
    toldFocus fe client devices focus (fun _ => .leave) r ++
      toldFocus fe client devices focus' (fun s => .enter s.surface) r

section Told

variable {fe : Frontend} {client : Nat → Nat} {devices : List Device} {focus r : Nat}
  {ev : FeSurface → DeviceEvent} {d : Device}

theorem heardBy_append (r : Nat) (sent sent' : List (Nat × SeatMessage)) :
    heardBy r (sent ++ sent') = heardBy r sent ++ heardBy r sent' :=
  List.filterMap_append

theorem told_eq_nil {c : Nat} {ev : DeviceEvent}
    (h : ∀ d ∈ devices, d.resource = r → d.client ≠ c) : told devices c ev r = [] := by
  refine List.filterMap_eq_nil_iff.mpr fun d hd => ?_
  obtain ⟨hmem, hc⟩ := List.mem_filter.mp hd
  exact if_neg fun heq => h d hmem heq (of_decide_eq_true hc)

theorem told_of_mem (hnodup : (devices.map Device.resource).Nodup) (hd : d ∈ devices)
    {c : Nat} (hc : d.client = c) (ev : DeviceEvent) : told devices c ev d.resource = [ev] := by
  induction devices with
  | nil => cases hd
  | cons d' devices ih =>
      obtain ⟨hfresh, hnodup⟩ := List.nodup_cons.mp hnodup
      rcases List.mem_cons.mp hd with rfl | hd
      · have hrest : told devices c ev d.resource = [] := told_eq_nil fun d' hd' heq => by
          exact (hfresh (List.mem_map.mpr ⟨d', hd', heq⟩)).elim
        unfold told at hrest ⊢
        simp [hc, hrest]
      · have hne : d'.resource ≠ d.resource := fun heq =>
          hfresh (List.mem_map.mpr ⟨d, hd, heq.symm⟩)
        have hrest := ih hnodup hd
        unfold told at hrest ⊢
        by_cases hc' : d'.client = c
        · simpa [hc', hne] using hrest
        · simpa [hc'] using hrest

theorem toldFocus_of_notMem (h : r ∉ devices.map Device.resource) :
    toldFocus fe client devices focus ev r = [] := by
  unfold toldFocus
  cases surfaceByWindow fe focus with
  | none => rfl
  | some p => exact told_eq_nil fun d hd heq => (h (List.mem_map.mpr ⟨d, hd, heq⟩)).elim

theorem toldFocus_of_find (ev : FeSurface → DeviceEvent)
    (hnodup : (devices.map Device.resource).Nodup) (hd : d ∈ devices) {a : Nat} {s : FeSurface}
    (hfind : surfaceByWindow fe focus = some (a, s)) (hc : d.client = client a) :
    toldFocus fe client devices focus ev d.resource = [ev s] := by
  rw [toldFocus, hfind]
  exact told_of_mem hnodup hd hc _

theorem toldFocus_cases (ev : FeSurface → DeviceEvent)
    (hnodup : (devices.map Device.resource).Nodup) (hd : d ∈ devices) :
    (∃ a s, surfaceByWindow fe focus = some (a, s) ∧ d.client = client a ∧
      toldFocus fe client devices focus ev d.resource = [ev s]) ∨
    (∀ a s, surfaceByWindow fe focus = some (a, s) → d.client ≠ client a) ∧
      toldFocus fe client devices focus ev d.resource = [] := by
  cases hfind : surfaceByWindow fe focus with
  | none => exact .inr ⟨fun _ _ h => (by cases h), by rw [toldFocus, hfind]; rfl⟩
  | some p =>
      obtain ⟨a, s⟩ := p
      by_cases hc : d.client = client a
      · exact .inl ⟨a, s, rfl, hc, toldFocus_of_find ev hnodup hd hfind hc⟩
      · refine .inr ⟨fun a' s' h => ?_, ?_⟩
        · cases h
          exact hc
        · rw [toldFocus, hfind]
          refine told_eq_nil fun d' hd' heq => ?_
          rwa [List.inj_on_of_nodup_map hnodup hd' hd heq]

theorem toldRefocus_of_notMem {focus' : Nat} (h : r ∉ devices.map Device.resource) :
    toldRefocus fe client devices focus focus' r = [] := by
  unfold toldRefocus
  split
  · rfl
  · rw [toldFocus_of_notMem h, toldFocus_of_notMem h]
    rfl

end Told

/-! ## What the handlers say -/

/-- Of what the seat has sent since, each device has heard what `said` gives for it. -/
structure Says (seat seat' : Seat) (said : Nat → List DeviceEvent) : Prop where
  client : seat'.client = seat.client
  pointers : seat'.pointers = seat.pointers
  keyboards : seat'.keyboards = seat.keyboards
  pointerFocus : seat'.pointerFocus = seat.pointerFocus
  kbdFocus : seat'.kbdFocus = seat.kbdFocus
  sent : ∃ rest, seat'.sent = seat.sent ++ rest ∧ ∀ r, heardBy r rest = said r

namespace Says

variable {seat seat' seat'' : Seat} {said said' : Nat → List DeviceEvent}

theorem heard (h : Says seat seat' said) (r : Nat) :
    heardBy r (seat'.sent.drop seat.sent.length) = said r := by
  obtain ⟨rest, hsent, hsaid⟩ := h.sent
  rw [hsent, List.drop_left]
  exact hsaid r

theorem trans (h : Says seat seat' said) (h' : Says seat' seat'' said') :
    Says seat seat'' fun r => said r ++ said' r where
  client := h'.client.trans h.client
  pointers := h'.pointers.trans h.pointers
  keyboards := h'.keyboards.trans h.keyboards
  pointerFocus := h'.pointerFocus.trans h.pointerFocus
  kbdFocus := h'.kbdFocus.trans h.kbdFocus
  sent := by
    obtain ⟨rest, hsent, hsaid⟩ := h.sent
    obtain ⟨rest', hsent', hsaid'⟩ := h'.sent
    refine ⟨rest ++ rest', ?_, fun r => ?_⟩
    · rw [hsent', hsent, List.append_assoc]
    · rw [heardBy_append, hsaid, hsaid']

theorem of_eq (h : Says seat seat' said) (heq : ∀ r, said r = said' r) :
    Says seat seat' said' :=
  (funext heq : said = said') ▸ h

theorem after (h' : Says seat' seat'' said) (h : Says seat seat' fun _ => []) :
    Says seat seat'' said :=
  h.trans h'

theorem before (h : Says seat seat' said) (h' : Says seat' seat'' fun _ => []) :
    Says seat seat'' said :=
  (h.trans h').of_eq fun _ => List.append_nil _

theorem refl (seat : Seat) : Says seat seat fun _ => [] :=
  ⟨rfl, rfl, rfl, rfl, rfl, [], (List.append_nil _).symm, fun _ => rfl⟩

theorem nextSerial (seat : Seat) : Says seat seat.nextSerial fun _ => [] :=
  ⟨rfl, rfl, rfl, rfl, rfl, [], (List.append_nil _).symm, fun _ => rfl⟩

theorem send (seat : Seat) (c : Nat) (m : SeatMessage) :
    Says seat (seat.send c m) fun r => heardBy r [(c, m)] :=
  ⟨rfl, rfl, rfl, rfl, rfl, _, rfl, fun _ => rfl⟩

theorem tell (seat : Seat) (devices : List Device) (c : Nat) {m : Device → SeatMessage}
    {ev : DeviceEvent} (hm : ∀ d, (m d).onDevice = some (d.resource, ev)) :
    Says seat (seat.tell devices c m) (told devices c ev) := by
  refine ⟨rfl, rfl, rfl, rfl, rfl, _, rfl, fun r => ?_⟩
  rw [heardBy, List.filterMap_map, told]
  congr 1
  funext d
  simp [hm]

theorem tellQuietly (seat : Seat) (devices : List Device) (c : Nat) {m : Device → SeatMessage}
    (hm : ∀ d, (m d).onDevice = none) : Says seat (seat.tell devices c m) fun _ => [] := by
  refine ⟨rfl, rfl, rfl, rfl, rfl, _, rfl, fun r => ?_⟩
  rw [heardBy, List.filterMap_map]
  refine List.filterMap_eq_nil_iff.mpr fun d _ => ?_
  simp [hm]

theorem pointerFrameAll (seat : Seat) (c : Nat) :
    Says seat (pointerFrameAll seat c) fun _ => [] :=
  tellQuietly _ _ _ (by exact fun _ => rfl)

theorem sendModifiers (seat : Seat) (c : Nat) : Says seat (sendModifiers seat c) fun _ => [] := by
  unfold Wayland.sendModifiers
  split
  · exact (tellQuietly _ _ _ (by exact fun _ => rfl)).after (nextSerial seat)
  · exact refl seat

theorem setPointerFocus (h : Says seat seat' said) (focus : Nat) :
    Says { seat with pointerFocus := focus } { seat' with pointerFocus := focus } said :=
  ⟨h.client, h.pointers, h.keyboards, rfl, h.kbdFocus, h.sent⟩

theorem setKbdFocus (h : Says seat seat' said) (focus : Nat) :
    Says { seat with kbdFocus := focus } { seat' with kbdFocus := focus } said :=
  ⟨h.client, h.pointers, h.keyboards, h.pointerFocus, rfl, h.sent⟩

theorem setLast (h : Says seat seat' said) (x y : Int) :
    Says seat { seat' with lastPx := x, lastPy := y } said :=
  ⟨h.client, h.pointers, h.keyboards, h.pointerFocus, h.kbdFocus, h.sent⟩

/-! ### The pointer -/

theorem pointerLeave (fe : Frontend) (seat : Seat) :
    Says seat (pointerLeave fe seat)
      (toldFocus fe seat.client seat.pointers seat.pointerFocus fun _ => .leave) := by
  have hfocus : seat.nextSerial.pointerFocus = seat.pointerFocus := rfl
  refine after ?_ (nextSerial seat)
  unfold Wayland.pointerLeave toldFocus
  dsimp only
  rw [hfocus]
  cases surfaceByWindow fe seat.pointerFocus with
  | none => exact refl _
  | some p => exact tell _ _ _ (by exact fun _ => rfl)

theorem pointerEnter_loop (seat : Seat) (devices : List Device) (c serial surface : Nat)
    (lx ly : Int) :
    Says seat (devices.foldl (fun acc d => Wayland.pointerFrameAll
        (acc.send c (.enter d.resource serial surface lx ly)) c) seat)
      fun r => devices.filterMap fun d =>
        if d.resource = r then some (.enter surface) else none := by
  induction devices generalizing seat with
  | nil => exact refl seat
  | cons d devices ih =>
      rw [List.foldl_cons]
      have hfirst := (send seat c (.enter d.resource serial surface lx ly)).before
        (pointerFrameAll _ c)
      refine (hfirst.trans (ih _)).of_eq fun r => ?_
      by_cases heq : d.resource = r <;> simp [heardBy, SeatMessage.onDevice, heq]

theorem pointerEnter (fe : Frontend) (seat : Seat) (gx gy : Int) :
    Says seat (pointerEnter seat (hover fe gx gy))
      (toldFocus fe seat.client seat.pointers (hoverId (hover fe gx gy))
        fun s => .enter s.surface) := by
  unfold toldFocus
  cases htarget : hover fe gx gy with
  | none => exact refl seat
  | some t =>
      rw [hoverId, (hover_eq_some htarget).2.1]
      exact (pointerEnter_loop seat.nextSerial _ _ _ _ _ _).after (nextSerial seat)

theorem wlFrontendPointerMotion (fe : Frontend) (seat : Seat) (gx gy : Int) :
    Says { seat with pointerFocus := hoverId (hover fe gx gy) }
      (wlFrontendPointerMotion fe seat gx gy) fun r =>
        toldRefocus fe seat.client seat.pointers seat.pointerFocus (hoverId (hover fe gx gy)) r ++
          toldFocus fe seat.client seat.pointers (hoverId (hover fe gx gy)) (fun _ => .input)
            r := by
  have hfocus : Says { seat with pointerFocus := hoverId (hover fe gx gy) }
      (if hoverId (hover fe gx gy) ≠ seat.pointerFocus then
        { Wayland.pointerEnter (Wayland.pointerLeave fe seat) (hover fe gx gy) with
          pointerFocus := hoverId (hover fe gx gy) } else seat)
      (toldRefocus fe seat.client seat.pointers seat.pointerFocus (hoverId (hover fe gx gy))) := by
    by_cases hmoved : hoverId (hover fe gx gy) = seat.pointerFocus
    · rw [if_neg (not_not.mpr hmoved), hmoved]
      exact (refl seat).of_eq fun r => (if_pos rfl).symm
    · rw [if_pos hmoved]
      have hleft := pointerLeave fe seat
      have hentered := pointerEnter fe (Wayland.pointerLeave fe seat) gx gy
      rw [hleft.client, hleft.pointers] at hentered
      exact ((hleft.trans hentered).setPointerFocus _).of_eq fun r => (if_neg hmoved).symm
  unfold Wayland.wlFrontendPointerMotion
  dsimp only
  refine hfocus.trans ?_
  generalize (if hoverId (hover fe gx gy) ≠ seat.pointerFocus then _ else seat) = moved at hfocus ⊢
  have hclient : moved.client = seat.client := hfocus.client
  have hpointers : moved.pointers = seat.pointers := hfocus.pointers
  unfold toldFocus
  cases htarget : hover fe gx gy with
  | none => exact refl moved
  | some t =>
      rw [hoverId, (hover_eq_some htarget).2.1, ← hclient, ← hpointers]
      have hplace : Says moved { moved with lastPx := t.lx, lastPy := t.ly } fun _ => [] :=
        (refl moved).setLast t.lx t.ly
      exact ((tell _ _ _ (by exact fun _ => rfl)).after hplace).before (pointerFrameAll _ _)

theorem wlFrontendPointerButton (fe : Frontend) (seat : Seat) (button : Nat) (pressed : Bool) :
    Says seat (wlFrontendPointerButton fe seat button pressed)
      (toldFocus fe seat.client seat.pointers seat.pointerFocus fun _ => .input) := by
  unfold Wayland.wlFrontendPointerButton toldFocus
  cases surfaceByWindow fe seat.pointerFocus with
  | none => exact refl seat
  | some p =>
      have htell := tell seat.nextSerial seat.pointers (seat.client p.1)
        (m := fun d => .button d.resource seat.nextSerial.serial button pressed)
        (by exact fun _ => rfl)
      exact (htell.after (nextSerial seat)).before (pointerFrameAll _ _)

/-! ### The keyboard -/

theorem seatGetKeyboard (seat : Seat) (c r version : Nat) :
    Says { seat with keyboards := ⟨r, c, version⟩ :: seat.keyboards }
      (seatGetKeyboard seat c (some r) version) fun _ => [] := by
  have hkeymap (u : Seat) :
      Says u (if u.hasKeymap then u.send c (.keymap r) else u) fun _ => [] := by
    split
    · exact send _ _ _
    · exact refl u
  have hrepeat (u : Seat) : Says u (if wlKeyboardRepeatInfoSinceVersion ≤ version then
      u.send c (.repeatInfo r) else u) fun _ => [] := by
    split
    · exact send _ _ _
    · exact refl u
  exact (hrepeat _).after (hkeymap _)

theorem wlFrontendKeyboardKey (fe : Frontend) (seat : Seat) (keycode : Nat) (pressed : Bool) :
    Says seat (wlFrontendKeyboardKey fe seat keycode pressed)
      (toldFocus fe seat.client seat.keyboards seat.kbdFocus fun _ => .input) := by
  have hkeys : Says seat (if seat.hasXkb then
      { seat with keys := seat.keys ++ [(keycode, pressed)] } else seat) fun _ => [] := by
    split
    · exact ⟨rfl, rfl, rfl, rfl, rfl, [], (List.append_nil _).symm, fun _ => rfl⟩
    · exact refl seat
  unfold Wayland.wlFrontendKeyboardKey
  refine after ?_ hkeys
  dsimp only
  generalize (if seat.hasXkb then _ else seat) = updated at hkeys ⊢
  rw [← hkeys.client, ← hkeys.keyboards, ← hkeys.kbdFocus]
  unfold toldFocus
  cases surfaceByWindow fe updated.kbdFocus with
  | none => exact refl updated
  | some p =>
      have htell := tell updated.nextSerial updated.keyboards (updated.client p.1)
        (m := fun d => .key d.resource updated.nextSerial.serial keycode pressed)
        (by exact fun _ => rfl)
      exact (htell.after (nextSerial updated)).before (sendModifiers _ _)

theorem keyboardLeave (fe : Frontend) (seat : Seat) :
    Says seat (keyboardLeave fe seat)
      (toldFocus fe seat.client seat.keyboards seat.kbdFocus fun _ => .leave) := by
  unfold Wayland.keyboardLeave toldFocus
  cases surfaceByWindow fe seat.kbdFocus with
  | none => exact refl seat
  | some p => exact (tell _ _ _ (by exact fun _ => rfl)).after (nextSerial seat)

theorem keyboardEnter (seat : Seat) (a : Nat) (s : FeSurface) :
    Says seat (keyboardEnter seat a s)
      (told seat.keyboards (seat.client a) (.enter s.surface)) := by
  have htell := tell seat.nextSerial seat.keyboards (seat.client a)
    (m := fun d => .kbdEnter d.resource seat.nextSerial.serial s.surface) (by exact fun _ => rfl)
  exact (htell.after (nextSerial seat)).before (sendModifiers _ _)

end Says

def keyboardTarget (fe : Frontend) (windowId : Nat) : Nat :=
  match surfaceByWindow fe windowId with
  | none => 0
  | some _ => windowId

theorem Says.wlFrontendKeyboardFocus (fe : Frontend) (seat : Seat) (windowId : Nat) :
    Says { seat with kbdFocus := keyboardTarget fe windowId }
      (wlFrontendKeyboardFocus fe seat windowId)
      (toldRefocus fe seat.client seat.keyboards seat.kbdFocus (keyboardTarget fe windowId)) := by
  have hleft := keyboardLeave fe seat
  unfold Wayland.wlFrontendKeyboardFocus keyboardTarget
  cases hfind : surfaceByWindow fe windowId with
  | none =>
      dsimp only
      by_cases hnone : seat.kbdFocus = 0
      · rw [if_pos hnone, ← hnone]
        exact (refl seat).of_eq fun r => (if_pos rfl).symm
      · rw [if_neg hnone]
        refine (hleft.setKbdFocus 0).of_eq fun r => ?_
        rw [toldRefocus, if_neg (Ne.symm hnone)]
        exact (List.append_nil _).symm
  | some p =>
      dsimp only
      by_cases hsame : windowId = seat.kbdFocus
      · rw [if_pos hsame, hsame]
        exact (refl seat).of_eq fun r => (if_pos rfl).symm
      · rw [if_neg hsame]
        have hentered := keyboardEnter (Wayland.keyboardLeave fe seat) p.1 p.2
        rw [hleft.client, hleft.keyboards] at hentered
        refine ((hleft.trans hentered).setKbdFocus windowId).of_eq fun r => ?_
        rw [toldRefocus, if_neg hsame]
        congr 1
        rw [toldFocus, hfind]
        rfl

end CrystallineLattice.Wayland
