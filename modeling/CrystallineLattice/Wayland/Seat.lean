import CrystallineLattice.Wayland.Model

/-!
# The seat and the output of the Wayland frontend

This file models the input half of `wayland.c`: the pointers and keyboards of the
clients, which window each kind of input last went to, and what is sent.  A
message is kept with the client it is sent to.  The state of xkb is the list of
the key changes that it was told.
-/

namespace CrystallineLattice.Wayland

open CrystallineLattice.Foundation
open CrystallineLattice.Stack

structure Device where
  resource : Nat
  client : Nat
  version : Nat
  deriving DecidableEq, Repr

inductive SeatMessage where
  | enter (pointer serial surface : Nat) (x y : Int)
  | leave (pointer serial surface : Nat)
  | motion (pointer : Nat) (x y : Int)
  | button (pointer serial code : Nat) (pressed : Bool)
  | frame (pointer : Nat)
  | keymap (keyboard : Nat)
  | repeatInfo (keyboard : Nat)
  | kbdEnter (keyboard serial surface : Nat)
  | kbdLeave (keyboard serial surface : Nat)
  | key (keyboard serial code : Nat) (pressed : Bool)
  | modifiers (keyboard serial : Nat) (keys : List (Nat × Bool))
  | mode (output : Nat) (w h : Int)
  deriving DecidableEq, Repr

def wlPointerFrameSinceVersion : Nat := 5
def wlKeyboardRepeatInfoSinceVersion : Nat := 4

/--
The part of `struct wl_frontend` that is not about surfaces.  `client` names the
client of each surface record.
-/
structure Seat where
  sw : Int
  sh : Int
  client : Nat → Nat
  pointers : List Device
  keyboards : List Device
  hasXkb : Bool
  hasKeymap : Bool
  keys : List (Nat × Bool)
  pointerFocus : Nat
  kbdFocus : Nat
  lastPx : Int
  lastPy : Int
  serial : Nat
  sent : List (Nat × SeatMessage)

namespace Seat

/-- `hasXkb` and `hasKeymap` are what `build_keymap` achieved. -/
def start (sw sh : Int) (hasXkb hasKeymap : Bool) : Seat where
  sw := sw
  sh := sh
  client := fun _ => 0
  pointers := []
  keyboards := []
  hasXkb := hasXkb
  hasKeymap := hasKeymap
  keys := []
  pointerFocus := 0
  kbdFocus := 0
  lastPx := 0
  lastPy := 0
  serial := 0
  sent := []

def nextSerial (seat : Seat) : Seat := { seat with serial := uint32 (seat.serial + 1) }

def send (seat : Seat) (client : Nat) (m : SeatMessage) : Seat :=
  { seat with sent := seat.sent ++ [(client, m)] }

/-- `wl_resource_for_each` over the devices of one client. -/
def tell (seat : Seat) (devices : List Device) (client : Nat) (m : Device → SeatMessage) : Seat :=
  { seat with
    sent := seat.sent ++ (devices.filter fun d => d.client = client).map fun d => (client, m d) }

end Seat

/-- The newest surface that shows the window. -/
def surfaceByWindow (fe : Frontend) (id : Nat) : Option (Nat × FeSurface) :=
  if id = 0 then none
  else
    (List.range fe.nextSurface).reverse.findSome? fun a =>
      (fe.surfaces a).bind fun s => if s.serverId = id then some (a, s) else none

theorem surfaceByWindow_eq_some {fe : Frontend} {id a : Nat} {s : FeSurface}
    (h : surfaceByWindow fe id = some (a, s)) :
    id ≠ 0 ∧ fe.surfaces a = some s ∧ s.serverId = id := by
  unfold surfaceByWindow at h
  split at h
  · cases h
  · rename_i hid
    obtain ⟨a', -, ha'⟩ := List.exists_of_findSome?_eq_some h
    obtain ⟨s', hs', heq⟩ := Option.bind_eq_some_iff.mp ha'
    split at heq
    · rename_i hshows
      cases heq
      exact ⟨hid, hs', hshows⟩
    · cases heq

theorem surfaceByWindow_of_serverId {fe : Frontend} {a : Nat} {s : FeSurface}
    (hs : fe.surfaces a = some s) (hid : s.serverId ≠ 0) (hbelow : a < fe.nextSurface)
    (hone : ∀ {a' s'}, fe.surfaces a' = some s' → s'.serverId = s.serverId → a' = a) :
    surfaceByWindow fe s.serverId = some (a, s) := by
  cases hfind : surfaceByWindow fe s.serverId with
  | some p =>
      obtain ⟨a', s'⟩ := p
      obtain ⟨-, hs', hid'⟩ := surfaceByWindow_eq_some hfind
      obtain rfl := hone hs' hid'
      cases hs.symm.trans hs'
      rfl
  | none =>
      unfold surfaceByWindow at hfind
      rw [if_neg hid, List.findSome?_eq_none_iff] at hfind
      have hnone := hfind a (List.mem_reverse.mpr (List.mem_range.mpr hbelow))
      rw [hs] at hnone
      simp at hnone

/-! ## Devices and outputs -/

def seatGetPointer (seat : Seat) (client : Nat) (resource : Option Nat) (version : Nat) : Seat :=
  match resource with
  | none => seat
  | some r => { seat with pointers := ⟨r, client, version⟩ :: seat.pointers }

def seatGetKeyboard (seat : Seat) (client : Nat) (resource : Option Nat) (version : Nat) : Seat :=
  match resource with
  | none => seat
  | some r =>
      let seat := { seat with keyboards := ⟨r, client, version⟩ :: seat.keyboards }
      let seat := if seat.hasKeymap then seat.send client (.keymap r) else seat
      if wlKeyboardRepeatInfoSinceVersion ≤ version then seat.send client (.repeatInfo r) else seat

def seatResourceUnlink (seat : Seat) (r : Nat) : Seat :=
  { seat with
    pointers := seat.pointers.filter fun d => d.resource ≠ r
    keyboards := seat.keyboards.filter fun d => d.resource ≠ r }

def outputBind (seat : Seat) (client : Nat) (resource : Option Nat) : Seat :=
  match resource with
  | none => seat
  | some r => seat.send client (.mode r seat.sw seat.sh)

/-- What the frontend's clients do, each with the client that does it. -/
inductive ClientEvent where
  | surface (client : Nat) (e : FeEvent)
  | getPointer (client : Nat) (resource : Option Nat) (version : Nat)
  | getKeyboard (client : Nat) (resource : Option Nat) (version : Nat)
  | unlink (r : Nat)
  | bindOutput (client : Nat) (resource : Option Nat)

/-- A record that is made for a new surface belongs to the client that asked for it. -/
def Seat.claim (seat : Seat) (fe : Frontend) (client : Nat) : FeEvent → Seat
  | .createSurface .. => { seat with client := Function.update seat.client fe.nextSurface client }
  | _ => seat

def Seat.next (seat : Seat) (fe : Frontend) : ClientEvent → Seat
  | .surface client e => seat.claim fe client e
  | .getPointer client resource version => seatGetPointer seat client resource version
  | .getKeyboard client resource version => seatGetKeyboard seat client resource version
  | .unlink r => seatResourceUnlink seat r
  | .bindOutput client resource => outputBind seat client resource

/-! ## The pointer -/

def pointerFrameAll (seat : Seat) (client : Nat) : Seat :=
  seat.tell (seat.pointers.filter fun d => wlPointerFrameSinceVersion ≤ d.version) client
    fun d => .frame d.resource

structure Hover where
  hit : Window
  record : Nat
  surface : FeSurface
  lx : Int
  ly : Int

/-- The Wayland window under the pointer, if the pointer is over its content. -/
def hover (fe : Frontend) (gx gy : Int) : Option Hover :=
  match windowAt fe.stack gx gy with
  | none => none
  | some hit =>
      match surfaceByWindow fe hit.id with
      | none => none
      | some (a, s) =>
          let lx := gx - hit.x
          let ly := gy - (hit.y + decorTitlebarH)
          if 0 ≤ ly ∧ ly < s.ch ∧ 0 ≤ lx ∧ lx < s.cw then some ⟨hit, a, s, lx, ly⟩ else none

/-- The window that the pointer is in, or 0. -/
def hoverId (target : Option Hover) : Nat :=
  match target with
  | none => 0
  | some t => t.hit.id

theorem hover_eq_some {fe : Frontend} {cx cy : Int} {t : Hover} (h : hover fe cx cy = some t) :
    windowAt fe.stack cx cy = some t.hit ∧
      surfaceByWindow fe t.hit.id = some (t.record, t.surface) ∧ t.lx = cx - t.hit.x ∧
      t.ly = cy - (t.hit.y + decorTitlebarH) ∧ 0 ≤ t.ly := by
  unfold hover at h
  split at h
  · cases h
  · rename_i w hw
    split at h
    · cases h
    · rename_i a s hfind
      dsimp only at h
      split at h
      · rename_i hinside
        cases h
        exact ⟨hw, hfind, rfl, rfl, hinside.1⟩
      · cases h

def pointerLeave (fe : Frontend) (seat : Seat) : Seat :=
  let seat := seat.nextSerial
  match surfaceByWindow fe seat.pointerFocus with
  | none => seat
  | some (a, old) =>
      seat.tell seat.pointers (seat.client a) fun d => .leave d.resource seat.serial old.surface

def pointerEnter (seat : Seat) (target : Option Hover) : Seat :=
  match target with
  | none => seat
  | some t =>
      let seat := seat.nextSerial
      let client := seat.client t.record
      (seat.pointers.filter fun d => d.client = client).foldl (fun acc d =>
        pointerFrameAll
          (acc.send client (.enter d.resource seat.serial t.surface.surface t.lx t.ly)) client) seat

def wlFrontendPointerMotion (fe : Frontend) (seat : Seat) (gx gy : Int) : Seat :=
  let target := hover fe gx gy
  let seat :=
    if hoverId target ≠ seat.pointerFocus then
      { pointerEnter (pointerLeave fe seat) target with pointerFocus := hoverId target }
    else seat
  match target with
  | none => seat
  | some t =>
      let client := seat.client t.record
      let seat := { seat with lastPx := t.lx, lastPy := t.ly }
      pointerFrameAll
        (seat.tell seat.pointers client fun d => .motion d.resource t.lx t.ly) client

theorem pointerFocus_wlFrontendPointerMotion (fe : Frontend) (seat : Seat) (cx cy : Int) :
    (wlFrontendPointerMotion fe seat cx cy).pointerFocus = hoverId (hover fe cx cy) := by
  unfold wlFrontendPointerMotion
  generalize hover fe cx cy = target
  dsimp only
  by_cases hmoved : hoverId target = seat.pointerFocus
  · rw [if_neg (not_not.mpr hmoved)]
    cases target <;> exact hmoved.symm
  · rw [if_pos hmoved]
    cases target <;> rfl

def wlFrontendPointerButton (fe : Frontend) (seat : Seat) (button : Nat) (pressed : Bool) : Seat :=
  match surfaceByWindow fe seat.pointerFocus with
  | none => seat
  | some (a, _) =>
      let client := seat.client a
      let seat := seat.nextSerial
      pointerFrameAll
        (seat.tell seat.pointers client fun d => .button d.resource seat.serial button pressed)
        client

/-! ## The keyboard -/

def sendModifiers (seat : Seat) (client : Nat) : Seat :=
  if seat.hasXkb then
    let seat := seat.nextSerial
    seat.tell seat.keyboards client fun d => .modifiers d.resource seat.serial seat.keys
  else seat

def wlFrontendKeyboardKey (fe : Frontend) (seat : Seat) (keycode : Nat) (pressed : Bool) : Seat :=
  let seat := if seat.hasXkb then { seat with keys := seat.keys ++ [(keycode, pressed)] } else seat
  match surfaceByWindow fe seat.kbdFocus with
  | none => seat
  | some (a, _) =>
      let client := seat.client a
      let seat := seat.nextSerial
      sendModifiers
        (seat.tell seat.keyboards client fun d => .key d.resource seat.serial keycode pressed)
        client

def keyboardLeave (fe : Frontend) (seat : Seat) : Seat :=
  match surfaceByWindow fe seat.kbdFocus with
  | none => seat
  | some (a, old) =>
      let seat := seat.nextSerial
      seat.tell seat.keyboards (seat.client a) fun d => .kbdLeave d.resource seat.serial old.surface

def keyboardEnter (seat : Seat) (a : Nat) (s : FeSurface) : Seat :=
  let client := seat.client a
  let seat := seat.nextSerial
  sendModifiers
    (seat.tell seat.keyboards client fun d => .kbdEnter d.resource seat.serial s.surface) client

def wlFrontendKeyboardFocus (fe : Frontend) (seat : Seat) (windowId : Nat) : Seat :=
  match surfaceByWindow fe windowId with
  | none =>
      if seat.kbdFocus = 0 then seat else { keyboardLeave fe seat with kbdFocus := 0 }
  | some (a, s) =>
      if windowId = seat.kbdFocus then seat
      else { keyboardEnter (keyboardLeave fe seat) a s with kbdFocus := windowId }

end CrystallineLattice.Wayland
