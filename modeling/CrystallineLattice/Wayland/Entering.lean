import CrystallineLattice.Wayland.Desktop
import CrystallineLattice.Wayland.Telling

/-!
# Entering and leaving

The seat keeps one window for each kind of input, the protocol one surface for each
device.  The two agree as long as no device is made for a client whose surface has
the focus, and no surface that has the focus loses its window but with itself.
-/

namespace CrystallineLattice.Wayland

open CrystallineLattice.Foundation
open CrystallineLattice.Stack
open CrystallineLattice.Native (World)

/-! ## What the devices have entered -/

/--
The devices of one kind have entered the surface of their client that has the focus,
and no other that still exists.
-/
structure Attends (fe : Frontend) (client : Nat → Nat) (inside : Nat → Option Nat) (focus : Nat)
    (devices : List Device) : Prop where
  told : ∀ {a s}, fe.surfaces a = some s → s.serverId ≠ 0 → s.serverId = focus →
    ∀ d ∈ devices, d.client = client a → inside d.resource = some a
  entered : ∀ {a s}, fe.surfaces a = some s → ∀ d ∈ devices, inside d.resource = some a →
    s.serverId ≠ 0 ∧ s.serverId = focus ∧ d.client = client a
  past : ∀ d ∈ devices, ∀ a, inside d.resource = some a → a < fe.nextSurface

/-- Records are numbered and named, and no two have one window. -/
structure Frontend.Sorted (fe : Frontend) : Prop where
  numbered : fe.Numbered
  named : fe.Named
  apart : ∀ {a a' s s'}, fe.surfaces a = some s → fe.surfaces a' = some s' → s.serverId ≠ 0 →
    s.serverId = s'.serverId → a = a'

theorem Frontend.Sorted.find {fe : Frontend} (h : fe.Sorted) {a : Nat} {s : FeSurface}
    (hs : fe.surfaces a = some s) (hid : s.serverId ≠ 0) :
    surfaceByWindow fe s.serverId = some (a, s) := by
  have hlive : (fe.surfaces a).isSome := by
    rw [hs, Option.isSome_some]
  exact surfaceByWindow_of_serverId hs hid (h.numbered a hlive) fun hs' hid' =>
    (h.apart hs hs' hid hid'.symm).symm

namespace Attends

variable {fe : Frontend} {client : Nat → Nat} {inside : Nat → Option Nat} {focus : Nat}
  {devices : List Device}

theorem congr (h : Attends fe client inside focus devices) {inside' : Nat → Option Nat}
    (hinside : ∀ d ∈ devices, inside' d.resource = inside d.resource) :
    Attends fe client inside' focus devices where
  told hs hid hfocus d hd hc := (hinside d hd).trans (h.told hs hid hfocus d hd hc)
  entered hs d hd hin := h.entered hs d hd ((hinside d hd).symm.trans hin)
  past d hd a hin := h.past d hd a ((hinside d hd).symm.trans hin)

theorem untold (h : Attends fe client inside focus devices) {said : Nat → List DeviceEvent}
    (hsilent : ∀ d ∈ devices, said d.resource = []) :
    Attends fe client (fun r => (deviceProtocol fe).exec (inside r) (said r)) focus devices :=
  h.congr fun d hd => by
    rw [hsilent d hd]
    rfl

theorem sublist (h : Attends fe client inside focus devices) {devices' : List Device}
    (hsub : ∀ d ∈ devices', d ∈ devices) : Attends fe client inside focus devices' where
  told hs hid hfocus d hd hc := h.told hs hid hfocus d (hsub d hd) hc
  entered hs d hd hin := h.entered hs d (hsub d hd) hin
  past d hd := h.past d (hsub d hd)

theorem cons (h : Attends fe client inside focus devices) {d : Device}
    (hin : inside d.resource = none)
    (hother : ∀ a s, surfaceByWindow fe focus = some (a, s) → client a ≠ d.client)
    (hsorted : fe.Sorted) : Attends fe client inside focus (d :: devices) where
  told {a s} hs hid hfocus d' hd' hc := by
    rcases List.mem_cons.mp hd' with rfl | hd'
    · exact (hother a s (hfocus ▸ hsorted.find hs hid) hc.symm).elim
    · exact h.told hs hid hfocus d' hd' hc
  entered hs d' hd' hin' := by
    rcases List.mem_cons.mp hd' with rfl | hd'
    · cases hin.symm.trans hin'
    · exact h.entered hs d' hd' hin'
  past d' hd' a hin' := by
    rcases List.mem_cons.mp hd' with rfl | hd'
    · cases hin.symm.trans hin'
    · exact h.past d' hd' a hin'

theorem evolve (h : Attends fe client inside focus devices) (hsorted : fe.Sorted)
    {fe' : Frontend} {lost : Option Nat} (hevolves : fe.Evolves lost fe')
    {client' : Nat → Nat} (hclient : ∀ a < fe.nextSurface, client' a = client a)
    (hfocus : focus < fe.stack.nextId)
    (hlost : ∀ a ∈ lost, ∀ s, surfaceByWindow fe focus = some (a, s) →
      ∀ d ∈ devices, d.client ≠ client a) :
    Attends fe' client' inside focus devices := by
  have hold {a : Nat} {s : FeSurface} (hs : fe.surfaces a = some s) : client' a = client a :=
    hclient a (hsorted.numbered a (by rw [hs, Option.isSome_some]))
  refine ⟨fun {a s'} hs' hid hshows d hd hc => ?_, fun {a s'} hs' d hd hin => ?_,
    fun d hd a hin => (h.past d hd a hin).trans_le hevolves.nextSurface⟩
  · rcases hevolves.record hs' with ⟨s, hs, -, hsame | ⟨-, hnew⟩ | ⟨hzero, -⟩⟩ | ⟨-, hzero, -⟩
    · exact h.told hs (hsame ▸ hid) (hsame ▸ hshows) d hd (hc.trans (hold hs))
    · rw [← hshows, hnew] at hfocus
      exact (Nat.lt_irrefl _ hfocus).elim
    · exact (hid hzero).elim
    · exact (hid hzero).elim
  · rcases hevolves.record hs' with ⟨s, hs, -, hcases⟩ | ⟨hnew, -⟩
    · obtain ⟨hid, hshows, hc⟩ := h.entered hs d hd hin
      rcases hcases with hsame | ⟨hzero, -⟩ | ⟨-, hgone⟩
      · rw [hsame]
        exact ⟨hid, hshows, hc.trans (hold hs).symm⟩
      · exact (hid hzero).elim
      · exact (hlost a hgone s (hshows ▸ hsorted.find hs hid) d hd hc).elim
    · exact (Nat.lt_irrefl _ (hnew ▸ h.past d hd a hin)).elim

/-! ### Input and changes of the focus -/

section Focus

variable (h : Attends fe client inside focus devices) (hsorted : fe.Sorted)
  (hnodup : (devices.map Device.resource).Nodup)

include h hnodup

theorem input (r : Nat) :
    (deviceProtocol fe).Legal (inside r)
        (toldFocus fe client devices focus (fun _ => .input) r) ∧
      (deviceProtocol fe).exec (inside r)
        (toldFocus fe client devices focus (fun _ => .input) r) = inside r := by
  by_cases hr : r ∈ devices.map Device.resource
  · obtain ⟨d, hd, rfl⟩ := List.mem_map.mp hr
    rcases toldFocus_cases (fun _ => .input) hnodup hd with
      ⟨a, s, hfind, hc, htold⟩ | ⟨-, htold⟩
    · obtain ⟨hid, hs, hshows⟩ := surfaceByWindow_eq_some hfind
      have hin := h.told hs (hshows ▸ hid) hshows d hd hc
      rw [htold, hin]
      exact ⟨⟨Option.some_ne_none a, trivial⟩, rfl⟩
    · rw [htold]
      exact ⟨trivial, rfl⟩
  · rw [toldFocus_of_notMem hr]
    exact ⟨trivial, rfl⟩

theorem leave_legal (r : Nat) :
    (deviceProtocol fe).Legal (inside r)
      (toldFocus fe client devices focus (fun _ => .leave) r) := by
  by_cases hr : r ∈ devices.map Device.resource
  · obtain ⟨d, hd, rfl⟩ := List.mem_map.mp hr
    rcases toldFocus_cases (fun _ => .leave) hnodup hd with
      ⟨a, s, hfind, hc, htold⟩ | ⟨-, htold⟩
    · obtain ⟨hid, hs, hshows⟩ := surfaceByWindow_eq_some hfind
      have hin := h.told hs (hshows ▸ hid) hshows d hd hc
      rw [htold, hin]
      exact ⟨Option.some_ne_none a, trivial⟩
    · rw [htold]
      trivial
  · rw [toldFocus_of_notMem hr]
    trivial

include hsorted

theorem leave : Attends fe client (fun r => (deviceProtocol fe).exec (inside r)
    (toldFocus fe client devices focus (fun _ => .leave) r)) 0 devices where
  told _ hid hzero := (hid hzero).elim
  entered {a s} hs d hd hin := by
    rcases toldFocus_cases (fun _ => .leave) hnodup hd with
      ⟨a', s', -, -, htold⟩ | ⟨hother, htold⟩
    · rw [htold] at hin
      cases hin
    · rw [htold] at hin
      obtain ⟨hid, hfocus, hc⟩ := h.entered hs d hd hin
      exact (hother a s (hfocus ▸ hsorted.find hs hid) hc).elim
  past d hd a hin := by
    rcases toldFocus_cases (fun _ => .leave) hnodup hd with
      ⟨a', s', -, -, htold⟩ | ⟨-, htold⟩
    · rw [htold] at hin
      cases hin
    · rw [htold] at hin
      exact h.past d hd a hin

end Focus

section Enter

variable (h : Attends fe client inside 0 devices) (hsorted : fe.Sorted)
  (hnodup : (devices.map Device.resource).Nodup) (focus' : Nat)

include h hnodup

theorem enter_legal (r : Nat) :
    (deviceProtocol fe).Legal (inside r)
      (toldFocus fe client devices focus' (fun s => .enter s.surface) r) := by
  by_cases hr : r ∈ devices.map Device.resource
  · obtain ⟨d, hd, rfl⟩ := List.mem_map.mp hr
    rcases toldFocus_cases (fun s => .enter s.surface) hnodup hd with
      ⟨a, s, -, -, htold⟩ | ⟨-, htold⟩
    · rw [htold]
      refine ⟨fun a' hin => ?_, trivial⟩
      cases hs' : fe.surfaces a' with
      | none => rfl
      | some s' =>
          obtain ⟨hid, hzero, -⟩ := h.entered hs' d hd hin
          exact (hid hzero).elim
    · rw [htold]
      trivial
  · rw [toldFocus_of_notMem hr]
    trivial

include hsorted

theorem enter : Attends fe client (fun r => (deviceProtocol fe).exec (inside r)
    (toldFocus fe client devices focus' (fun s => .enter s.surface) r)) focus' devices := by
  have hname {a : Nat} {s : FeSurface} (hs : fe.surfaces a = some s) :
      fe.recordOf s.surface = some a := by
    rw [Frontend.recordOf, hsorted.named a s hs]
    rfl
  refine ⟨fun {a s} hs hid hfocus d hd hc => ?_, fun {a s} hs d hd hin => ?_,
    fun d hd a hin => ?_⟩
  · have htold := toldFocus_of_find (fun s => .enter s.surface) hnodup hd
      (hsorted.find hs hid) hc
    rw [← hfocus, htold]
    exact hname hs
  · rcases toldFocus_cases (fun s => .enter s.surface) hnodup hd with
      ⟨a', s', hfind, hc, htold⟩ | ⟨-, htold⟩
    · rw [htold] at hin
      obtain ⟨hfocus, hs', hshows⟩ := surfaceByWindow_eq_some hfind
      cases (hname hs').symm.trans hin
      cases hs.symm.trans hs'
      exact ⟨hshows ▸ hfocus, hshows, hc⟩
    · rw [htold] at hin
      obtain ⟨hid, hzero, -⟩ := h.entered hs d hd hin
      exact (hid hzero).elim
  · rcases toldFocus_cases (fun s => .enter s.surface) hnodup hd with
      ⟨a', s', hfind, hc, htold⟩ | ⟨-, htold⟩
    · rw [htold] at hin
      obtain ⟨-, hs', -⟩ := surfaceByWindow_eq_some hfind
      cases (hname hs').symm.trans hin
      exact hsorted.numbered a (by rw [hs', Option.isSome_some])
    · rw [htold] at hin
      exact h.past d hd a hin

end Enter

theorem refocus (h : Attends fe client inside focus devices) (hsorted : fe.Sorted)
    (hnodup : (devices.map Device.resource).Nodup) (focus' : Nat) :
    (∀ r, (deviceProtocol fe).Legal (inside r)
        (toldRefocus fe client devices focus focus' r)) ∧
      Attends fe client (fun r => (deviceProtocol fe).exec (inside r)
        (toldRefocus fe client devices focus focus' r)) focus' devices := by
  by_cases hsame : focus' = focus
  · have hnothing (r : Nat) : toldRefocus fe client devices focus focus' r = [] := if_pos hsame
    refine ⟨fun r => ?_, ?_⟩
    · rw [hnothing]
      trivial
    · rw [hsame] at hnothing ⊢
      exact h.congr fun d _ => by rw [hnothing]; rfl
  · have hboth (r : Nat) : toldRefocus fe client devices focus focus' r = _ := if_neg hsame
    have hleft := h.leave hsorted hnodup
    refine ⟨fun r => ?_, (hleft.enter hsorted hnodup focus').congr fun d _ => ?_⟩
    · rw [hboth, System.legal_append]
      exact ⟨h.leave_legal hnodup r, hleft.enter_legal hnodup focus' r⟩
    · rw [hboth, System.exec_append]

end Attends

/-! ## Runs -/

/-- What the frontend is told of: its clients, the input, and what others do to the stack. -/
inductive SeatEvent where
  | outside (e : Native.Event)
  | client (e : ClientEvent)
  | motion (gx gy : Int)
  | button (code : Nat) (pressed : Bool)
  | key (code : Nat) (pressed : Bool)
  | focus (windowId : Nat)

def SeatEvent.makes : SeatEvent → Option Nat
  | .client (.getPointer _ resource _) => resource
  | .client (.getKeyboard _ resource _) => resource
  | _ => none

/-- The desktop and its seat.  `inside` keeps the state of each device's protocol. -/
structure SeatRun extends Desktop where
  seat : Seat
  inside : Nat → Option Nat

namespace SeatRun

def start (sw sh : Int) (hasXkb hasKeymap : Bool) : SeatRun where
  toDesktop := .start sw sh
  seat := .start sw sh hasXkb hasKeymap
  inside := fun _ => none

def desktopAfter (X : SeatRun) : SeatEvent → Desktop
  | .outside e => X.toDesktop.next (.outside e)
  | .client (.surface _ e) => X.toDesktop.next (.wayland e)
  | _ => X.toDesktop

def seatAfter (X : SeatRun) : SeatEvent → Seat
  | .outside _ => X.seat
  | .client e => X.seat.next X.fe e
  | .motion gx gy => wlFrontendPointerMotion X.fe X.seat gx gy
  | .button code pressed => wlFrontendPointerButton X.fe X.seat code pressed
  | .key code pressed => wlFrontendKeyboardKey X.fe X.seat code pressed
  | .focus windowId => wlFrontendKeyboardFocus X.fe X.seat windowId

def heard (X : SeatRun) (e : SeatEvent) (r : Nat) : List DeviceEvent :=
  heardBy r ((X.seatAfter e).sent.drop X.seat.sent.length)

def insideAfter (X : SeatRun) (e : SeatEvent) (r : Nat) : Option Nat :=
  if e.makes = some r then none else (deviceProtocol X.fe).exec (X.inside r) (X.heard e r)

def next (X : SeatRun) (e : SeatEvent) : SeatRun where
  toDesktop := X.desktopAfter e
  seat := X.seatAfter e
  inside := X.insideAfter e

def devices (X : SeatRun) : List Device := X.seat.pointers ++ X.seat.keyboards

def enabled (X : SeatRun) : SeatEvent → Prop
  | .outside e => X.world.enabled e ∧ e.Gentle
  | .client (.surface _ e) => X.fe.enabled e ∧ ∀ stack, e ≠ .outside stack
  | .client (.getPointer _ resource _) => ∀ r ∈ resource, r ∉ X.devices.map Device.resource
  | .client (.getKeyboard _ resource _) => ∀ r ∈ resource, r ∉ X.devices.map Device.resource
  | _ => True

def system : System SeatRun SeatEvent := ⟨enabled, next⟩

def Within (X : SeatRun) : Prop := X.world.Within

instance (X : SeatRun) : Decidable X.Within := inferInstanceAs (Decidable X.world.Within)

/-- Every device hears what its protocol allows. -/
def Proper (X : SeatRun) (e : SeatEvent) : Prop :=
  ∀ r, (deviceProtocol X.fe).Legal (X.inside r) (X.heard e r)

def Unfocused (X : SeatRun) (focus client : Nat) : Prop :=
  ∀ p ∈ surfaceByWindow X.fe focus, X.seat.client p.1 ≠ client

/-- The record has no focus that devices of its client were told of. -/
def Unattended (X : SeatRun) (focus : Nat) (devices : List Device) (a : Nat) : Prop :=
  ∀ p ∈ surfaceByWindow X.fe focus, p.1 = a → ∀ d ∈ devices, d.client ≠ X.seat.client a

/--
No device is made for a client while the focus of its kind is on a surface of the client,
none is unmapped that devices have entered while its `wl_surface` lives on, and no handler
works on a freed record.
-/
def Announces (X : SeatRun) : SeatEvent → Prop
  | .client (.getPointer client (some _) _) => X.Unfocused X.seat.pointerFocus client
  | .client (.getKeyboard client (some _) _) => X.Unfocused X.seat.kbdFocus client
  | .client (.surface _ e) => X.fe.UsesLive e ∧ ∀ a ∈ X.fe.unmapped e,
      X.Unattended X.seat.pointerFocus X.seat.pointers a ∧
        X.Unattended X.seat.kbdFocus X.seat.keyboards a
  | _ => True

structure Inv (X : SeatRun) : Prop where
  coherent : Coherent none X.world X.fe
  numbered : X.fe.Numbered
  named : X.fe.Named
  distinct : (X.devices.map Device.resource).Nodup
  pointers : Attends X.fe X.seat.client X.inside X.seat.pointerFocus X.seat.pointers
  keyboards : Attends X.fe X.seat.client X.inside X.seat.kbdFocus X.seat.keyboards
  pointerFocus : X.seat.pointerFocus < X.fe.stack.nextId
  kbdFocus : X.seat.kbdFocus < X.fe.stack.nextId

variable {X : SeatRun}

theorem start_inv (sw sh : Int) (hasXkb hasKeymap : Bool) : (start sw sh hasXkb hasKeymap).Inv where
  coherent := (Desktop.start_inv sw sh).coherent
  numbered := fun _ h => nomatch h
  named := fun _ _ h => nomatch h
  distinct := List.nodup_nil
  pointers := ⟨(fun h => nomatch h), (fun h => nomatch h), (fun _ h => nomatch h)⟩
  keyboards := ⟨(fun h => nomatch h), (fun h => nomatch h), (fun _ h => nomatch h)⟩
  pointerFocus := Nat.zero_lt_one
  kbdFocus := Nat.zero_lt_one

theorem Within.mono {e : SeatEvent} (h : (X.next e).Within) : X.Within := by
  cases e with
  | outside e => exact World.Within.mono h
  | client e =>
      cases e with
      | surface c e => exact within_of_follow h
      | _ => exact h
  | _ => exact h

theorem next_eq_of_told {e : SeatEvent} {said : Nat → List DeviceEvent}
    (hdesktop : X.desktopAfter e = X.toDesktop) (hmakes : e.makes = none)
    (hheard : X.heard e = said) :
    X.next e = ⟨X.toDesktop, X.seatAfter e,
      fun r => (deviceProtocol X.fe).exec (X.inside r) (said r)⟩ := by
  have hinside : X.insideAfter e =
      fun r => (deviceProtocol X.fe).exec (X.inside r) (said r) := by
    funext r
    rw [insideAfter, hmakes, hheard]
    rfl
  rw [next, hdesktop, hinside]

namespace Inv

theorem sorted (hX : X.Inv) : X.fe.Sorted := ⟨hX.numbered, hX.named, hX.coherent.shown.apart⟩

theorem counted (hX : X.Inv) :
    X.fe.stack.nextId = 1 + X.world.t.history.created.length + X.world.foreign.length := by
  rw [X.shared]
  exact hX.coherent.world.ledger.counting.counted

theorem pointers_nodup (hX : X.Inv) : (X.seat.pointers.map Device.resource).Nodup := by
  have h := hX.distinct
  rw [devices, List.map_append] at h
  exact (List.nodup_append.mp h).1

theorem keyboards_nodup (hX : X.Inv) : (X.seat.keyboards.map Device.resource).Nodup := by
  have h := hX.distinct
  rw [devices, List.map_append] at h
  exact (List.nodup_append.mp h).2.1

theorem disjoint (hX : X.Inv) {d d' : Device} (hd : d ∈ X.seat.pointers)
    (hd' : d' ∈ X.seat.keyboards) : d.resource ≠ d'.resource := by
  have h := hX.distinct
  rw [devices, List.map_append] at h
  exact (List.nodup_append.mp h).2.2 _ (List.mem_map_of_mem hd) _ (List.mem_map_of_mem hd')

theorem notMem_pointers (hX : X.Inv) {d : Device} (hd : d ∈ X.seat.keyboards) :
    d.resource ∉ X.seat.pointers.map Device.resource := fun hmem => by
  obtain ⟨d', hd', heq⟩ := List.mem_map.mp hmem
  exact hX.disjoint hd' hd heq

theorem notMem_keyboards (hX : X.Inv) {d : Device} (hd : d ∈ X.seat.pointers) :
    d.resource ∉ X.seat.keyboards.map Device.resource := fun hmem => by
  obtain ⟨d', hd', heq⟩ := List.mem_map.mp hmem
  exact hX.disjoint hd hd' heq.symm

theorem lt_of_find (hX : X.Inv) {id a : Nat} {s : FeSurface}
    (h : surfaceByWindow X.fe id = some (a, s)) : id < X.fe.stack.nextId := by
  obtain ⟨hid, hs, hshows⟩ := surfaceByWindow_eq_some h
  have hours := (hX.coherent.shown.mapped hs (hshows ▸ hid)).ours
  rw [← hshows, X.shared]
  exact hX.coherent.world.ledger.counting.foreign _ hours

theorem hoverId_lt (hX : X.Inv) (gx gy : Int) :
    hoverId (hover X.fe gx gy) < X.fe.stack.nextId := by
  cases htarget : hover X.fe gx gy with
  | none =>
      rw [hX.counted]
      exact Nat.lt_of_lt_of_le Nat.zero_lt_one (by omega)
  | some t => exact hX.lt_of_find (hover_eq_some htarget).2.1

theorem keyboardTarget_lt (hX : X.Inv) (windowId : Nat) :
    keyboardTarget X.fe windowId < X.fe.stack.nextId := by
  unfold keyboardTarget
  cases hfind : surfaceByWindow X.fe windowId with
  | none =>
      rw [hX.counted]
      exact Nat.lt_of_lt_of_le Nat.zero_lt_one (by omega)
  | some p => exact hX.lt_of_find hfind

/-! ### Input -/

theorem toldStep (hX : X.Inv) {e : SeatEvent} (hdesktop : X.desktopAfter e = X.toDesktop)
    (hmakes : e.makes = none) {p k : Nat} {said : Nat → List DeviceEvent}
    (htold : Says { X.seat with pointerFocus := p, kbdFocus := k } (X.seatAfter e) said)
    (hp : p < X.fe.stack.nextId) (hk : k < X.fe.stack.nextId)
    (hlegal : ∀ r, (deviceProtocol X.fe).Legal (X.inside r) (said r))
    (hpointers : Attends X.fe X.seat.client
      (fun r => (deviceProtocol X.fe).exec (X.inside r) (said r)) p X.seat.pointers)
    (hkeyboards : Attends X.fe X.seat.client
      (fun r => (deviceProtocol X.fe).exec (X.inside r) (said r)) k X.seat.keyboards) :
    X.Proper e ∧ (X.next e).Inv := by
  have hheard : X.heard e = said := funext htold.heard
  refine ⟨fun r => ?_, ?_⟩
  · rw [hheard]
    exact hlegal r
  · rw [next_eq_of_told hdesktop hmakes hheard]
    refine ⟨hX.coherent, hX.numbered, hX.named, ?_, ?_, ?_, ?_, ?_⟩
    · show (((X.seatAfter e).pointers ++ (X.seatAfter e).keyboards).map Device.resource).Nodup
      rw [htold.pointers, htold.keyboards]
      exact hX.distinct
    · show Attends X.fe (X.seatAfter e).client _ (X.seatAfter e).pointerFocus
        (X.seatAfter e).pointers
      rw [htold.client, htold.pointers, htold.pointerFocus]
      exact hpointers
    · show Attends X.fe (X.seatAfter e).client _ (X.seatAfter e).kbdFocus (X.seatAfter e).keyboards
      rw [htold.client, htold.keyboards, htold.kbdFocus]
      exact hkeyboards
    · show (X.seatAfter e).pointerFocus < X.fe.stack.nextId
      rw [htold.pointerFocus]
      exact hp
    · show (X.seatAfter e).kbdFocus < X.fe.stack.nextId
      rw [htold.kbdFocus]
      exact hk

theorem motion (hX : X.Inv) (gx gy : Int) :
    X.Proper (.motion gx gy) ∧ (X.next (.motion gx gy)).Inv := by
  obtain ⟨hlegal, hattends⟩ := hX.pointers.refocus hX.sorted hX.pointers_nodup
    (hoverId (hover X.fe gx gy))
  have hinput := hattends.input hX.pointers_nodup
  refine hX.toldStep rfl rfl (Says.wlFrontendPointerMotion X.fe X.seat gx gy)
    (hX.hoverId_lt gx gy) hX.kbdFocus (fun r => ?_) (hattends.congr fun d _ => ?_)
    (hX.keyboards.untold fun d hd => ?_)
  · rw [System.legal_append]
    exact ⟨hlegal r, (hinput r).1⟩
  · rw [System.exec_append, (hinput d.resource).2]
  · have hother := hX.notMem_pointers hd
    rw [toldRefocus_of_notMem hother, toldFocus_of_notMem hother]
    rfl

theorem button (hX : X.Inv) (code : Nat) (pressed : Bool) :
    X.Proper (.button code pressed) ∧ (X.next (.button code pressed)).Inv := by
  have hinput := hX.pointers.input hX.pointers_nodup
  exact hX.toldStep rfl rfl (Says.wlFrontendPointerButton X.fe X.seat code pressed)
    hX.pointerFocus hX.kbdFocus (fun r => (hinput r).1)
    (hX.pointers.congr fun d _ => (hinput d.resource).2)
    (hX.keyboards.untold fun d hd => toldFocus_of_notMem (hX.notMem_pointers hd))

theorem key (hX : X.Inv) (code : Nat) (pressed : Bool) :
    X.Proper (.key code pressed) ∧ (X.next (.key code pressed)).Inv := by
  have hinput := hX.keyboards.input hX.keyboards_nodup
  exact hX.toldStep rfl rfl (Says.wlFrontendKeyboardKey X.fe X.seat code pressed)
    hX.pointerFocus hX.kbdFocus (fun r => (hinput r).1)
    (hX.pointers.untold fun d hd => toldFocus_of_notMem (hX.notMem_keyboards hd))
    (hX.keyboards.congr fun d _ => (hinput d.resource).2)

theorem focus (hX : X.Inv) (windowId : Nat) :
    X.Proper (.focus windowId) ∧ (X.next (.focus windowId)).Inv := by
  obtain ⟨hlegal, hattends⟩ := hX.keyboards.refocus hX.sorted hX.keyboards_nodup
    (keyboardTarget X.fe windowId)
  exact hX.toldStep rfl rfl (Says.wlFrontendKeyboardFocus X.fe X.seat windowId)
    hX.pointerFocus (hX.keyboardTarget_lt windowId) hlegal
    (hX.pointers.untold fun d hd => toldRefocus_of_notMem (hX.notMem_keyboards hd)) hattends

/-! ### Devices -/

theorem deviceStep (hX : X.Inv) {e : SeatEvent} (hdesktop : X.desktopAfter e = X.toDesktop)
    {pointers keyboards : List Device}
    (htold : Says { X.seat with pointers := pointers, keyboards := keyboards } (X.seatAfter e)
      fun _ => [])
    (hdistinct : ((pointers ++ keyboards).map Device.resource).Nodup)
    (hpointers : Attends X.fe X.seat.client (fun r => if e.makes = some r then none else X.inside r)
      X.seat.pointerFocus pointers)
    (hkeyboards : Attends X.fe X.seat.client
      (fun r => if e.makes = some r then none else X.inside r) X.seat.kbdFocus keyboards) :
    X.Proper e ∧ (X.next e).Inv := by
  have hheard (r : Nat) : X.heard e r = [] := htold.heard r
  refine ⟨fun r => ?_, ?_⟩
  · rw [hheard]
    trivial
  · have hinside : X.insideAfter e = fun r => if e.makes = some r then none else X.inside r := by
      funext r
      rw [insideAfter, hheard]
      rfl
    rw [next, hdesktop, hinside]
    refine ⟨hX.coherent, hX.numbered, hX.named, ?_, ?_, ?_, ?_, ?_⟩
    · show (((X.seatAfter e).pointers ++ (X.seatAfter e).keyboards).map Device.resource).Nodup
      rw [htold.pointers, htold.keyboards]
      exact hdistinct
    · show Attends X.fe (X.seatAfter e).client _ (X.seatAfter e).pointerFocus
        (X.seatAfter e).pointers
      rw [htold.client, htold.pointers, htold.pointerFocus]
      exact hpointers
    · show Attends X.fe (X.seatAfter e).client _ (X.seatAfter e).kbdFocus (X.seatAfter e).keyboards
      rw [htold.client, htold.keyboards, htold.kbdFocus]
      exact hkeyboards
    · show (X.seatAfter e).pointerFocus < X.fe.stack.nextId
      rw [htold.pointerFocus]
      exact hX.pointerFocus
    · show (X.seatAfter e).kbdFocus < X.fe.stack.nextId
      rw [htold.kbdFocus]
      exact hX.kbdFocus

theorem attends_of_new {focus r : Nat} {devices : List Device}
    (h : Attends X.fe X.seat.client X.inside focus devices)
    (hnew : ∀ d ∈ devices, d.resource ≠ r) :
    Attends X.fe X.seat.client (fun r' => if some r = some r' then none else X.inside r') focus
      devices :=
  h.congr fun d hd => if_neg fun heq => hnew d hd (Option.some.inj heq).symm

theorem getPointer (hX : X.Inv) {c r version : Nat}
    (hnew : r ∉ X.devices.map Device.resource)
    (hother : X.Unfocused X.seat.pointerFocus c) :
    X.Proper (.client (.getPointer c (some r) version)) ∧
      (X.next (.client (.getPointer c (some r) version))).Inv := by
  have hne {d : Device} (hd : d ∈ X.devices) : d.resource ≠ r := fun heq =>
    hnew (List.mem_map.mpr ⟨d, hd, heq⟩)
  refine hX.deviceStep rfl (.refl _) (List.nodup_cons.mpr ⟨hnew, hX.distinct⟩) ?_ ?_
  · refine (attends_of_new hX.pointers fun d hd => hne (List.mem_append_left _ hd)).cons
      (if_pos rfl) (fun a s hfind => hother (a, s) hfind) hX.sorted
  · exact attends_of_new hX.keyboards fun d hd => hne (List.mem_append_right _ hd)

theorem getKeyboard (hX : X.Inv) {c r version : Nat}
    (hnew : r ∉ X.devices.map Device.resource)
    (hother : X.Unfocused X.seat.kbdFocus c) :
    X.Proper (.client (.getKeyboard c (some r) version)) ∧
      (X.next (.client (.getKeyboard c (some r) version))).Inv := by
  have hne {d : Device} (hd : d ∈ X.devices) : d.resource ≠ r := fun heq =>
    hnew (List.mem_map.mpr ⟨d, hd, heq⟩)
  refine hX.deviceStep rfl (Says.seatGetKeyboard X.seat c r version) ?_ ?_ ?_
  · rw [List.map_append, List.map_cons, List.nodup_middle, ← List.map_append]
    exact List.nodup_cons.mpr ⟨hnew, hX.distinct⟩
  · exact attends_of_new hX.pointers fun d hd => hne (List.mem_append_left _ hd)
  · refine (attends_of_new hX.keyboards fun d hd => hne (List.mem_append_right _ hd)).cons
      (if_pos rfl) (fun a s hfind => hother (a, s) hfind) hX.sorted

theorem unlink (hX : X.Inv) (r : Nat) :
    X.Proper (.client (.unlink r)) ∧ (X.next (.client (.unlink r))).Inv := by
  refine hX.deviceStep rfl (.refl _) ?_ ?_ ?_
  · rw [← List.filter_append]
    exact hX.distinct.sublist (List.filter_sublist.map _)
  · exact hX.pointers.sublist fun d hd => (List.mem_filter.mp hd).1
  · exact hX.keyboards.sublist fun d hd => (List.mem_filter.mp hd).1

theorem idle (hX : X.Inv) {e : SeatEvent} (hdesktop : X.desktopAfter e = X.toDesktop)
    (hmakes : e.makes = none) (htold : Says X.seat (X.seatAfter e) fun _ => []) :
    X.Proper e ∧ (X.next e).Inv :=
  hX.toldStep hdesktop hmakes htold hX.pointerFocus hX.kbdFocus (fun _ => trivial) hX.pointers
    hX.keyboards

/-! ### Windows -/

theorem desktopStep (hX : X.Inv) {e : SeatEvent} (hmakes : e.makes = none) {client : Nat → Nat}
    (hseat : X.seatAfter e = { X.seat with client := client }) {lost : Option Nat}
    (hcoherent : Coherent none (X.desktopAfter e).world (X.desktopAfter e).fe)
    (hnumbered : (X.desktopAfter e).fe.Numbered) (hnamed : (X.desktopAfter e).fe.Named)
    (hevolves : X.fe.Evolves lost (X.desktopAfter e).fe)
    (hids : X.fe.stack.nextId ≤ (X.desktopAfter e).fe.stack.nextId)
    (hclient : ∀ a < X.fe.nextSurface, client a = X.seat.client a)
    (hlost : ∀ a ∈ lost, X.Unattended X.seat.pointerFocus X.seat.pointers a ∧
      X.Unattended X.seat.kbdFocus X.seat.keyboards a) :
    X.Proper e ∧ (X.next e).Inv := by
  have hheard (r : Nat) : X.heard e r = [] := by
    rw [heard, hseat]
    exact (Says.refl X.seat).heard r
  refine ⟨fun r => ?_, ?_⟩
  · rw [hheard]
    trivial
  · have hinside : X.insideAfter e = X.inside := by
      funext r
      rw [insideAfter, hmakes, hheard]
      rfl
    rw [next, hinside, hseat]
    refine ⟨hcoherent, hnumbered, hnamed, hX.distinct, ?_, ?_, hX.pointerFocus.trans_le hids,
      hX.kbdFocus.trans_le hids⟩
    · exact hX.pointers.evolve hX.sorted hevolves hclient hX.pointerFocus fun a ha s hfind =>
        (hlost a ha).1 (a, s) hfind rfl
    · exact hX.keyboards.evolve hX.sorted hevolves hclient hX.kbdFocus fun a ha s hfind =>
        (hlost a ha).2 (a, s) hfind rfl

theorem outside (hX : X.Inv) {e : Native.Event} (hen : X.world.enabled e) (hgentle : e.Gentle)
    (hwithin : (X.world.next e).Within) :
    X.Proper (.outside e) ∧ (X.next (.outside e)).Inv := by
  have hworld := hX.coherent.world.step hen hwithin
  have huntouched := hX.coherent.world.untouched hen hgentle hwithin
  obtain ⟨hcreated, hforeign⟩ := World.next_extends X.world e
  rw [← X.shared] at huntouched
  have hsame : X.fe.Evolves none (X.fe.next (.outside (X.world.next e).t.stack)) :=
    .same rfl rfl rfl
  refine hX.desktopStep rfl rfl ⟨rfl, hworld, hX.coherent.contents, ?_⟩ hX.numbered
    hX.named hsame ?_ (fun _ _ => rfl) (fun a ha => (by cases ha))
  · exact hX.coherent.shown.restack huntouched fun id hid => hforeign.subset hid
  · have hnow : (X.world.next e).t.stack.nextId =
        1 + (X.world.next e).t.history.created.length + (X.world.next e).foreign.length :=
      hworld.ledger.counting.counted
    have hmore := hcreated.created.length_le
    have hmore' := hforeign.length_le
    show X.fe.stack.nextId ≤ (X.world.next e).t.stack.nextId
    rw [hX.counted, hnow]
    omega

theorem surface (hX : X.Inv) (c : Nat) {e : FeEvent} (hen : X.fe.enabled e)
    (hours : ∀ stack, e ≠ .outside stack)
    (hwithin : (follow X.world X.fe (X.fe.next e)).Within)
    (hlost : X.Announces (.client (.surface c e))) :
    X.Proper (.client (.surface c e)) ∧ (X.next (.client (.surface c e))).Inv := by
  have hcoherent : Coherent none (follow X.world X.fe (X.fe.next e)) (X.fe.next e) :=
    (leads_next (fun h => hX.numbered _ h) hen hours).coherent hX.coherent hwithin
  have hnow : (X.fe.next e).stack.nextId =
      1 + X.world.t.history.created.length + (follow X.world X.fe (X.fe.next e)).foreign.length :=
    hcoherent.world.ledger.counting.counted
  have hmore : X.world.foreign.length ≤ (follow X.world X.fe (X.fe.next e)).foreign.length := by
    simp [follow]
  have hclaim : X.seat.claim X.fe c e =
      { X.seat with client := (X.seat.claim X.fe c e).client } := by
    cases e <;> rfl
  refine hX.desktopStep rfl hclaim hcoherent (hX.numbered.next e) (hX.named.next hen)
    (Frontend.evolves_next hen) ?_ (fun a ha => ?_) hlost.2
  · show X.fe.stack.nextId ≤ (X.fe.next e).stack.nextId
    rw [hX.counted, hnow]
    omega
  · cases e with
    | createSurface memory resource => exact Function.update_of_ne ha.ne _ _
    | _ => rfl

/-! ### Runs -/

theorem step (hX : X.Inv) {e : SeatEvent} (hen : X.enabled e) (hwithin : (X.next e).Within)
    (hannounces : X.Announces e) : X.Proper e ∧ (X.next e).Inv := by
  cases e with
  | outside e => exact hX.outside hen.1 hen.2 hwithin
  | motion gx gy => exact hX.motion gx gy
  | button code pressed => exact hX.button code pressed
  | key code pressed => exact hX.key code pressed
  | focus windowId => exact hX.focus windowId
  | client e =>
      cases e with
      | surface c e => exact hX.surface c hen.1 hen.2 hwithin hannounces
      | getPointer c resource version =>
          cases resource with
          | none => exact hX.idle rfl rfl (.refl _)
          | some r => exact hX.getPointer (hen r rfl) hannounces
      | getKeyboard c resource version =>
          cases resource with
          | none => exact hX.idle rfl rfl (.refl _)
          | some r => exact hX.getKeyboard (hen r rfl) hannounces
      | unlink r => exact hX.unlink r
      | bindOutput c resource =>
          cases resource with
          | none => exact hX.idle rfl rfl (.refl _)
          | some r => exact hX.idle rfl rfl (.send _ _ _)

end Inv

/--
In every run in which fewer than `2^32 - 1` windows are created, devices are made while
no surface of their client has the focus, no surface that they have entered is unmapped
before it is destroyed, and no freed record is used: each device is told to enter and to
leave in turn, and hears input only in between.
-/
theorem enters_and_leaves_alternate (sw sh : Int) (hasXkb hasKeymap : Bool) (es : List SeatEvent)
    (hrun : system.Legal (start sw sh hasXkb hasKeymap) es)
    (hwithin : (system.exec (start sw sh hasXkb hasKeymap) es).Within)
    (hannounces : system.Each Announces (start sw sh hasXkb hasKeymap) es) :
    system.Each Proper (start sw sh hasXkb hasKeymap) es := by
  have hbelow := System.each_below (B := Within) (fun _ _ _ h => h.mono) hrun hwithin
  have hsteps := System.each_and hbelow hannounces
  exact System.each_of_invariant (fun X e hX h => (hX.step h.1.1 h.1.2 h.2).2)
    (fun X e hX h => (hX.step h.1.1 h.1.2 h.2).1) hsteps (start_inv sw sh hasXkb hasKeymap)

/-- A client makes a pointer and maps a surface, and the pointer comes over it. -/
def enterRun : List SeatEvent :=
  [.client (.getPointer 0 (some 9) 5), .client (.surface 0 (.createSurface true (some 1))),
    .client (.surface 0 (.getXdgSurface 1 (some 2))),
    .client (.surface 0 (.getToplevel 2 (some 3))), .client (.surface 0 (.commit 1 none none)),
    .client (.surface 0 (.attach 1 (some 4))),
    .client (.surface 0 (.commit 1 (some ⟨1, 1, 4, fun _ => 0⟩) (some 64))), .motion 120 118]

theorem enterRun_legal : system.Legal (start 1920 1080 true true) enterRun := by
  have hnew := @Frontend.newHandle_of_none
  exact ⟨fun r _ => List.not_mem_nil, ⟨hnew rfl, by simp⟩, ⟨⟨⟨0, rfl⟩, hnew rfl⟩, by simp⟩,
    ⟨⟨⟨0, rfl⟩, hnew rfl⟩, by simp⟩, ⟨⟨⟨0, rfl⟩, Frontend.newBlock_none _ _⟩, by simp⟩,
    ⟨⟨0, rfl⟩, by simp⟩, ⟨⟨⟨0, rfl⟩, Frontend.newBlock_of_unused rfl rfl rfl⟩, by simp⟩,
    trivial, trivial⟩

theorem enterRun_announces : system.Each Announces (start 1920 1080 true true) enterRun := by
  have hkept {X : SeatRun} {e : FeEvent} (hlive : X.fe.UsesLive e)
      (h : X.fe.unmapped e = none) : X.Announces (.client (.surface 0 e)) := by
    refine ⟨hlive, fun a ha => ?_⟩
    rw [h] at ha
    cases ha
  exact ⟨fun p hp => (by cases hp), hkept (by decide +kernel) rfl, hkept (by decide +kernel) rfl,
    hkept (by decide +kernel) rfl, hkept (by decide +kernel) (by decide +kernel),
    hkept (by decide +kernel) rfl, hkept (by decide +kernel) (by decide +kernel), trivial, trivial⟩

/-- Then a button is pressed, and the pointer goes away. -/
def pressRun : List SeatEvent := enterRun ++ [.button 272 true, .motion 0 0]

theorem enters_and_leaves_alternate_pressRun :
    system.Each Proper (start 1920 1080 true true) pressRun := by
  have hlegal : system.Legal (start 1920 1080 true true) pressRun :=
    (System.legal_append _ enterRun _).mpr ⟨enterRun_legal, trivial, trivial, trivial⟩
  have hannounces : system.Each Announces (start 1920 1080 true true) pressRun :=
    (System.each_append _ enterRun _).mpr ⟨enterRun_announces, trivial, trivial, trivial⟩
  exact enters_and_leaves_alternate 1920 1080 true true pressRun hlegal (by decide +kernel)
    hannounces

/-- A second pointer of the client hears of the next motion, but has not heard the enter. -/
def latePointerRun : List SeatEvent := enterRun ++ [.client (.getPointer 0 (some 10) 5)]

/-- The surface is unmapped and mapped again. -/
def remapRun : List SeatEvent :=
  enterRun ++ [.client (.surface 0 (.attach 1 none)), .client (.surface 0 (.commit 1 none none)),
    .client (.surface 0 (.attach 1 (some 4))),
    .client (.surface 0 (.commit 1 (some ⟨1, 1, 4, fun _ => 0⟩) (some 64)))]

theorem latePointerRun_improper :
    system.Legal (start 1920 1080 true true) (latePointerRun ++ [.motion 120 118]) ∧
      (system.exec (start 1920 1080 true true) (latePointerRun ++ [.motion 120 118])).Within ∧
      ¬ system.Each Proper (start 1920 1080 true true) (latePointerRun ++ [.motion 120 118]) := by
  refine ⟨?_, by decide +kernel, fun h => ?_⟩
  · refine (System.legal_append _ _ _).mpr ⟨?_, trivial, trivial⟩
    refine (System.legal_append _ _ _).mpr ⟨enterRun_legal, fun r hr => ?_, trivial⟩
    cases hr
    show 10 ∉ (system.exec (start 1920 1080 true true) enterRun).devices.map Device.resource
    decide +kernel
  · have hlast := ((System.each_append _ _ _).mp h).2.1 10
    have hheard : (system.exec (start 1920 1080 true true) latePointerRun).heard
        (.motion 120 118) 10 = [.input] := by
      decide +kernel
    rw [hheard] at hlast
    exact hlast.1 (by decide +kernel)

/-- The remapped surface is entered again, though the pointer has not left it. -/
theorem remapRun_improper :
    system.Legal (start 1920 1080 true true) (remapRun ++ [.motion 160 158]) ∧
      (system.exec (start 1920 1080 true true) (remapRun ++ [.motion 160 158])).Within ∧
      ¬ system.Each Proper (start 1920 1080 true true) (remapRun ++ [.motion 160 158]) := by
  refine ⟨?_, by decide +kernel, fun h => ?_⟩
  · refine (System.legal_append _ _ _).mpr ⟨?_, trivial, trivial⟩
    refine (System.legal_append _ _ _).mpr ⟨enterRun_legal, ⟨⟨0, by decide +kernel⟩, by simp⟩,
      ⟨⟨⟨0, by decide +kernel⟩, Frontend.newBlock_none _ _⟩, by simp⟩,
      ⟨⟨0, by decide +kernel⟩, by simp⟩, ⟨⟨⟨0, by decide +kernel⟩, ?_⟩, by simp⟩, trivial⟩
    · rintro address ⟨⟩ res s hres hs
      by_cases hcontent : s.content = .block 64
      · rw [hcontent]
        simp [Frontend.free]
      · refine (Contents.free_ne hcontent).trans (Option.isNone_iff_eq_none.mp ?_)
        decide +kernel
  · have hlast := ((System.each_append _ _ _).mp h).2.1 9
    have hheard : (system.exec (start 1920 1080 true true) remapRun).heard
        (.motion 160 158) 9 = [.enter 1, .input] := by
      decide +kernel
    rw [hheard] at hlast
    have hinside : (system.exec (start 1920 1080 true true) remapRun).inside 9 = some 0 := by
      decide +kernel
    have hgone : ((system.exec (start 1920 1080 true true) remapRun).fe.surfaces 0).isSome := by
      decide +kernel
    have hnone := hlast.1 0 hinside
    rw [hnone] at hgone
    cases hgone

theorem input_without_enter_and_second_enter :
    (system.Legal (start 1920 1080 true true) (latePointerRun ++ [.motion 120 118]) ∧
      (system.exec (start 1920 1080 true true) (latePointerRun ++ [.motion 120 118])).Within ∧
      ¬ system.Each Proper (start 1920 1080 true true) (latePointerRun ++ [.motion 120 118])) ∧
    system.Legal (start 1920 1080 true true) (remapRun ++ [.motion 160 158]) ∧
      (system.exec (start 1920 1080 true true) (remapRun ++ [.motion 160 158])).Within ∧
      ¬ system.Each Proper (start 1920 1080 true true) (remapRun ++ [.motion 160 158]) :=
  ⟨latePointerRun_improper, remapRun_improper⟩

end SeatRun

end CrystallineLattice.Wayland
