import CrystallineLattice.Server.Model

/-!
# The loop

An iteration goes through its stages in order.  Within the stages that drain an
event source any number of events happens.  What the seat, the clock, the kernel
and the clients do is part of the events.
-/

namespace CrystallineLattice.Server

open CrystallineLattice.Foundation
open CrystallineLattice.Stack
open CrystallineLattice.Native
open CrystallineLattice.Wayland
open CrystallineLattice.Manager
open CrystallineLattice.Platform

/-- All state was added to the request, and the kernel accepted it. -/
structure CommitAnswers where
  added : Bool
  committed : Bool
  deriving DecidableEq, Repr

inductive ServerEvent where
  | seat (active : Bool)
  | idle (now : Int) (committed : Bool)
  | frame (answers : CommitAnswers)
  | input (raw : RawInput)
  | transport (e : Native.Event)
  | wayland (e : ClientEvent)
  | control (w h refresh : Int) (answers : ApplyAnswers)
  | hotplug (changed : Bool)
  | tail
  /-- The event source of the stage is drained. -/
  | pass

namespace ServerRun

/-! ## Stages -/

def atSeat (X : ServerRun) (active : Bool) : ServerRun :=
  if active && !X.master then { X with master := true, needModeset := true, dirty := true }
  else if !active && X.master then { X with master := false }
  else X

def wake (X : ServerRun) (now : Int) : ServerRun :=
  if X.activity then
    let X := { X with activity := false, lastActivity := now }
    if X.blanked then { X with blanked := false, needModeset := true, dirty := true } else X
  else X

def atIdle (X : ServerRun) (now : Int) (committed : Bool) : ServerRun :=
  let X := X.wake now
  if X.master ∧ X.blanked = false ∧ 0 < X.idleMs ∧ X.idleMs < now - X.lastActivity then
    { X with commits := X.commits ++ [.blank committed], blanked := X.blanked || committed }
  else X

def Presents (X : ServerRun) : Prop := X.master = true ∧ X.dirty = true ∧ X.blanked = false

instance (X : ServerRun) : Decidable X.Presents := by
  unfold Presents
  infer_instance

def atFrame (X : ServerRun) (answers : CommitAnswers) : ServerRun :=
  if X.Presents then
    { X with
      commits := X.commits ++ [.frame X.needModeset (answers.added && answers.committed)]
      front := otherFb X.front
      needModeset := false
      dirty := false }
  else X

def transportDirty (X : ServerRun) : Native.Event → Bool
  | .datagram i d k now => (clientDatagram X.world.t i d k now false).dirty
  | .hangup .. => true
  | .expire now => (orphansExpire X.world.t now).2
  | _ => false

def atTransport (X : ServerRun) (e : Native.Event) : ServerRun :=
  { X.setWorld (X.world.next e) with dirty := X.dirty || X.transportDirty e }

def atWayland (X : ServerRun) (e : ClientEvent) : ServerRun :=
  let X := { X with seat := X.seat.next X.fe e }
  match e with
  | .surface _ e =>
      let fe := X.fe.next e
      { X.setFe { fe with dirty := false } with dirty := X.dirty || fe.dirty }
  | _ => X

def atHotplug (X : ServerRun) (changed : Bool) : ServerRun :=
  if changed then { X with needModeset := true, dirty := true } else X

def notifyReconfigured (X : ServerRun) : ServerRun :=
  if X.wm.reconfiguredId ≠ 0 then
    let X := X.setTransport (transportNotifyGeometry X.world.t X.wm.reconfiguredId)
    { X with wm := { X.wm with reconfiguredId := 0 }, wmStack := X.wmStack, dirty := true }
  else X

def atTail (X : ServerRun) : ServerRun :=
  let X := { X with seat := wlFrontendKeyboardFocus X.fe X.seat X.stack.focusId }
  notifyReconfigured (X.setTransport (transportUpdateFocus X.world.t X.stack.focusId))

/-! ## Events -/

def nextStage : Stage → Stage
  | .seat => .idle
  | .idle => .frame
  | .frame => .input
  | .input => .transport
  | .transport => .wayland
  | .wayland => .control
  | .control => .hotplug
  | .hotplug => .tail
  | .tail => .seat

def advance (X : ServerRun) : ServerRun := { X with stage := nextStage X.stage }

def next (X : ServerRun) : ServerEvent → ServerRun
  | .seat active => (X.atSeat active).advance
  | .idle now committed => (X.atIdle now committed).advance
  | .frame answers => (X.atFrame answers).advance
  | .input raw => onInput X (emit X raw)
  | .transport e => X.atTransport e
  | .wayland e => X.atWayland e
  | .control w h refresh answers => (applyModeCb X answers w h refresh).1
  | .hotplug changed => (X.atHotplug changed).advance
  | .tail => X.atTail.advance
  | .pass => X.advance

def Drains (s : Stage) : Prop :=
  s = .input ∨ s = .transport ∨ s = .wayland ∨ s = .control

def OwnEvent : Native.Event → Prop
  | .updateFocus _ => False
  | .other _ => False
  | _ => True

/-- libwayland hands a request to a live object of its interface. -/
def ClientEnabled (X : ServerRun) : ClientEvent → Prop
  | .surface _ e => X.fe.enabled e ∧ ∀ stack, e ≠ .outside stack
  | _ => True

def enabled (X : ServerRun) : ServerEvent → Prop
  | .seat _ => X.stage = .seat ∧ X.running = true
  | .idle .. => X.stage = .idle
  | .frame _ => X.stage = .frame
  | .input _ => X.stage = .input
  | .transport e => X.stage = .transport ∧ OwnEvent e ∧ X.world.enabled e
  | .wayland e => X.stage = .wayland ∧ X.ClientEnabled e
  | .control .. => X.stage = .control
  | .hotplug _ => X.stage = .hotplug
  | .tail => X.stage = .tail
  | .pass => Drains X.stage

def system : System ServerRun ServerEvent := ⟨enabled, next⟩

/-- Fewer than `2^32 - 1` windows have been created. -/
def Within (X : ServerRun) : Prop := X.world.Within

instance (X : ServerRun) : Decidable X.Within := inferInstanceAs (Decidable X.world.Within)

end ServerRun

/-! ## The start -/

def seedWindows (s : WindowStack) (sw sh : Int) : WindowStack :=
  let s := (windowCreate s .desktop 0 0 sw sh 0x00204060 (cString "desktop")).1
  let s := (windowCreate s .normal (sw.tdiv 6) (sh.tdiv 6) 520 360 0x00d8d8d8
    (cString "Window A")).1
  let (s, b) := windowCreate s .normal (sw.tdiv 3) (sh.tdiv 3) 480 320 0x00eeeeee
    (cString "Window B")
  windowFocus s b

/--
What `server_run` finds before its loop: a mode, two framebuffers of its size, and
whether the demo scene is wanted.  `wm_init` does not set `reconfigured_id`.
-/
structure Setup where
  drm : Drm
  kms : Kms
  fb : Fin 2 → DumbFb
  seeded : Bool
  reconfiguredId : Nat
  hasXkb : Bool
  hasKeymap : Bool
  idleMs : Int
  now : Int
  fits : ∀ i, (fb i).w = kms.mode.hdisplay.toNat ∧ (fb i).h = kms.mode.vdisplay.toNat

namespace Setup

def width (S : Setup) : Int := S.kms.mode.hdisplay.toNat

def height (S : Setup) : Int := S.kms.mode.vdisplay.toNat

def stack (S : Setup) : WindowStack :=
  if S.seeded then seedWindows windowStackInit S.width S.height else windowStackInit

def start (S : Setup) : ServerRun where
  world := ⟨transportCreate S.stack S.width S.height, if S.seeded then [1, 2, 3] else []⟩
  fe := .start S.stack
  seat := .start S.width S.height S.hasXkb S.hasKeymap
  wm := wmInit S.stack S.width S.height S.reconfiguredId
  drm := S.drm
  kms := S.kms
  fb := S.fb
  inputW := S.width
  inputH := S.height
  master := false
  needModeset := false
  dirty := true
  activity := false
  blanked := false
  front := firstFb
  lastActivity := S.now
  idleMs := S.idleMs
  ctrlHeld := false
  altHeld := false
  running := true
  stage := .seat
  commits := []
  feStack := rfl
  wmStack := rfl

end Setup

end CrystallineLattice.Server
