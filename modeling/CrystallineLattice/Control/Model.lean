import CrystallineLattice.Native.Wire
import CrystallineLattice.Platform.Model

/-!
# The control socket

This file models `control.c`.  A caller connects, sends one request datagram and
waits for one response datagram.  `control_process` accepts the pending
connections one after the other, reads each once without waiting, answers what it
read, and closes the connection.
-/

namespace CrystallineLattice.Control

open CrystallineLattice.Foundation
open CrystallineLattice.Native
open CrystallineLattice.Platform

def glctlMagic : Nat := 0x4743544C
def glctlMaxModes : Nat := 64

def glctlGetOutputs : Nat := 1
def glctlSetMode : Nat := 2
def glctlOutputs : Nat := 128
def glctlResult : Nat := 129

/-! ## Wire format -/

structure GlctlRequest where
  type : Nat
  magic : Nat
  w : Nat
  h : Nat
  refreshMhz : Nat
  deriving DecidableEq, Repr

def GlctlRequest.size : Nat := 52
def GlctlRequest.outputOffset : Nat := 8

def GlctlRequest.read (buf : Bytes) : GlctlRequest :=
  ⟨buf.u32 0, buf.u32 4, buf.u32 40, buf.u32 44, buf.u32 48⟩

structure GlctlMode where
  w : Nat
  h : Nat
  refreshMhz : Nat
  preferred : Bool
  current : Bool
  deriving DecidableEq, Repr

structure GlctlOutput where
  name : String
  modes : List GlctlMode
  deriving DecidableEq, Repr

inductive Response where
  | outputs (type magic : Nat) (outputs : List GlctlOutput)
  | result (type magic : Nat) (ok : Bool)
  deriving DecidableEq, Repr

structure Request where
  n : Nat
  buf : Bytes

structure Request.WellFormed (d : Request) : Prop where
  full : d.n = GlctlRequest.size
  magic : (GlctlRequest.read d.buf).magic = glctlMagic
  type : (GlctlRequest.read d.buf).type = glctlGetOutputs ∨
    (GlctlRequest.read d.buf).type = glctlSetMode

/-! ## Answering -/

def connectorPrefix : ConnectorType → String
  | .eDP => "eDP"
  | .lvds => "LVDS"
  | .displayPort => "DP"
  | .hdmiA => "HDMI-A"
  | .hdmiB => "HDMI-B"
  | .vga => "VGA"
  | .dviI => "DVI"
  | .dviD => "DVI"
  | .dviA => "DVI"
  | .virtual => "Virtual"
  | .other => "Display"

def connectorName (c : Connector) : String :=
  connectorPrefix c.connectorType ++ "-" ++ toString c.connectorTypeId.toNat

/-- How a mode is listed while `k` shows its own mode. -/
def listedMode (k : Kms) (m : ModeInfo) : GlctlMode where
  w := m.hdisplay.toNat
  h := m.vdisplay.toNat
  refreshMhz := (refreshMhz m).toNat
  preferred := m.type &&& drmModeTypePreferred ≠ 0
  current :=
    m.hdisplay = k.mode.hdisplay ∧ m.vdisplay = k.mode.vdisplay ∧ m.vrefresh = k.mode.vrefresh

/-- One iteration of the listing loop, which stops at `GLCTL_MAX_MODES` modes. -/
def listMode (k : Kms) (modes : List GlctlMode) (m : ModeInfo) : List GlctlMode :=
  if glctlMaxModes ≤ modes.length then modes
  else if m.interlaced then modes
  else modes ++ [listedMode k m]

def handleGetOutputs (k : Kms) (conn : Option Connector) : Response :=
  .outputs glctlOutputs glctlMagic
    (match conn with
      | none => []
      | some c => [⟨connectorName c, c.modes.foldl (listMode k) []⟩])

structure User (υ κ : Type*) where
  kms : υ → Kms
  applyMode : Option (υ → κ → Int → Int → Int → υ × Bool)

section

variable {υ κ : Type*} (user : User υ κ)

/-- `apply && apply(user, w, h, refresh_mhz)`, with what the kernel answers to it. -/
def User.apply (u : υ) (answers : κ) (req : GlctlRequest) : υ × Bool :=
  match user.applyMode with
  | none => (u, false)
  | some apply => apply u answers (int32 req.w) (int32 req.h) (int32 req.refreshMhz)

/--
What is done about a connection after `recv`, which returns nothing when no
datagram is there: the user's state after it, and the response, if one is sent.
-/
def respond (u : υ) (conn : Option Connector) (answers : κ) (received : Option Request) :
    υ × Option Response :=
  match received with
  | none => (u, none)
  | some d =>
      let req := GlctlRequest.read d.buf
      if GlctlRequest.outputOffset ≤ d.n ∧ req.magic = glctlMagic then
        if req.type = glctlGetOutputs then (u, some (handleGetOutputs (user.kms u) conn))
        else if req.type = glctlSetMode then
          let r := user.apply u answers req
          (r.1, some (.result glctlResult glctlMagic r.2))
        else (u, none)
      else (u, none)

theorem Request.WellFormed.respond {d : Request} (hd : d.WellFormed) (u : υ)
    (conn : Option Connector) (answers : κ) :
    ∃ r, (respond user u conn answers (some d)).2 = some r := by
  have hlong : GlctlRequest.outputOffset ≤ d.n := by
    rw [hd.full]
    decide
  unfold Control.respond
  dsimp only
  rw [if_pos ⟨hlong, hd.magic⟩]
  rcases hd.type with htype | htype
  · simp [htype]
  · simp [htype, glctlSetMode, glctlGetOutputs]

end

end CrystallineLattice.Control
