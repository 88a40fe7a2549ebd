import CrystallineLattice.Foundation.CInt

/-!
# The wire format

The client-to-server messages of `protocol.h`, read from a receive buffer at the
offsets the C compiler gives their fields (`cl_buffer` holds a 64-bit field, so
`cl_commit` is padded to 48 bytes).  The buffer has a byte at every offset: past
the received length it holds whatever was there before.
-/

namespace CrystallineLattice.Native

open CrystallineLattice.Foundation

def clMagic : Nat := 0x4C435243
def clVersion : Nat := 2
def clMinVersion : Nat := 1
def clMaxFds : Nat := 2
def clTitleMax : Nat := 64
def clFormatXrgb8888 : Nat := 0x34325258
def clBufShm : Nat := 0

def clHelloType : Nat := 1
def clCreateWindowType : Nat := 2
def clSetTitleType : Nat := 3
def clCommitType : Nat := 4
def clDestroyWindowType : Nat := 5
def clSetGeometryType : Nat := 6
def clSetCursorType : Nat := 7

def clRoleDesktop : Nat := 1
def clRoleTaskbar : Nat := 2
def clRoleTray : Nat := 3
def clRoleMenu : Nat := 4
def clRoleTooltip : Nat := 5

abbrev Bytes := Nat → UInt8

def Bytes.u32 (buf : Bytes) (offset : Nat) : Nat :=
  (buf offset).toNat + 256 * (buf (offset + 1)).toNat +
    65536 * (buf (offset + 2)).toNat + 16777216 * (buf (offset + 3)).toNat

def Bytes.i32 (buf : Bytes) (offset : Nat) : Int := int32 (buf.u32 offset)

structure ClHello where
  magic : Nat
  version : Nat
  minVersion : Nat
  reconnectToken : Nat

structure ClCreateWindow where
  wid : Nat
  role : Nat
  x : Int
  y : Int
  w : Nat
  h : Nat

structure ClSetTitle where
  wid : Nat
  title : List UInt8

structure ClBuffer where
  kind : Nat
  width : Nat
  height : Nat
  stride : Nat
  format : Nat
  hasFence : Nat

structure ClCommit where
  wid : Nat
  buffer : ClBuffer

structure ClDestroyWindow where
  wid : Nat

structure ClSetGeometry where
  wid : Nat
  x : Int
  y : Int
  w : Nat
  h : Nat

structure ClSetCursor where
  width : Nat
  height : Nat
  hotspotX : Int
  hotspotY : Int
  hide : Nat

def ClHello.size : Nat := 20
def ClHello.tokenOffset : Nat := 16
def ClCreateWindow.size : Nat := 28
def ClSetTitle.size : Nat := 72
def ClCommit.size : Nat := 48
def ClDestroyWindow.size : Nat := 8
def ClSetGeometry.size : Nat := 24
def ClSetCursor.size : Nat := 24

def ClHello.read (buf : Bytes) : ClHello :=
  ⟨buf.u32 4, buf.u32 8, buf.u32 12, buf.u32 16⟩

def ClCreateWindow.read (buf : Bytes) : ClCreateWindow :=
  ⟨buf.u32 4, buf.u32 8, buf.i32 12, buf.i32 16, buf.u32 20, buf.u32 24⟩

def ClSetTitle.read (buf : Bytes) : ClSetTitle :=
  ⟨buf.u32 4, (List.range clTitleMax).map fun i => buf (8 + i)⟩

def ClBuffer.read (buf : Bytes) (offset : Nat) : ClBuffer :=
  ⟨buf.u32 offset, buf.u32 (offset + 4), buf.u32 (offset + 8), buf.u32 (offset + 12),
    buf.u32 (offset + 16), buf.u32 (offset + 32)⟩

def ClCommit.read (buf : Bytes) : ClCommit := ⟨buf.u32 4, ClBuffer.read buf 8⟩

def ClDestroyWindow.read (buf : Bytes) : ClDestroyWindow := ⟨buf.u32 4⟩

def ClSetGeometry.read (buf : Bytes) : ClSetGeometry :=
  ⟨buf.u32 4, buf.i32 8, buf.i32 12, buf.u32 16, buf.u32 20⟩

def ClSetCursor.read (buf : Bytes) : ClSetCursor :=
  ⟨buf.u32 4, buf.u32 8, buf.i32 12, buf.i32 16, buf.u32 20⟩

def Bytes.ofWords (words : List Nat) : Bytes := fun offset =>
  UInt8.ofNat (words.getD (offset / 4) 0 / 256 ^ (offset % 4))

theorem Bytes.u32_lt (buf : Bytes) (offset : Nat) : buf.u32 offset < 4294967296 := by
  have h0 := (buf offset).toNat_lt
  have h1 := (buf (offset + 1)).toNat_lt
  have h2 := (buf (offset + 2)).toNat_lt
  have h3 := (buf (offset + 3)).toNat_lt
  unfold u32
  omega

inductive ClInputKind where
  | motion
  | button
  | key
  deriving DecidableEq, Repr

/-- The server's messages that this development follows. -/
inductive Message where
  | welcome (magic version screenW screenH reconnectToken : Nat)
  | configure (wid : Nat) (x y : Int) (w h : Nat)
  | focus (wid : Nat) (focused : Bool)
  | input (wid : Nat) (kind : ClInputKind) (x y : Int) (code : Nat) (pressed : Bool)
  | screen (w h : Nat)
  deriving DecidableEq, Repr

end CrystallineLattice.Native
