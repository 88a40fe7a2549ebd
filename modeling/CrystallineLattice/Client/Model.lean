import CrystallineLattice.Native.Model

/-!
# The test client

The client of `client.c` shakes hands, opens one window with a title and one
buffer, and stays until the connection ends.  Pixels and printed lines are left out.
-/

namespace CrystallineLattice.Client

open CrystallineLattice.Stack
open CrystallineLattice.Native

def clRoleNormal : Nat := 0

def clWelcomeType : Nat := 128
def clConfigureType : Nat := 129
def clFocusType : Nat := 130
def clCloseType : Nat := 131
def clInputType : Nat := 132
def clScreenType : Nat := 133

def Message.type : Message → Nat
  | .welcome .. => clWelcomeType
  | .configure .. => clConfigureType
  | .focus .. => clFocusType
  | .input .. => clInputType
  | .screen .. => clScreenType

def Message.bytes : Message → Nat
  | .welcome .. => 24
  | .configure .. => 24
  | .focus .. => 12
  | .input .. => 28
  | .screen .. => 12

def ClWelcome.size : Nat := 24

/-! ## Requests -/

def winW : Nat := 480
def winH : Nat := 320

def wid : Nat := 1

def stride : Nat := winW * 4

def clientTitle : List UInt8 := cString "CrystallineLattice test client"

def hello : Datagram := .ofWords [clHelloType, clMagic, clVersion, clMinVersion, 0] []

def createWindow : Datagram :=
  .ofWords [clCreateWindowType, wid, clRoleNormal, 240, 180, winW, winH] []

/-- The record is zeroed before the title is printed into it. -/
def setTitle : Datagram where
  buf o := if o < 8 then Bytes.ofWords [clSetTitleType, wid] o else clientTitle.getD (o - 8) 0
  n := ClSetTitle.size
  fds := []

def commit (bfd : Int) : Datagram :=
  .ofWords [clCommitType, wid, clBufShm, winW, winH, stride, clFormatXrgb8888, 0, 0, 0, 0, 0]
    [bfd]

def requests (bfd : Int) : List Datagram := [createWindow, setTitle, commit bfd]

/-! ## The program -/

/-- Where `main` is: in its first `cl_recv`, at a `cl_send`, in the loop, or done. -/
inductive Pc where
  | awaitWelcome
  | sending (d : Datagram) (todo : List Datagram)
  | serving
  | handshakeFailed
  | exited

def Pc.Done : Pc → Prop
  | .handshakeFailed => True
  | .exited => True
  | _ => False

instance : DecidablePred Pc.Done
  | .handshakeFailed | .exited => inferInstanceAs (Decidable True)
  | .awaitWelcome | .sending .. | .serving => inferInstanceAs (Decidable False)

/-- After a message, or the end of the connection.  `bfd` is what `make_buffer` returns. -/
def Pc.received (pc : Pc) (m : Option Message) (bfd : Option Int) : Pc :=
  match pc, m with
  | .awaitWelcome, some m =>
      if Message.bytes m < ClWelcome.size ∨ Message.type m ≠ clWelcomeType then .handshakeFailed
      else
        match bfd with
        | none => .exited
        | some bfd => .sending createWindow [setTitle, commit bfd]
  | .awaitWelcome, none => .handshakeFailed
  | .serving, some m => if Message.type m = clCloseType then .exited else .serving
  | .serving, none => .exited
  | pc, _ => pc

/-- After a `cl_send`, of which only the last is checked. -/
def Pc.sent (pc : Pc) (ok : Bool) : Pc :=
  match pc with
  | .sending _ (d :: todo) => .sending d todo
  | .sending _ [] => if ok then .serving else .exited
  | pc => pc

end CrystallineLattice.Client
