import CrystallineLattice.Stack.Model
import CrystallineLattice.Native.Wire
import Mathlib.Logic.Function.Basic
import Mathlib.Data.List.FinRange

/-!
# The native transport

This file models `transport.c`.  Handlers take the transport and return the new
one.  The window stack it points to is carried inside it.  What the kernel does
for the process is carried too: the client mappings that are live, the messages
handed to `cl_send`, and the descriptors that were closed.  `History` is
bookkeeping for the proofs: which window was created for which client, and which
tokens were handed out.
-/

namespace CrystallineLattice.Native

open CrystallineLattice.Foundation
open CrystallineLattice.Stack

def clMaxClients : Nat := 16

instance : NeZero clMaxClients := ⟨by decide⟩

def clReconnectGraceMs : Int := 5000
def clCursorMax : Int := 64

/-- A client's window: its wire id, the server window it maps to, and its mapped buffer. -/
structure ClWin where
  clientWid : Nat
  serverId : Nat
  buf : Ptr
  bufLen : Nat
  deriving DecidableEq, Repr

def ClWin.zero : ClWin := ⟨0, 0, .null, 0⟩

abbrev WinTable := Fin winMax → ClWin

structure ClClient where
  fd : Int
  hello : Bool
  token : Nat
  wins : WinTable

structure ClOrphan where
  token : Nat
  deadlineMs : Int
  wins : WinTable

/-- A client slot after `memset`, with its descriptor set. -/
def ClClient.zero (fd : Int) : ClClient := ⟨fd, false, 0, fun _ => .zero⟩

def ClOrphan.zero : ClOrphan := ⟨0, 0, fun _ => .zero⟩

structure ClCursor where
  custom : Bool
  hidden : Bool
  w : Int
  h : Int
  hotspotX : Int
  hotspotY : Int
  argb : Nat → UInt32

structure Os where
  maps : List (Nat × Nat)
  sent : List (Int × Message)
  closed : List Int

structure History where
  created : List (Nat × Nat)
  issued : List Nat

structure Transport where
  stack : WindowStack
  sw : Int
  sh : Int
  clients : Fin clMaxClients → ClClient
  orphans : Fin clMaxClients → ClOrphan
  focusedServerId : Nat
  nextToken : Nat
  cursor : ClCursor
  os : Os
  history : History

/-- One received datagram: the receive buffer, the byte count, and the passed descriptors. -/
structure Datagram where
  buf : Bytes
  n : Nat
  fds : List Int

def Datagram.ofWords (words : List Nat) (fds : List Int) : Datagram :=
  ⟨.ofWords words, 4 * words.length, fds⟩

/-- The kernel's answer to the one `mmap` a request may make, and the words it would map. -/
structure Kernel where
  mmap : Option Nat
  pixels : Nat → UInt32

/-! ## System calls -/

def Os.close (os : Os) (fd : Int) : Os := { os with closed := os.closed ++ [fd] }

def Os.send (os : Os) (fd : Int) (m : Message) : Os := { os with sent := os.sent ++ [(fd, m)] }

def Os.map (os : Os) (base len : Nat) : Os := { os with maps := (base, len) :: os.maps }

def Os.munmap (os : Os) (p : Ptr) (len : Nat) : Os :=
  match p with
  | .mapping base => { os with maps := os.maps.erase (base, len) }
  | _ => os

/-! ## Small helpers -/

def roleFromWire (r : Nat) : WinRole :=
  if r = clRoleDesktop then .desktop
  else if r = clRoleTaskbar then .taskbar
  else if r = clRoleTray then .tray
  else if r = clRoleMenu then .menu
  else if r = clRoleTooltip then .tooltip
  else .normal

def closeFds (t : Transport) (fds : List Int) : Transport :=
  { t with os := fds.foldl Os.close t.os }

def clSend (t : Transport) (fd : Int) (m : Message) : Transport :=
  { t with os := t.os.send fd m }

/-- The first index with the property, as a loop over a table finds it. -/
def firstIndex {n : Nat} (p : Fin n → Bool) : Option (Fin n) := (List.finRange n).find? p

def winFind (c : ClClient) (clientWid : Nat) : Option (Fin winMax) :=
  if clientWid = 0 then none
  else firstIndex fun k => (c.wins k).clientWid = clientWid

def winAlloc (c : ClClient) : Option (Fin winMax) :=
  firstIndex fun k => (c.wins k).clientWid = 0

inductive Holder where
  | client (i : Fin clMaxClients)
  | orphan (k : Fin clMaxClients)
  deriving DecidableEq, Repr

namespace Transport

def wins (t : Transport) : Holder → WinTable
  | .client i => (t.clients i).wins
  | .orphan k => (t.orphans k).wins

def token (t : Transport) : Holder → Nat
  | .client i => (t.clients i).token
  | .orphan k => (t.orphans k).token

def setClient (t : Transport) (i : Fin clMaxClients) (c : ClClient) : Transport :=
  { t with clients := Function.update t.clients i c }

def setOrphan (t : Transport) (k : Fin clMaxClients) (o : ClOrphan) : Transport :=
  { t with orphans := Function.update t.orphans k o }

/-- `*w = win` for a pointer `w` to slot `j` of a holder's table. -/
def setWin (t : Transport) (h : Holder) (j : Fin winMax) (win : ClWin) : Transport :=
  match h with
  | .client i =>
      t.setClient i { t.clients i with wins := Function.update (t.clients i).wins j win }
  | .orphan k =>
      t.setOrphan k { t.orphans k with wins := Function.update (t.orphans k).wins j win }

end Transport

def winDropBuffer (t : Transport) (h : Holder) (j : Fin winMax) : Transport :=
  let w := t.wins h j
  if w.buf = .null then t
  else
    { t with
      stack := t.stack.writeById w.serverId fun win => { win with buf := .null }
      os := t.os.munmap w.buf w.bufLen }.setWin h j { w with buf := .null, bufLen := 0 }

/-! ## Reconnect and crash resilience -/

/-- `tok = ++next_token`, repeated while it is 0. -/
def tokenAfter (nextToken : Nat) : Nat :=
  let first := uint32 (nextToken + 1)
  if first = 0 then 1 else first

def assignToken (t : Transport) : Transport × Nat :=
  let tok := tokenAfter t.nextToken
  ({ t with
      nextToken := tok
      history := { t.history with issued := t.history.issued ++ [tok] } }, tok)

def destroySlot (h : Holder) (t : Transport) (j : Fin winMax) : Transport :=
  if (t.wins h j).clientWid ≠ 0 then
    let t := winDropBuffer t h j
    { t with stack := windowDestroy t.stack (t.wins h j).serverId }
  else t

def destroyTable (t : Transport) (h : Holder) : Transport :=
  (List.finRange winMax).foldl (destroySlot h) t

def orphanDestroy (t : Transport) (k : Fin clMaxClients) : Transport :=
  (destroyTable t (.orphan k)).setOrphan k .zero

def expireSlot (now : Int) (acc : Transport × Bool) (k : Fin clMaxClients) : Transport × Bool :=
  if (acc.1.orphans k).token ≠ 0 ∧ (acc.1.orphans k).deadlineMs ≤ now then
    (orphanDestroy acc.1 k, true)
  else acc

def orphansExpire (t : Transport) (now : Int) : Transport × Bool :=
  (List.finRange clMaxClients).foldl (expireSlot now) (t, false)

def tableCount (wins : WinTable) : Nat :=
  (List.finRange winMax).countP fun j => (wins j).clientWid ≠ 0

def orphanByToken (t : Transport) (token : Nat) : Option (Fin clMaxClients) :=
  firstIndex fun k => (t.orphans k).token = token

def clientReclaim (t : Transport) (i : Fin clMaxClients) (token : Nat) : Transport × Nat :=
  if token = 0 then (t, 0)
  else
    match orphanByToken t token with
    | none => (t, 0)
    | some k =>
        let wins := (t.orphans k).wins
        ((t.setClient i { t.clients i with wins := wins, token := token }).setOrphan k .zero,
          tableCount wins)

/-! ## Server to client events -/

def sendWelcome (t : Transport) (fd : Int) (token : Nat) : Transport :=
  clSend t fd (.welcome clMagic clVersion (uint32 t.sw) (uint32 t.sh) token)

def findByServerId (t : Transport) (serverId : Nat) :
    Option (Fin clMaxClients × Fin winMax) :=
  if serverId = 0 then none
  else
    (List.finRange clMaxClients).findSome? fun i =>
      if (t.clients i).fd < 0 then none
      else
        (firstIndex fun j => ((t.clients i).wins j).clientWid ≠ 0 &&
          ((t.clients i).wins j).serverId = serverId).map fun j => (i, j)

/-- The `CL_FOCUS` half of `notify_focus` for one server id. -/
def sendFocus (t : Transport) (serverId : Nat) (focused : Bool) : Transport :=
  match findByServerId t serverId with
  | none => t
  | some (i, j) =>
      clSend t (t.clients i).fd (.focus ((t.clients i).wins j).clientWid focused)

def notifyFocus (t : Transport) (newFocus : Nat) : Transport :=
  if newFocus = t.focusedServerId then t
  else
    let t := sendFocus t t.focusedServerId false
    sendFocus { t with focusedServerId := newFocus } newFocus true

/-! ## Request handlers -/

def applyRolePolicy (s : WindowStack) (role : WinRole) (id : Nat) (sw sh : Int) : WindowStack :=
  match role with
  | .normal => windowFocus s id
  | .desktop => windowLower (windowSetGeometry s id 0 0 sw sh) id
  | _ => s

def sendConfigure (t : Transport) (fd : Int) (wid id : Nat) : Transport :=
  match windowById t.stack id with
  | none => t
  | some win => clSend t fd (.configure wid win.x win.y (uint32 win.w) (uint32 win.h))

/-- The part of `on_create_window` that follows a successful `window_create`. -/
def adoptWindow (t : Transport) (i : Fin clMaxClients) (j : Fin winMax) (wid : Nat)
    (role : WinRole) (id : Nat) : Transport :=
  let c := t.clients i
  let slot := { c.wins j with clientWid := wid, serverId := id }
  let stack := t.stack.writeById id fun win => { win with appDecorated := true }
  let stack := applyRolePolicy stack role id t.sw t.sh
  let history := { t.history with created := t.history.created ++ [(id, c.token)] }
  let t := { t with stack := stack, history := history }.setWin (.client i) j slot
  let t := sendConfigure t c.fd wid id
  if role = .normal then notifyFocus t id else t

def onCreateWindow (t : Transport) (i : Fin clMaxClients) (m : ClCreateWindow) : Transport :=
  let c := t.clients i
  if (winFind c m.wid).isSome then t
  else
    match winAlloc c with
    | none => t
    | some j =>
        let w := if m.w ≠ 0 then int32 m.w else 320
        let h := if m.h ≠ 0 then int32 m.h else 240
        let role := roleFromWire m.role
        let (stack, id) := windowCreate t.stack role m.x m.y w h 0x00202020 (cString "client")
        let t := { t with stack := stack }
        if id = 0 then t else adoptWindow t i j m.wid role id

def onSetTitle (t : Transport) (i : Fin clMaxClients) (m : ClSetTitle) : Transport :=
  match winFind (t.clients i) m.wid with
  | none => t
  | some j =>
      -- the last byte is overwritten by the terminator
      let title := (m.title.take (clTitleMax - 1)).takeWhile (· ≠ 0)
      { t with
        stack := t.stack.writeById ((t.clients i).wins j).serverId fun win =>
          { win with title := titleBytes title } }

/-- Wait for the render fence and close it: what is left of the passed descriptors. -/
def consumeFence (t : Transport) (b : ClBuffer) (fds : List Int) : Transport × List Int :=
  match fds with
  | first :: fence :: _ =>
      if b.hasFence ≠ 0 then ({ t with os := t.os.close fence }, [first]) else (t, fds)
  | _ => (t, fds)

/-- The checks of a `COMMIT` on its window and its descriptor. -/
def commitTarget (t : Transport) (i : Fin clMaxClients) (m : ClCommit) :
    Option (Fin winMax) :=
  match winFind (t.clients i) m.wid with
  | none => none
  | some j =>
      if m.buffer.kind ≠ clBufShm ∨
          windowById t.stack ((t.clients i).wins j).serverId = none ∨
          m.buffer.format ≠ clFormatXrgb8888 ∨ m.buffer.stride = 0 ∨ m.buffer.height = 0 then
        none
      else some j

/-- The mapped buffer replaces the window's previous frame, in its slot and in the stack. -/
def attachBuffer (t : Transport) (h : Holder) (j : Fin winMax) (b : ClBuffer) (base : Nat) :
    Transport :=
  let t := winDropBuffer t h j
  let slot := t.wins h j
  let t := t.setWin h j { slot with buf := .mapping base, bufLen := b.stride * b.height }
  { t with
    stack := t.stack.writeById slot.serverId fun win =>
      { win with
        buf := .mapping base
        bufW := int32 b.width
        bufH := int32 b.height
        bufStride := int32 b.stride } }

def onCommit (t : Transport) (i : Fin clMaxClients) (m : ClCommit) (fds : List Int)
    (k : Kernel) : Transport :=
  let b := m.buffer
  let (t, fds) := consumeFence t b fds
  match fds with
  | [] => t
  | bufFd :: _ =>
      match commitTarget t i m with
      | none => { t with os := t.os.close bufFd }
      | some j =>
          match k.mmap with
          | none => { t with os := t.os.close bufFd }
          | some base =>
              let t := { t with os := (t.os.map base (b.stride * b.height)).close bufFd }
              attachBuffer t (.client i) j b base

def onDestroyWindow (t : Transport) (i : Fin clMaxClients) (m : ClDestroyWindow) : Transport :=
  match winFind (t.clients i) m.wid with
  | none => t
  | some j =>
      let t := winDropBuffer t (.client i) j
      let t := { t with stack := windowDestroy t.stack (t.wins (.client i) j).serverId }
      t.setWin (.client i) j .zero

def onSetGeometry (t : Transport) (i : Fin clMaxClients) (m : ClSetGeometry) : Transport :=
  match winFind (t.clients i) m.wid with
  | none => t
  | some j =>
      let id := ((t.clients i).wins j).serverId
      -- the wallpaper is server-owned at exactly screen size
      if (windowById t.stack id).any (fun w => w.role = .desktop) then t
      else { t with stack := windowSetGeometry t.stack id m.x m.y (int32 m.w) (int32 m.h) }

def onSetCursor (t : Transport) (m : ClSetCursor) (fds : List Int) (k : Kernel) : Transport :=
  let w := int32 m.width
  let h := int32 m.height
  if m.hide ≠ 0 ∨ fds = [] then
    closeFds { t with cursor := { t.cursor with custom := false, hidden := m.hide ≠ 0 } } fds
  else if w ≤ 0 ∨ h ≤ 0 ∨ clCursorMax < w ∨ clCursorMax < h then closeFds t fds
  else
    match k.mmap with
    | none => closeFds t fds
    | some base =>
        let len := w.toNat * h.toNat * 4
        let t := closeFds { t with os := t.os.map base len } fds
        let argb := fun o => if o < w.toNat * h.toNat then k.pixels o else t.cursor.argb o
        { t with
          os := t.os.munmap (.mapping base) len
          cursor := ⟨true, false, w, h, m.hotspotX, m.hotspotY, argb⟩ }

/-! ## Dispatch -/

structure Dispatched where
  t : Transport
  ok : Bool
  dirty : Bool

/-- The client must be dropped; the datagram's descriptors are closed. -/
def rejected (t : Transport) (d : Datagram) (dirty : Bool) : Dispatched :=
  ⟨closeFds t d.fds, false, dirty⟩

def helloAccepted (h : ClHello) : Bool :=
  let neg := if h.version < clVersion then h.version else clVersion
  h.magic = clMagic && clMinVersion ≤ neg && h.minVersion ≤ neg

/-- A v1 hello is shorter and carries no token. -/
def helloToken (d : Datagram) : Nat :=
  if ClHello.size ≤ d.n then (ClHello.read d.buf).reconnectToken else 0

def acceptHello (t : Transport) (i : Fin clMaxClients) (d : Datagram) : Transport :=
  let t := t.setClient i { t.clients i with hello := true }
  let (t, reclaimed) := clientReclaim t i (helloToken d)
  let t :=
    if reclaimed = 0 then
      let (t, tok) := assignToken t
      t.setClient i { t.clients i with token := tok }
    else t
  closeFds (sendWelcome t (t.clients i).fd (t.clients i).token) d.fds

def dispatchHello (t : Transport) (i : Fin clMaxClients) (d : Datagram) (dirty : Bool) :
    Dispatched :=
  if d.buf.u32 0 ≠ clHelloType then rejected t d dirty
  else if d.n < ClHello.tokenOffset then rejected t d dirty
  else if helloAccepted (ClHello.read d.buf) then ⟨acceptHello t i d, true, true⟩
  else rejected t d dirty

def dispatchRequest (t : Transport) (i : Fin clMaxClients) (d : Datagram) (k : Kernel)
    (dirty : Bool) : Dispatched :=
  let type := d.buf.u32 0
  if type = clCreateWindowType then
    if d.n < ClCreateWindow.size then rejected t d dirty
    else ⟨closeFds (onCreateWindow t i (.read d.buf)) d.fds, true, true⟩
  else if type = clSetTitleType then
    if d.n < ClSetTitle.size then rejected t d dirty
    else ⟨closeFds (onSetTitle t i (.read d.buf)) d.fds, true, dirty⟩
  else if type = clCommitType then
    if d.n < ClCommit.size then rejected t d dirty
    else ⟨onCommit t i (.read d.buf) d.fds k, true, true⟩
  else if type = clDestroyWindowType then
    if d.n < ClDestroyWindow.size then rejected t d dirty
    else ⟨closeFds (onDestroyWindow t i (.read d.buf)) d.fds, true, true⟩
  else if type = clSetGeometryType then
    if d.n < ClSetGeometry.size then rejected t d dirty
    else ⟨closeFds (onSetGeometry t i (.read d.buf)) d.fds, true, true⟩
  else if type = clSetCursorType then
    if d.n < ClSetCursor.size then rejected t d dirty
    else ⟨onSetCursor t (.read d.buf) d.fds k, true, true⟩
  else ⟨closeFds t d.fds, true, dirty⟩

def dispatch (t : Transport) (i : Fin clMaxClients) (d : Datagram) (k : Kernel)
    (dirty : Bool) : Dispatched :=
  if d.n < 4 then rejected t d dirty
  else if (t.clients i).hello then dispatchRequest t i d k dirty
  else dispatchHello t i d dirty

/-! ## Client lifecycle -/

def clientByFd (t : Transport) (fd : Int) : Option (Fin clMaxClients) :=
  firstIndex fun i => (t.clients i).fd = fd

/-- A window whose loss would be desktop-ending. -/
def isShellWindow (w : Window) : Bool :=
  w.role == .taskbar || w.role == .desktop || w.role == .tray

def isShellClient (t : Transport) (i : Fin clMaxClients) : Bool :=
  (List.finRange winMax).any fun j =>
    ((t.clients i).wins j).clientWid ≠ 0 &&
      (windowById t.stack ((t.clients i).wins j).serverId).any isShellWindow

/-- The orphan slot that will hold the client's windows, if they are to be held. -/
def parkingSlot (t : Transport) (i : Fin clMaxClients) : Option (Fin clMaxClients) :=
  if tableCount (t.clients i).wins ≠ 0 ∧ (t.clients i).token ≠ 0 ∧ isShellClient t i then
    firstIndex fun k => (t.orphans k).token = 0
  else none

def clientDrop (t : Transport) (i : Fin clMaxClients) (now : Int) : Transport :=
  let c := t.clients i
  let t :=
    match parkingSlot t i with
    | some k => t.setOrphan k ⟨c.token, now + clReconnectGraceMs, c.wins⟩
    | none => destroyTable t (.client i)
  { t with os := t.os.close c.fd }.setClient i (.zero (-1))

/-- One iteration of `client_readable` on a received datagram: dispatch, or drop. -/
def clientDatagram (t : Transport) (i : Fin clMaxClients) (d : Datagram) (k : Kernel)
    (now : Int) (dirty : Bool) : Dispatched :=
  let r := dispatch t i d k dirty
  if r.ok then r else ⟨clientDrop r.t i now, false, true⟩

def transportCreate (stack : WindowStack) (sw sh : Int) : Transport where
  stack := stack
  sw := sw
  sh := sh
  clients := fun _ => .zero (-1)
  orphans := fun _ => .zero
  focusedServerId := 0
  nextToken := 0
  cursor := ⟨false, false, 0, 0, 0, 0, fun _ => 0⟩
  os := ⟨[], [], []⟩
  history := ⟨[], []⟩

/-- `epollOk` is the result of registering the descriptor with epoll. -/
def transportAddClient (t : Transport) (fd : Int) (epollOk : Bool) : Transport :=
  match clientByFd t (-1) with
  | none => { t with os := t.os.close fd }
  | some i =>
      if epollOk then t.setClient i (.zero fd)
      else { t with os := t.os.close fd }.setClient i (.zero (-1))

def transportUpdateFocus (t : Transport) (focusId : Nat) : Transport := notifyFocus t focusId

end CrystallineLattice.Native
