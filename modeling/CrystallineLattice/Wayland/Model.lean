import CrystallineLattice.Compositor.Model
import CrystallineLattice.Stack.Invariant
import Mathlib.Logic.Function.Basic

/-!
# The Wayland frontend

This file models the surface half of `wayland.c`: surfaces, their roles, and the
windows they become.  A `struct fe_surface` is a record in a table, named by the
order of its creation, so a name is never used again; `free` deletes the record.
A resource is a live object of libwayland with the record its user data points
to.  A handler that works on a deleted record is undefined in C, where the memory
may be another surface's by then; here it does nothing but set `fault`.

What libwayland and the allocator decide is part of an event: the handle of a new
resource, the result of `wl_shm_buffer_get`, the address a block is given.
-/

namespace CrystallineLattice.Wayland

open CrystallineLattice.Foundation
open CrystallineLattice.Stack
open CrystallineLattice.Compositor

inductive Kind where
  | surface
  | xdgSurface
  | toplevel
  | decoration
  deriving DecidableEq, Repr

structure Resource where
  kind : Kind
  data : Nat
  deriving DecidableEq, Repr

/-- A client buffer in shared memory, with its words by byte offset. -/
structure ShmBuffer where
  width : Int
  height : Int
  stride : Int
  word : Int → UInt32

structure FeSurface where
  surface : Nat
  xdgSurface : Option Nat
  xdgToplevel : Option Nat
  decoration : Option Nat
  attached : Bool
  pendingBuffer : Option Nat
  initialConfigured : Bool
  content : Ptr
  cw : Int
  ch : Int
  serverId : Nat
  title : List UInt8
  deriving DecidableEq, Repr

def FeSurface.zero (surface : Nat) : FeSurface where
  surface := surface
  xdgSurface := none
  xdgToplevel := none
  decoration := none
  attached := false
  pendingBuffer := none
  initialConfigured := false
  content := .null
  cw := 0
  ch := 0
  serverId := 0
  title := []

/--
What the frontend sends: configures, buffer releases and frame callbacks.  A
toplevel that is configured with a size of 0 by 0 decides about its size itself.
-/
inductive FeMessage where
  | toplevelConfigure (toplevel : Nat) (w h : Int)
  | surfaceConfigure (xdgSurface : Nat)
  | forceSsd (decoration : Nat)
  | release (buffer : Nat)
  | done (callback : Nat)
  deriving DecidableEq, Repr

/--
`struct wl_frontend` with the objects of its clients and its heap blocks.
`created` is bookkeeping for the proofs: the windows made so far, each with the
record it was made for.
-/
structure Frontend where
  stack : WindowStack
  dirty : Bool
  cascade : Int
  surfaces : Nat → Option FeSurface
  nextSurface : Nat
  resources : Nat → Option Resource
  frameCallbacks : List Nat
  blocks : Nat → Option Block
  sent : List FeMessage
  created : List (Nat × Nat)
  fault : Bool

namespace Frontend

def start (stack : WindowStack) : Frontend where
  stack := stack
  dirty := false
  cascade := 0
  surfaces := fun _ => none
  nextSurface := 0
  resources := fun _ => none
  frameCallbacks := []
  blocks := fun _ => none
  sent := []
  created := []
  fault := false

def setSurface (fe : Frontend) (a : Nat) (s : FeSurface) : Frontend :=
  { fe with surfaces := Function.update fe.surfaces a (some s) }

def addResource (fe : Frontend) (r : Nat) (kind : Kind) (a : Nat) : Frontend :=
  { fe with resources := Function.update fe.resources r (some ⟨kind, a⟩) }

def send (fe : Frontend) (m : FeMessage) : Frontend := { fe with sent := fe.sent ++ [m] }

/-- Follow a pointer to the record `a`. -/
def onSurface (fe : Frontend) (a : Nat) (f : FeSurface → Frontend) : Frontend :=
  match fe.surfaces a with
  | none => { fe with fault := true }
  | some s => f s

def onResource (fe : Frontend) (r : Nat) (f : Nat → Frontend) : Frontend :=
  match fe.resources r with
  | none => fe
  | some res => f res.data

def free (blocks : Nat → Option Block) (p : Ptr) : Nat → Option Block :=
  match p with
  | .block address => Function.update blocks address none
  | _ => blocks

end Frontend

/-! ## Content -/

def surfaceUnmap (fe : Frontend) (a : Nat) : Frontend :=
  fe.onSurface a fun s =>
    let fe :=
      if s.serverId ≠ 0 then
        { fe with stack := windowDestroy fe.stack s.serverId, dirty := true }
      else fe
    { fe with blocks := Frontend.free fe.blocks s.content }.setSurface a
      { s with serverId := 0, content := .null, cw := 0, ch := 0 }

/-- One `memcpy` of the copy loop: row `y` of the buffer to row `y` of the block. -/
def copyRow (shmb : ShmBuffer) (block : Block) (y : Nat) : Block :=
  { block with
    word := fun o =>
      if y * (4 * shmb.width) ≤ o ∧ o < (y + 1) * (4 * shmb.width) then
        shmb.word (y * shmb.stride + (o - y * (4 * shmb.width)))
      else block.word o }

def copyRows (shmb : ShmBuffer) (block : Block) : Block :=
  (List.range shmb.height.toNat).foldl (copyRow shmb) block

/-- `heap` is the result of `realloc`, when it is called. -/
def copyShmBuffer (fe : Frontend) (a : Nat) (shmb : ShmBuffer) (heap : Option Nat) : Frontend :=
  fe.onSurface a fun s =>
    if shmb.width ≤ 0 ∨ shmb.height ≤ 0 then fe
    else if s.cw ≠ shmb.width ∨ s.ch ≠ shmb.height then
      match heap with
      | none => fe
      | some address =>
          let block := copyRows shmb ⟨shmb.width * shmb.height * 4, fun _ => 0⟩
          let blocks := Function.update (Frontend.free fe.blocks s.content) address (some block)
          { fe with blocks := blocks }.setSurface a
            { s with content := .block address, cw := shmb.width, ch := shmb.height }
    else
      match s.content with
      | .block address =>
          { fe with
            blocks := Function.update fe.blocks address
              ((fe.blocks address).map (copyRows shmb)) }
      | _ => fe

/-- The writes to `win->buf` and its sizes, made on the first frame and on later ones. -/
def showContent (s : FeSurface) (win : Window) : Window :=
  { win with
    buf := s.content
    bufW := s.cw
    bufH := s.ch
    bufStride := int32 (s.cw * 4) }

def fitContent (s : FeSurface) (win : Window) : Window :=
  { showContent s win with w := s.cw, h := int32 (s.ch + decorTitlebarH) }

def createFor (fe : Frontend) (s : FeSurface) : WindowStack × Nat :=
  let n := fe.cascade.tmod 8
  windowCreate fe.stack .normal (120 + 40 * n) (90 + 40 * n) s.cw
    (int32 (s.ch + decorTitlebarH)) 0x00202020 (if s.title = [] then cString "Wayland" else s.title)

def surfaceMapOrUpdate (fe : Frontend) (a : Nat) : Frontend :=
  fe.onSurface a fun s =>
    if s.serverId ≠ 0 then
      { fe with stack := fe.stack.writeById s.serverId (fitContent s), dirty := true }
    else
      let (stack, id) := createFor fe s
      let fe := { fe with stack := stack, cascade := int32 (fe.cascade + 1) }
      if id = 0 then fe
      else
        { fe with
          stack := windowFocus (stack.writeById id (showContent s)) id
          dirty := true
          created := fe.created ++ [(id, a)] }.setSurface a { s with serverId := id }

/-! ## Requests on a wl_surface -/

def surfAttach (fe : Frontend) (a : Nat) (buffer : Option Nat) : Frontend :=
  fe.onSurface a fun s => fe.setSurface a { s with attached := true, pendingBuffer := buffer }

def surfFrame (fe : Frontend) (a : Nat) (callback : Option Nat) : Frontend :=
  fe.onSurface a fun _ =>
    match callback with
    | none => fe
    | some cb => { fe with frameCallbacks := cb :: fe.frameCallbacks }

def fireFrameCallbacks (fe : Frontend) : Frontend :=
  { fe with
    frameCallbacks := []
    sent := fe.sent ++ fe.frameCallbacks.map .done }

/-- The first configure, in answer to the first commit of an `xdg_surface`. -/
def sendConfigures (fe : Frontend) (xdgSurface : Nat) (xdgToplevel : Option Nat) : Frontend :=
  let fe :=
    match xdgToplevel with
    | some toplevel => fe.send (.toplevelConfigure toplevel 0 0)
    | none => fe
  fe.send (.surfaceConfigure xdgSurface)

/-- The commit of an attached buffer.  `shm` is the result of `wl_shm_buffer_get`. -/
def commitBuffer (fe : Frontend) (a buffer : Nat) (shm : Option ShmBuffer)
    (heap : Option Nat) : Frontend :=
  match shm with
  | none => fe.send (.release buffer)
  | some shmb =>
      let fe := (copyShmBuffer fe a shmb heap).send (.release buffer)
      fe.onSurface a fun s =>
        if s.content ≠ .null ∧ s.xdgToplevel ≠ none then surfaceMapOrUpdate fe a else fe

def surfCommit (fe : Frontend) (a : Nat) (shm : Option ShmBuffer) (heap : Option Nat) :
    Frontend :=
  fe.onSurface a fun s =>
    match s.xdgSurface, s.initialConfigured with
    | some xdgSurface, false =>
        (sendConfigures fe xdgSurface s.xdgToplevel).setSurface a
          { s with initialConfigured := true }
    | _, _ =>
        if s.attached then
          let fe := fe.setSurface a { s with attached := false, pendingBuffer := none }
          match s.pendingBuffer with
          | none => fireFrameCallbacks (surfaceUnmap fe a)
          | some buffer => fireFrameCallbacks (commitBuffer fe a buffer shm heap)
        else fireFrameCallbacks fe

def surfaceResourceDestroy (fe : Frontend) (a : Nat) : Frontend :=
  fe.onSurface a fun _ =>
    let fe := surfaceUnmap fe a
    { fe with surfaces := Function.update fe.surfaces a none }

/-- `resource` is the result of `wl_resource_create`, `memory` that of `calloc`. -/
def compCreateSurface (fe : Frontend) (memory : Bool) (resource : Option Nat) : Frontend :=
  match memory, resource with
  | true, some r =>
      let a := fe.nextSurface
      { fe with nextSurface := a + 1 }.setSurface a (.zero r) |>.addResource r .surface a
  | _, _ => fe

/-! ## Roles -/

def tlSetTitle (fe : Frontend) (a : Nat) (title : List UInt8) : Frontend :=
  fe.onSurface a fun s =>
    let s := { s with title := titleBytes title }
    let fe := fe.setSurface a s
    if s.serverId ≠ 0 then
      { fe with
        stack := fe.stack.writeById s.serverId fun win => { win with title := titleBytes s.title } }
    else fe

def toplevelResourceDestroy (fe : Frontend) (a : Nat) : Frontend :=
  fe.onSurface a fun s => surfaceUnmap (fe.setSurface a { s with xdgToplevel := none }) a

def xsGetToplevel (fe : Frontend) (a : Nat) (resource : Option Nat) : Frontend :=
  match resource with
  | none => fe
  | some r =>
      fe.onSurface a fun s =>
        (fe.setSurface a { s with xdgToplevel := some r }).addResource r .toplevel a

def xdgSurfaceResourceDestroy (fe : Frontend) (a : Nat) : Frontend :=
  fe.onSurface a fun s => fe.setSurface a { s with xdgSurface := none }

def wmGetXdgSurface (fe : Frontend) (a : Nat) (resource : Option Nat) : Frontend :=
  match resource with
  | none => fe
  | some r =>
      fe.onSurface a fun s =>
        (fe.setSurface a { s with xdgSurface := some r }).addResource r .xdgSurface a

def decomgrGet (fe : Frontend) (a : Nat) (resource : Option Nat) : Frontend :=
  match resource with
  | none => fe
  | some r =>
      fe.onSurface a fun s =>
        ((fe.setSurface a { s with decoration := some r }).addResource r .decoration a).send
          (.forceSsd r)

/-! ## Destruction -/

/-- The destructor that was given to `wl_resource_set_implementation`. -/
def destructor (fe : Frontend) (res : Resource) : Frontend :=
  match res.kind with
  | .surface => surfaceResourceDestroy fe res.data
  | .xdgSurface => xdgSurfaceResourceDestroy fe res.data
  | .toplevel => toplevelResourceDestroy fe res.data
  | .decoration => fe

/-- `wl_resource_destroy`, by request or when the client disconnects. -/
def wlResourceDestroy (fe : Frontend) (r : Nat) : Frontend :=
  match fe.resources r with
  | none => fe
  | some res =>
      let fe := destructor fe res
      { fe with resources := Function.update fe.resources r none }

def frameCallbackDestroy (fe : Frontend) (callback : Nat) : Frontend :=
  { fe with frameCallbacks := fe.frameCallbacks.erase callback }

/-! ## Events -/

/--
What reaches the frontend: the clients' requests, the destruction of resources,
and a new stack when the other users of the stack have worked on it.
-/
inductive FeEvent where
  | createSurface (memory : Bool) (resource : Option Nat)
  | getXdgSurface (surface : Nat) (resource : Option Nat)
  | getToplevel (xdgSurface : Nat) (resource : Option Nat)
  | getDecoration (toplevel : Nat) (resource : Option Nat)
  | setTitle (toplevel : Nat) (title : List UInt8)
  | attach (surface : Nat) (buffer : Option Nat)
  | frame (surface : Nat) (callback : Option Nat)
  | commit (surface : Nat) (shm : Option ShmBuffer) (heap : Option Nat)
  | destroy (r : Nat)
  | destroyCallback (callback : Nat)
  | outside (stack : WindowStack)

namespace Frontend

def next (fe : Frontend) : FeEvent → Frontend
  | .createSurface memory resource => compCreateSurface fe memory resource
  | .getXdgSurface r resource => fe.onResource r fun a => wmGetXdgSurface fe a resource
  | .getToplevel r resource => fe.onResource r fun a => xsGetToplevel fe a resource
  | .getDecoration r resource => fe.onResource r fun a => decomgrGet fe a resource
  | .setTitle r title => fe.onResource r fun a => tlSetTitle fe a title
  | .attach r buffer => fe.onResource r fun a => surfAttach fe a buffer
  | .frame r callback => fe.onResource r fun a => surfFrame fe a callback
  | .commit r shm heap => fe.onResource r fun a => surfCommit fe a shm heap
  | .destroy r => wlResourceDestroy fe r
  | .destroyCallback callback => frameCallbackDestroy fe callback
  | .outside stack => { fe with stack := stack }

def Has (fe : Frontend) (kind : Kind) (r : Nat) : Prop :=
  ∃ a, fe.resources r = some ⟨kind, a⟩

/-- A handle that libwayland gives to a new resource is not in use. -/
def NewHandle (fe : Frontend) (resource : Option Nat) : Prop :=
  ∀ r ∈ resource, fe.resources r = none

/-- `realloc` returns memory that is unused once the old block is given back. -/
def NewBlock (fe : Frontend) (r : Nat) (heap : Option Nat) : Prop :=
  ∀ address ∈ heap, ∀ res s, fe.resources r = some res → fe.surfaces res.data = some s →
    free fe.blocks s.content address = none

theorem newHandle_of_none {fe : Frontend} {r : Nat} (h : fe.resources r = none) :
    fe.NewHandle (some r) := by
  rintro r' ⟨⟩
  exact h

theorem newBlock_none (fe : Frontend) (r : Nat) : fe.NewBlock r none := by
  rintro address ⟨⟩

theorem newBlock_of_unused {fe : Frontend} {r address : Nat} {res : Resource} {s : FeSurface}
    (hr : fe.resources r = some res) (hs : fe.surfaces res.data = some s)
    (h : free fe.blocks s.content address = none) : fe.NewBlock r (some address) := by
  rintro address' ⟨⟩ res' s' hr' hs'
  cases hr.symm.trans hr'
  cases hs.symm.trans hs'
  exact h

/-- libwayland hands a request only to a live object of its interface. -/
def enabled (fe : Frontend) : FeEvent → Prop
  | .createSurface _ resource => fe.NewHandle resource
  | .getXdgSurface r resource => fe.Has .surface r ∧ fe.NewHandle resource
  | .getToplevel r resource => fe.Has .xdgSurface r ∧ fe.NewHandle resource
  | .getDecoration r resource => fe.Has .toplevel r ∧ fe.NewHandle resource
  | .setTitle r _ => fe.Has .toplevel r
  | .attach r _ => fe.Has .surface r
  | .frame r _ => fe.Has .surface r
  | .commit r _ heap => fe.Has .surface r ∧ fe.NewBlock r heap
  | .destroy r => ∃ res, fe.resources r = some res
  | .destroyCallback _ => True
  | .outside _ => True

def system : System Frontend FeEvent := ⟨enabled, next⟩

end Frontend

end CrystallineLattice.Wayland
