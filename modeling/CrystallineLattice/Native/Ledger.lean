import CrystallineLattice.Native.Requests

/-!
# The window ledger

The transport, seen as a book of who owns what: a window of the stack is entered
in one slot of one holder (a connected client or a parked orphan), and a client
mapping is entered with it.  Each entry of the book is made by one of a few
operations.  Other users of the stack appear as operations of their own, on
windows that are not in the book.
-/

namespace CrystallineLattice.Native

open CrystallineLattice.Foundation
open CrystallineLattice.Stack

structure Ledger where
  stack : WindowStack
  token : Holder → Nat
  wins : Holder → WinTable
  maps : List (Nat × Nat)
  nextToken : Nat
  created : List (Nat × Nat)
  issued : List Nat
  /-- The ids of the windows that the other users of the stack created. -/
  foreign : List Nat

/-- What another user of the stack does: a call into `window.c`, or a write to a window. -/
inductive OtherOp where
  | call (op : StackOp)
  | edit (id : Nat) (f : Window → Window)

inductive LedgerOp where
  | grant (h : Holder)
  | transfer (src dst : Holder)
  | create (h : Holder) (j : Fin winMax) (m : ClCreateWindow) (sw sh : Int)
  | retitle (h : Holder) (j : Fin winMax) (title : List UInt8)
  | place (h : Holder) (j : Fin winMax) (x y w ht : Int)
  | unmap (h : Holder) (j : Fin winMax)
  | attach (h : Holder) (j : Fin winMax) (b : ClBuffer) (base : Nat)
  | close (h : Holder) (j : Fin winMax)
  | vacate (h : Holder)
  | other (op : OtherOp)

namespace Ledger

def Owns (L : Ledger) (h : Holder) (j : Fin winMax) (id : Nat) : Prop :=
  (L.wins h j).clientWid ≠ 0 ∧ (L.wins h j).serverId = id

def setWin (L : Ledger) (h : Holder) (j : Fin winMax) (w : ClWin) : Ledger :=
  { L with wins := Function.update L.wins h (Function.update (L.wins h) j w) }

def setTable (L : Ledger) (h : Holder) (token : Nat) (wins : WinTable) : Ledger :=
  { L with
    token := Function.update L.token h token
    wins := Function.update L.wins h wins }

def stackWithNew (s : WindowStack) (m : ClCreateWindow) (sw sh : Int) : WindowStack :=
  applyRolePolicy
    ((requestedWindow s m).1.writeById s.nextId fun win => { win with appDecorated := true })
    (roleFromWire m.role) s.nextId sw sh

/-- The other users' stack, and the ids they created. -/
def otherNext (s : WindowStack) (foreign : List Nat) : OtherOp → WindowStack × List Nat
  | .call op =>
      let r := StackHistory.next ⟨s, foreign, []⟩ op
      (r.stack, r.returned)
  | .edit id f => (s.writeById id f, foreign)

def next (L : Ledger) : LedgerOp → Ledger
  | .grant h =>
      { L with
        token := Function.update L.token h (tokenAfter L.nextToken)
        nextToken := tokenAfter L.nextToken
        issued := L.issued ++ [tokenAfter L.nextToken] }
  | .transfer src dst =>
      (L.setTable dst (L.token src) (L.wins src)).setTable src 0 fun _ => .zero
  | .create h j m sw sh =>
      { L with
        stack := stackWithNew L.stack m sw sh
        created := L.created ++ [(L.stack.nextId, L.token h)] }.setWin h j
          { L.wins h j with clientWid := m.wid, serverId := L.stack.nextId }
  | .retitle h j title =>
      { L with
        stack := L.stack.writeById (L.wins h j).serverId fun win => { win with title := title } }
  | .place h j x y w ht =>
      { L with stack := windowSetGeometry L.stack (L.wins h j).serverId x y w ht }
  | .unmap h j =>
      { L with
        stack := L.stack.writeById (L.wins h j).serverId fun win => { win with buf := .null }
        maps :=
          match (L.wins h j).buf with
          | .mapping base => L.maps.erase (base, (L.wins h j).bufLen)
          | _ => L.maps }.setWin h j { L.wins h j with buf := .null, bufLen := 0 }
  | .attach h j b base =>
      { L with
        stack := L.stack.writeById (L.wins h j).serverId fun win =>
          { win with
            buf := .mapping base
            bufW := int32 b.width
            bufH := int32 b.height
            bufStride := int32 b.stride }
        maps := (base, b.stride * b.height) :: L.maps }.setWin h j
          { L.wins h j with buf := .mapping base, bufLen := b.stride * b.height }
  | .close h j =>
      { L with stack := windowDestroy L.stack (L.wins h j).serverId }.setWin h j .zero
  | .vacate h => L.setTable h 0 fun _ => .zero
  | .other op =>
      { L with
        stack := (otherNext L.stack L.foreign op).1
        foreign := (otherNext L.stack L.foreign op).2 }

/-- Other users destroy and redraw only what they created. -/
def OtherAllowed (foreign : List Nat) : OtherOp → Prop
  | .call (.destroy id) => id ∈ foreign
  | .call _ => True
  | .edit id f =>
      (∀ w, (f w).id = w.id) ∧ (id ∈ foreign ∨ ∀ w, (f w).content = w.content)

def enabled (L : Ledger) : LedgerOp → Prop
  | .grant h => ∀ j, (L.wins h j).clientWid = 0
  | .transfer src dst => L.token src ≠ 0 ∧ L.token dst = 0
  | .create h j m _ _ =>
      L.token h ≠ 0 ∧ (L.wins h j).clientWid = 0 ∧ L.stack.count < winMax ∧
        (m.wid ≠ 0 → ∀ j', (L.wins h j').clientWid ≠ m.wid)
  | .unmap h j => (L.wins h j).clientWid ≠ 0 ∧ (L.wins h j).buf ≠ .null
  | .attach h j _ base =>
      (L.wins h j).clientWid ≠ 0 ∧ (L.wins h j).buf = .null ∧ base ∉ L.maps.map Prod.fst
  | .close h j => (L.wins h j).clientWid ≠ 0 ∧ (L.wins h j).buf = .null
  | .vacate h => ∀ j, (L.wins h j).clientWid = 0
  | .other op => OtherAllowed L.foreign op
  | .retitle h j _ => (L.wins h j).clientWid ≠ 0
  | .place h j .. => (L.wins h j).clientWid ≠ 0

def system : System Ledger LedgerOp := ⟨enabled, next⟩

end Ledger

end CrystallineLattice.Native
