import CrystallineLattice.Native.Bystander
import CrystallineLattice.Server.Housekeeping
import CrystallineLattice.Wayland.Panes

/-!
# What a connection keeps through the loop

Whatever the server does that is not the connection's own request, the connection
keeps its record, and its windows keep their content: the user and a change of the
resolution only move and resize them.
-/

namespace CrystallineLattice.Server

open CrystallineLattice.Foundation
open CrystallineLattice.Stack
open CrystallineLattice.Native
open CrystallineLattice.Wayland
open CrystallineLattice.Manager

def ServerEvent.About (i : Fin clMaxClients) : ServerEvent → Prop
  | .transport e => e.About i
  | _ => False

instance (i : Fin clMaxClients) : DecidablePred (ServerEvent.About i)
  | .transport e => inferInstanceAs (Decidable (e.About i))
  | .seat _ | .idle .. | .frame _ | .input _ | .wayland _ | .control .. | .hotplug _ | .tail
  | .pass => inferInstanceAs (Decidable False)

namespace ServerRun

structure Preserves (i : Fin clMaxClients) (X Y : ServerRun) : Prop where
  inv : X.Inv → Y.Inv
  client : Y.world.t.clients i = X.world.t.clients i
  content : X.Inv → ∀ id, X.world.t.Names (.client i) id →
    (windowById Y.stack id).map Window.content = (windowById X.stack id).map Window.content

variable {i : Fin clMaxClients} {X Y : ServerRun}

theorem Preserves.names (h : Preserves i X Y) {id : Nat} (hid : X.world.t.Names (.client i) id) :
    Y.world.t.Names (.client i) id := by
  obtain ⟨j, hnames⟩ := hid
  refine ⟨j, ?_⟩
  show ((Y.world.t.clients i).wins j).clientWid ≠ 0 ∧ ((Y.world.t.clients i).wins j).serverId = id
  rw [h.client]
  exact hnames

theorem preserves_housekeeping (i : Fin clMaxClients) : Housekeeping (Preserves i) where
  trans h h' := {
    inv := fun hX => h'.inv (h.inv hX)
    client := h'.client.trans h.client
    content := fun hX id hid =>
      (h'.content (h.inv hX) id (h.names hid)).trans (h.content hX id hid) }
  same hworld hfe hmoving hmoveId := {
    inv := (Keeps.same hworld hfe hmoving hmoveId).inv
    client := by rw [hworld]
    content := fun _ _ _ => by simp only [stack, hworld] }
  send {X t} h _ := {
    inv := fun hX => hX.setTransport h
    client := congrFun h.clients i
    content := fun _ id _ => by
      show (windowById t.stack id).map Window.content = _
      rw [h.stack]
      rfl }
  rearrange hinv hrearranges := {
    inv := hinv
    client := rfl
    content := fun hX id _ => (hrearranges hX).content id }

theorem Preserves.of_passes (hinv : X.Inv → Y.Inv) (h : Passes i X.world.t Y.world.t) :
    Preserves i X Y where
  inv := hinv
  client := h.client
  content _ _ hid :=
    congrArg (Option.map Window.content) (h.windows.windowById_eq (decide_eq_true hid))

theorem Inv.passes_surface (hX : X.Inv) (client : Nat) {e : FeEvent}
    (hours : ∀ stack, e ≠ .outside stack) :
    Passes i X.world.t (X.next (.wayland (.surface client e))).world.t := by
  have hcoherent := hX.coherent
  have hledger := hcoherent.world.ledger
  have hpos : X.fe.stack.nextId ≠ 0 := by
    rw [hcoherent.stack]
    exact Nat.pos_iff_ne_zero.mp hledger.stack.nextPos
  have hagree : X.fe.stack.Agree (X.world.t.namedBy i) (X.fe.next e).stack := by
    refine (next_work hcoherent.contents hpos hours).agree (fun a s hs hid => ?_) ?_
    · refine decide_eq_false fun ⟨j, hocc, hnames⟩ => ?_
      have hforeign := (hcoherent.shown.mapped hs hid).ours
      exact hledger.ours (h := .client i) hocc (hnames ▸ hforeign)
    · rw [hcoherent.stack]
      exact namedBy_nextId hledger
  rw [hcoherent.stack] at hagree
  exact ⟨rfl, hagree⟩

theorem preserves_next (hX : X.Inv) {e : ServerEvent} (hen : X.enabled e)
    (hwithin : (X.next e).Within) (hopen : 0 ≤ (X.world.t.clients i).fd) (hother : ¬ e.About i) :
    Preserves i X (X.next e) := by
  have hhouse (he : ¬ Housekeeping.Outside e) : Preserves i X (X.next e) :=
    (preserves_housekeeping i).next X he
  have hinv : X.Inv → (X.next e).Inv := fun hX => hX.step hen hwithin
  cases e with
  | transport e =>
      have hours (op : OtherOp) : e ≠ .other op := fun heq => by
        have hown := hen.2.1
        rw [heq] at hown
        exact hown
      exact .of_passes hinv (hX.coherent.world.passes hen.2.2 hours hopen hother)
  | wayland e =>
      cases e with
      | surface client e => exact .of_passes hinv (hX.passes_surface client hen.2.2)
      | _ => exact hhouse fun h => h
  | _ => exact hhouse fun h => h

end ServerRun

end CrystallineLattice.Server
