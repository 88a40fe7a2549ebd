import CrystallineLattice.Native.World

/-!
# The transport's representation invariant

The ledger's invariant, read back in terms of the transport's own tables.
-/

namespace CrystallineLattice.Native

open CrystallineLattice.Foundation
open CrystallineLattice.Stack

/-- A connected client, or an orphan that holds a token. -/
def Transport.Live (t : Transport) : Holder → Prop
  | .client i => 0 ≤ (t.clients i).fd
  | .orphan k => (t.orphans k).token ≠ 0

/-- A client that has completed the handshake, or an orphan that holds a token. -/
def Transport.InSession (t : Transport) : Holder → Prop
  | .client i => (t.clients i).hello = true
  | .orphan k => (t.orphans k).token ≠ 0

def Transport.Occupied (t : Transport) (h : Holder) (j : Fin winMax) : Prop :=
  t.Live h ∧ (t.wins h j).clientWid ≠ 0

structure Transport.Consistent (t : Transport) : Prop where
  /-- An occupied slot names a window of the stack. -/
  named : ∀ h j, t.Occupied h j → (t.wins h j).serverId ∈ t.stack.ids
  /-- No two occupied slots name the same window. -/
  owner : ∀ h j h' j', t.Occupied h j → t.Occupied h' j' →
    (t.wins h j).serverId = (t.wins h' j').serverId → h = h' ∧ j = j'
  /-- A client uses a window id once. -/
  distinct : ∀ i j j', t.Occupied (.client i) j → t.Occupied (.client i) j' →
    ((t.clients i).wins j).clientWid = ((t.clients i).wins j').clientWid → j = j'
  /-- The live mappings are the buffers of the occupied slots ... -/
  mapped : ∀ base len, (base, len) ∈ t.os.maps ↔ ∃ h j, t.Occupied h j ∧
    (t.wins h j).buf = .mapping base ∧ (t.wins h j).bufLen = len
  buffers : ∀ h j, t.Occupied h j → (t.wins h j).buf = .null ∨
    ∃ base, (t.wins h j).buf = .mapping base
  /-- ... each once. -/
  once : (t.os.maps.map Prod.fst).Nodup
  single : ∀ h j h' j' base, t.Occupied h j → t.Occupied h' j' →
    (t.wins h j).buf = .mapping base → (t.wins h' j').buf = .mapping base → h = h' ∧ j = j'
  /-- The window of an occupied slot shows the slot's buffer. -/
  shown : ∀ h j, t.Occupied h j → ∃ w, windowById t.stack (t.wins h j).serverId = some w ∧
    w.buf = (t.wins h j).buf
  /-- A client without a handshake has no window. -/
  fresh : ∀ i j, (t.clients i).hello = false → ¬ t.Occupied (.client i) j
  tokens : ∀ h, t.InSession h → t.token h ≠ 0
  sessions : ∀ h h', t.InSession h → t.InSession h' → t.token h = t.token h' → h = h'

namespace World

variable {W : World}

theorem Inv.token_ne_zero (hW : W.Inv) {h : Holder} (hsession : W.t.InSession h) :
    W.t.token h ≠ 0 := by
  cases h with
  | client i => exact (hW.session.ready i).mp hsession
  | orphan k => exact hsession

theorem Inv.live (hW : W.Inv) {h : Holder} {j : Fin winMax}
    (hocc : (W.t.wins h j).clientWid ≠ 0) : W.t.Live h := by
  have htoken : W.t.token h ≠ 0 := fun hzero => hocc (hW.ledger.naming.vacant hzero j)
  cases h with
  | client i =>
      have hhello := (hW.session.ready i).mpr htoken
      by_contra hneg
      have hclosed := hW.session.closed i (by simpa [Transport.Live] using hneg)
      simp [hhello] at hclosed
  | orphan k => exact htoken

theorem Inv.consistent (hW : W.Inv) (hT : Ledger.Tokens W.ledger) : W.t.Consistent where
  named h j hocc := (hW.ledger.linked hocc.2).mem_ids
  owner h j h' j' hocc hocc' := hW.ledger.naming.owner hocc.2 hocc'.2
  distinct i j j' hocc _ := hW.ledger.naming.distinct hocc.2
  mapped base len := by
    refine hW.ledger.mapping.mapped.trans ⟨?_, ?_⟩
    · rintro ⟨h, j, hbuf, hlen⟩
      have hocc : (W.t.wins h j).clientWid ≠ 0 := fun hfree => by
        have hnull := hW.ledger.mapping.free hfree
        rw [hbuf] at hnull
        cases hnull
      exact ⟨h, j, ⟨hW.live hocc, hocc⟩, hbuf, hlen⟩
    · rintro ⟨h, j, -, hbuf, hlen⟩
      exact ⟨h, j, hbuf, hlen⟩
  buffers h j _ := by
    cases hbuf : (W.t.wins h j).buf with
    | null => exact .inl rfl
    | mapping base => exact .inr ⟨base, rfl⟩
    | block address => exact (hW.ledger.mapping.heap hbuf).elim
  once := hW.ledger.mapping.once
  single h j h' j' base _ _ := hW.ledger.mapping.single
  shown h j hocc := by
    obtain ⟨w, hw, hbuf, -⟩ := hW.ledger.linked hocc.2
    exact ⟨w, hw, hbuf⟩
  fresh i j hfresh hocc :=
    hocc.2 (hW.ledger.naming.vacant (h := .client i) (hW.session.fresh hfresh) j)
  tokens h := hW.token_ne_zero
  sessions h h' hsession _ := hT.sessions (hW.token_ne_zero hsession)

end World

/--
Every run of the transport from its creation, in any interleaving of
connections, datagrams, drops and expiries with the other users of the stack,
in which fewer than `2^32 - 1` windows are created and fewer than `2^32 - 1`
tokens are issued, ends in a consistent state.
-/
theorem transport_consistent (sw sh : Int) (es : List Event)
    (hrun : World.system.Legal (.start sw sh) es)
    (hwithin : (World.system.exec (.start sw sh) es).Within)
    (htokens : (World.system.exec (.start sw sh) es).TokensWithin) :
    (World.system.exec (.start sw sh) es).t.Consistent := by
  obtain ⟨hinv, htok⟩ := (World.start_inv sw sh).run_tokens (World.start_tokens sw sh) hrun
    hwithin htokens
  exact hinv.consistent htok

/-- A panel connects, opens a taskbar, shows a frame and hangs up; another window comes and goes. -/
def panelRun : List Event :=
  [.addClient 7 true,
    .datagram 0 (.ofWords [clHelloType, clMagic, 2, 1, 0] []) ⟨none, fun _ => 0⟩ 10,
    .other (.call (.create .normal 5 5 300 200 0 [])),
    .datagram 0 (.ofWords [clCreateWindowType, 3, clRoleTaskbar, 0, 1040, 1920, 40] [])
      ⟨none, fun _ => 0⟩ 20,
    .datagram 0 (.ofWords [clCommitType, 3, clBufShm, 4, 4, 16, clFormatXrgb8888, 0, 0, 0, 0, 0]
      [12]) ⟨some 4096, fun _ => 0⟩ 30,
    .hangup 0 40,
    .other (.call (.destroy 1))]

theorem panelRun_legal : World.system.Legal (.start 1920 1080) panelRun := by
  have hfd : (0 : Int) ≤ 7 := by decide
  have hconnected :
      0 ≤ ((World.system.exec (.start 1920 1080) (panelRun.take 5)).t.clients 0).fd := by decide
  have hours : 1 ∈ (World.system.exec (.start 1920 1080) (panelRun.take 6)).foreign := by decide
  exact ⟨hfd, ⟨by decide, by decide⟩, trivial, ⟨by decide, by decide⟩,
    ⟨by decide, by decide⟩, hconnected, hours, trivial⟩

theorem transport_consistent_panelRun :
    (World.system.exec (.start 1920 1080) panelRun).t.Consistent :=
  transport_consistent 1920 1080 panelRun panelRun_legal (by decide) (by decide)

end CrystallineLattice.Native
