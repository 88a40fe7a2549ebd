import CrystallineLattice.Native.Messages
import Mathlib.Order.Bounds.Basic

/-!
# Version negotiation

The first datagram of a client offers a range of versions.  Whether there is a
version that both sides speak is decided by `dispatch`; which one it is, is
announced by `send_welcome`.
-/

namespace CrystallineLattice.Native

open CrystallineLattice.Foundation
open CrystallineLattice.Stack

def ClHello.Common (h : ClHello) (v : Nat) : Prop :=
  (h.minVersion ≤ v ∧ v ≤ h.version) ∧ clMinVersion ≤ v ∧ v ≤ clVersion

/-- The first datagram of client `i`: a `CL_HELLO` with the right magic, if need be a v1 one. -/
structure FirstHello (t : Transport) (i : Fin clMaxClients) (d : Datagram) : Prop where
  fresh : (t.clients i).hello = false
  type : d.buf.u32 0 = clHelloType
  long : ClHello.tokenOffset ≤ d.n
  magic : (ClHello.read d.buf).magic = clMagic

/--
The client is accepted exactly when there is a common version, and then the one
message it is sent is a `CL_WELCOME` with the largest common version.
-/
def Negotiates (t : Transport) (i : Fin clMaxClients) (d : Datagram) (k : Kernel)
    (dirty : Bool) : Prop :=
  ((dispatch t i d k dirty).ok = true ↔ ∃ v, (ClHello.read d.buf).Common v) ∧
    ((dispatch t i d k dirty).ok = true → ∃ version screenW screenH token,
      (dispatch t i d k dirty).t.os.sent = t.os.sent ++
        [((t.clients i).fd, .welcome clMagic version screenW screenH token)] ∧
      IsGreatest {v | (ClHello.read d.buf).Common v} version)

/-- The version that `dispatch` compares with both minima is the largest candidate. -/
theorem helloAccepted_iff {h : ClHello} (hmagic : h.magic = clMagic) :
    helloAccepted h = true ↔ ∃ v, h.Common v := by
  have hneg : helloAccepted h = true ↔
      clMinVersion ≤ min h.version clVersion ∧ h.minVersion ≤ min h.version clVersion := by
    unfold helloAccepted
    simp only [hmagic, decide_true, Bool.true_and, Bool.and_eq_true, decide_eq_true_eq]
    split <;> rename_i hlt
    · rw [min_eq_left hlt.le]
    · rw [min_eq_right (not_lt.mp hlt)]
  rw [hneg]
  constructor
  · rintro ⟨hours, htheirs⟩
    exact ⟨min h.version clVersion, ⟨htheirs, min_le_left _ _⟩, hours, min_le_right _ _⟩
  · rintro ⟨v, ⟨htheirs, hversion⟩, hours, hv⟩
    have hbest : v ≤ min h.version clVersion := le_min hversion hv
    exact ⟨hours.trans hbest, htheirs.trans hbest⟩

theorem FirstHello.dispatch_eq {t : Transport} {i : Fin clMaxClients} {d : Datagram}
    (h : FirstHello t i d) (k : Kernel) (dirty : Bool) :
    dispatch t i d k dirty =
      if helloAccepted (.read d.buf) then ⟨acceptHello t i d, true, true⟩
      else rejected t d dirty := by
  have hlong : ¬ d.n < 4 := by
    have := h.long
    unfold ClHello.tokenOffset at this
    omega
  rw [dispatch, if_neg hlong, h.fresh]
  rw [dispatchHello, if_neg (not_not.mpr h.type), if_neg (Nat.not_lt.mpr h.long)]
  rfl

theorem version_of_welcome (sent : List (Int × Message)) {fd : Int}
    {magic version version' w h w' h' token token' : Nat}
    (heq : sent ++ [(fd, .welcome magic version w h token)] =
      sent ++ [(fd, .welcome magic version' w' h' token')]) : version = version' := by
  have hwelcome := List.append_cancel_left heq
  simp only [List.cons.injEq, Prod.mk.injEq, Message.welcome.injEq] at hwelcome
  exact hwelcome.1.2.2.1

/--
The negotiation goes as announced except for a client that speaks version 1
and no newer one: it is accepted, and told version 2.
-/
theorem negotiates_iff_not_old {t : Transport} {i : Fin clMaxClients} {d : Datagram}
    (h : FirstHello t i d) (k : Kernel) (dirty : Bool) :
    Negotiates t i d k dirty ↔
      ((ClHello.read d.buf).version = 1 → 1 < (ClHello.read d.buf).minVersion) := by
  have haccepted := helloAccepted_iff h.magic
  obtain ⟨token, hsent, -⟩ := acceptHello_sent t i d
  unfold Negotiates
  rw [h.dispatch_eq k dirty]
  generalize ClHello.read d.buf = hello at haccepted ⊢
  by_cases hok : helloAccepted hello = true
  · simp only [hok, if_true, true_iff, true_implies]
    obtain ⟨v, hv⟩ := haccepted.mp hok
    obtain ⟨⟨hmin, hmax⟩, hours, hours'⟩ := id hv
    unfold clMinVersion at hours
    unfold clVersion at hours'
    constructor
    · rintro ⟨-, version, screenW, screenH, token', hsent', hgreatest⟩ hone
      rw [hsent] at hsent'
      have hversion : clVersion = version := version_of_welcome t.os.sent hsent'
      -- version 2 is announced, but the client does not speak it
      have hcommon : hello.Common version := hgreatest.1
      rw [← hversion] at hcommon
      have := hcommon.1.2
      unfold clVersion at this
      omega
    · intro hnew
      refine ⟨⟨v, hv⟩, clVersion, _, _, token, hsent, ?_⟩
      have htwo : clVersion ≤ hello.version := by
        unfold clVersion
        by_contra hold
        have : hello.version = 1 := by omega
        have := hnew this
        omega
      exact ⟨⟨⟨hmin.trans hours', htwo⟩, by decide, le_refl _⟩, fun w hw => hw.2.2⟩
  · have hnone : ¬ ∃ v, hello.Common v := fun hex => hok (haccepted.mpr hex)
    simp only [hok, rejected, hnone, Bool.false_eq_true, if_false, false_implies, and_true,
      true_iff, iff_self]
    intro hone
    by_contra hmin
    exact hnone ⟨1, ⟨by omega, by omega⟩, by decide, by decide⟩

theorem negotiates_iff_not_old_v2 :
    Negotiates (transportAddClient (transportCreate windowStackInit 1920 1080) 7 true) 0
        (.ofWords [clHelloType, clMagic, 2, 1, 0] []) ⟨none, fun _ => 0⟩ false ↔
      ((ClHello.read (.ofWords [clHelloType, clMagic, 2, 1, 0])).version = 1 →
        1 < (ClHello.read (.ofWords [clHelloType, clMagic, 2, 1, 0])).minVersion) :=
  negotiates_iff_not_old ⟨by decide, by decide, by decide, by decide⟩ _ _

/-- A driver that speaks only version 1 is told that version 2 was negotiated. -/
theorem old_client_told_new_version :
    let t := transportAddClient (transportCreate windowStackInit 1920 1080) 7 true
    let d := Datagram.ofWords [clHelloType, clMagic, 1, 1] []
    FirstHello t 0 d ∧ ¬ Negotiates t 0 d ⟨none, fun _ => 0⟩ false := by
  intro t d
  refine ⟨⟨by decide, by decide, by decide, by decide⟩, ?_⟩
  rintro ⟨-, hwelcome⟩
  obtain ⟨version, screenW, screenH, token, hsent, hgreatest⟩ := hwelcome (by decide)
  have hcommon : (ClHello.read d.buf).Common version := hgreatest.1
  have htold : (dispatch t 0 d ⟨none, fun _ => 0⟩ false).t.os.sent =
      [(7, .welcome clMagic 2 1920 1080 1)] := by decide
  have hlog : t.os.sent = [] := by decide
  have hversion : 2 = version := by
    rw [htold, hlog] at hsent
    exact version_of_welcome [] hsent
  rw [← hversion] at hcommon
  exact absurd hcommon.1.2 (by decide)

end CrystallineLattice.Native
