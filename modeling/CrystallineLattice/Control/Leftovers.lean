import CrystallineLattice.Control.Model
import CrystallineLattice.Native.WireReading

/-!
# Leftovers in the request buffer

`control_process` tests the received length against the offset of `output`, which
is behind `type` and `magic`.  The size and the refresh rate of a `SET_MODE` are
further behind: a `SET_MODE` that ends before them takes them from what the
buffer held before.
-/

namespace CrystallineLattice.Control

open CrystallineLattice.Foundation
open CrystallineLattice.Native
open CrystallineLattice.Platform

/-- What is done about a datagram; a mode is set with what is passed to `apply`, if there is one. -/
inductive Act where
  | drop
  | listOutputs
  | setMode (passed : Option (Int × Int × Int))
  deriving DecidableEq, Repr

/-- The part of `control_process` that reads the buffer; `applies` is that there is an `apply`. -/
def readAct (applies : Bool) (n : Nat) : BufferReading Act :=
  if GlctlRequest.outputOffset ≤ n then do
    let magic ← readU32 4
    if magic = glctlMagic then
      let type ← readU32 0
      if type = glctlGetOutputs then return .listOutputs
      else if type = glctlSetMode then
        if applies then
          let w ← readI32 40
          let h ← readI32 44
          let refreshMhz ← readI32 48
          return .setMode (some (w, h, refreshMhz))
        else return .setMode none
      else return .drop
    else return .drop
  else return .drop

section

variable {υ κ : Type*} (user : User υ κ)

/-- The part of `control_process` that does not see the buffer. -/
def Act.perform (u : υ) (conn : Option Connector) (answers : κ) : Act → υ × Option Response
  | .drop => (u, none)
  | .listOutputs => (u, some (handleGetOutputs (user.kms u) conn))
  | .setMode passed =>
      match user.applyMode, passed with
      | some apply, some (w, h, refreshMhz) =>
          let r := apply u answers w h refreshMhz
          (r.1, some (.result glctlResult glctlMagic r.2))
      | _, _ => (u, some (.result glctlResult glctlMagic false))

def actOn (d : Request) : Act := (readAct user.applyMode.isSome d.n).run d.buf

structure ShortSetMode (d : Request) : Prop where
  /-- The mode is applied. -/
  applies : user.applyMode.isSome = true
  long : GlctlRequest.outputOffset ≤ d.n
  short : d.n < GlctlRequest.size
  magic : d.buf.u32 4 = glctlMagic
  type : d.buf.u32 0 = glctlSetMode

/-! ## Reading is what `respond` does -/

theorem actOn_eq (d : Request) :
    actOn user d =
      if GlctlRequest.outputOffset ≤ d.n ∧ d.buf.u32 4 = glctlMagic then
        if d.buf.u32 0 = glctlGetOutputs then .listOutputs
        else if d.buf.u32 0 = glctlSetMode then
          .setMode
            (if user.applyMode.isSome then some (d.buf.i32 40, d.buf.i32 44, d.buf.i32 48)
            else none)
        else .drop
      else .drop := by
  unfold actOn readAct
  rw [Reading.run_ite, Reading.run_bind, run_readU32, Reading.run_ite, Reading.run_bind,
    run_readU32, Reading.run_ite, Reading.run_ite, Reading.run_ite]
  split_ifs <;> simp_all

theorem perform_actOn (d : Request) (u : υ) (conn : Option Connector) (answers : κ) :
    (actOn user d).perform user u conn answers = respond user u conn answers (some d) := by
  rw [actOn_eq]
  unfold respond
  dsimp only [GlctlRequest.read]
  split
  · split
    · rfl
    · split
      · unfold User.apply Act.perform
        cases user.applyMode <;> rfl
      · rfl
  · rfl

/-! ## Which bytes are read -/

theorem reads_of_not_short {d : Request} (h : ¬ ShortSetMode user d) :
    (readAct user.applyMode.isSome d.n).Reads d.buf (· < d.n) := by
  have hpure (a : Act) : (pure a : BufferReading Act).Reads d.buf (· < d.n) :=
    Reading.reads_pure a
  unfold readAct
  split
  · rename_i hlong
    have hlong' : 8 ≤ d.n := hlong
    refine (Reading.reads_bind _ _).mpr ⟨(reads_readU32 4).mpr (by omega), ?_⟩
    rw [run_readU32]
    split
    · rename_i hmagic
      refine (Reading.reads_bind _ _).mpr ⟨(reads_readU32 0).mpr (by omega), ?_⟩
      rw [run_readU32]
      split
      · exact hpure _
      · split
        · rename_i htype
          split
          · rename_i happlies
            have hfull : 52 ≤ d.n := Nat.le_of_not_lt fun hshort =>
              h ⟨happlies, hlong, hshort, hmagic, htype⟩
            simp only [Reading.reads_bind, reads_readI32]
            exact ⟨by omega, by omega, by omega, hpure _⟩
          · exact hpure _
        · exact hpure _
    · exact hpure _
  · exact hpure _

theorem ShortSetMode.not_reads {d : Request} (h : ShortSetMode user d) :
    ¬ (readAct user.applyMode.isSome d.n).Reads d.buf (· < d.n) := by
  have hshort : d.n < 52 := h.short
  unfold readAct
  rw [if_pos h.long, h.applies]
  simp only [Reading.reads_bind, run_readU32, h.magic, if_pos, h.type]
  rw [if_neg (by decide)]
  simp only [Reading.reads_bind, reads_readI32]
  omega

/-! ## What the leftovers decide -/

def passed (d : Request) : Option (Int × Int × Int) :=
  match actOn user d with
  | .setMode args => args
  | _ => none

/-- The buffer before the datagram has no influence on what is passed to `apply` and sent. -/
def DecidedByReceived (d : Request) : Prop :=
  ∀ buf, (∀ o < d.n, buf o = d.buf o) →
    passed user ⟨d.n, buf⟩ = passed user d ∧
      ∀ (u : υ) (conn : Option Connector) (answers : κ),
        (respond user u conn answers (some ⟨d.n, buf⟩)).2 =
          (respond user u conn answers (some d)).2

theorem decidedByReceived_of_reads {d : Request}
    (h : (readAct user.applyMode.isSome d.n).Reads d.buf (· < d.n)) :
    DecidedByReceived user d := by
  intro buf hagree
  have hact : actOn user ⟨d.n, buf⟩ = actOn user d :=
    (Reading.run_congr (h.mono fun o ho => (hagree o ho).symm)).symm
  refine ⟨by rw [passed, passed, hact], fun u conn answers => ?_⟩
  rw [← perform_actOn, ← perform_actOn, hact]

/-- The last byte of a buffer for a request differs: so does the refresh rate. -/
def otherLeftovers (buf : Bytes) : Bytes := Function.update buf 51 (buf 51 + 1)

theorem otherLeftovers_u32 (buf : Bytes) {offset : Nat} (h : offset < 48) :
    (otherLeftovers buf).u32 offset = buf.u32 offset := by
  have hsame {o : Nat} (ho : o < 51) : otherLeftovers buf o = buf o :=
    Function.update_of_ne (Nat.ne_of_lt ho) _ _
  unfold Bytes.u32
  rw [hsame (by omega), hsame (by omega), hsame (by omega), hsame (by omega)]

theorem otherLeftovers_refresh (buf : Bytes) : (otherLeftovers buf).i32 48 ≠ buf.i32 48 := by
  have hsame {o : Nat} (ho : o < 51) : otherLeftovers buf o = buf o :=
    Function.update_of_ne (Nat.ne_of_lt ho) _ _
  have hlast : otherLeftovers buf (48 + 3) = buf (48 + 3) + 1 := Function.update_self _ _ _
  have hne : (buf (48 + 3) + 1).toNat ≠ (buf (48 + 3)).toNat := by
    have hlt := (buf (48 + 3)).toNat_lt
    have hone : (1 : UInt8).toNat = 1 := rfl
    rw [UInt8.toNat_add, hone]
    omega
  have hold := Bytes.u32_lt buf 48
  have hnew := Bytes.u32_lt (otherLeftovers buf) 48
  have hword : (otherLeftovers buf).u32 48 ≠ buf.u32 48 := by
    unfold Bytes.u32
    rw [hsame (by omega), hsame (by omega), hsame (by omega), hlast]
    omega
  unfold Bytes.i32 int32
  omega

theorem ShortSetMode.passed_eq {d : Request} (h : ShortSetMode user d) :
    passed user d = some (d.buf.i32 40, d.buf.i32 44, d.buf.i32 48) := by
  have hother : glctlSetMode ≠ glctlGetOutputs := by decide
  rw [passed, actOn_eq, if_pos ⟨h.long, h.magic⟩, h.type, if_neg hother, if_pos rfl,
    if_pos h.applies]

theorem ShortSetMode.not_decided {d : Request} (h : ShortSetMode user d) :
    ¬ DecidedByReceived user d := by
  intro hdecided
  have hshort : d.n < 52 := h.short
  have hagree : ∀ o < d.n, otherLeftovers d.buf o = d.buf o := fun o ho =>
    Function.update_of_ne (by omega) _ _
  have hother : ShortSetMode user ⟨d.n, otherLeftovers d.buf⟩ :=
    ⟨h.applies, h.long, h.short, (otherLeftovers_u32 _ (by decide)).trans h.magic,
      (otherLeftovers_u32 _ (by decide)).trans h.type⟩
  have hsame := (hdecided _ hagree).1
  rw [hother.passed_eq, h.passed_eq] at hsame
  simp only [Option.some.injEq, Prod.mk.injEq] at hsame
  exact otherLeftovers_refresh d.buf hsame.2.2

/--
All that is read was received, and nothing else has an influence on what is passed
to `apply` and sent, exactly if the datagram is not a `SET_MODE` of 8 to 51 bytes
that is applied.
-/
theorem reads_received_iff (d : Request) :
    ((readAct user.applyMode.isSome d.n).Reads d.buf (· < d.n) ↔ ¬ ShortSetMode user d) ∧
      (DecidedByReceived user d ↔ ¬ ShortSetMode user d) := by
  refine ⟨⟨fun hreads h => h.not_reads user hreads, reads_of_not_short user⟩, ?_⟩
  constructor
  · exact fun hdecided h => h.not_decided user hdecided
  · exact fun h => decidedByReceived_of_reads user (reads_of_not_short user h)

end

def willingUser : User (Int × Int × Int) Unit where
  kms _ := ⟨1, 2, 3, ⟨148500, 1920, 2200, 1080, 1125, 60, 0, drmModeTypePreferred⟩, 7⟩
  applyMode := some fun _ _ w h refreshMhz => ((w, h, refreshMhz), true)

def headerOnly : Request := ⟨8, .ofWords [glctlSetMode, glctlMagic]⟩

/-- The same 8 bytes, received where a longer request was before. -/
def headerOnlyAgain : Request :=
  ⟨8, .ofWords [glctlSetMode, glctlMagic, 0, 0, 0, 0, 0, 0, 0, 0, 800, 600, 60000]⟩

/-- Eight bytes make the server set the mode that an earlier request asked for. -/
theorem header_sets_leftover_mode :
    passed willingUser headerOnly = some (0, 0, 0) ∧
      passed willingUser headerOnlyAgain = some (800, 600, 60000) ∧
      ¬ DecidedByReceived willingUser headerOnly ∧
      ¬ (readAct willingUser.applyMode.isSome headerOnly.n).Reads headerOnly.buf
        (· < headerOnly.n) := by
  have hzero : passed willingUser headerOnly = some (0, 0, 0) := by decide +kernel
  have hleft : passed willingUser headerOnlyAgain = some (800, 600, 60000) := by decide +kernel
  have hagree : ∀ o < headerOnly.n, headerOnlyAgain.buf o = headerOnly.buf o := by
    decide +kernel
  have hlast : 51 ∈ (readAct willingUser.applyMode.isSome headerOnly.n).cells headerOnly.buf := by
    decide +kernel
  refine ⟨hzero, hleft, fun hdecided => ?_, fun hreads => ?_⟩
  · have hsame : passed willingUser headerOnlyAgain = passed willingUser headerOnly :=
      (hdecided _ hagree).1
    rw [hzero, hleft] at hsame
    exact absurd hsame (by decide)
  · have hbelow : 51 < 8 := hreads 51 hlast
    omega

end CrystallineLattice.Control
