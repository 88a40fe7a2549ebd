import CrystallineLattice.Compositor.Reads
import CrystallineLattice.Native.Invariant

/-!
# Drawing what was committed

`on_commit` maps `stride * height` bytes; the compositor later walks `height`
rows of `width` pixels through them.  The two agree only if a row of pixels is
not longer than the stride, which nothing checks.
-/

namespace CrystallineLattice.Native

open CrystallineLattice.Foundation
open CrystallineLattice.Stack
open CrystallineLattice.Compositor

/-! ## The pixels of a descriptor -/

/-- Every pixel, at the place where the compositor looks for it, lies in the mapped bytes. -/
def ClBuffer.Inside (b : ClBuffer) : Prop :=
  ∀ r c : Int, 0 ≤ r → r < int32 b.height → 0 ≤ c → c < int32 b.width →
    0 ≤ r * int32 b.stride + 4 * c ∧ r * int32 b.stride + 4 * c + 4 ≤ b.stride * b.height

/--
The picture is empty as a C `int` size, or its rows are not longer than the
stride and the stride is an `int` (or never multiplied).
-/
def ClBuffer.Fits (b : ClBuffer) : Prop :=
  b.width = 0 ∨ 2147483648 ≤ b.width ∨ 2147483648 ≤ b.height ∨
    4 * b.width ≤ b.stride ∧ (b.stride < 2147483648 ∨ b.height = 1)

theorem int32_cases {n : Nat} (h : n < 4294967296) :
    n < 2147483648 ∧ int32 n = n ∨ 2147483648 ≤ n ∧ int32 n = n - 4294967296 := by
  unfold int32
  omega

theorem ClBuffer.inside_iff_fits {b : ClBuffer} (hwidth : b.width < 4294967296)
    (hheight : b.height < 4294967296) (hstride : b.stride < 4294967296) (hne : b.height ≠ 0) :
    b.Inside ↔ b.Fits := by
  unfold ClBuffer.Inside ClBuffer.Fits
  have hw := int32_cases hwidth
  have hh := int32_cases hheight
  have hs := int32_cases hstride
  generalize int32 b.width = w at hw ⊢
  generalize int32 b.height = h at hh ⊢
  generalize int32 b.stride = s at hs ⊢
  constructor
  · intro hin
    by_cases hempty : b.width = 0 ∨ 2147483648 ≤ b.width ∨ 2147483648 ≤ b.height
    · tauto
    · refine .inr (.inr (.inr ?_))
      by_cases hsigned : b.stride < 2147483648 ∨ b.height = 1
      · -- the last pixel of the last row
        refine ⟨?_, hsigned⟩
        have hlast := (hin (h - 1) (w - 1) (by omega) (by omega) (by omega) (by omega)).2
        have hrow : (h - 1) * s = (b.stride : Int) * b.height - b.stride := by
          rcases hsigned with hsmall | hone
          · have hs' : s = b.stride := by omega
            have hh' : h = b.height := by omega
            rw [hs', hh']
            ring
          · have hh' : h = 1 := by omega
            simp [hh', hone]
        omega
      · -- the second row starts before the buffer
        have hsecond := (hin 1 0 (by omega) (by omega) (by omega) (by omega)).1
        omega
  · rintro hfits r c hr hrh hc hcw
    obtain ⟨hrows, hsigned⟩ : 4 * b.width ≤ b.stride ∧
        (b.stride < 2147483648 ∨ b.height = 1) := by omega
    have hrow : r * s = r * b.stride := by
      rcases hsigned with hsmall | hone
      · have hs' : s = b.stride := by omega
        rw [hs']
      · have hr0 : r = 0 := by omega
        simp [hr0]
    have hheight' : r + 1 ≤ b.height := by omega
    have hpos : 0 ≤ r * (b.stride : Int) := Int.mul_nonneg hr (by omega)
    have hroom : (r + 1) * (b.stride : Int) ≤ b.height * b.stride :=
      Int.mul_le_mul_of_nonneg_right hheight' (by omega)
    rw [hrow]
    constructor
    · omega
    · calc r * (b.stride : Int) + 4 * c + 4 ≤ (r + 1) * b.stride := by
            rw [Int.add_mul]
            omega
        _ ≤ b.height * b.stride := hroom
        _ = b.stride * b.height := Int.mul_comm _ _

/-! ## The compositor -/

/-- The window at a later time: the same buffer, in any `int` geometry and with any role. -/
structure StillShows (win w : Window) : Prop where
  buf : w.buf = win.buf
  bufW : w.bufW = win.bufW
  bufH : w.bufH = win.bufH
  bufStride : w.bufStride = win.bufStride
  geometry : IsInt32 w.x ∧ IsInt32 w.y ∧ IsInt32 w.w ∧ IsInt32 w.h

/--
With `len` bytes behind its buffer the window is drawn without a fault on every
framebuffer, wherever it is and whatever its size is by then.
-/
def DrawnSafely (win : Window) (len : Nat) : Prop :=
  ∀ (mem : Memory) (fb : DumbFb) (w : Window), StillShows win w → (mem w.buf).len = len →
    ∃ fb', blitBuffer mem fb w (titlebar w) = some fb'

structure Shows (win : Window) (b : ClBuffer) : Prop where
  width : win.bufW = int32 b.width
  height : win.bufH = int32 b.height
  stride : win.bufStride = int32 b.stride

def pixelFb : DumbFb where
  w := 1
  h := 1
  stride := 4
  size := 4
  map := fun _ => 0
  wInt := by decide
  hInt := by decide
  pitch := by decide
  room := by decide

/-- The client's window with pixel `(c, r)` of its buffer in the corner of the screen. -/
def cornered (win : Window) (r c : Int) : Window :=
  { win with x := -c, y := -r, w := 2147483647, h := 2147483647, appDecorated := true }

theorem titlebar_cornered (win : Window) (r c : Int) : titlebar (cornered win r c) = 0 := by
  simp [titlebar, windowHasSsd, cornered]

theorem Shows.reads_cornered {win : Window} {b : ClBuffer} (h : Shows win b) {r c : Int}
    (hr : 0 ≤ r ∧ r < int32 b.height) (hc : 0 ≤ c ∧ c < int32 b.width) :
    Reads pixelFb (cornered win r c) 0 r c := by
  have hheight := (int32_isInt32 b.height).2
  have hwidth := (int32_isInt32 b.width).2
  refine ⟨⟨hr.1, ?_, ?_⟩, ⟨hc.1, ?_, ?_⟩, ?_⟩
  · exact h.height ▸ hr.2
  · change r < int32 (2147483647 - 0)
    rw [int32_of_isInt32 (by decide)]
    omega
  · exact h.width ▸ hc.2
  · change c < 2147483647
    omega
  · have hx : int32 (-c + c) = 0 := by
      rw [Int.add_left_neg]
      decide
    have hline : int32 (-r + 0) = -r := by
      rw [Int.add_zero]
      exact int32_of_isInt32 (by unfold IsInt32; omega)
    have hy : int32 (int32 (-r + 0) + r) = 0 := by
      rw [hline, Int.add_left_neg]
      decide
    change pixelFb.OnScreen (int32 (-c + c)) (int32 (int32 (-r + 0) + r))
    rw [hx, hy]
    unfold DumbFb.OnScreen
    decide

theorem Shows.drawnSafely_iff {win : Window} {b : ClBuffer} (h : Shows win b) :
    DrawnSafely win (b.stride * b.height) ↔ b.Inside := by
  constructor
  · intro hsafe r c hr hrh hc hcw
    have hheight := (int32_isInt32 b.height).2
    have hwidth := (int32_isInt32 b.width).2
    have hgeometry : IsInt32 (-c) ∧ IsInt32 (-r) ∧ IsInt32 2147483647 ∧ IsInt32 2147483647 := by
      unfold IsInt32
      omega
    have hrun := hsafe (fun _ => ⟨(b.stride * b.height : Nat), fun _ => 0⟩) pixelFb
      (cornered win r c) ⟨rfl, rfl, rfl, rfl, hgeometry⟩ rfl
    rw [titlebar_cornered, blitBuffer_succeeds_iff] at hrun
    have hin := hrun r c (h.reads_cornered ⟨hr, hrh⟩ ⟨hc, hcw⟩)
    have hstride : (cornered win r c).bufStride = int32 b.stride := h.stride
    rw [hstride] at hin
    simpa only [Nat.cast_mul] using hin
  · intro hin mem fb w hsame hlen
    rw [blitBuffer_succeeds_iff, hlen]
    intro r c hreads
    have hrow := hreads.row
    have hcol := hreads.col
    rw [hsame.bufH, h.height] at hrow
    rw [hsame.bufW, h.width] at hcol
    have hpixel := hin r c hrow.1 hrow.2.1 hcol.1 hcol.2.1
    rw [hsame.bufStride, h.stride]
    simpa only [Nat.cast_mul] using hpixel

/-! ## The commit -/

section Commit

variable {t : Transport} {i : Fin clMaxClients} {j : Fin winMax} {m : ClCommit} {base : Nat}

theorem onCommit_attaches (hacc : CommitAccepted t i m j) (fds : List Int) (hfds : fds ≠ [])
    (k : Kernel) (hmap : k.mmap = some base) :
    ∃ closed, onCommit t i m fds k =
      attachBuffer
        { t with
          os := { t.os.map base (m.buffer.stride * m.buffer.height) with closed := closed } }
        (.client i) j m.buffer base := by
  obtain ⟨bufFd, rest, rfl⟩ := List.exists_cons_of_ne_nil hfds
  obtain ⟨closed, rest', hfence⟩ : ∃ closed rest', consumeFence t m.buffer (bufFd :: rest) =
      ({ t with os := { t.os with closed := closed } }, bufFd :: rest') := by
    cases rest with
    | nil => exact ⟨_, _, rfl⟩
    | cons fence rest =>
        simp only [consumeFence]
        split
        · exact ⟨_, _, rfl⟩
        · exact ⟨_, _, rfl⟩
  have htarget : commitTarget t i m = some j := commitTarget_eq_some.mpr hacc
  have hsame : commitTarget { t with os := { t.os with closed := closed } } i m = some j := htarget
  simp only [onCommit, hfence, hsame, hmap]
  exact ⟨_, rfl⟩

theorem winDropBuffer_window {h : Holder} {id : Nat} {win : Window}
    (hwin : windowById t.stack id = some win) :
    ∃ win', windowById (winDropBuffer t h j).stack id = some win' := by
  by_cases hnull : (t.wins h j).buf = .null
  · rw [winDropBuffer_null hnull]
    exact ⟨win, hwin⟩
  · have hkeep : ∀ w : Window, ({ w with buf := .null } : Window).id = w.id := fun _ => rfl
    simp only [winDropBuffer, hnull, if_false, stack_setWin]
    rw [windowById_writeById _ hkeep]
    split
    · rename_i heq
      rw [← heq, hwin]
      exact ⟨_, rfl⟩
    · exact ⟨win, hwin⟩

theorem attachBuffer_slot (t : Transport) (h : Holder) (j : Fin winMax) (b : ClBuffer)
    (base : Nat) : (attachBuffer t h j b base).wins h j =
      { (winDropBuffer t h j).wins h j with
        buf := .mapping base, bufLen := b.stride * b.height } := by
  have hset := wins_setWin (winDropBuffer t h j) h j
    { (winDropBuffer t h j).wins h j with buf := .mapping base, bufLen := b.stride * b.height }
  have hslot := congrFun (congrFun hset h) j
  rw [Function.update_self, Function.update_self] at hslot
  rw [← hslot]
  cases h <;> rfl

theorem attachBuffer_shows {h : Holder} (b : ClBuffer) (base : Nat) {win : Window}
    (hwin : windowById t.stack (t.wins h j).serverId = some win) :
    ∃ win', windowById (attachBuffer t h j b base).stack
        ((attachBuffer t h j b base).wins h j).serverId = some win' ∧ Shows win' b ∧
      ((attachBuffer t h j b base).wins h j).bufLen = b.stride * b.height := by
  obtain ⟨-, hid, -⟩ := winDropBuffer_slot t h j
  obtain ⟨old, hold⟩ := winDropBuffer_window (h := h) (j := j) hwin
  have hkeep : ∀ w : Window, ({ w with
      buf := .mapping base
      bufW := int32 b.width
      bufH := int32 b.height
      bufStride := int32 b.stride } : Window).id = w.id := fun _ => rfl
  rw [attachBuffer_slot]
  dsimp only
  rw [hid, attachBuffer]
  dsimp only
  rw [stack_setWin, hid, windowById_writeById _ hkeep, if_pos rfl, hold]
  exact ⟨_, rfl, ⟨rfl, rfl, rfl⟩, rfl⟩

end Commit

/-- The window in slot `j` can be drawn, by what was mapped for it. -/
def DrawsSafely (t : Transport) (i : Fin clMaxClients) (j : Fin winMax) : Prop :=
  ∃ win, windowById t.stack ((t.clients i).wins j).serverId = some win ∧
    DrawnSafely win ((t.clients i).wins j).bufLen

theorem ClCommit.u32_lt (buf : Bytes) : (ClCommit.read buf).buffer.width < 4294967296 ∧
    (ClCommit.read buf).buffer.height < 4294967296 ∧
    (ClCommit.read buf).buffer.stride < 4294967296 :=
  ⟨Bytes.u32_lt _ _, Bytes.u32_lt _ _, Bytes.u32_lt _ _⟩

/--
A buffer that `on_commit` accepts and maps can be drawn safely in every geometry
and on every framebuffer if and only if its descriptor fits.
-/
theorem commit_draws_safely_iff (t : Transport) (i : Fin clMaxClients) (j : Fin winMax)
    (buf : Bytes) (fds : List Int) (k : Kernel) (base : Nat)
    (hacc : CommitAccepted t i (.read buf) j) (hfds : fds ≠ []) (hmap : k.mmap = some base) :
    DrawsSafely (onCommit t i (.read buf) fds k) i j ↔ (ClCommit.read buf).buffer.Fits := by
  obtain ⟨win, hwin⟩ := hacc.window
  obtain ⟨closed, heq⟩ := onCommit_attaches hacc fds hfds k hmap
  obtain ⟨win', hwin', hshows, hlen⟩ := attachBuffer_shows (t := { t with
    os := { t.os.map base _ with closed := closed } }) (h := .client i) (j := j)
    (ClCommit.read buf).buffer base hwin
  obtain ⟨hw, hh, hs⟩ := ClCommit.u32_lt buf
  rw [← ClBuffer.inside_iff_fits hw hh hs hacc.height, ← hshows.drawnSafely_iff, heq]
  unfold DrawsSafely
  constructor
  · rintro ⟨win'', hwin'', hsafe⟩
    obtain rfl : win'' = win' := Option.some.inj (hwin''.symm.trans hwin')
    exact hlen ▸ hsafe
  · intro hsafe
    exact ⟨win', hwin', by rw [← hlen] at hsafe; exact hsafe⟩

def panelTransport : Transport := (World.system.exec (.start 1920 1080) (panelRun.take 4)).t

def panelCommit (width height stride : Nat) : Bytes :=
  .ofWords [clCommitType, 3, clBufShm, width, height, stride, clFormatXrgb8888, 0, 0, 0, 0, 0]

theorem panelTransport_window :
    ∃ win, windowById panelTransport.stack
      ((panelTransport.clients 0).wins ⟨0, by decide⟩).serverId = some win :=
  Option.isSome_iff_exists.mp (by decide)

theorem commit_draws_safely_iff_small :
    DrawsSafely (onCommit panelTransport 0 (.read (panelCommit 4 4 16)) [12]
        ⟨some 4096, fun _ => 0⟩) 0 ⟨0, by decide⟩ ↔
      (ClCommit.read (panelCommit 4 4 16)).buffer.Fits :=
  commit_draws_safely_iff panelTransport 0 ⟨0, by decide⟩ (panelCommit 4 4 16) [12]
    ⟨some 4096, fun _ => 0⟩ 4096
    ⟨by decide, by decide, panelTransport_window, by decide, by decide, by decide⟩
    (by decide) rfl

/-- A row of 2048 pixels in a buffer of 4 bytes is accepted, and read past its end. -/
theorem wide_commit_drawn_outside :
    World.system.Legal (.start 1920 1080) (panelRun.take 4) ∧
      CommitAccepted panelTransport 0 (.read (panelCommit 2048 1 4)) ⟨0, by decide⟩ ∧
      ¬ DrawsSafely (onCommit panelTransport 0 (.read (panelCommit 2048 1 4)) [12]
        ⟨some 4096, fun _ => 0⟩) 0 ⟨0, by decide⟩ := by
  have hrun : World.system.Legal (.start 1920 1080) (panelRun.take 4) :=
    ((System.legal_append _ (panelRun.take 4) (panelRun.drop 4)).mp panelRun_legal).1
  have hacc : CommitAccepted panelTransport 0 (.read (panelCommit 2048 1 4)) ⟨0, by decide⟩ :=
    ⟨by decide, by decide, panelTransport_window, by decide, by decide, by decide⟩
  refine ⟨hrun, hacc, ?_⟩
  rintro ⟨win, hwin, hsafe⟩
  obtain ⟨closed, heq⟩ := onCommit_attaches hacc [12] (by decide) ⟨some 4096, fun _ => 0⟩ rfl
  obtain ⟨old, hold⟩ := panelTransport_window
  obtain ⟨win', hwin', hshows, hlen⟩ := attachBuffer_shows (t := { panelTransport with
    os := { panelTransport.os.map 4096 _ with closed := closed } }) (h := .client 0)
    (ClCommit.read (panelCommit 2048 1 4)).buffer 4096 hold
  rw [heq] at hwin hsafe
  obtain rfl : win = win' := Option.some.inj (hwin.symm.trans hwin')
  have hinside := hshows.drawnSafely_iff.mp (hlen ▸ hsafe)
  have hpixel := (hinside 0 2047 (by decide) (by decide) (by decide) (by decide)).2
  exact absurd hpixel (by decide)

end CrystallineLattice.Native
