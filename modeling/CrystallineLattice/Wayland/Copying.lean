import CrystallineLattice.Foundation.Memcpy
import CrystallineLattice.Wayland.Coherence

/-!
# The bytes that a copy touches

`copy_shm_buffer` once more, byte by byte and with its calls of `memcpy`.  The
offsets are products of two 31-bit numbers, which a `size_t` holds.
-/

namespace CrystallineLattice.Wayland

open CrystallineLattice.Foundation
open CrystallineLattice.Compositor

/--
A client buffer that `wl_shm` has accepted: its first `stride * height` bytes are
in the pool.  Further bytes are whatever comes behind them.
-/
structure ShmBytes where
  width : Int
  height : Int
  stride : Int
  byte : Int → UInt8
  width_pos : 0 < width
  height_pos : 0 < height
  width_le : width ≤ stride

structure ByteBlock where
  len : Int
  byte : Int → UInt8

structure PixelContent where
  cw : Int
  ch : Int
  block : Option ByteBlock
  sized : block = none ∧ cw = 0 ∧ ch = 0 ∨
    ∃ b, block = some b ∧ b.len = cw * ch * 4 ∧ 0 < cw

namespace ShmBytes

variable (shmb : ShmBytes)

def memcpys : List Memcpy := Memcpy.rows (shmb.width * 4) shmb.stride shmb.height.toNat

def copyTo (b : ByteBlock) : ByteBlock :=
  { b with byte := Memcpy.performAll shmb.byte shmb.memcpys b.byte }

end ShmBytes

def PixelContent.empty : PixelContent := ⟨0, 0, none, .inl ⟨rfl, rfl, rfl⟩⟩

def PixelContent.overwrite (c : PixelContent) (shmb : ShmBytes) : PixelContent where
  cw := c.cw
  ch := c.ch
  block := c.block.map shmb.copyTo
  sized := by
    rcases c.sized with ⟨hnone, hsize⟩ | ⟨b, hb, hlen⟩
    · exact .inl ⟨by simp [hnone], hsize⟩
    · exact .inr ⟨shmb.copyTo b, by simp [hb], hlen⟩

/-- The buffer is copied to a block of its own size, which holds `fresh`. -/
def PixelContent.replace (shmb : ShmBytes) (fresh : Int → UInt8) : PixelContent where
  cw := shmb.width
  ch := shmb.height
  block := some (shmb.copyTo ⟨shmb.width * shmb.height * 4, fresh⟩)
  sized := .inr ⟨_, rfl, rfl, shmb.width_pos⟩

structure CopyResult where
  content : PixelContent
  memcpys : List Memcpy

/-- `fresh` is what the block of `realloc` holds, when it is called and succeeds. -/
def copyShmBytes (c : PixelContent) (shmb : ShmBytes) (fresh : Option (Int → UInt8)) :
    CopyResult :=
  if shmb.width ≤ 0 ∨ shmb.height ≤ 0 then ⟨c, []⟩
  else if c.cw ≠ shmb.width ∨ c.ch ≠ shmb.height then
    match fresh with
    | none => ⟨c, []⟩
    | some bytes => ⟨.replace shmb bytes, shmb.memcpys⟩
  else ⟨c.overwrite shmb, shmb.memcpys⟩

/--
The copy reads inside the buffer and writes inside the content, and the content
shows the buffer afterwards.
-/
structure StaysInside (c : PixelContent) (shmb : ShmBytes) (fresh : Option (Int → UInt8)) :
    Prop where
  reads : ∀ m ∈ (copyShmBytes c shmb fresh).memcpys, m.ReadsBelow (shmb.stride * shmb.height)
  writes : ∀ m ∈ (copyShmBytes c shmb fresh).memcpys,
    m.WritesBelow ((copyShmBytes c shmb fresh).content.cw *
      (copyShmBytes c shmb fresh).content.ch * 4)
  shows : ∃ b, (copyShmBytes c shmb fresh).content.block = some b ∧
    (copyShmBytes c shmb fresh).content.cw = shmb.width ∧
    (copyShmBytes c shmb fresh).content.ch = shmb.height ∧
    ∀ x y, 0 ≤ x → x < shmb.width → 0 ≤ y → y < shmb.height → ∀ i, 0 ≤ i → i < 4 →
      b.byte (4 * (y * shmb.width + x) + i) = shmb.byte (y * shmb.stride + 4 * x + i)

/-! ## The copy loop -/

namespace ShmBytes

variable (shmb : ShmBytes)

theorem toNat_height : (shmb.height.toNat : Int) = shmb.height :=
  Int.toNat_of_nonneg shmb.height_pos.le

theorem memcpys_read_iff :
    (∀ m ∈ shmb.memcpys, m.ReadsBelow (shmb.stride * shmb.height)) ↔
      4 * shmb.width ≤ shmb.stride := by
  have hw := shmb.width_pos
  have hh := shmb.height_pos
  have hpitch := shmb.width_le
  have hlen : 0 < shmb.width * 4 := by omega
  have hrows := Memcpy.rows_readsBelow_iff hlen (show 0 ≤ shmb.stride by omega)
    (show 0 < shmb.height.toNat by omega)
  rw [shmb.toNat_height] at hrows
  rw [memcpys, hrows, Int.mul_comm]

theorem memcpys_write : ∀ m ∈ shmb.memcpys, m.WritesBelow (shmb.width * shmb.height * 4) := by
  have hw := shmb.width_pos
  have hlen : 0 < shmb.width * 4 := by omega
  have hrows := Memcpy.rows_writesBelow hlen shmb.stride shmb.height.toNat
  rw [shmb.toNat_height] at hrows
  have hsize : shmb.height * (shmb.width * 4) = shmb.width * shmb.height * 4 := by ring
  rwa [hsize] at hrows

theorem copyTo_pixel (b : ByteBlock) {x y i : Int} (hx0 : 0 ≤ x) (hx : x < shmb.width)
    (hy0 : 0 ≤ y) (hy : y < shmb.height) (hi0 : 0 ≤ i) (hi : i < 4) :
    (shmb.copyTo b).byte (4 * (y * shmb.width + x) + i) =
      shmb.byte (y * shmb.stride + 4 * x + i) :=
  Memcpy.performAll_pixel _ _ _ _ hx0 hx hy0 (by rwa [shmb.toNat_height]) hi0 hi

end ShmBytes

/-! ## The two ways to copy -/

section

variable {c : PixelContent} {shmb : ShmBytes} {fresh : Option (Int → UInt8)}

/-- Memory is found, or the block has the right size already. -/
def CanCopy (c : PixelContent) (shmb : ShmBytes) (fresh : Option (Int → UInt8)) : Prop :=
  c.cw = shmb.width ∧ c.ch = shmb.height ∨ fresh ≠ none

theorem copyShmBytes_of_canCopy (h : CanCopy c shmb fresh) :
    (copyShmBytes c shmb fresh).memcpys = shmb.memcpys ∧
      (copyShmBytes c shmb fresh).content.cw = shmb.width ∧
      (copyShmBytes c shmb fresh).content.ch = shmb.height ∧
      ∃ b, (copyShmBytes c shmb fresh).content.block = some (shmb.copyTo b) := by
  have hw := shmb.width_pos
  have hh := shmb.height_pos
  unfold copyShmBytes
  rw [if_neg (by omega)]
  by_cases hsize : c.cw = shmb.width ∧ c.ch = shmb.height
  · rw [if_neg (by omega)]
    rcases c.sized with ⟨-, hcw, -⟩ | ⟨b, hb, -⟩
    · omega
    · exact ⟨rfl, hsize.1, hsize.2, b, by simp [PixelContent.overwrite, hb]⟩
  · rw [if_pos (by omega)]
    cases fresh with
    | none => simp [CanCopy, hsize] at h
    | some bytes => exact ⟨rfl, rfl, rfl, _, rfl⟩

theorem copyShmBytes_of_not_canCopy (h : ¬ CanCopy c shmb fresh) :
    copyShmBytes c shmb fresh = ⟨c, []⟩ := by
  unfold CanCopy at h
  push Not at h
  obtain ⟨hsize, rfl⟩ := h
  unfold copyShmBytes
  split
  · rfl
  · rw [if_pos (by tauto)]

end

/--
What `wl_shm` promises is a row of `stride` pixels, or more bytes, where four bytes
for each pixel are read.
-/
theorem staysInside_iff (c : PixelContent) (shmb : ShmBytes) (fresh : Option (Int → UInt8)) :
    StaysInside c shmb fresh ↔
      4 * shmb.width ≤ shmb.stride ∧
        (c.cw = shmb.width ∧ c.ch = shmb.height ∨ fresh ≠ none) := by
  constructor
  · intro h
    have hcan : CanCopy c shmb fresh := by
      by_contra hcannot
      obtain ⟨-, -, hcw, hch, -⟩ := h.shows
      rw [copyShmBytes_of_not_canCopy hcannot] at hcw hch
      exact hcannot (.inl ⟨hcw, hch⟩)
    have hreads := h.reads
    rw [(copyShmBytes_of_canCopy hcan).1] at hreads
    exact ⟨shmb.memcpys_read_iff.mp hreads, hcan⟩
  · rintro ⟨hfits, hcan⟩
    obtain ⟨hmemcpys, hcw, hch, b, hb⟩ := copyShmBytes_of_canCopy hcan
    constructor
    · rw [hmemcpys]
      exact shmb.memcpys_read_iff.mpr hfits
    · rw [hmemcpys, hcw, hch]
      exact shmb.memcpys_write
    · refine ⟨_, hb, hcw, hch, ?_⟩
      intro x y hx0 hx hy0 hy i hi0 hi
      exact shmb.copyTo_pixel b hx0 hx hy0 hy hi0 hi

/-- Two pixels in a row of two bytes. -/
def narrow : ShmBytes where
  width := 2
  height := 1
  stride := 2
  byte := fun _ => 0
  width_pos := by decide
  height_pos := by decide
  width_le := by decide

theorem narrow_leaves_buffer :
    ¬ ∀ (c : PixelContent) (shmb : ShmBytes) (fresh : Option (Int → UInt8)),
        fresh ≠ none → StaysInside c shmb fresh := by
  intro hinside
  have hreads := (hinside .empty narrow (some fun _ => 0) (by simp)).reads
  have hlast := (hreads ⟨0, 0, 8⟩ (by decide) 7 (by decide) (by decide)).2
  simp [narrow] at hlast

/-! ## The frontend's copy, by words -/

/-- The 32-bit word at an offset, as the machine loads it. -/
def wordAt (byte : Int → UInt8) (o : Int) : UInt32 :=
  UInt32.ofNat ((byte o).toNat + 256 * (byte (o + 1)).toNat + 65536 * (byte (o + 2)).toNat +
    16777216 * (byte (o + 3)).toNat)

def ShmBytes.words (shmb : ShmBytes) : ShmBuffer :=
  ⟨shmb.width, shmb.height, shmb.stride, wordAt shmb.byte⟩

structure Agrees (block : Block) (b : ByteBlock) : Prop where
  len : block.len = b.len
  word : ∀ k, 0 ≤ k → 4 * k + 4 ≤ b.len → block.word (4 * k) = wordAt b.byte (4 * k)

structure Renders (blocks : Nat → Option Block) (s : FeSurface) (c : PixelContent) : Prop where
  cw : s.cw = c.cw
  ch : s.ch = c.ch
  null : c.block = none → s.content = .null
  block : ∀ b, c.block = some b →
    ∃ address block, s.content = .block address ∧ blocks address = some block ∧ Agrees block b

def byteAt (word : Int → UInt32) (o : Int) : UInt8 :=
  UInt8.ofNat ((word (o - o % 4)).toNat / 256 ^ (o % 4).toNat)

theorem wordAt_byteAt (word : Int → UInt32) (k : Int) :
    wordAt (byteAt word) (4 * k) = word (4 * k) := by
  have hlt := (word (4 * k)).toNat_lt
  have hbyte (i : Int) (hi0 : 0 ≤ i) (hi : i < 4) :
      (byteAt word (4 * k + i)).toNat = (word (4 * k)).toNat / 256 ^ i.toNat % 256 := by
    have hrem : (4 * k + i) % 4 = i := by omega
    rw [byteAt, hrem, show 4 * k + i - i = 4 * k by omega, UInt8.toNat_ofNat']
  have hfirst := hbyte 0 (by decide) (by decide)
  rw [Int.add_zero] at hfirst
  apply UInt32.toNat_inj.mp
  rw [wordAt, hfirst, hbyte 1 (by decide) (by decide), hbyte 2 (by decide) (by decide),
    hbyte 3 (by decide) (by decide), UInt32.toNat_ofNat']
  simp only [Int.toNat_zero, Int.toNat_one, Int.reduceToNat, Nat.reducePow]
  omega

theorem Holds.renders {blocks : Nat → Option Block} {s : FeSurface} (h : Holds blocks s) :
    ∃ c, Renders blocks s c := by
  rcases h with ⟨hnull, hcw, hch⟩ | ⟨address, block, hcontent, hblock, hlen, hpos⟩
  · exact ⟨.empty, hcw, hch, fun _ => hnull, by simp [PixelContent.empty]⟩
  · refine ⟨⟨s.cw, s.ch, some ⟨block.len, byteAt block.word⟩, .inr ⟨_, rfl, hlen, hpos⟩⟩,
      rfl, rfl, by simp, ?_⟩
    rintro b hb
    cases hb
    exact ⟨address, block, hcontent, hblock, rfl, fun k _ _ => (wordAt_byteAt block.word k).symm⟩

theorem copyRows_word (shmb : ShmBytes) (block : Block) :
    (copyRows shmb.words block).word =
      Memcpy.performAll shmb.words.word shmb.memcpys block.word := by
  have hrow (b : Block) (y : Nat) : (copyRow shmb.words b y).word =
      Memcpy.perform shmb.words.word b.word (Memcpy.row (shmb.width * 4) shmb.stride y) := by
    funext o
    simp only [copyRow, Memcpy.perform_row, ShmBytes.words, Int.mul_comm 4, Int.add_mul,
      Int.one_mul]
  have hheight : shmb.words.height = shmb.height := rfl
  unfold copyRows ShmBytes.memcpys Memcpy.performAll Memcpy.rows
  rw [List.foldl_map, hheight]
  generalize List.range shmb.height.toNat = rows
  induction rows generalizing block with
  | nil => rfl
  | cons y rows ih => rw [List.foldl_cons, List.foldl_cons, ih, hrow]

/-- The words that `copyRows` writes are those of the bytes that `memcpy` writes. -/
theorem agrees_copyRows {shmb : ShmBytes} {block : Block} {b : ByteBlock}
    (hlen : block.len = b.len) (hsize : b.len = shmb.width * shmb.height * 4) :
    Agrees (copyRows shmb.words block) (shmb.copyTo b) := by
  have hw := shmb.width_pos
  refine ⟨by rw [copyRows_len, hlen, ShmBytes.copyTo], ?_⟩
  intro k hk0 hk
  change 4 * k + 4 ≤ b.len at hk
  obtain ⟨x, y, hx0, hx, hy0, hy, rfl⟩ : ∃ x y, 0 ≤ x ∧ x < shmb.width ∧ 0 ≤ y ∧
      y < shmb.height ∧ k = y * shmb.width + x := by
    refine ⟨k % shmb.width, k / shmb.width, Int.emod_nonneg _ hw.ne', Int.emod_lt_of_pos _ hw,
      Int.ediv_nonneg hk0 hw.le, ?_, by rw [Int.mul_comm, Int.mul_ediv_add_emod]⟩
    apply Int.ediv_lt_of_lt_mul hw
    linarith
  have hword := Memcpy.performAll_pixel shmb.words.word shmb.stride shmb.height.toNat block.word
    hx0 hx hy0 (by rwa [shmb.toNat_height]) (le_refl 0) (by decide)
  have hbyte (i : Int) (hi0 : 0 ≤ i) (hi : i < 4) :=
    shmb.copyTo_pixel b hx0 hx hy0 hy hi0 hi
  rw [Int.add_zero, Int.add_zero] at hword
  have hfirst := hbyte 0 (by decide) (by decide)
  rw [Int.add_zero, Int.add_zero] at hfirst
  rw [copyRows_word, ShmBytes.memcpys, hword]
  unfold ShmBytes.words wordAt
  rw [hfirst, hbyte 1 (by decide) (by decide), hbyte 2 (by decide) (by decide),
    hbyte 3 (by decide) (by decide)]

theorem renders_copyShmBuffer {fe : Frontend} {a : Nat} {s : FeSurface} {c : PixelContent}
    (ha : fe.surfaces a = some s) (hc : Renders fe.blocks s c) (shmb : ShmBytes)
    (heap : Option Nat) (fresh : Option (Int → UInt8)) (hheap : heap = none ↔ fresh = none) :
    ∃ s', (copyShmBuffer fe a shmb.words heap).surfaces a = some s' ∧
      Renders (copyShmBuffer fe a shmb.words heap).blocks s'
        (copyShmBytes c shmb fresh).content := by
  have hw := shmb.width_pos
  have hh := shmb.height_pos
  rw [copyShmBuffer, Frontend.onSurface_eq ha]
  unfold copyShmBytes
  have hwide : ¬ (shmb.words.width ≤ 0 ∨ shmb.words.height ≤ 0) := by
    simp only [ShmBytes.words]
    omega
  rw [if_neg hwide, if_neg (show ¬ (shmb.width ≤ 0 ∨ shmb.height ≤ 0) from hwide), hc.cw, hc.ch]
  by_cases hsize : c.cw ≠ shmb.width ∨ c.ch ≠ shmb.height
  · rw [if_pos (show c.cw ≠ shmb.words.width ∨ c.ch ≠ shmb.words.height from hsize),
      if_pos hsize]
    cases heap with
    | none =>
        cases hheap.mp rfl
        exact ⟨s, ha, hc⟩
    | some address =>
        cases fresh with
        | none => cases hheap.mpr rfl
        | some bytes =>
            refine ⟨_, Function.update_self .., rfl, rfl, by simp [PixelContent.replace], ?_⟩
            rintro b hb
            cases hb
            exact ⟨address, _, rfl, Function.update_self .., agrees_copyRows rfl rfl⟩
  · rw [if_neg (show ¬ (c.cw ≠ shmb.words.width ∨ c.ch ≠ shmb.words.height) from hsize),
      if_neg hsize]
    rcases c.sized with ⟨-, hcw, -⟩ | ⟨b, hb, hlen, -⟩
    · omega
    · obtain ⟨address, block, hcontent, hblock, hagrees⟩ := hc.block b hb
      rw [hcontent]
      refine ⟨s, ha, hc.cw, hc.ch, by simp [PixelContent.overwrite, hb], ?_⟩
      intro b' hb'
      obtain rfl : shmb.copyTo b = b' := by simpa [PixelContent.overwrite, hb] using hb'
      refine ⟨address, copyRows shmb.words block, hcontent, ?_, ?_⟩
      · simp [hblock, ShmBytes.words]
      · apply agrees_copyRows hagrees.len
        have hcw : c.cw = shmb.width := by omega
        have hch : c.ch = shmb.height := by omega
        rw [hlen, hcw, hch]

end CrystallineLattice.Wayland
