import CrystallineLattice.Foundation.Reading
import CrystallineLattice.Native.Wire

/-!
# Reading the wire format byte by byte

The fields and messages of `Wire` as computations whose reads can be listed.  A
handler may return before it has looked at every field of its message; here all
of them are taken as read.
-/

namespace CrystallineLattice.Native

open CrystallineLattice.Foundation

abbrev BufferReading := Reading Nat UInt8

/-! ## Fields -/

def readU32 (offset : Nat) : BufferReading Nat := do
  let b0 ← Reading.cell offset
  let b1 ← Reading.cell (offset + 1)
  let b2 ← Reading.cell (offset + 2)
  let b3 ← Reading.cell (offset + 3)
  return b0.toNat + 256 * b1.toNat + 65536 * b2.toNat + 16777216 * b3.toNat

def readI32 (offset : Nat) : BufferReading Int := do
  return int32 (← readU32 offset)

section

variable {buf : Bytes} {n : Nat}

@[simp] theorem run_readU32 (offset : Nat) : (readU32 offset).run buf = buf.u32 offset := rfl

@[simp] theorem run_readI32 (offset : Nat) : (readI32 offset).run buf = buf.i32 offset := by
  rw [readI32, Reading.run_bind, Reading.run_pure, run_readU32, Bytes.i32]

@[simp] theorem reads_readU32 (offset : Nat) :
    (readU32 offset).Reads buf (· < n) ↔ offset + 3 < n := by
  simp only [readU32, Reading.reads_bind, Reading.reads_cell, Reading.reads_pure, and_true]
  omega

@[simp] theorem reads_readI32 (offset : Nat) :
    (readI32 offset).Reads buf (· < n) ↔ offset + 3 < n := by
  simp [readI32]

end

/-! ## Messages -/

def ClHello.reading : BufferReading ClHello := do
  let version ← readU32 8
  let magic ← readU32 4
  let minVersion ← readU32 12
  return ⟨magic, version, minVersion, 0⟩

def ClCreateWindow.reading : BufferReading ClCreateWindow := do
  let wid ← readU32 4
  let role ← readU32 8
  let x ← readI32 12
  let y ← readI32 16
  let w ← readU32 20
  let h ← readU32 24
  return ⟨wid, role, x, y, w, h⟩

def ClSetTitle.reading : BufferReading ClSetTitle := do
  let wid ← readU32 4
  let title ← Reading.cellsAt ((List.range clTitleMax).map fun i => 8 + i)
  return ⟨wid, title⟩

def ClBuffer.reading (offset : Nat) : BufferReading ClBuffer := do
  let kind ← readU32 offset
  let width ← readU32 (offset + 4)
  let height ← readU32 (offset + 8)
  let stride ← readU32 (offset + 12)
  let format ← readU32 (offset + 16)
  let hasFence ← readU32 (offset + 32)
  return ⟨kind, width, height, stride, format, hasFence⟩

def ClCommit.reading : BufferReading ClCommit := do
  let wid ← readU32 4
  let buffer ← ClBuffer.reading 8
  return ⟨wid, buffer⟩

def ClDestroyWindow.reading : BufferReading ClDestroyWindow := do
  return ⟨← readU32 4⟩

def ClSetGeometry.reading : BufferReading ClSetGeometry := do
  let wid ← readU32 4
  let x ← readI32 8
  let y ← readI32 12
  let w ← readU32 16
  let h ← readU32 20
  return ⟨wid, x, y, w, h⟩

def ClSetCursor.reading : BufferReading ClSetCursor := do
  let width ← readU32 4
  let height ← readU32 8
  let hotspotX ← readI32 12
  let hotspotY ← readI32 16
  let hide ← readU32 20
  return ⟨width, height, hotspotX, hotspotY, hide⟩

section

variable (buf : Bytes)

theorem ClHello.run_reading :
    ClHello.reading.run buf = { ClHello.read buf with reconnectToken := 0 } := by
  simp [ClHello.reading, ClHello.read]

theorem ClCreateWindow.run_reading : ClCreateWindow.reading.run buf = .read buf := by
  simp [ClCreateWindow.reading, ClCreateWindow.read]

theorem ClSetTitle.run_reading : ClSetTitle.reading.run buf = .read buf := by
  simp [ClSetTitle.reading, ClSetTitle.read, Function.comp_def]

theorem ClCommit.run_reading : ClCommit.reading.run buf = .read buf := by
  simp [ClCommit.reading, ClCommit.read, ClBuffer.reading, ClBuffer.read]

theorem ClDestroyWindow.run_reading : ClDestroyWindow.reading.run buf = .read buf := by
  simp [ClDestroyWindow.reading, ClDestroyWindow.read]

theorem ClSetGeometry.run_reading : ClSetGeometry.reading.run buf = .read buf := by
  simp [ClSetGeometry.reading, ClSetGeometry.read]

theorem ClSetCursor.run_reading : ClSetCursor.reading.run buf = .read buf := by
  simp [ClSetCursor.reading, ClSetCursor.read]

theorem ClHello.reads : ClHello.reading.Reads buf (· < ClHello.tokenOffset) := by
  simp [ClHello.reading, ClHello.tokenOffset]

theorem ClCreateWindow.reads : ClCreateWindow.reading.Reads buf (· < ClCreateWindow.size) := by
  simp [ClCreateWindow.reading, ClCreateWindow.size]

theorem ClSetTitle.reads : ClSetTitle.reading.Reads buf (· < ClSetTitle.size) := by
  simp [ClSetTitle.reading, ClSetTitle.size, clTitleMax]
  omega

theorem ClCommit.reads : ClCommit.reading.Reads buf (· < ClCommit.size) := by
  simp [ClCommit.reading, ClBuffer.reading, ClCommit.size]

theorem ClDestroyWindow.reads :
    ClDestroyWindow.reading.Reads buf (· < ClDestroyWindow.size) := by
  simp [ClDestroyWindow.reading, ClDestroyWindow.size]

theorem ClSetGeometry.reads : ClSetGeometry.reading.Reads buf (· < ClSetGeometry.size) := by
  simp [ClSetGeometry.reading, ClSetGeometry.size]

theorem ClSetCursor.reads : ClSetCursor.reading.Reads buf (· < ClSetCursor.size) := by
  simp [ClSetCursor.reading, ClSetCursor.size]

end

end CrystallineLattice.Native
