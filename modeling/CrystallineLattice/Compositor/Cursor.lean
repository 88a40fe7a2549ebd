import CrystallineLattice.Compositor.Model
import CrystallineLattice.Native.Model

/-!
# The cursor

The last thing `composite` draws is the cursor, at the position that the window
manager keeps: the shape that a client has set, or the built-in arrow.
-/

namespace CrystallineLattice.Compositor

open CrystallineLattice.Foundation
open CrystallineLattice.Stack
open CrystallineLattice.Native

/-- `X` is the outline, `.` the fill, and a blank is transparent. -/
def arrow : List String :=
  ["X          ", "XX         ", "X.X        ", "X..X       ",
    "X...X      ", "X....X     ", "X.....X    ", "X......X   ",
    "X.......X  ", "X....XXXXX ", "X..X..X    ", "X.X X..X   ",
    "XX   X..X  ", "X    X..X  ", "      X..X ", "       XX  "]

def arrowInk (r c : Int) : Char := ((arrow.getD r.toNat "").toList).getD c.toNat ' '

/-- `row[x]` of the row at `map + y * stride`, read before it is written again. -/
def DumbFb.recolor (fb : DumbFb) (x y : Int) (f : UInt32 → UInt32) : Option DumbFb :=
  fb.store x y (f (fb.pixel x y))

def arrowPixel (cx cy r c : Int) (fb : DumbFb) : Option DumbFb :=
  let p := arrowInk r c
  let x := int32 (cx + c)
  let y := int32 (cy + r)
  if p = ' ' ∨ x < 0 ∨ fb.w ≤ x ∨ y < 0 ∨ fb.h ≤ y then some fb
  else fb.store x y (if p = 'X' then 0x00000000 else 0x00ffffff)

def mixChannel (px d a shift : UInt32) : UInt32 :=
  (((px >>> shift) &&& 0xff) * a + ((d >>> shift) &&& 0xff) * (255 - a)) / 255

def blend (px d : UInt32) : UInt32 :=
  let a := px >>> 24
  if a = 0xff then px &&& 0x00ffffff
  else (mixChannel px d a 16 <<< 16) ||| (mixChannel px d a 8 <<< 8) ||| mixChannel px d a 0

def shapePixel (cur : ClCursor) (ox y r c : Int) (fb : DumbFb) : Option DumbFb :=
  let x := int32 (ox + c)
  let px := cur.argb (r * cur.w + c).toNat
  if x < 0 ∨ fb.w ≤ x ∨ px >>> 24 = 0 then some fb else fb.recolor x y (blend px)

def shapeRow (cur : ClCursor) (ox oy r : Int) (fb : DumbFb) : Option DumbFb :=
  let y := int32 (oy + r)
  if y < 0 ∨ fb.h ≤ y then some fb
  else forRange 0 cur.w (fun c fb => shapePixel cur ox y r c fb) fb

def drawCursor (cur : ClCursor) (cx cy : Int) (fb : DumbFb) : Option DumbFb :=
  if cur.hidden then some fb
  else if cur.custom then
    let ox := int32 (cx - cur.hotspotX)
    let oy := int32 (cy - cur.hotspotY)
    forRange 0 cur.h (shapeRow cur ox oy) fb
  else forRange 0 16 (fun r fb => forRange 0 11 (fun c fb => arrowPixel cx cy r c fb) fb) fb

def composite (mem : Memory) (fb : DumbFb) (s : WindowStack) (cx cy : Int) (cur : ClCursor) :
    Option DumbFb :=
  (compositeWindows mem fb s).bind (drawCursor cur cx cy)

theorem composite_hidden (mem : Memory) (fb : DumbFb) (s : WindowStack) (cx cy : Int)
    {cur : ClCursor} (hhidden : cur.hidden = true) :
    composite mem fb s cx cy cur = compositeWindows mem fb s := by
  unfold composite
  cases compositeWindows mem fb s with
  | none => rfl
  | some fb' => simp [drawCursor, hhidden]

end CrystallineLattice.Compositor
