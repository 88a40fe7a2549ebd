import CrystallineLattice.Foundation.Loops
import CrystallineLattice.Stack.Model

/-!
# The CPU compositor

This file models the drawing functions of `server.c`.  A framebuffer is the
mapped dumb buffer of `platform.c`: a store outside the mapping and a load
outside a client's buffer are faults, and a faulting run returns `none`.
-/

namespace CrystallineLattice.Compositor

open CrystallineLattice.Foundation
open CrystallineLattice.Stack

/--
A dumb framebuffer.  `map` gives the 32-bit word at each byte offset.  The
kernel allocates it with a pitch that holds a row and a size that holds all
rows.
-/
structure DumbFb where
  w : Int
  h : Int
  stride : Int
  size : Int
  map : Int → UInt32
  wInt : IsInt32 w
  hInt : IsInt32 h
  pitch : 4 * w ≤ stride
  room : stride * h ≤ size

namespace DumbFb

def offset (fb : DumbFb) (px py : Int) : Int := py * fb.stride + 4 * px

def pixel (fb : DumbFb) (px py : Int) : UInt32 := fb.map (fb.offset px py)

def poke (fb : DumbFb) (offset : Int) (value : UInt32) : DumbFb :=
  { fb with map := fun o => if o = offset then value else fb.map o }

/-- `row[x] = value` for the row at `map + y * stride`. -/
def store (fb : DumbFb) (x y : Int) (value : UInt32) : Option DumbFb :=
  if 0 ≤ fb.offset x y ∧ fb.offset x y + 4 ≤ fb.size then
    some (fb.poke (fb.offset x y) value)
  else none

end DumbFb

/-- A mapped client buffer or content block: its length in bytes and its words. -/
structure Block where
  len : Int
  word : Int → UInt32

def Block.load (b : Block) (offset : Int) : Option UInt32 :=
  if 0 ≤ offset ∧ offset + 4 ≤ b.len then some (b.word offset) else none

abbrev Memory := Ptr → Block

def colorDesktop : UInt32 := 0x00101820
def colorTbFocus : UInt32 := 0x003a6fd0
def colorTbPlain : UInt32 := 0x00606060

def fillRect (fb : DumbFb) (x y w h : Int) (color : UInt32) : Option DumbFb :=
  let x0 := if x < 0 then 0 else x
  let y0 := if y < 0 then 0 else y
  let x1 := if int32 (x + w) > fb.w then fb.w else int32 (x + w)
  let y1 := if int32 (y + h) > fb.h then fb.h else int32 (y + h)
  forRange y0 y1 (fun yy fb => forRange x0 x1 (fun xx fb => fb.store xx yy color) fb) fb

def blitPixel (b : Block) (w : Window) (y r c : Int) (fb : DumbFb) : Option DumbFb :=
  let x := int32 (w.x + c)
  if x < 0 ∨ fb.w ≤ x then some fb
  else (b.load (r * w.bufStride + 4 * c)).bind (fb.store x y)

def blitRow (b : Block) (w : Window) (cy0 r : Int) (fb : DumbFb) : Option DumbFb :=
  let y := int32 (int32 (w.y + cy0) + r)
  let cols := if w.w < w.bufW then w.w else w.bufW
  if y < 0 ∨ fb.h ≤ y then some fb
  else forRange 0 cols (fun c fb => blitPixel b w y r c fb) fb

/-- Blit a committed buffer into a window's content rect, below the first `cy0` rows. -/
def blitBuffer (mem : Memory) (fb : DumbFb) (w : Window) (cy0 : Int) : Option DumbFb :=
  let contentH := int32 (w.h - cy0)
  let rows := if contentH < w.bufH then contentH else w.bufH
  forRange 0 rows (blitRow (mem w.buf) w cy0) fb

/-- Height of the server title bar `composite` draws over the window's own rectangle. -/
def titlebar (w : Window) : Int := if windowHasSsd w then decorTitlebarH else 0

def drawTitlebar (focusId : Nat) (fb : DumbFb) (w : Window) : Option DumbFb :=
  if windowHasSsd w then
    fillRect fb w.x w.y w.w decorTitlebarH
      (if w.id = focusId then colorTbFocus else colorTbPlain)
  else some fb

def drawBuffer (mem : Memory) (fb : DumbFb) (w : Window) : Option DumbFb :=
  if w.buf = .null then some fb else blitBuffer mem fb w (titlebar w)

/-- One iteration of the window loop of `composite`. -/
def drawWindow (mem : Memory) (focusId : Nat) (fb : DumbFb) (w : Window) : Option DumbFb :=
  if !w.mapped then some fb
  else do
    let cy0 := titlebar w
    let fb ← drawTitlebar focusId fb w
    let fb ← fillRect fb w.x (int32 (w.y + cy0)) w.w (int32 (w.h - cy0)) w.color
    drawBuffer mem fb w

/-- `composite` up to its call of `draw_cursor`: background, then windows bottom to top. -/
def compositeWindows (mem : Memory) (fb : DumbFb) (s : WindowStack) : Option DumbFb := do
  let fb ← fillRect fb 0 0 fb.w fb.h colorDesktop
  s.windows.foldlM (drawWindow mem s.focusId) fb

end CrystallineLattice.Compositor
