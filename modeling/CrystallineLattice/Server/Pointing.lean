import CrystallineLattice.Compositor.Cursor
import CrystallineLattice.Compositor.Refinement
import CrystallineLattice.Server.Routing

/-!
# Pointer coordinates and pixels

Three places know where a window's content begins: the compositor, the transport
and the Wayland frontend, each with a rule of its own for the title bar.  Where a
motion reaches a client, its coordinates are those of the pixel of the client's
buffer that the compositor has painted there.  The cursor comes on top of it.
-/

namespace CrystallineLattice.Server

open CrystallineLattice.Foundation
open CrystallineLattice.Stack
open CrystallineLattice.Compositor
open CrystallineLattice.Native
open CrystallineLattice.Wayland
open CrystallineLattice.Manager

structure MotionDelivery extends Delivery where
  lx : Int
  ly : Int
  deriving DecidableEq, Repr

def nativeMotions (sent : List (Int × Message)) : List MotionDelivery :=
  sent.filterMap fun
    | (fd, .input wid .motion x y _ _) => some ⟨⟨.native fd, wid⟩, x, y⟩
    | _ => none

/-- The motions among messages to Wayland clients, whose pointer is in the window `focus`. -/
def waylandMotions (focus : Nat) (sent : List (Nat × SeatMessage)) : List MotionDelivery :=
  sent.filterMap fun
    | (client, .motion _ x y) => some ⟨⟨.wayland client, focus⟩, x, y⟩
    | _ => none

namespace ServerRun

def motionDeliveries (X : ServerRun) (cx cy : Int) : List MotionDelivery :=
  let t := transportPointerMotion X.world.t cx cy
  let seat := wlFrontendPointerMotion X.fe X.seat cx cy
  nativeMotions (t.os.sent.drop X.world.t.os.sent.length) ++
    waylandMotions seat.pointerFocus (seat.sent.drop X.seat.sent.length)

def picture (X : ServerRun) (mem : Memory) (fb : DumbFb) (cx cy : Int) : Option DumbFb :=
  composite mem fb X.stack cx cy X.world.t.cursor

/--
A motion is delivered for the topmost window under the cursor only, through one
transport only, and where its coordinates are in the window's buffer the colour
that was painted there, if painting ended, is that of the buffer's pixel.
-/
structure PointerAgrees (X : ServerRun) (mem : Memory) (cx cy : Int) (color : Option UInt32) :
    Prop where
  top : ∀ d ∈ X.motionDeliveries cx cy, ∃ w, windowAt X.stack cx cy = some w ∧
    X.Owns d.toDelivery w.id ∧ 0 ≤ d.lx ∧ 0 ≤ d.ly ∧
    (w.buf ≠ .null → d.lx < w.bufW → d.ly < w.bufH →
      ∀ c ∈ color, c = (mem w.buf).word (d.ly * w.bufStride + 4 * d.lx))
  one : ∀ d ∈ X.motionDeliveries cx cy, ∀ d' ∈ X.motionDeliveries cx cy, d = d'

end ServerRun

/-! ## What is sent -/

theorem mem_transportPointerMotion {t : Transport} {cx cy : Int} {d : MotionDelivery} :
    d ∈ nativeMotions ((transportPointerMotion t cx cy).os.sent.drop t.os.sent.length) ↔
      ∃ w i j, pointerTarget t.stack cx cy = some w ∧ findByServerId t w.id = some (i, j) ∧
        d = ⟨⟨.native (t.clients i).fd, ((t.clients i).wins j).clientWid⟩, cx - w.x,
          cy - w.y - winTitlebar w⟩ := by
  unfold transportPointerMotion pointerInput
  cases htarget : pointerTarget t.stack cx cy with
  | none => simp [nativeMotions]
  | some w =>
      dsimp only
      cases hfind : findByServerId t w.id with
      | none => simp [nativeMotions, hfind]
      | some p =>
          obtain ⟨i, j⟩ := p
          simp [nativeMotions, clSend, Os.send, hfind]

structure Tells (P : Nat × SeatMessage → Prop) (seat seat' : Seat) : Prop where
  client : seat'.client = seat.client
  sent : ∃ rest, seat'.sent = seat.sent ++ rest ∧ ∀ q ∈ rest, P q

namespace Tells

variable {P : Nat × SeatMessage → Prop} {seat seat' seat'' : Seat}

theorem trans (h : Tells P seat seat') (h' : Tells P seat' seat'') : Tells P seat seat'' := by
  obtain ⟨rest, hsent, hrest⟩ := h.sent
  obtain ⟨rest', hsent', hrest'⟩ := h'.sent
  refine ⟨h'.client.trans h.client, rest ++ rest', ?_, fun q hq => ?_⟩
  · rw [hsent', hsent, List.append_assoc]
  · exact (List.mem_append.mp hq).elim (hrest q) (hrest' q)

theorem same (hclient : seat'.client = seat.client) (hsent : seat'.sent = seat.sent) :
    Tells P seat seat' :=
  ⟨hclient, [], by rw [hsent, List.append_nil], by simp⟩

theorem tell (seat : Seat) (devices : List Device) (client : Nat) {m : Device → SeatMessage}
    (hm : ∀ d, P (client, m d)) : Tells P seat (seat.tell devices client m) := by
  refine ⟨rfl, _, rfl, fun q hq => ?_⟩
  obtain ⟨d, -, rfl⟩ := List.mem_map.mp hq
  exact hm d

theorem send (seat : Seat) {client : Nat} {m : SeatMessage} (hm : P (client, m)) :
    Tells P seat (seat.send client m) := by
  refine ⟨rfl, _, rfl, fun q hq => ?_⟩
  rw [List.mem_singleton.mp hq]
  exact hm

theorem pointerLeave (fe : Frontend) (seat : Seat)
    (hm : ∀ client r serial surface, P (client, .leave r serial surface)) :
    Tells P seat (pointerLeave fe seat) := by
  unfold Wayland.pointerLeave
  dsimp only
  split
  · exact .same rfl rfl
  · exact (same rfl rfl : Tells P seat seat.nextSerial).trans (.tell _ _ _ fun _ => hm _ _ _ _)

theorem pointerFrameAll (seat : Seat) (client : Nat) (hm : ∀ client r, P (client, .frame r)) :
    Tells P seat (pointerFrameAll seat client) :=
  .tell _ _ _ fun _ => hm _ _

theorem pointerEnter (seat : Seat) (target : Option Hover)
    (henter : ∀ client r serial surface x y, P (client, .enter r serial surface x y))
    (hframe : ∀ client r, P (client, .frame r)) :
    Tells P seat (pointerEnter seat target) := by
  unfold Wayland.pointerEnter
  cases target with
  | none => exact .same rfl rfl
  | some t =>
      refine (same rfl rfl : Tells P seat seat.nextSerial).trans ?_
      dsimp only
      generalize seat.nextSerial.pointers.filter _ = devices
      generalize seat.nextSerial.client t.record = client
      generalize seat.nextSerial.serial = serial
      generalize seat.nextSerial = acc
      induction devices generalizing acc with
      | nil => exact .same rfl rfl
      | cons d devices ih =>
          rw [List.foldl_cons]
          refine .trans ?_ (ih _)
          exact (send acc (henter _ _ _ _ _ _)).trans (.pointerFrameAll _ _ hframe)

theorem refocus (fe : Frontend) (seat : Seat) (target : Option Hover)
    (hleave : ∀ client r serial surface, P (client, .leave r serial surface))
    (henter : ∀ client r serial surface x y, P (client, .enter r serial surface x y))
    (hframe : ∀ client r, P (client, .frame r)) :
    Tells P seat (if hoverId target ≠ seat.pointerFocus then
      { Wayland.pointerEnter (Wayland.pointerLeave fe seat) target with
        pointerFocus := hoverId target } else seat) := by
  split
  · have hleft := Tells.pointerLeave fe seat hleave
    have hentered := Tells.pointerEnter (Wayland.pointerLeave fe seat) target henter hframe
    exact (hleft.trans hentered).trans (.same rfl rfl)
  · exact .same rfl rfl

end Tells

theorem of_mem_wlFrontendPointerMotion {fe : Frontend} {seat : Seat} {cx cy : Int} {focus : Nat}
    {d : MotionDelivery}
    (h : d ∈ waylandMotions focus ((wlFrontendPointerMotion fe seat cx cy).sent.drop
      seat.sent.length)) :
    ∃ t, hover fe cx cy = some t ∧
      d = ⟨⟨.wayland (seat.client t.record), focus⟩, t.lx, t.ly⟩ := by
  let P : Nat × SeatMessage → Prop := fun q => ∀ r x y, q.2 = .motion r x y →
    ∃ t, hover fe cx cy = some t ∧ q.1 = seat.client t.record ∧ x = t.lx ∧ y = t.ly
  have htells : Tells P seat (wlFrontendPointerMotion fe seat cx cy) := by
    unfold wlFrontendPointerMotion
    dsimp only
    have hfocus := Tells.refocus (P := P) fe seat (hover fe cx cy) (by simp [P]) (by simp [P])
      (by simp [P])
    cases htarget : hover fe cx cy with
    | none =>
        rw [htarget] at hfocus
        exact hfocus
    | some t =>
        rw [htarget] at hfocus
        dsimp only
        refine hfocus.trans (.trans (.trans ?_ (.tell _ _ _ fun d r x y heq => ?_))
          (.pointerFrameAll _ _ (by simp [P])))
        · exact .same rfl rfl
        · cases heq
          exact ⟨t, htarget, congrFun hfocus.client t.record, rfl, rfl⟩
  obtain ⟨rest, hsent, hrest⟩ := htells.sent
  rw [hsent, List.drop_left] at h
  obtain ⟨⟨client, m⟩, hq, hd⟩ := List.mem_filterMap.mp h
  cases m with
  | motion r x y =>
      obtain ⟨t, ht, hclient, rfl, rfl⟩ := hrest _ hq r x y rfl
      cases hd
      have hclient : client = seat.client t.record := hclient
      exact ⟨t, ht, by rw [hclient]⟩
  | _ => cases hd

/-! ## The content's origin -/

section Content

variable {X : ServerRun}

theorem titlebar_of_shows (hX : X.Inv) {a : Nat} {s : FeSurface} {w : Window}
    (hs : X.fe.surfaces a = some s) (hid : s.serverId ≠ 0) (hw : w ∈ X.stack.windows)
    (hshows : s.serverId = w.id) : titlebar w = decorTitlebarH := by
  obtain ⟨v, hv, hrole, happ, -⟩ := (hX.coherent.shown.mapped hs hid).window
  have hwell : X.stack.WellFormed := hX.coherent.world.ledger.stack
  have hfind : windowById X.stack w.id = some w := by
    rw [windowById_eq_lookup]
    exact (KeyedList.lookup_eq_some_iff hwell.nodup).mpr ⟨hw, rfl⟩
  rw [X.feStack, hshows] at hv
  cases (view_eq_some hfind).symm.trans hv
  have hssd : windowHasSsd w = true := by
    have hrole : w.role = .normal := hrole
    have happ : w.appDecorated = false := happ
    simp [windowHasSsd, hrole, happ]
  rw [titlebar, if_pos hssd]

theorem motionDeliveries_cases {cx cy : Int} {d : MotionDelivery}
    (h : d ∈ X.motionDeliveries cx cy) :
    (∃ w i j, pointerTarget X.stack cx cy = some w ∧
      findByServerId X.world.t w.id = some (i, j) ∧
      d = ⟨⟨.native (X.world.t.clients i).fd, ((X.world.t.clients i).wins j).clientWid⟩,
        cx - w.x, cy - w.y - winTitlebar w⟩) ∨
    ∃ t, hover X.fe cx cy = some t ∧
      d = ⟨⟨.wayland (X.seat.client t.record), t.hit.id⟩, t.lx, t.ly⟩ := by
  rcases List.mem_append.mp h with h | h
  · exact .inl (mem_transportPointerMotion.mp h)
  · obtain ⟨t, ht, rfl⟩ := of_mem_wlFrontendPointerMotion h
    refine .inr ⟨t, ht, ?_⟩
    rw [pointerFocus_wlFrontendPointerMotion, ht]
    rfl

theorem of_mem_motionDeliveries (hX : X.Inv) {cx cy : Int} {d : MotionDelivery}
    (h : d ∈ X.motionDeliveries cx cy) :
    ∃ w, windowAt X.stack cx cy = some w ∧ X.Owns d.toDelivery w.id ∧ d.lx = cx - w.x ∧
      d.ly = cy - w.y - titlebar w ∧ 0 ≤ d.ly := by
  rcases motionDeliveries_cases h with ⟨w, i, j, htarget, hfind, rfl⟩ | ⟨t, ht, rfl⟩
  · obtain ⟨hw, hbelow⟩ := Option.filter_eq_some_iff.mp htarget
    have hbelow : w.y + winTitlebar w ≤ cy := of_decide_eq_true hbelow
    refine ⟨w, hw, owns_of_findByServerId hfind, rfl, rfl, ?_⟩
    show 0 ≤ cy - w.y - winTitlebar w
    omega
  · obtain ⟨hw, hfind, hlx, hly, hnonneg⟩ := hover_eq_some ht
    obtain ⟨hid, hs, hshows⟩ := surfaceByWindow_eq_some hfind
    rw [X.feStack] at hw
    have hmem : t.hit ∈ X.stack.windows :=
      List.mem_reverse.mp (List.mem_of_find?_eq_some hw)
    have hbar := titlebar_of_shows hX hs (hshows ▸ hid) hmem hshows
    refine ⟨t.hit, hw, ⟨rfl, hid, t.record, t.surface, hs, hshows, rfl⟩, hlx, ?_, hnonneg⟩
    show t.ly = cy - t.hit.y - titlebar t.hit
    rw [hbar, hly]
    omega

theorem same_of_mem_motionDeliveries (hX : X.Inv) {cx cy : Int} {d d' : MotionDelivery}
    (h : d ∈ X.motionDeliveries cx cy) (h' : d' ∈ X.motionDeliveries cx cy) : d = d' := by
  obtain ⟨w, hw, hown, -⟩ := of_mem_motionDeliveries hX h
  obtain ⟨w', hw', hown', -⟩ := of_mem_motionDeliveries hX h'
  cases hw.symm.trans hw'
  rcases motionDeliveries_cases h with ⟨v, i, j, htarget, hfind, rfl⟩ | ⟨t, ht, rfl⟩ <;>
    rcases motionDeliveries_cases h' with ⟨v', i', j', htarget', hfind', rfl⟩ | ⟨t', ht', rfl⟩
  · cases htarget.symm.trans htarget'
    cases hfind.symm.trans hfind'
    rfl
  · exact (not_both_own hX hown hown').elim
  · exact (not_both_own hX hown' hown).elim
  · cases ht.symm.trans ht'
    rfl

/-- Under the cursor, the colour of the painted windows is that of the motion's coordinates. -/
theorem pointerAgrees_painted (hX : X.Inv) {mem : Memory} {fb : DumbFb} {cx cy : Int}
    (hdraw : ∀ w ∈ X.stack.windows, Drawable w) (hpix : fb.OnScreen cx cy) :
    X.PointerAgrees mem cx cy
      ((compositeWindows mem fb X.stack).map fun fb' => fb'.pixel cx cy) := by
  refine ⟨fun d hd => ?_, fun d hd d' hd' => same_of_mem_motionDeliveries hX hd hd'⟩
  obtain ⟨w, hw, hown, hlx, hly, hnonneg⟩ := of_mem_motionDeliveries hX hd
  have hinside := List.find?_some hw
  have hleft : w.x ≤ cx := by
    simp only [Bool.and_eq_true, Window.contains, decide_eq_true_eq] at hinside
    omega
  refine ⟨w, hw, hown, by omega, hnonneg, fun hbuf hcol hrow c hc => ?_⟩
  obtain ⟨fb', hpaint, rfl⟩ := Option.map_eq_some_iff.mp hc
  rw [hly] at hnonneg hrow
  rw [hlx] at hcol
  rw [pixel_of_compositeWindows hdraw hpaint hpix, scenePixel, hw, hlx, hly]
  exact windowPixel_content hnonneg hbuf hrow hcol

end Content

/--
In every state of a run of the server in which fewer than `2^32 - 1` windows were
created, the windows that `composite` has painted before it draws the cursor agree
with the motion that the clients are sent; and a hidden cursor leaves them.
-/
theorem motions_agree_with_painted (S : Setup) (es : List ServerEvent)
    (hrun : ServerRun.system.Legal S.start es)
    (hwithin : (ServerRun.system.exec S.start es).Within) (mem : Memory) {fb : DumbFb}
    {cx cy : Int}
    (hdraw : ∀ w ∈ (ServerRun.system.exec S.start es).stack.windows, Drawable w)
    (hpix : fb.OnScreen cx cy) :
    let X := ServerRun.system.exec S.start es
    X.PointerAgrees mem cx cy
        ((compositeWindows mem fb X.stack).map fun fb' => fb'.pixel cx cy) ∧
      (X.world.t.cursor.hidden = true →
        X.picture mem fb cx cy = compositeWindows mem fb X.stack) :=
  ⟨pointerAgrees_painted (S.start_inv.run hrun hwithin) hdraw hpix,
    fun hhidden => composite_hidden mem fb _ cx cy hhidden⟩

/-- In the next iteration the native client shows a buffer of one pixel. -/
def commitRun : List ServerEvent :=
  openRun ++ [.seat true, .idle 1 false, .frame ⟨true, true⟩, .pass,
    .transport (.datagram 0
      (.ofWords [clCommitType, 3, clBufShm, 1, 1, 4, clFormatXrgb8888, 0, 0, 0, 0, 0] [9])
      ⟨some 4096, fun _ => 0⟩ 30)]

theorem commitRun_legal : ServerRun.system.Legal plainSetup.start commitRun :=
  openRun_append_legal ⟨⟨rfl, rfl⟩, rfl, rfl, .inl rfl,
    ⟨rfl, trivial, by decide +kernel, by decide +kernel⟩, trivial⟩

def tinyFb : DumbFb where
  w := 8
  h := 8
  stride := 32
  size := 256
  map := fun _ => 0
  wInt := by decide
  hInt := by decide
  pitch := by decide
  room := by decide

def whiteMemory : Memory := fun _ => ⟨4, fun _ => 0x00ffffff⟩

theorem motions_agree_with_painted_commitRun :
    let X := ServerRun.system.exec plainSetup.start commitRun
    X.PointerAgrees whiteMemory 5 5
        ((compositeWindows whiteMemory tinyFb X.stack).map fun fb' => fb'.pixel 5 5) ∧
      (X.world.t.cursor.hidden = true →
        X.picture whiteMemory tinyFb 5 5 = compositeWindows whiteMemory tinyFb X.stack) :=
  motions_agree_with_painted plainSetup commitRun commitRun_legal (by decide +kernel) whiteMemory
    (by decide +kernel) (by decide)

/-- The motion tells the client of its white pixel, over which the arrow's black tip is drawn. -/
theorem arrow_covers_the_pixel :
    let X := ServerRun.system.exec plainSetup.start commitRun
    ServerRun.system.Legal plainSetup.start commitRun ∧ X.Within ∧
      (∀ w ∈ X.stack.windows, Drawable w) ∧ tinyFb.OnScreen 5 5 ∧
      ¬ X.PointerAgrees whiteMemory 5 5
        ((X.picture whiteMemory tinyFb 5 5).map fun fb' => fb'.pixel 5 5) := by
  refine ⟨commitRun_legal, by decide +kernel, by decide +kernel, by decide, fun h => ?_⟩
  have hblack : ((ServerRun.system.exec plainSetup.start commitRun).picture whiteMemory tinyFb
      5 5).map (fun fb' => fb'.pixel 5 5) = some 0x00000000 := by
    decide +kernel
  have hshown : (windowAt (ServerRun.system.exec plainSetup.start commitRun).stack 5 5).map
      (fun w => (w.buf, w.bufW, w.bufH)) = some (.mapping 4096, 1, 1) := by
    decide +kernel
  obtain ⟨w, hw, -, -, -, hagrees⟩ := h.top ⟨⟨.native 7, 3⟩, 0, 0⟩ (by decide +kernel)
  rw [hw] at hshown
  obtain ⟨hbuf, hbufW, hbufH⟩ : w.buf = .mapping 4096 ∧ w.bufW = 1 ∧ w.bufH = 1 := by
    simpa using hshown
  have hwhite : (0x00000000 : UInt32) = 0x00ffffff :=
    hagrees (by rw [hbuf]; exact Ptr.noConfusion) (by rw [hbufW]; decide)
      (by rw [hbufH]; decide) _ hblack
  exact absurd hwhite (by decide)

end CrystallineLattice.Server
