import CrystallineLattice.Native.Geometry
import CrystallineLattice.Server.Wallpaper

/-!
# Geometry as the clients know it

A change of the resolution fits the wallpapers to the new size.  The clients are told
the size of the screen, but not where their windows are.
-/

namespace CrystallineLattice.Server

open CrystallineLattice.Foundation
open CrystallineLattice.Stack
open CrystallineLattice.Native

/-- What `apply_mode_cb` makes of the windows and of the transport. -/
def resized (W : World) (nw nh : Int) : World :=
  { W with
    t := transportBroadcastScreen { W.t with stack := coverDesktops W.t.stack nw nh } nw nh }

/-- The window covers a screen of the size; a size that is not positive is not asked for. -/
structure Covers (nw nh : Int) (win : Window) : Prop where
  left : win.x = 0
  top : win.y = 0
  width : 0 < nw → uint32 win.w = uint32 nw
  height : 0 < nh → uint32 win.h = uint32 nh

/-- The native clients' events, and the changes of the resolution that succeed. -/
inductive GeometryEvent where
  | native (e : Native.Event)
  | mode (nw nh : Int)

structure GeometryRun where
  world : World
  told : Nat → Option Geometry

namespace GeometryRun

def start (sw sh : Int) : GeometryRun := ⟨.start sw sh, fun _ => none⟩

def next (X : GeometryRun) : GeometryEvent → GeometryRun
  | .native e => ⟨X.world.next e, toldAfter X.world X.told e⟩
  | .mode nw nh =>
      ⟨resized X.world nw nh, toldBy X.world.t (resized X.world nw nh).t X.told⟩

def enabled (X : GeometryRun) : GeometryEvent → Prop
  | .native e => X.world.enabled e ∧ X.world.Apart e
  | .mode .. => True

def system : System GeometryRun GeometryEvent := ⟨enabled, next⟩

def Agrees (X : GeometryRun) : Prop := Native.Agrees X.world X.told

/-- A request is honoured; a new size leaves the clients' wallpapers as they are. -/
def Honours (X : GeometryRun) : GeometryEvent → Prop
  | .native e => X.world.Honours e
  | .mode nw nh => ∀ id, X.world.ledger.Entered id → ∀ win,
      windowById X.world.t.stack id = some win → win.role = .desktop → Covers nw nh win

def Within (X : GeometryRun) : Prop := X.world.Within

instance (X : GeometryRun) : Decidable X.Within := inferInstanceAs (Decidable X.world.Within)

end GeometryRun

/-! ## A change of the resolution -/

theorem announceMode_world (X : ServerRun) (nw nh : Int) :
    (announceMode X nw nh).world = resized X.world nw nh := by
  have hstack : (resizeScreen X.wm nw nh).stack = coverDesktops X.world.t.stack nw nh :=
    congrArg (coverDesktops · nw nh) X.wmStack
  unfold resized
  rw [← hstack]
  rfl

theorem transportBroadcastScreen_unconfigured (t : Transport) (w h : Int) :
    Unconfigured t (transportBroadcastScreen t w h) := by
  refine List.foldlRecOn (motive := Unconfigured t) _ _ ?_ ?_
  · exact .of_quiet ⟨rfl, rfl⟩
  · intro u hu i _
    refine hu.trans ?_
    unfold sendScreen
    split
    · refine ⟨_, rfl, fun p hp => ?_⟩
      rw [List.mem_singleton.mp hp]
      simp
    · exact .of_quiet (.refl u)

section Resized

variable (W : World) (nw nh : Int)

theorem resized_books : SameBooks { W.t with stack := coverDesktops W.t.stack nw nh }
    (resized W nw nh).t :=
  .transportBroadcastScreen _ nw nh

theorem resized_ledger :
    (resized W nw nh).ledger = { W.ledger with stack := coverDesktops W.t.stack nw nh } :=
  (resized_books W nw nh).ledger W.foreign

theorem resized_entered (id : Nat) : (resized W nw nh).ledger.Entered id ↔ W.ledger.Entered id := by
  rw [resized_ledger]
  exact Iff.rfl

theorem resized_inv (hW : W.Inv) : (resized W nw nh).Inv where
  ledger := by
    rw [resized_ledger]
    exact hW.ledger.rearrange (coverDesktops_rearranges _ nw nh)
  session := by
    have hclients := (resized_books W nw nh).clients
    refine ⟨?_, ?_⟩ <;> rw [hclients]
    · exact hW.session.closed
    · exact hW.session.ready

theorem resized_within : (resized W nw nh).Within ↔ W.Within := by
  unfold World.Within
  rw [resized_ledger]
  exact Iff.rfl

end Resized

theorem windowGeometry_fitted_iff (nw nh : Int) (win : Window) :
    windowGeometry win = windowGeometry (fitted nw nh win) ↔
      (win.role = .desktop → Covers nw nh win) := by
  have hside (size n : Int) :
      uint32 size = uint32 (if 0 < n then n else size) ↔ (0 < n → uint32 size = uint32 n) := by
    by_cases hpos : 0 < n
    · simp [hpos]
    · simp [hpos]
  unfold fitted
  split
  · rename_i hdesktop
    simp only [windowGeometry, Geometry.mk.injEq, hside]
    constructor
    · rintro ⟨hx, hy, hw, hh⟩ -
      exact ⟨hx, hy, hw, hh⟩
    · intro h
      obtain ⟨hx, hy, hw, hh⟩ := h hdesktop
      exact ⟨hx, hy, hw, hh⟩
  · rename_i hother
    exact iff_of_true rfl fun h => (hother h).elim

theorem agrees_resized_iff {W : World} {told : Nat → Option Geometry} (hW : W.Inv)
    (h : Native.Agrees W told) (nw nh : Int) :
    Native.Agrees (resized W nw nh) (toldBy W.t (resized W nw nh).t told) ↔
      GeometryRun.Honours ⟨W, told⟩ (.mode nw nh) := by
  have hsilent : Unconfigured W.t (resized W nw nh).t := by
    obtain ⟨l, hsent, hquiet⟩ := transportBroadcastScreen_unconfigured
      { W.t with stack := coverDesktops W.t.stack nw nh } nw nh
    exact ⟨l, hsent, hquiet⟩
  have hwindows (id : Nat) : windowById (resized W nw nh).t.stack id =
      (windowById W.t.stack id).map (fitted nw nh) := by
    rw [(resized_books W nw nh).stack]
    exact windowById_coverDesktops hW.ledger.stack.nodup nw nh id
  rw [toldBy_of_unconfigured hsilent]
  unfold Native.Agrees GeometryRun.Honours
  refine forall_congr' fun id => ?_
  rw [resized_entered]
  refine imp_congr_right fun hid => ?_
  rw [hwindows]
  constructor
  · intro hagrees win hwin
    refine (windowGeometry_fitted_iff nw nh win).mp (Option.some.inj ?_)
    rw [← h id hid win hwin]
    refine hagrees _ ?_
    rw [hwin]
    rfl
  · rintro hcovers win' hwin'
    obtain ⟨win, hwin, rfl⟩ := Option.map_eq_some_iff.mp hwin'
    rw [← (windowGeometry_fitted_iff nw nh win).mpr (hcovers win hwin)]
    exact h id hid win hwin

/-! ## Runs -/

namespace GeometryRun

structure Inv (X : GeometryRun) : Prop where
  world : X.world.Inv
  fds : Watch.OwnFds X.world.t

theorem Inv.step {X : GeometryRun} (hX : X.Inv) {e : GeometryEvent} (hen : X.enabled e)
    (hwithin : (X.next e).Within) : (X.next e).Inv := by
  cases e with
  | native e =>
      refine ⟨hX.world.step hen.1 hwithin, hX.fds.next fun fd epollOk heq => ?_⟩
      have hnew := hen.2
      rw [heq] at hnew
      exact hnew
  | mode nw nh =>
      refine ⟨resized_inv X.world nw nh hX.world, ?_⟩
      show Watch.OwnFds (resized X.world nw nh).t
      unfold Watch.OwnFds
      rw [(resized_books X.world nw nh).clients]
      exact hX.fds

theorem Within.mono {X : GeometryRun} {e : GeometryEvent} (h : (X.next e).Within) :
    X.Within := by
  cases e with
  | native e => exact World.Within.mono (e := e) h
  | mode nw nh => exact (resized_within X.world nw nh).mp h

theorem start_inv (sw sh : Int) : (start sw sh).Inv where
  world := World.start_inv sw sh
  fds i i' hopen := by simp [start, World.start, transportCreate, ClClient.zero] at hopen

theorem start_agrees (sw sh : Int) : (start sw sh).Agrees := fun _ _ _ hwin => by cases hwin

theorem Inv.agrees_next_iff {X : GeometryRun} (hX : X.Inv) (h : X.Agrees) {e : GeometryEvent}
    (hen : X.enabled e) (hwithin : (X.next e).Within) : (X.next e).Agrees ↔ X.Honours e := by
  cases e with
  | native e => exact Native.Agrees.next_iff h hX.world hX.fds hen.1 hen.2 hwithin
  | mode nw nh => exact agrees_resized_iff hX.world h nw nh

end GeometryRun

/--
In a run in which fewer than `2^32 - 1` windows are created, every window of a client
is in every state where its owner was last told, exactly if every `SET_GEOMETRY` is
honoured and every change of the resolution finds the clients' wallpapers in place.
-/
theorem told_where_windows_are_iff (sw sh : Int) (es : List GeometryEvent)
    (hrun : GeometryRun.system.Legal (.start sw sh) es)
    (hwithin : (GeometryRun.system.exec (.start sw sh) es).Within) :
    GeometryRun.system.Along GeometryRun.Agrees (.start sw sh) es ↔
      GeometryRun.system.Each GeometryRun.Honours (.start sw sh) es := by
  have hsteps := System.each_below (B := GeometryRun.Within) (fun _ _ _ h => h.mono) hrun hwithin
  exact System.along_iff_each (I := fun X => X.Inv ∧ X.Agrees) (fun X hX => hX.2)
    (fun X e hX he hhonours =>
      ⟨hX.1.step he.1 he.2, (hX.1.agrees_next_iff hX.2 he.1 he.2).mpr hhonours⟩)
    (fun X e hX he hdishonours hnext =>
      hdishonours ((hX.1.agrees_next_iff hX.2 he.1 he.2).mp hnext))
    hsteps ⟨GeometryRun.start_inv sw sh, GeometryRun.start_agrees sw sh⟩

def askingRun (x y w h : Nat) : List GeometryEvent :=
  [.native (.addClient 7 true),
    .native (.datagram 0 (.ofWords [clHelloType, clMagic, 2, 1, 0] []) ⟨none, fun _ => 0⟩ 10),
    .native (.datagram 0 (.ofWords [clCreateWindowType, 3, 0, 20, 30, 300, 200] [])
      ⟨none, fun _ => 0⟩ 20),
    .native (.datagram 0 (.ofWords [clSetGeometryType, 3, x, y, w, h] []) ⟨none, fun _ => 0⟩ 30)]

/-- A request that is carried out, and a change of the resolution. -/
def movedRun : List GeometryEvent := askingRun 50 60 400 300 ++ [.mode 1280 720]

theorem movedRun_legal : GeometryRun.system.Legal (.start 1920 1080) movedRun :=
  ⟨⟨Int.natCast_nonneg 7, fun _ => (by decide : (-1 : Int) ≠ 7)⟩,
    ⟨⟨by decide, by decide⟩, trivial⟩, ⟨⟨by decide, by decide⟩, trivial⟩,
    ⟨⟨by decide, by decide⟩, trivial⟩, trivial, trivial⟩

theorem told_where_windows_are_iff_movedRun :
    GeometryRun.system.Along GeometryRun.Agrees (.start 1920 1080) movedRun ↔
      GeometryRun.system.Each GeometryRun.Honours (.start 1920 1080) movedRun :=
  told_where_windows_are_iff 1920 1080 movedRun movedRun_legal (by decide +kernel)

theorem askingRun_legal : GeometryRun.system.Legal (.start 1920 1080) (askingRun 50 60 0 0) :=
  ⟨⟨Int.natCast_nonneg 7, fun _ => (by decide : (-1 : Int) ≠ 7)⟩,
    ⟨⟨by decide, by decide⟩, trivial⟩, ⟨⟨by decide, by decide⟩, trivial⟩,
    ⟨⟨by decide, by decide⟩, trivial⟩, trivial⟩

/-- A window that is asked to have no size keeps the one it has, and its owner is not told. -/
theorem kept_size_not_told :
    ¬ ∀ sw sh es, GeometryRun.system.Legal (.start sw sh) es →
      (GeometryRun.system.exec (.start sw sh) es).Within →
        GeometryRun.system.Along GeometryRun.Agrees (.start sw sh) es := fun h => by
  have hlast := System.along_last
    (h 1920 1080 (askingRun 50 60 0 0) askingRun_legal (by decide +kernel))
  generalize hX : GeometryRun.system.exec (.start 1920 1080) (askingRun 50 60 0 0) = X at hlast
  have howned : X.world.ledger.Entered 1 := by
    rw [← hX]
    exact ⟨.client 0, ⟨0, by decide⟩, by decide +kernel, by decide +kernel⟩
  have hasked : X.told 1 = some ⟨50, 60, 0, 0⟩ := by
    rw [← hX]
    decide +kernel
  have hplace : (windowById X.world.t.stack 1).map windowGeometry = some ⟨50, 60, 300, 200⟩ := by
    rw [← hX]
    decide +kernel
  obtain ⟨win, hwin, hgeometry⟩ := Option.map_eq_some_iff.mp hplace
  have htold := hlast 1 howned win hwin
  rw [hasked, hgeometry] at htold
  exact absurd htold (by decide)

end CrystallineLattice.Server
