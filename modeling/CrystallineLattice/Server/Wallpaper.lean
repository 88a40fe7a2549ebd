import CrystallineLattice.Server.Invariant
import Mathlib.Data.List.Induction

/-!
# The wallpaper

A wallpaper is created at the bottom of the stack and of the size of the screen.
Clicks and requests leave it there, and a change of the resolution that succeeds
fits it to the new size.
-/

namespace CrystallineLattice.Server

open CrystallineLattice.Foundation
open CrystallineLattice.Stack
open CrystallineLattice.Native
open CrystallineLattice.Wayland
open CrystallineLattice.Manager
open CrystallineLattice.Platform

/-! ## Fitting -/

def fitted (nw nh : Int) (w : Window) : Window :=
  if w.role = .desktop then
    { w with x := 0, y := 0, w := if 0 < nw then nw else w.w, h := if 0 < nh then nh else w.h }
  else w

theorem fitted_id (nw nh : Int) (w : Window) : (fitted nw nh w).id = w.id := by
  unfold fitted
  split <;> rfl

theorem map_id_fitted (nw nh : Int) (l : List Window) :
    (l.map (fitted nw nh)).map Window.id = l.map Window.id := by
  rw [List.map_map, show Window.id ∘ fitted nw nh = Window.id from funext (fitted_id nw nh)]

theorem coverDesktop_windows (nw nh : Int) {s : WindowStack} {l l' : List Window} {w : Window}
    (hs : s.windows = l ++ w :: l') (hnew : w.id ∉ l.map Window.id) :
    (coverDesktop nw nh s l.length).windows = l ++ fitted nw nh w :: l' := by
  have hget : s.windows[l.length]? = some w := by simp [hs]
  unfold coverDesktop
  rw [hget]
  dsimp only
  split
  · rename_i hdesktop
    have hfitted : fitted nw nh w = { w with
        x := 0, y := 0, w := if 0 < nw then nw else w.w, h := if 0 < nh then nh else w.h } :=
      if_pos hdesktop
    rw [windowSetGeometry, WindowStack.writeById, hs, KeyedList.update_append hnew rfl, hfitted]
  · rename_i hother
    have hsame : fitted nw nh w = w := if_neg hother
    rw [hs, hsame]

theorem coverDesktops_windows {s : WindowStack} (hs : s.ids.Nodup) (nw nh : Int) :
    (coverDesktops s nw nh).windows = s.windows.map (fitted nw nh) := by
  have hloop (l l' : List Window) (hsplit : s.windows = l ++ l') :
      ((List.range l.length).foldl (coverDesktop nw nh) s).windows =
        l.map (fitted nw nh) ++ l' := by
    induction l using List.reverseRecOn generalizing l' with
    | nil => exact hsplit
    | append_singleton l w ih =>
        rw [List.append_assoc] at hsplit
        have hnew : w.id ∉ (l.map (fitted nw nh)).map Window.id := by
          rw [WindowStack.ids, hsplit, List.map_append] at hs
          rw [map_id_fitted]
          exact fun hmem => (List.nodup_append.mp hs).2.2 _ hmem _ List.mem_cons_self rfl
        have hstep := coverDesktop_windows nw nh (ih (w :: l') hsplit) hnew
        rw [List.length_map] at hstep
        rw [List.length_append, List.length_singleton, List.range_succ, List.foldl_append,
          List.foldl_cons, List.foldl_nil, hstep, List.map_append, List.append_assoc]
        rfl
  have hall := hloop s.windows [] (List.append_nil _).symm
  rwa [List.append_nil] at hall

theorem windowById_coverDesktops {s : WindowStack} (hs : s.ids.Nodup) (nw nh : Int) (id : Nat) :
    windowById (coverDesktops s nw nh) id = (windowById s id).map (fitted nw nh) := by
  rw [windowById_eq_lookup, windowById_eq_lookup, coverDesktops_windows hs]
  exact KeyedList.lookup_map (fitted_id nw nh) id s.windows

theorem coverDesktops_wallpapered {s : WindowStack} (hs : s.ids.Nodup) {sw sh nw nh : Int}
    (h : Wallpapered sw sh s) (hwidth : 0 < nw) (hheight : 0 < nh) :
    Wallpapered nw nh (coverDesktops s nw nh) := by
  have hrole (w : Window) : (fitted nw nh w).role = w.role := by
    unfold fitted
    split <;> rfl
  refine ⟨hwidth, hheight, ?_, ?_⟩
  · rw [coverDesktops_windows hs, List.pairwise_map]
    exact h.bottom.imp fun hbelow => by rwa [hrole, hrole]
  · intro w' hw' hdesktop
    rw [coverDesktops_windows hs] at hw'
    obtain ⟨w, -, rfl⟩ := List.mem_map.mp hw'
    rw [hrole] at hdesktop
    simp [fitted, hdesktop, hwidth, hheight]

/-! ## Runs -/

namespace ServerRun

/-- Wallpapers are below all other windows, and of the size that the transport tells its clients. -/
structure WallpaperInPlace (X : ServerRun) : Prop where
  bottom : ∀ (i j : Nat) (hi : i < X.stack.windows.length) (hj : j < X.stack.windows.length),
    X.stack.windows[i].role = .desktop → X.stack.windows[j].role ≠ .desktop → i < j
  covers : ∀ w ∈ X.stack.windows, w.role = .desktop →
    w.x = 0 ∧ w.y = 0 ∧ w.w = X.world.t.sw ∧ w.h = X.world.t.sh

/-- The invariant of the server, and of the wallpaper. -/
structure Papered (X : ServerRun) : Prop where
  inv : X.Inv
  wallpaper : Wallpapered X.world.t.sw X.world.t.sh X.stack

theorem Papered.inPlace {X : ServerRun} (h : X.Papered) : X.WallpaperInPlace where
  bottom i j hi hj hdesktop hother := by
    by_contra hle
    rcases Nat.eq_or_lt_of_le (Nat.le_of_not_lt hle) with rfl | hlt
    · exact hother hdesktop
    · exact hother (List.pairwise_iff_getElem.mp h.wallpaper.bottom j i hj hi hlt hdesktop)
  covers := h.wallpaper.covers

end ServerRun

def PositiveMode : ServerEvent → Prop
  | .control w h refresh a => ∀ m ∈ requestedMode a.mode w h refresh,
      0 < m.hdisplay.toNat ∧ 0 < m.vdisplay.toNat
  | _ => True

instance : DecidablePred PositiveMode
  | .control w h refresh a => inferInstanceAs (Decidable (∀ m ∈ requestedMode a.mode w h refresh,
      0 < m.hdisplay.toNat ∧ 0 < m.vdisplay.toNat))
  | .seat _ | .idle .. | .frame _ | .input _ | .transport _ | .wayland _ | .hotplug _ | .tail
  | .pass => inferInstanceAs (Decidable True)

theorem announceMode_wallpapered {X : ServerRun} (hX : X.Inv) {sw sh nw nh : Int}
    (h : Wallpapered sw sh X.stack) (hwidth : 0 < nw) (hheight : 0 < nh) :
    let Y := announceMode X nw nh
    Wallpapered Y.world.t.sw Y.world.t.sh Y.stack := by
  have hadvertised := advertised_transportBroadcastScreen
    (X.setWm (resizeScreen X.wm nw nh)).world.t nw nh
  have hsw : (announceMode X nw nh).world.t.sw = nw := congrArg Prod.fst hadvertised
  have hsh : (announceMode X nw nh).world.t.sh = nh := congrArg Prod.snd hadvertised
  have hstack : (announceMode X nw nh).stack = coverDesktops X.stack nw nh := by
    rw [show X.stack = X.wm.stack from X.wmStack.symm]
    exact (SameBooks.transportBroadcastScreen _ nw nh).stack
  dsimp only
  rw [hsw, hsh, hstack]
  exact coverDesktops_wallpapered hX.coherent.world.ledger.stack.nodup h hwidth hheight

namespace ServerRun

theorem Papered.step {X : ServerRun} (hX : X.Papered) {e : ServerEvent} (hen : X.enabled e)
    (hmode : PositiveMode e) (hwithin : (X.next e).Within) : (X.next e).Papered := by
  refine ⟨hX.inv.step hen hwithin, ?_⟩
  have hkept {Y : ServerRun} (h : Keeps X Y) : Wallpapered Y.world.t.sw Y.world.t.sh Y.stack := by
    rw [h.sw, h.sh]
    exact (h.tidies hX.inv).wallpaper hX.wallpaper
  cases e with
  | control w h refresh a =>
      have hnext : X.next (.control w h refresh a) = (applyModeCb X a w h refresh).1 := rfl
      rw [hnext]
      rcases applyModeCb_keeps X a w h refresh with hkeeps | ⟨Y, newmode, hrequested, hkeeps, heq⟩
      · exact hkept hkeeps
      · obtain ⟨hwidth, hheight⟩ := hmode newmode hrequested
        obtain ⟨hw, hh⟩ := requestedMode_size hrequested
        rw [heq]
        exact announceMode_wallpapered (hkeeps.inv hX.inv) (hkept hkeeps) (by omega) (by omega)
  | _ => exact hkept (Keeps.next hen (fun _ _ _ _ => by simp) hwithin)

theorem start_papered (S : Setup) (hwidth : 0 < S.width) (hheight : 0 < S.height) :
    S.start.Papered := by
  refine ⟨S.start_inv, ?_⟩
  show Wallpapered S.width S.height S.stack
  unfold Setup.stack
  cases S.seeded with
  | false => exact ⟨hwidth, hheight, .nil, fun _ h => by cases h⟩
  | true =>
      refine ⟨hwidth, hheight, ?_, fun w hw hdesktop => ?_⟩
      · rw [if_pos rfl, seedWindows_windows]
        simp [newWindow]
      · rw [if_pos rfl, seedWindows_windows] at hw
        simp only [List.mem_cons, List.not_mem_nil, or_false] at hw
        rcases hw with rfl | rfl | rfl
        · simp [newWindow]
        · cases hdesktop
        · cases hdesktop

end ServerRun

/--
In a run of the server from a mode of positive size, in which only modes of
positive size are switched to and fewer than `2^32 - 1` windows are created, the
wallpapers are in their place in every state.
-/
theorem wallpaper_in_place (S : Setup) (hwidth : 0 < S.width) (hheight : 0 < S.height)
    (es : List ServerEvent) (hmodes : ∀ e ∈ es, PositiveMode e)
    (hrun : ServerRun.system.Legal S.start es)
    (hwithin : (ServerRun.system.exec S.start es).Within) :
    ServerRun.system.Along ServerRun.WallpaperInPlace S.start es := by
  have hbelow := System.each_below (B := ServerRun.Within)
    (fun _ _ hen h => ServerRun.Within.mono hen h) hrun hwithin
  exact System.along_of_each (I := ServerRun.Papered) (fun _ hX => hX.inPlace)
    (fun _ _ hX h => hX.step h.1.1 h.2 h.1.2)
    (System.each_and hbelow (System.each_of_mem _ hmodes))
    (ServerRun.start_papered S hwidth hheight)

def seededSetup : Setup := { plainSetup with seeded := true }

/-- Wine's desktop connects and opens another wallpaper, and the resolution is changed. -/
def wineRun : List ServerEvent :=
  [.seat true, .idle 0 false, .frame ⟨true, true⟩, .input (.button 272 true), .pass,
    .transport (.addClient 7 true),
    .transport (.datagram 0 (.ofWords [clHelloType, clMagic, 2, 1, 0] []) ⟨none, fun _ => 0⟩ 10),
    .transport (.datagram 0 (.ofWords [clCreateWindowType, 3, clRoleDesktop, 5, 5, 9, 9] [])
      ⟨none, fun _ => 0⟩ 20),
    .pass, .pass, .control 1280 720 0 ⟨⟨some monitor, some 8⟩, newBuffer⟩, .pass, .hotplug false,
    .tail]

theorem wineRun_legal : ServerRun.system.Legal seededSetup.start wineRun := by
  have hfd : (0 : Int) ≤ 7 := by decide
  exact ⟨⟨rfl, rfl⟩, rfl, rfl, rfl, .inl rfl, ⟨rfl, trivial, hfd⟩,
    ⟨rfl, trivial, by decide +kernel, by decide +kernel⟩,
    ⟨rfl, trivial, by decide +kernel, by decide +kernel⟩,
    .inr (.inl rfl), .inr (.inr (.inl rfl)), rfl, .inr (.inr (.inr rfl)), rfl, rfl, trivial⟩

theorem wallpaper_in_place_wineRun :
    ServerRun.system.Along ServerRun.WallpaperInPlace seededSetup.start wineRun :=
  wallpaper_in_place seededSetup (by decide) (by decide) wineRun (by decide) wineRun_legal
    (by decide +kernel)

end CrystallineLattice.Server
