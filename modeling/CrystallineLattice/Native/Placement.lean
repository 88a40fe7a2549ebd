import CrystallineLattice.Native.Invariant
import CrystallineLattice.Native.Upkeep

/-!
# The rectangles of the native windows

`on_create_window` and `on_set_geometry` take positions and sizes from the client
and look at little of them.  The windows have sound rectangles as long as the
requests that are carried out ask for sound ones.
-/

namespace CrystallineLattice.Native

open CrystallineLattice.Foundation
open CrystallineLattice.Stack

/-- Where the window that a `CREATE_WINDOW` asks for is put; a wallpaper is fitted to the screen. -/
def ClCreateWindow.place (m : ClCreateWindow) (id : Nat) (sw sh : Int) : Place :=
  let w := if m.w ≠ 0 then int32 m.w else 320
  let h := if m.h ≠ 0 then int32 m.h else 240
  if roleFromWire m.role = .desktop then
    ⟨id, .desktop, 0, 0, if 0 < sw then sw else w, if 0 < sh then sh else h⟩
  else ⟨id, roleFromWire m.role, m.x, m.y, w, h⟩

/-- Where a `SET_GEOMETRY` asks a window to be; a size that is not positive stays as it is. -/
def ClSetGeometry.place (m : ClSetGeometry) (win : Window) : Place where
  id := win.id
  role := win.role
  x := m.x
  y := m.y
  w := if 0 < int32 m.w then int32 m.w else win.w
  h := if 0 < int32 m.h then int32 m.h else win.h

namespace World

def WellPlaced (W : World) : Prop := ∀ p ∈ W.t.stack.places, p.Sound

instance (W : World) : Decidable W.WellPlaced :=
  inferInstanceAs (Decidable (∀ p ∈ W.t.stack.places, p.Sound))

/-- If the event is a request that places a window, it asks for a sound rectangle. -/
def SoundRequest (W : World) : Event → Prop
  | .datagram i d _ _ =>
      (∀ j, Creates W.t i d j →
        ((ClCreateWindow.read d.buf).place W.t.stack.nextId W.t.sw W.t.sh).Sound) ∧
      ∀ j, Places W.t i d j → ∀ win,
        windowById W.t.stack ((W.t.clients i).wins j).serverId = some win →
          win.role = .desktop ∨ ((ClSetGeometry.read d.buf).place win).Sound
  | _ => True

end World

/-! ## What the two requests do -/

@[simp] theorem ClCreateWindow.place_id (m : ClCreateWindow) (id : Nat) (sw sh : Int) :
    (m.place id sw sh).id = id := by
  unfold place
  dsimp only
  split <;> rfl

theorem places_stackWithNew {s : WindowStack} (hs : s.WellFormed) (hroom : s.count < winMax)
    (m : ClCreateWindow) (sw sh : Int) :
    (Ledger.stackWithNew s m sw sh).places.Perm (m.place s.nextId sw sh :: s.places) := by
  have hfresh : s.nextId ∉ s.windows.map Window.id := fun hmem =>
    Nat.lt_irrefl _ (hs.below _ hmem)
  rcases windowCreate_cases s (roleFromWire m.role) m.x m.y
    (if m.w ≠ 0 then int32 m.w else 320) (if m.h ≠ 0 then int32 m.h else 240)
    0x00202020 (cString "client") with ⟨-, hfull⟩ | ⟨-, heq⟩
  · omega
  · rw [Ledger.stackWithNew, requestedWindow, heq]
    generalize hwin : newWindow s.nextId (roleFromWire m.role) m.x m.y _ _ _ _ = win
    have hid : win.id = s.nextId := hwin ▸ rfl
    generalize uint32 (s.nextId + 1) = next
    have hdecorated : WindowStack.writeById ⟨s.windows ++ [win], s.focusId, next⟩ s.nextId
        (fun w => { w with appDecorated := true }) =
        ⟨s.windows ++ [{ win with appDecorated := true }], s.focusId, next⟩ := by
      rw [WindowStack.writeById, KeyedList.update_append hfresh hid]
    have hends {last : Window} : WindowStack.places ⟨s.windows ++ [last], s.focusId, next⟩ =
        s.places ++ [last.place] := List.map_append
    rw [hdecorated]
    by_cases hdesktop : roleFromWire m.role = .desktop
    · rw [hdesktop, applyRolePolicy, windowSetGeometry, WindowStack.writeById]
      dsimp only
      rw [KeyedList.update_append (a := { win with appDecorated := true }) hfresh hid]
      refine (places_lower _ _).trans ?_
      rw [hends]
      refine (List.perm_append_singleton _ _).trans (List.Perm.of_eq ?_)
      rw [ClCreateWindow.place, if_pos hdesktop, ← hwin, ← hdesktop]
      rfl
    · have hgrown : (s.places ++ [({ win with appDecorated := true } : Window).place]).Perm
          (m.place s.nextId sw sh :: s.places) := by
        refine (List.perm_append_singleton _ _).trans (List.Perm.of_eq ?_)
        rw [ClCreateWindow.place, if_neg hdesktop, ← hwin]
        rfl
      unfold applyRolePolicy
      split
      · refine (places_focus _ _).trans ?_
        rw [hends]
        exact hgrown
      · rename_i h
        exact (hdesktop h).elim
      · rw [hends]
        exact hgrown

theorem placed_sound_iff (m : ClSetGeometry) {win : Window} (hwin : win.place.Sound) :
    (placed m win).place.Sound ↔ win.role = .desktop ∨ (m.place win).Sound := by
  by_cases hdesktop : win.role = .desktop
  · rw [placed, if_pos hdesktop]
    exact iff_of_true hwin (.inl hdesktop)
  · rw [placed, if_neg hdesktop, or_iff_right hdesktop, Window.place, ClSetGeometry.place]

def PlacesFrom (t u : Transport) : Prop := u.stack.places ⊆ t.stack.places

theorem placesFrom_upkeep : Upkeep PlacesFrom where
  trans h h' := List.Subset.trans h' h
  still {t u} h := by
    rw [PlacesFrom, h.stack]
    exact List.Subset.refl _
  destroy t id := places_destroy t.stack id
  redraw t id f hf := by
    rw [PlacesFrom, places_redraw t.stack id hf]
    exact List.Subset.refl _

namespace World

variable {W : World}

theorem Inv.places_next (hW : W.Inv) (hplaced : W.WellPlaced) {e : Event}
    (hours : ∀ op, e ≠ .other op) :
    (PlacesFrom W.t (W.next e).t ∧ W.SoundRequest e) ∨
      ∃ p ∈ (W.next e).t.stack.places, (W.next e).t.stack.places ⊆ p :: W.t.stack.places ∧
        (W.SoundRequest e ↔ p.Sound) := by
  by_cases hquiet : ∃ i d k now, e = .datagram i d k now
  · obtain ⟨i, d, k, now, rfl⟩ := hquiet
    have hnext : W.t.stack.nextId ≠ 0 := Nat.pos_iff_ne_zero.mp hW.ledger.stack.nextPos
    have hapart {j j' : Fin winMax} (hc : Creates W.t i d j) (hp : Places W.t i d j') : False :=
      absurd (hc.type.symm.trans hp.type) (by decide)
    cases placesFrom_upkeep.clientDatagram W.t i d k now false with
    | upkeep kept uncreated unplaced unasked =>
        exact .inl ⟨kept, fun j hc => (uncreated j hc).elim, fun j hp => (unplaced j hp).elim⟩
    | creates j request result cursor =>
        have hstack : (W.next (.datagram i d k now)).t.stack =
            Ledger.stackWithNew W.t.stack (.read d.buf) W.t.sw W.t.sh := (result hnext).stack
        have hperm := places_stackWithNew hW.ledger.stack request.accepted.room (.read d.buf)
          W.t.sw W.t.sh
        rw [hstack]
        refine .inr ⟨_, hperm.mem_iff.mpr List.mem_cons_self, hperm.subset, fun h => ?_,
          fun h => ?_⟩
        · exact h.1 j request
        · exact ⟨fun _ _ => h, fun j' hp => (hapart request hp).elim⟩
    | places j request result =>
        have hstack : (W.next (.datagram i d k now)).t.stack =
            W.t.stack.writeById ((W.t.clients i).wins j).serverId (placed (.read d.buf)) :=
          result.stack
        obtain ⟨hwid, hslot⟩ := winFind_eq_some request.slot
        have hocc : (W.ledger.wins (.client i) j).clientWid ≠ 0 := hslot.symm ▸ hwid
        obtain ⟨win, hwin, -⟩ := hW.ledger.linked hocc
        have hsound := hplaced _ (mem_places_of_windowById hwin)
        obtain ⟨hmem, hsubset⟩ := places_write W.t.stack (placed_id (.read d.buf)) hwin
        rw [hstack]
        refine .inr ⟨_, hmem, hsubset, fun h => ?_, fun h => ?_⟩
        · exact (placed_sound_iff _ hsound).mpr (h.2 j request win hwin)
        · refine ⟨fun j' hc => (hapart hc request).elim, fun j' hp win' hwin' => ?_⟩
          cases request.slot.symm.trans hp.slot
          cases hwin.symm.trans hwin'
          exact (placed_sound_iff _ hsound).mp h
    | cursor request result =>
        obtain ⟨os, cursor, heq⟩ := onSetCursor_eq W.t (.read d.buf) d.fds k
        have hstack : (W.next (.datagram i d k now)).t.stack = W.t.stack := by
          refine (congrArg Transport.stack result).trans ?_
          rw [heq]
        refine .inl ⟨?_, fun j hc => ?_, fun j hp => ?_⟩
        · rw [PlacesFrom, hstack]
          exact List.Subset.refl _
        · exact absurd (request.type.symm.trans hc.type) (by decide)
        · exact absurd (request.type.symm.trans hp.type) (by decide)
  · refine .inl ⟨W.upkeep_next placesFrom_upkeep hours fun i d k now h => ?_, ?_⟩
    · exact hquiet ⟨i, d, k, now, h⟩
    · cases e with
      | datagram i d k now => exact (hquiet ⟨i, d, k, now, rfl⟩).elim
      | _ => trivial

theorem start_wellPlaced (sw sh : Int) : (start sw sh).WellPlaced := fun p hp => by cases hp

end World

/--
In a run of the native clients every window has a size, and the sums formed with
its rectangle fit in an `int`, exactly if every request that places a window asks
for such a rectangle.
-/
theorem well_placed_iff_sound (sw sh : Int) (es : List Event)
    (hours : ∀ e ∈ es, ∀ op, e ≠ .other op) (hrun : World.system.Legal (.start sw sh) es)
    (hwithin : (World.system.exec (.start sw sh) es).Within) :
    World.system.Along World.WellPlaced (.start sw sh) es ↔
      World.system.Each World.SoundRequest (.start sw sh) es := by
  have hsteps := System.each_and
    (System.each_below (B := World.Within) (fun _ _ _ h => h.mono) hrun hwithin)
    (System.each_of_mem (S := World.system) (.start sw sh) hours)
  refine System.along_iff_each (I := fun W => W.Inv ∧ W.WellPlaced) (fun W hI => hI.2) ?_ ?_
    hsteps ⟨World.start_inv sw sh, World.start_wellPlaced sw sh⟩
  · rintro W e ⟨hW, hplaced⟩ ⟨⟨hen, hnext⟩, hnative⟩ hsound
    refine ⟨hW.step hen hnext, ?_⟩
    rcases hW.places_next hplaced hnative with ⟨hfrom, -⟩ | ⟨p, -, hsubset, hiff⟩
    · exact fun p hp => hplaced p (hfrom hp)
    · intro q hq
      rcases List.mem_cons.mp (hsubset hq) with rfl | hold
      · exact hiff.mp hsound
      · exact hplaced q hold
  · rintro W e ⟨hW, hplaced⟩ ⟨-, hnative⟩ hunsound hnext
    rcases hW.places_next hplaced hnative with ⟨-, hsound⟩ | ⟨p, hp, -, hiff⟩
    · exact hunsound hsound
    · exact hunsound (hiff.mpr (hnext p hp))

/-- A client creates a window of 300 by 200 and moves it, keeping its size. -/
def moveRun : List Event :=
  [.addClient 7 true,
    .datagram 0 (.ofWords [clHelloType, clMagic, 2, 1, 0] []) ⟨none, fun _ => 0⟩ 10,
    .datagram 0 (.ofWords [clCreateWindowType, 3, 0, 20, 30, 300, 200] []) ⟨none, fun _ => 0⟩ 20,
    .datagram 0 (.ofWords [clSetGeometryType, 3, 50, 60, 0, 0] []) ⟨none, fun _ => 0⟩ 30]

theorem well_placed_iff_sound_moveRun :
    World.system.Each World.SoundRequest (.start 1920 1080) moveRun :=
  (well_placed_iff_sound 1920 1080 moveRun (by simp [moveRun])
    ⟨Int.natCast_nonneg 7, ⟨by decide, by decide⟩, ⟨by decide, by decide⟩,
      ⟨by decide, by decide⟩, trivial⟩
    (by decide)).mp (by decide +kernel)

/-- A client asks for a window that is `2^32 - 1` wide, which is -1 as an `int`. -/
def negativeRun : List Event :=
  [.addClient 7 true,
    .datagram 0 (.ofWords [clHelloType, clMagic, 2, 1, 0] []) ⟨none, fun _ => 0⟩ 10,
    .datagram 0 (.ofWords [clCreateWindowType, 3, 0, 20, 30, 4294967295, 200] [])
      ⟨none, fun _ => 0⟩ 20]

theorem negative_width_accepted :
    ¬ ∀ sw sh es, (∀ e ∈ es, ∀ op, e ≠ Event.other op) → World.system.Legal (.start sw sh) es →
      (World.system.exec (.start sw sh) es).Within →
        World.system.Along World.WellPlaced (.start sw sh) es := fun h =>
  absurd
    (h 1920 1080 negativeRun (by simp [negativeRun])
      ⟨Int.natCast_nonneg 7, ⟨by decide, by decide⟩, ⟨by decide, by decide⟩, trivial⟩ (by decide))
    (by decide +kernel)

end CrystallineLattice.Native
