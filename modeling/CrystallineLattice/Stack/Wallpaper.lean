import CrystallineLattice.Stack.Invariant

/-!
# The wallpaper

Windows with the role of the desktop are the wallpaper.  An operation tidies a
stack if wallpapers that lie at the bottom and cover the screen do so afterwards,
and no window has changed its role.
-/

namespace CrystallineLattice.Stack

open CrystallineLattice.Foundation

/-- Every wallpaper lies below all other windows and covers the screen, which is not empty. -/
structure Wallpapered (sw sh : Int) (s : WindowStack) : Prop where
  width : 0 < sw
  height : 0 < sh
  bottom : s.windows.Pairwise fun below above => above.role = .desktop → below.role = .desktop
  covers : ∀ w ∈ s.windows, w.role = .desktop → w.x = 0 ∧ w.y = 0 ∧ w.w = sw ∧ w.h = sh

/-- Windows that were there before have the role they had. -/
structure KeepsRoles (s s' : WindowStack) : Prop where
  nextId : s.nextId ≤ s'.nextId
  role : ∀ w' ∈ s'.windows, w'.id < s.nextId → ∃ w ∈ s.windows, w.id = w'.id ∧ w.role = w'.role

/-- The id was given out, and not to a wallpaper. -/
structure NoWallpaper (s : WindowStack) (id : Nat) : Prop where
  below : id < s.nextId
  role : ∀ w ∈ s.windows, w.id = id → w.role ≠ .desktop

structure Tidies (sw sh : Int) (s s' : WindowStack) : Prop where
  roles : KeepsRoles s s'
  wallpaper : Wallpapered sw sh s → Wallpapered sw sh s'

variable {sw sh : Int} {s s' s'' : WindowStack} {id : Nat}

namespace KeepsRoles

theorem of_mem (hnext : s'.nextId = s.nextId)
    (hmem : ∀ w' ∈ s'.windows, ∃ w ∈ s.windows, w.id = w'.id ∧ w.role = w'.role) :
    KeepsRoles s s' :=
  ⟨hnext ▸ Nat.le_refl _, fun w' hw' _ => hmem w' hw'⟩

theorem of_subset (hnext : s'.nextId = s.nextId) (h : s'.windows ⊆ s.windows) :
    KeepsRoles s s' :=
  of_mem hnext fun w' hw' => ⟨w', h hw', rfl, rfl⟩

theorem trans (h : KeepsRoles s s') (h' : KeepsRoles s' s'') : KeepsRoles s s'' where
  nextId := Nat.le_trans h.nextId h'.nextId
  role w'' hw'' hold := by
    obtain ⟨w', hw', hid', hrole'⟩ := h'.role w'' hw'' (Nat.lt_of_lt_of_le hold h.nextId)
    obtain ⟨w, hw, hid, hrole⟩ := h.role w' hw' (hid' ▸ hold)
    exact ⟨w, hw, hid.trans hid', hrole.trans hrole'⟩

theorem edit (s : WindowStack) (id : Nat) {f : Window → Window} (hid : ∀ w, (f w).id = w.id)
    (hrole : ∀ w, (f w).role = w.role) : KeepsRoles s (s.writeById id f) :=
  of_mem rfl fun w' hw' => by
    rcases KeyedList.mem_update hw' with hw | ⟨w, hw, rfl⟩
    · exact ⟨w', hw, rfl, rfl⟩
    · exact ⟨w, KeyedList.mem_of_lookup hw, (hid w).symm, (hrole w).symm⟩

end KeepsRoles

theorem NoWallpaper.keep (h : NoWallpaper s id) (hs : KeepsRoles s s') : NoWallpaper s' id where
  below := Nat.lt_of_lt_of_le h.below hs.nextId
  role w' hw' hid hrole := by
    obtain ⟨w, hw, hid', hrole'⟩ := hs.role w' hw' (hid ▸ h.below)
    exact h.role w hw (hid'.trans hid) (hrole'.trans hrole)

theorem NoWallpaper.of_windowById (hs : s.WellFormed) {w : Window} (hw : windowById s id = some w)
    (hother : w.role ≠ .desktop) : NoWallpaper s id where
  below := hs.below id (mem_ids_iff.mpr ⟨w, hw⟩)
  role w' hw' hid' hdesktop := by
    have hsame : windowById s id = some w' := by
      rw [windowById_eq_lookup]
      exact (KeyedList.lookup_eq_some_iff hs.nodup).mpr ⟨hw', hid'⟩
    cases hw.symm.trans hsame
    exact hother hdesktop

/-! ## Operations that tidy the stack -/

namespace Tidies

theorem refl (s : WindowStack) : Tidies sw sh s s :=
  ⟨.of_subset rfl (List.Subset.refl _), fun h => h⟩

theorem trans (h : Tidies sw sh s s') (h' : Tidies sw sh s' s'') : Tidies sw sh s s'' :=
  ⟨h.roles.trans h'.roles, fun hs => h'.wallpaper (h.wallpaper hs)⟩

theorem of_windows (hwindows : s'.windows = s.windows) (hnext : s'.nextId = s.nextId) :
    Tidies sw sh s s' where
  roles := .of_subset hnext (hwindows ▸ List.Subset.refl _)
  wallpaper h := ⟨h.width, h.height, hwindows ▸ h.bottom, hwindows ▸ h.covers⟩

theorem edit (s : WindowStack) (id : Nat) {f : Window → Window} (hid : ∀ w, (f w).id = w.id)
    (hrole : ∀ w, (f w).role = w.role)
    (hplace : ∀ w, windowById s id = some w → w.role = .desktop →
      (f w).x = w.x ∧ (f w).y = w.y ∧ (f w).w = w.w ∧ (f w).h = w.h) :
    Tidies sw sh s (s.writeById id f) where
  roles := .edit s id hid hrole
  wallpaper h := by
    refine ⟨h.width, h.height, ?_, ?_⟩
    · have hbottom : (s.windows.map Window.role).Pairwise fun below above =>
          above = .desktop → below = .desktop := List.pairwise_map.mpr h.bottom
      have hroles : (KeyedList.update Window.id id f s.windows).map Window.role =
          s.windows.map Window.role := KeyedList.map_update hrole s.windows
      rw [← hroles] at hbottom
      exact List.pairwise_map.mp hbottom
    · intro w' hw' hdesktop
      rcases KeyedList.mem_update hw' with hw | ⟨w, hw, rfl⟩
      · exact h.covers w' hw hdesktop
      · rw [hrole w] at hdesktop
        obtain ⟨hx, hy, hwidth, hheight⟩ :=
          hplace w ((windowById_eq_lookup s id).trans hw) hdesktop
        rw [hx, hy, hwidth, hheight]
        exact h.covers w (KeyedList.mem_of_lookup hw) hdesktop

theorem edit_inside (s : WindowStack) (id : Nat) {f : Window → Window}
    (hid : ∀ w, (f w).id = w.id) (hrole : ∀ w, (f w).role = w.role)
    (hplace : ∀ w, (f w).x = w.x ∧ (f w).y = w.y ∧ (f w).w = w.w ∧ (f w).h = w.h) :
    Tidies sw sh s (s.writeById id f) :=
  edit s id hid hrole fun w _ _ => hplace w

theorem edit_other (h : NoWallpaper s id) {f : Window → Window} (hid : ∀ w, (f w).id = w.id)
    (hrole : ∀ w, (f w).role = w.role) : Tidies sw sh s (s.writeById id f) :=
  edit s id hid hrole fun w hw hdesktop =>
    (h.role w (mem_of_windowById hw) (id_of_windowById hw) hdesktop).elim

theorem sublist (h : s'.windows.Sublist s.windows) (hnext : s'.nextId = s.nextId) :
    Tidies sw sh s s' where
  roles := .of_subset hnext h.subset
  wallpaper hs :=
    ⟨hs.width, hs.height, hs.bottom.sublist h, fun w hw => hs.covers w (h.subset hw)⟩

theorem destroy (s : WindowStack) (id : Nat) : Tidies sw sh s (windowDestroy s id) :=
  sublist (windowDestroy_windows s id ▸ KeyedList.remove_sublist id s.windows)
    (windowDestroy_nextId s id)

theorem raise (h : ∀ w, windowById s id = some w → w.role ≠ .desktop) :
    Tidies sw sh s (windowRaise s id) := by
  have hperm : (KeyedList.toEnd Window.id id s.windows).Perm s.windows :=
    KeyedList.toEnd_perm id s.windows
  rw [windowRaise_eq]
  refine ⟨.of_subset rfl hperm.subset, fun hs =>
    ⟨hs.width, hs.height, ?_, fun w hw => hs.covers w (hperm.subset hw)⟩⟩
  show (KeyedList.toEnd Window.id id s.windows).Pairwise _
  unfold KeyedList.toEnd
  cases hw : KeyedList.lookup Window.id id s.windows with
  | none => exact hs.bottom
  | some w =>
      have hother : w.role ≠ .desktop := h w ((windowById_eq_lookup s id).trans hw)
      refine List.pairwise_append.mpr
        ⟨hs.bottom.sublist (KeyedList.remove_sublist id s.windows), List.pairwise_singleton _ _, ?_⟩
      intro below _ above habove hdesktop
      exact (hother (List.mem_singleton.mp habove ▸ hdesktop)).elim

theorem focus (s : WindowStack) (id : Nat) : Tidies sw sh s (windowFocus s id) := by
  unfold windowFocus
  cases hw : windowById s id with
  | none => exact refl s
  | some w =>
      dsimp only
      split
      · exact of_windows rfl rfl
      · rename_i hother
        have hfocused : Tidies sw sh s { s with focusId := id } := of_windows rfl rfl
        refine hfocused.trans (raise fun w' hw' => ?_)
        cases hw.symm.trans hw'
        exact hother

theorem focusCycle (s : WindowStack) (dir : Int) : Tidies sw sh s (windowFocusCycle s dir) := by
  unfold windowFocusCycle
  split
  · exact refl s
  · dsimp only
    split
    · exact focus s _
    · exact refl s

theorem append {win : Window} {focusId nextId : Nat} (hid : win.id = s.nextId)
    (hnext : s.nextId ≤ nextId) (hother : win.role ≠ .desktop) :
    Tidies sw sh s ⟨s.windows ++ [win], focusId, nextId⟩ where
  roles := by
    refine ⟨hnext, fun w' hw' hold => ?_⟩
    rcases List.mem_append.mp hw' with hw | hw
    · exact ⟨w', hw, rfl, rfl⟩
    · rw [List.mem_singleton.mp hw, hid] at hold
      exact (Nat.lt_irrefl _ hold).elim
  wallpaper h := by
    refine ⟨h.width, h.height, ?_, ?_⟩
    · refine List.pairwise_append.mpr ⟨h.bottom, List.pairwise_singleton _ _, ?_⟩
      intro below _ above habove hdesktop
      exact (hother (List.mem_singleton.mp habove ▸ hdesktop)).elim
    · intro w hw hdesktop
      rcases List.mem_append.mp hw with hw | hw
      · exact h.covers w hw hdesktop
      · exact (hother (List.mem_singleton.mp hw ▸ hdesktop)).elim

theorem prepend {win : Window} {focusId nextId : Nat} (hid : win.id = s.nextId)
    (hnext : s.nextId ≤ nextId) (hdesktop : win.role = .desktop)
    (hcovers : 0 < sw → 0 < sh → win.x = 0 ∧ win.y = 0 ∧ win.w = sw ∧ win.h = sh) :
    Tidies sw sh s ⟨win :: s.windows, focusId, nextId⟩ where
  roles := by
    refine ⟨hnext, fun w' hw' hold => ?_⟩
    rcases List.mem_cons.mp hw' with rfl | hw
    · rw [hid] at hold
      exact (Nat.lt_irrefl _ hold).elim
    · exact ⟨w', hw, rfl, rfl⟩
  wallpaper h := by
    refine ⟨h.width, h.height, ?_, ?_⟩
    · exact List.pairwise_cons.mpr ⟨fun _ _ _ => hdesktop, h.bottom⟩
    · intro w hw hrole
      rcases List.mem_cons.mp hw with rfl | hw
      · exact hcovers h.width h.height
      · exact h.covers w hw hrole

end Tidies

end CrystallineLattice.Stack
