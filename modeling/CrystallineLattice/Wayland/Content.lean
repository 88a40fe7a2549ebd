import CrystallineLattice.Stack.View
import CrystallineLattice.Wayland.Lifetimes

/-!
# The pixels of a surface

Two invariants meet in a surface record.  `Contents` is about the heap: the
content of a record is a block of its own, of the size the record gives.
`Shown` is about the stack: the window that a record names shows the record's
content.  Between a copy and the next update the window of one record can be
stale; `Shown` names it.
-/

namespace CrystallineLattice.Wayland

open CrystallineLattice.Foundation
open CrystallineLattice.Stack
open CrystallineLattice.Compositor

/-! ## The heap -/

/-- No content, or a live block with four bytes for each pixel. -/
def Holds (blocks : Nat → Option Block) (s : FeSurface) : Prop :=
  s.content = .null ∧ s.cw = 0 ∧ s.ch = 0 ∨
    ∃ address block, s.content = .block address ∧ blocks address = some block ∧
      block.len = s.cw * s.ch * 4 ∧ 0 < s.cw

structure Contents (surfaces : Nat → Option FeSurface) (blocks : Nat → Option Block) : Prop where
  held : ∀ {a s}, surfaces a = some s → Holds blocks s
  unshared : ∀ {a a' s s' address}, surfaces a = some s → surfaces a' = some s' →
    s.content = .block address → s'.content = .block address → a = a'

theorem Holds.congr {blocks : Nat → Option Block} {s s' : FeSurface} (h : Holds blocks s)
    (hcontent : s'.content = s.content) (hcw : s'.cw = s.cw) (hch : s'.ch = s.ch) :
    Holds blocks s' := by
  unfold Holds
  rw [hcontent, hcw, hch]
  exact h

namespace Contents

variable {surfaces : Nat → Option FeSurface} {blocks blocks' : Nat → Option Block}
  {a : Nat} {s s' : FeSurface}

theorem replace (hC : Contents surfaces blocks) (ha : surfaces a = some s)
    (hself : Holds blocks' s')
    (hkeep : ∀ address, s.content ≠ .block address → s'.content ≠ .block address →
      blocks' address = blocks address)
    (hfresh : ∀ address, s'.content = .block address →
      s.content = .block address ∨ blocks address = none) :
    Contents (Function.update surfaces a (some s')) blocks' := by
  have hother {a' : Nat} {u : FeSurface} {address : Nat} (hne : a' ≠ a)
      (hu : surfaces a' = some u) (hcontent : u.content = .block address) :
      s.content ≠ .block address ∧ s'.content ≠ .block address := by
    have hold : s.content ≠ .block address := fun h => hne (hC.unshared hu ha hcontent h)
    refine ⟨hold, fun h => ?_⟩
    rcases hfresh address h with h | hnone
    · exact hold h
    · rcases hC.held hu with ⟨hnull, -⟩ | ⟨address', block, hblock, hlive, -⟩
      · exact nomatch hnull.symm.trans hcontent
      · cases hblock.symm.trans hcontent
        exact nomatch hlive.symm.trans hnone
  constructor
  · intro a' u hu
    rcases PartialMap.found_of_store hu with ⟨-, rfl⟩ | ⟨hne, hu⟩
    · exact hself
    · rcases hC.held hu with hnull | ⟨address, block, hcontent, hlive, hlen⟩
      · exact .inl hnull
      · obtain ⟨hold, hnew⟩ := hother hne hu hcontent
        exact .inr ⟨address, block, hcontent, (hkeep address hold hnew).trans hlive, hlen⟩
  · intro a₁ a₂ u₁ u₂ address h₁ h₂ hc₁ hc₂
    rcases PartialMap.found_of_store h₁ with ⟨rfl, rfl⟩ | ⟨hne₁, hold₁⟩
    · rcases PartialMap.found_of_store h₂ with ⟨rfl, -⟩ | ⟨hne₂, hold₂⟩
      · rfl
      · exact ((hother hne₂ hold₂ hc₂).2 hc₁).elim
    · rcases PartialMap.found_of_store h₂ with ⟨rfl, rfl⟩ | ⟨-, hold₂⟩
      · exact ((hother hne₁ hold₁ hc₁).2 hc₂).elim
      · exact hC.unshared hold₁ hold₂ hc₁ hc₂

theorem keep (hC : Contents surfaces blocks) (ha : surfaces a = some s)
    (hcontent : s'.content = s.content) (hcw : s'.cw = s.cw) (hch : s'.ch = s.ch) :
    Contents (Function.update surfaces a (some s')) blocks :=
  hC.replace ha ((hC.held ha).congr hcontent hcw hch) (fun _ _ _ => rfl)
    fun _ h => .inl (hcontent ▸ h)

theorem free_ne {p : Ptr} {address : Nat} (h : p ≠ .block address) :
    Frontend.free blocks p address = blocks address := by
  cases p with
  | block address' =>
      have hne : address ≠ address' := fun heq => h (heq ▸ rfl)
      simp [Frontend.free, hne]
  | _ => rfl

theorem release (hC : Contents surfaces blocks) (ha : surfaces a = some s)
    (hcontent : s'.content = .null) (hcw : s'.cw = 0) (hch : s'.ch = 0) :
    Contents (Function.update surfaces a (some s')) (Frontend.free blocks s.content) :=
  hC.replace ha (.inl ⟨hcontent, hcw, hch⟩) (fun _ hold _ => free_ne hold)
    fun _ h => nomatch hcontent.symm.trans h

theorem add (hC : Contents surfaces blocks) (hcontent : s'.content = .null) (hcw : s'.cw = 0)
    (hch : s'.ch = 0) : Contents (Function.update surfaces a (some s')) blocks := by
  constructor
  · intro a' u hu
    rcases PartialMap.found_of_store hu with ⟨-, rfl⟩ | ⟨-, hu⟩
    · exact .inl ⟨hcontent, hcw, hch⟩
    · exact hC.held hu
  · intro a₁ a₂ u₁ u₂ address h₁ h₂ hc₁ hc₂
    rcases PartialMap.found_of_store h₁ with ⟨-, rfl⟩ | ⟨-, h₁⟩
    · exact nomatch hcontent.symm.trans hc₁
    · rcases PartialMap.found_of_store h₂ with ⟨-, rfl⟩ | ⟨-, h₂⟩
      · exact nomatch hcontent.symm.trans hc₂
      · exact hC.unshared h₁ h₂ hc₁ hc₂

theorem remove (hC : Contents surfaces blocks) (a : Nat) :
    Contents (Function.update surfaces a none) blocks where
  held hu := hC.held (PartialMap.found_of_erase hu).2
  unshared h₁ h₂ := hC.unshared (PartialMap.found_of_erase h₁).2 (PartialMap.found_of_erase h₂).2

end Contents

/-! ## The stack -/

structure Depicts (s : FeSurface) (w : Window) : Prop where
  buf : w.buf = s.content
  bufW : w.bufW = s.cw
  bufH : w.bufH = s.ch
  bufStride : w.bufStride = int32 (s.cw * 4)

/-- A record and the window it names; `fresh` says that the window is up to date. -/
structure Mapped (stack : WindowStack) (foreign : List Nat) (fresh : Prop) (s : FeSurface) :
    Prop where
  window : ∃ w, stack.view s.serverId = some w ∧ w.role = .normal ∧ w.appDecorated = false ∧
    (fresh → Depicts s w)
  ours : s.serverId ∈ foreign
  toplevel : s.xdgToplevel ≠ none
  content : s.content ≠ .null

/-- Every window of a surface shows its content, that of the record `stale` excepted. -/
structure Shown (stale : Option Nat) (foreign : List Nat) (fe : Frontend) : Prop where
  mapped : ∀ {a s}, fe.surfaces a = some s → s.serverId ≠ 0 →
    Mapped fe.stack foreign (stale ≠ some a) s
  apart : ∀ {a a' s s'}, fe.surfaces a = some s → fe.surfaces a' = some s' → s.serverId ≠ 0 →
    s.serverId = s'.serverId → a = a'
  heap : ∀ {id w address}, fe.stack.view id = some w → w.buf = .block address →
    ∃ a s, fe.surfaces a = some s ∧ s.serverId = id
  created : ∀ {id a}, (id, a) ∈ fe.created → id ∈ foreign ∧
    ∀ w, fe.stack.view id = some w → ∃ s, fe.surfaces a = some s ∧ s.serverId = id

theorem Mapped.mono {stack : WindowStack} {foreign : List Nat} {fresh fresh' : Prop}
    {s : FeSurface} (h : Mapped stack foreign fresh s) (hfresh : fresh' → fresh) :
    Mapped stack foreign fresh' s where
  window := by
    obtain ⟨w, hw, hrole, happ, hshows⟩ := h.window
    exact ⟨w, hw, hrole, happ, fun h => hshows (hfresh h)⟩
  ours := h.ours
  toplevel := h.toplevel
  content := h.content

theorem Mapped.restack {stack stack' : WindowStack} {foreign foreign' : List Nat} {fresh : Prop}
    {s : FeSurface} (h : Mapped stack foreign fresh s)
    (hview : stack'.view s.serverId = stack.view s.serverId)
    (hforeign : ∀ id ∈ foreign, id ∈ foreign') : Mapped stack' foreign' fresh s where
  window := by
    rw [hview]
    exact h.window
  ours := hforeign _ h.ours
  toplevel := h.toplevel
  content := h.content

namespace Shown

variable {stale stale' : Option Nat} {foreign foreign' : List Nat} {fe fe' : Frontend}
  {a : Nat} {s s' : FeSurface}

theorem weaken (h : Shown none foreign fe) (stale : Option Nat) : Shown stale foreign fe :=
  { h with mapped := fun ha hid => (h.mapped ha hid).mono fun _ => by simp }

theorem settle (h : Shown (some a) foreign fe) (ha : fe.surfaces a = some s)
    (hid : s.serverId = 0) : Shown none foreign fe where
  mapped {a' u} hu hid' := (h.mapped hu hid').mono fun _ heq => by
    cases heq
    cases ha.symm.trans hu
    exact hid' hid
  apart := h.apart
  heap := h.heap
  created := h.created

/--
One record changes, and with it the windows it named before and names now.  A
window that it newly names is a new one.
-/
theorem replace (h : Shown stale foreign fe) (ha : fe.surfaces a = some s)
    (hsurfaces : fe'.surfaces = Function.update fe.surfaces a (some s'))
    (hforeign : ∀ id ∈ foreign, id ∈ foreign')
    (hothers : ∀ id, id ≠ s.serverId → id ≠ s'.serverId → fe'.stack.view id = fe.stack.view id)
    (hzero : fe'.stack.view 0 = none)
    (hgone : s'.serverId ≠ s.serverId → fe'.stack.view s.serverId = none)
    (hnew : s'.serverId ≠ 0 → s'.serverId = s.serverId ∨ s'.serverId ∉ foreign)
    (hself : s'.serverId ≠ 0 → Mapped fe'.stack foreign' (stale' ≠ some a) s')
    (hstale : ∀ a', a' ≠ a → stale' ≠ some a' → stale ≠ some a')
    (hcreated : ∀ p ∈ fe'.created, p ∈ fe.created ∨ p = (s'.serverId, a) ∧ s'.serverId ∈ foreign') :
    Shown stale' foreign' fe' := by
  have hlookup {a' : Nat} {u : FeSurface} (hu : fe'.surfaces a' = some u) :
      a' = a ∧ u = s' ∨ a' ≠ a ∧ fe.surfaces a' = some u := by
    rw [hsurfaces] at hu
    exact PartialMap.found_of_store hu
  have hkeep {a' : Nat} {u : FeSurface} (hne : a' ≠ a) (hu : fe.surfaces a' = some u) :
      fe'.surfaces a' = some u := by
    rw [hsurfaces]
    exact PartialMap.found_of_ne hne _ hu
  have hkeepSelf : fe'.surfaces a = some s' := by
    rw [hsurfaces, Function.update_self]
  -- the windows of the other records are neither the old nor the new one of this record
  have hapart {a' : Nat} {u : FeSurface} (hne : a' ≠ a) (hu : fe.surfaces a' = some u)
      (hid : u.serverId ≠ 0) : u.serverId ≠ s.serverId ∧ u.serverId ≠ s'.serverId := by
    have hold : u.serverId ≠ s.serverId := fun heq => hne (h.apart hu ha hid heq)
    refine ⟨hold, fun heq => ?_⟩
    rcases hnew (heq ▸ hid) with hsame | hfresh
    · exact hold (heq.trans hsame)
    · exact hfresh (heq ▸ (h.mapped hu hid).ours)
  constructor
  · intro a' u hu hid
    rcases hlookup hu with ⟨rfl, rfl⟩ | ⟨hne, hu⟩
    · exact hself hid
    · obtain ⟨hold, hnow⟩ := hapart hne hu hid
      exact ((h.mapped hu hid).mono (hstale a' hne)).restack (hothers _ hold hnow) hforeign
  · intro a₁ a₂ u₁ u₂ h₁ h₂ hid heq
    rcases hlookup h₁ with ⟨rfl, rfl⟩ | ⟨hne₁, hold₁⟩
    · rcases hlookup h₂ with ⟨rfl, -⟩ | ⟨hne₂, hold₂⟩
      · rfl
      · exact ((hapart hne₂ hold₂ (heq ▸ hid)).2 heq.symm).elim
    · rcases hlookup h₂ with ⟨rfl, rfl⟩ | ⟨-, hold₂⟩
      · exact ((hapart hne₁ hold₁ hid).2 heq).elim
      · exact h.apart hold₁ hold₂ hid heq
  · intro id w address hw hbuf
    by_cases hnow : id = s'.serverId
    · exact ⟨a, s', hkeepSelf, hnow.symm⟩
    · by_cases hold : id = s.serverId
      · rw [hold, hgone fun heq => hnow (hold.trans heq.symm)] at hw
        cases hw
      · rw [hothers id hold hnow] at hw
        obtain ⟨a', u, hu, hid⟩ := h.heap hw hbuf
        have hne : a' ≠ a := by
          rintro rfl
          cases ha.symm.trans hu
          exact hold hid.symm
        exact ⟨a', u, hkeep hne hu, hid⟩
  · intro id a' hp
    rcases hcreated _ hp with hp | ⟨heq, hours⟩
    · obtain ⟨hours, hlive⟩ := h.created hp
      refine ⟨hforeign _ hours, fun w hw => ?_⟩
      have hnonzero : id ≠ 0 := by
        rintro rfl
        rw [hzero] at hw
        cases hw
      by_cases hold : id = s.serverId
      · -- the old window is still there, so the record still names it
        have hsame : s'.serverId = s.serverId := by
          by_contra hne
          rw [hold, hgone hne] at hw
          cases hw
        obtain ⟨w₀, hw₀, -⟩ := (h.mapped ha (hold ▸ hnonzero)).window
        obtain ⟨u, hu, hid⟩ := hlive w₀ (hold ▸ hw₀)
        have hself : a' = a := h.apart hu ha (hid ▸ hnonzero) (hid.trans hold)
        exact ⟨s', hself ▸ hkeepSelf, hsame.trans hold.symm⟩
      · have hnow : id ≠ s'.serverId := fun heq => by
          rcases hnew (heq ▸ hnonzero) with hsame | hfresh
          · exact hold (heq.trans hsame)
          · exact hfresh (heq ▸ hours)
        rw [hothers id hold hnow] at hw
        obtain ⟨u, hu, hid⟩ := hlive w hw
        have hne : a' ≠ a := by
          rintro rfl
          cases ha.symm.trans hu
          exact hold hid.symm
        exact ⟨u, hkeep hne hu, hid⟩
    · cases heq
      exact ⟨hours, fun _ _ => ⟨s', hkeepSelf, rfl⟩⟩

theorem keep (h : Shown stale foreign fe) (ha : fe.surfaces a = some s)
    (hsurfaces : fe'.surfaces = Function.update fe.surfaces a (some s'))
    (hstack : fe'.stack = fe.stack) (hcreated : fe'.created = fe.created)
    (hzero : fe.stack.view 0 = none) (hid : s'.serverId = s.serverId)
    (hcontent : s'.content = s.content) (hcw : s'.cw = s.cw) (hch : s'.ch = s.ch)
    (htoplevel : s.serverId ≠ 0 → s'.xdgToplevel ≠ none) : Shown stale foreign fe' := by
  refine h.replace ha hsurfaces (fun _ h => h) (fun id _ _ => by rw [hstack])
    (by rw [hstack, hzero]) (fun hne => (hne hid).elim) (fun _ => .inl hid) (fun hne => ?_)
    (fun _ _ h => h) fun p hp => .inl (hcreated ▸ hp)
  rw [hid] at hne
  have hold := h.mapped ha hne
  obtain ⟨w, hw, hrole, happ, hshows⟩ := hold.window
  refine ⟨⟨w, by rw [hid, hstack, hw], hrole, happ, fun hfresh => ?_⟩, hid ▸ hold.ours,
    htoplevel hne, hcontent ▸ hold.content⟩
  have hd := hshows hfresh
  exact ⟨hd.buf.trans hcontent.symm, hd.bufW.trans hcw.symm, hd.bufH.trans hch.symm,
    hcw.symm ▸ hd.bufStride⟩

theorem ofMapped (h : Shown stale foreign fe)
    (hold : ∀ {a u}, fe'.surfaces a = some u → u.serverId ≠ 0 → fe.surfaces a = some u)
    (hkeep : ∀ {a u w}, fe.surfaces a = some u → fe.stack.view u.serverId = some w →
      fe'.surfaces a = some u)
    (hstack : fe'.stack = fe.stack) (hcreated : fe'.created = fe.created) :
    Shown stale foreign fe' where
  mapped hu hmapped := by
    rw [hstack]
    exact h.mapped (hold hu hmapped) hmapped
  apart h₁ h₂ hmapped heq := h.apart (hold h₁ hmapped) (hold h₂ (heq ▸ hmapped)) hmapped heq
  heap {id w address} hw hbuf := by
    rw [hstack] at hw
    obtain ⟨a, u, hu, rfl⟩ := h.heap hw hbuf
    exact ⟨a, u, hkeep hu hw, rfl⟩
  created {id a} hp := by
    rw [hcreated] at hp
    obtain ⟨hours, hlive⟩ := h.created hp
    refine ⟨hours, fun w hw => ?_⟩
    rw [hstack] at hw
    obtain ⟨u, hu, rfl⟩ := hlive w hw
    exact ⟨u, hkeep hu hw, rfl⟩

theorem add (h : Shown stale foreign fe) (hnone : fe.surfaces a = none)
    (hsurfaces : fe'.surfaces = Function.update fe.surfaces a (some s'))
    (hstack : fe'.stack = fe.stack) (hcreated : fe'.created = fe.created)
    (hid : s'.serverId = 0) : Shown stale foreign fe' := by
  refine h.ofMapped (fun hu hmapped => ?_) (fun {a' u w} hu _ => ?_) hstack hcreated
  · rw [hsurfaces] at hu
    rcases PartialMap.found_of_store hu with ⟨-, rfl⟩ | ⟨-, hu⟩
    · exact (hmapped hid).elim
    · exact hu
  · have hne : a' ≠ a := by
      rintro rfl
      exact nomatch hnone.symm.trans hu
    rw [hsurfaces]
    exact PartialMap.found_of_ne hne _ hu

theorem remove (h : Shown stale foreign fe) (ha : fe.surfaces a = some s)
    (hid : s.serverId = 0) (hsurfaces : fe'.surfaces = Function.update fe.surfaces a none)
    (hstack : fe'.stack = fe.stack) (hcreated : fe'.created = fe.created)
    (hzero : fe.stack.view 0 = none) : Shown stale foreign fe' := by
  refine h.ofMapped (fun hu _ => ?_) (fun {a' u w} hu hw => ?_) hstack hcreated
  · rw [hsurfaces] at hu
    exact (PartialMap.found_of_erase hu).2
  · have hne : a' ≠ a := by
      rintro rfl
      cases ha.symm.trans hu
      rw [hid, hzero] at hw
      cases hw
    rw [hsurfaces]
    exact PartialMap.found_of_ne hne _ hu

end Shown

end CrystallineLattice.Wayland
