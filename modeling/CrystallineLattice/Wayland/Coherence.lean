import CrystallineLattice.Native.Outsiders
import CrystallineLattice.Wayland.Content

/-!
# One stack, two users

The frontend and the transport work on one window stack.  To the transport the
frontend is one of the other users of the stack: each of its handlers is a run
of their operations, on windows that the frontend created itself.  This file
shows for each part of a handler that it keeps the invariants of both.
-/

namespace CrystallineLattice.Wayland

open CrystallineLattice.Foundation
open CrystallineLattice.Stack
open CrystallineLattice.Compositor
open CrystallineLattice.Native (World OtherOp Untouched)

/-- The transport's world after the frontend has worked on the stack. -/
def follow (W : World) (fe fe' : Frontend) : World where
  t := { W.t with stack := fe'.stack }
  foreign := W.foreign ++ (fe'.created.drop fe.created.length).map Prod.fst

section Follow

variable {W : World} {fe fe' fe'' : Frontend}

theorem follow_follow (h : fe.created <+: fe'.created) (h' : fe'.created <+: fe''.created) :
    follow (follow W fe fe') fe' fe'' = follow W fe fe'' := by
  obtain ⟨l, hl⟩ := h
  obtain ⟨l', hl'⟩ := h'
  simp [follow, ← hl', ← hl]

theorem within_of_follow (h : (follow W fe fe').Within) : W.Within := by
  have hlen : W.foreign.length ≤ (follow W fe fe').foreign.length := by
    simp [follow]
  have hhistory : (follow W fe fe').t.history = W.t.history := rfl
  unfold World.Within Native.Ledger.Within World.ledger Native.Transport.ledger at h ⊢
  dsimp only at h ⊢
  rw [hhistory] at h
  omega

theorem follow_of_created (hcreated : fe'.created = fe.created) :
    follow W fe fe' = ⟨{ W.t with stack := fe'.stack }, W.foreign⟩ := by
  simp [follow, hcreated]

theorem follow_of_same (hW : fe.stack = W.t.stack) (hstack : fe'.stack = fe.stack)
    (hcreated : fe'.created = fe.created) : follow W fe fe' = W := by
  rw [follow_of_created hcreated, hstack, hW]

end Follow

/-! ## Handlers keep the desktop coherent -/

/-- The invariants of both users of the stack; the window of the record `stale` may lag behind. -/
structure Coherent (stale : Option Nat) (W : World) (fe : Frontend) : Prop where
  stack : fe.stack = W.t.stack
  world : W.Inv
  contents : Contents fe.surfaces fe.blocks
  shown : Shown stale W.foreign fe

/-- From `fe` the frontend comes to `fe'`, and the desktop stays coherent. -/
structure Leads (stale stale' : Option Nat) (fe fe' : Frontend) : Prop where
  created : fe.created <+: fe'.created
  coherent : ∀ {W}, Coherent stale W fe → (follow W fe fe').Within →
    Coherent stale' (follow W fe fe') fe'

theorem Coherent.view_zero {stale : Option Nat} {W : World} {fe : Frontend}
    (h : Coherent stale W fe) : fe.stack.view 0 = none := by
  rw [h.stack]
  exact Stack.view_zero h.world.ledger.stack

/-- The transport and those who only move windows leave the frontend's windows alone. -/
theorem Shown.restack {stale : Option Nat} {foreign foreign' : List Nat} {fe : Frontend}
    (h : Shown stale foreign fe) {stack : WindowStack} (hU : Untouched foreign fe.stack stack)
    (hforeign : ∀ id ∈ foreign, id ∈ foreign') :
    Shown stale foreign' { fe with stack := stack } where
  mapped {a s} ha hid := by
    have hold := h.mapped ha hid
    exact hold.restack (hU.kept _ hold.ours) hforeign
  apart := h.apart
  heap {id w address} hw hbuf := by
    by_cases hours : id ∈ foreign
    · exact h.heap ((hU.kept id hours).symm.trans hw) hbuf
    · obtain ⟨w₀, hw₀, hbuf₀⟩ := hU.heap id hours w address hw hbuf
      exact h.heap hw₀ hbuf₀
  created {id a} hp := by
    obtain ⟨hours, hlive⟩ := h.created hp
    exact ⟨hforeign _ hours, fun w hw => hlive w ((hU.kept id hours).symm.trans hw)⟩

namespace Leads

variable {stale stale' stale'' : Option Nat} {fe fe' fe'' : Frontend} {a : Nat}
  {s s' : FeSurface}

theorem trans (h : Leads stale stale' fe fe') (h' : Leads stale' stale'' fe' fe'') :
    Leads stale stale'' fe fe'' where
  created := h.created.trans h'.created
  coherent {W} hW hwithin := by
    rw [← follow_follow h.created h'.created] at hwithin ⊢
    exact h'.coherent (h.coherent hW (within_of_follow hwithin)) hwithin

theorem same (hstack : fe'.stack = fe.stack) (hcreated : fe'.created = fe.created)
    (hsurfaces : fe'.surfaces = fe.surfaces) (hblocks : fe'.blocks = fe.blocks) :
    Leads stale stale fe fe' where
  created := hcreated ▸ List.prefix_rfl
  coherent {W} hW _ := by
    rw [follow_of_same hW.stack hstack hcreated]
    refine ⟨hstack.trans hW.stack, hW.world, ?_, ?_⟩
    · rw [hsurfaces, hblocks]
      exact hW.contents
    · have hS := hW.shown
      constructor
      · rw [hsurfaces, hstack]
        exact hS.mapped
      · rw [hsurfaces]
        exact hS.apart
      · rw [hsurfaces, hstack]
        exact hS.heap
      · rw [hsurfaces, hstack, hcreated]
        exact hS.created

theorem keep (ha : fe.surfaces a = some s)
    (hsurfaces : fe'.surfaces = Function.update fe.surfaces a (some s'))
    (hstack : fe'.stack = fe.stack) (hcreated : fe'.created = fe.created)
    (hblocks : fe'.blocks = fe.blocks) (hid : s'.serverId = s.serverId)
    (hcontent : s'.content = s.content) (hcw : s'.cw = s.cw) (hch : s'.ch = s.ch)
    (htoplevel : s'.xdgToplevel = s.xdgToplevel ∨ s'.xdgToplevel ≠ none ∨ s.serverId = 0) :
    Leads stale stale fe fe' where
  created := hcreated ▸ List.prefix_rfl
  coherent {W} hW _ := by
    rw [follow_of_same hW.stack hstack hcreated]
    refine ⟨hstack.trans hW.stack, hW.world, ?_, ?_⟩
    · rw [hsurfaces, hblocks]
      exact hW.contents.keep ha hcontent hcw hch
    · refine hW.shown.keep ha hsurfaces hstack hcreated hW.view_zero hid hcontent hcw hch
        fun hne => ?_
      rcases htoplevel with heq | h | hzero
      · exact heq ▸ (hW.shown.mapped ha hne).toplevel
      · exact h
      · exact (hne hzero).elim

theorem edit (ha : fe.surfaces a = some s) (hid : s.serverId ≠ 0) {f : Window → Window}
    (hstack : fe'.stack = fe.stack.writeById s.serverId f) (hf : ∀ w, (f w).id = w.id)
    (hrole : ∀ w, (f w).role = w.role)
    (happ : ∀ w, (f w).appDecorated = w.appDecorated)
    (hshows : ∀ w, (stale ≠ some a → Depicts s w) → stale' ≠ some a → Depicts s (f w))
    (hstale : ∀ a', a' ≠ a → stale' ≠ some a' → stale ≠ some a')
    (hcreated : fe'.created = fe.created) (hsurfaces : fe'.surfaces = fe.surfaces)
    (hblocks : fe'.blocks = fe.blocks) : Leads stale stale' fe fe' where
  created := hcreated ▸ List.prefix_rfl
  coherent {W} hW hwithin := by
    have hold := hW.shown.mapped ha hid
    have hnext : follow W fe fe' = W.next (.other (.edit s.serverId f)) := by
      rw [follow_of_created hcreated, hstack, hW.stack]
      rfl
    rw [hnext] at hwithin ⊢
    have hinv := hW.world.step (e := .other (.edit s.serverId f)) ⟨hf, .inl hold.ours⟩ hwithin
    have hshared : fe'.stack = (W.next (.other (.edit s.serverId f))).t.stack := by
      rw [← hnext]
      rfl
    refine ⟨hshared, hinv, by rw [hsurfaces, hblocks]; exact hW.contents, ?_⟩
    have hself : fe'.surfaces = Function.update fe.surfaces a (some s) := by
      rw [hsurfaces, ← ha, Function.update_eq_self]
    refine hW.shown.replace ha hself (fun _ h => h) (fun id hne _ => ?_) ?_
      (fun hne => (hne rfl).elim) (fun _ => .inl rfl) (fun _ => ?_) hstale
      fun p hp => .inl (hcreated ▸ hp)
    · rw [hstack, view_writeById_ne _ hf hne]
    · rw [hshared]
      exact Stack.view_zero hinv.ledger.stack
    · obtain ⟨w, hw, hnormal, hplain, hd⟩ := hold.window
      obtain ⟨w₀, hw₀, rfl⟩ := Option.map_eq_some_iff.mp hw
      refine ⟨⟨(f w₀).content, ?_, (hrole w₀).trans hnormal, (happ w₀).trans hplain,
        fun hfresh => ?_⟩, hold.ours, hold.toplevel, hold.content⟩
      · rw [hstack, view_writeById _ hf, hw₀, Option.map_some]
      · have hdepicts := hshows w₀ (fun h => ⟨(hd h).buf, (hd h).bufW, (hd h).bufH,
          (hd h).bufStride⟩) hfresh
        exact ⟨hdepicts.buf, hdepicts.bufW, hdepicts.bufH, hdepicts.bufStride⟩

theorem add (hnone : fe.surfaces a = none)
    (hsurfaces : fe'.surfaces = Function.update fe.surfaces a (some s'))
    (hstack : fe'.stack = fe.stack) (hcreated : fe'.created = fe.created)
    (hblocks : fe'.blocks = fe.blocks) (hid : s'.serverId = 0) (hcontent : s'.content = .null)
    (hcw : s'.cw = 0) (hch : s'.ch = 0) : Leads stale stale fe fe' where
  created := hcreated ▸ List.prefix_rfl
  coherent {W} hW _ := by
    rw [follow_of_same hW.stack hstack hcreated]
    refine ⟨hstack.trans hW.stack, hW.world, ?_, hW.shown.add hnone hsurfaces hstack hcreated hid⟩
    rw [hsurfaces, hblocks]
    exact hW.contents.add hcontent hcw hch

theorem remove (ha : fe.surfaces a = some s) (hid : s.serverId = 0)
    (hsurfaces : fe'.surfaces = Function.update fe.surfaces a none)
    (hstack : fe'.stack = fe.stack) (hcreated : fe'.created = fe.created)
    (hblocks : fe'.blocks = fe.blocks) : Leads stale stale fe fe' where
  created := hcreated ▸ List.prefix_rfl
  coherent {W} hW _ := by
    rw [follow_of_same hW.stack hstack hcreated]
    refine ⟨hstack.trans hW.stack, hW.world, ?_,
      hW.shown.remove ha hid hsurfaces hstack hcreated hW.view_zero⟩
    rw [hsurfaces, hblocks]
    exact hW.contents.remove a

theorem settle (ha : fe.surfaces a = some s)
    (hidle : s.serverId ≠ 0 → ¬ (s.content ≠ .null ∧ s.xdgToplevel ≠ none)) :
    Leads (some a) none fe fe where
  created := List.prefix_rfl
  coherent {W} hW _ := by
    rw [follow_of_same hW.stack rfl rfl]
    refine ⟨hW.stack, hW.world, hW.contents, hW.shown.settle ha ?_⟩
    by_contra hid
    have hmapped := hW.shown.mapped ha hid
    exact hidle hid ⟨hmapped.content, hmapped.toplevel⟩

end Leads

/-! ## Unmapping -/

section Unmap

variable {fe : Frontend} {a : Nat} {s : FeSurface}

def FeSurface.unmapped (s : FeSurface) : FeSurface :=
  { s with serverId := 0, content := .null, cw := 0, ch := 0 }

theorem surfaceUnmap_surfaces (ha : fe.surfaces a = some s) :
    (surfaceUnmap fe a).surfaces = Function.update fe.surfaces a (some s.unmapped) := by
  rw [surfaceUnmap, Frontend.onSurface_eq ha]
  split <;> rfl

theorem surfaceUnmap_blocks (ha : fe.surfaces a = some s) :
    (surfaceUnmap fe a).blocks = Frontend.free fe.blocks s.content := by
  rw [surfaceUnmap, Frontend.onSurface_eq ha]
  split <;> rfl

theorem surfaceUnmap_created (ha : fe.surfaces a = some s) :
    (surfaceUnmap fe a).created = fe.created := by
  rw [surfaceUnmap, Frontend.onSurface_eq ha]
  split <;> rfl

theorem surfaceUnmap_stack (ha : fe.surfaces a = some s) :
    (surfaceUnmap fe a).stack =
      if s.serverId ≠ 0 then windowDestroy fe.stack s.serverId else fe.stack := by
  rw [surfaceUnmap, Frontend.onSurface_eq ha]
  split <;> rfl

theorem leads_surfaceUnmap (ha : fe.surfaces a = some s) :
    Leads none none fe (surfaceUnmap fe a) where
  created := surfaceUnmap_created ha ▸ List.prefix_rfl
  coherent {W} hW hwithin := by
    have hcontents : Contents (surfaceUnmap fe a).surfaces (surfaceUnmap fe a).blocks := by
      rw [surfaceUnmap_surfaces ha, surfaceUnmap_blocks ha]
      exact hW.contents.release ha rfl rfl rfl
    have hcreated (p : Nat × Nat) (hp : p ∈ (surfaceUnmap fe a).created) :
        p ∈ fe.created ∨ p = (s.unmapped.serverId, a) ∧ s.unmapped.serverId ∈ W.foreign :=
      .inl (surfaceUnmap_created ha ▸ hp)
    by_cases hid : s.serverId = 0
    · have hstack : (surfaceUnmap fe a).stack = fe.stack := by
        rw [surfaceUnmap_stack ha, if_neg (not_not.mpr hid)]
      rw [follow_of_same hW.stack hstack (surfaceUnmap_created ha)]
      refine ⟨hstack.trans hW.stack, hW.world, hcontents, ?_⟩
      exact hW.shown.replace ha (surfaceUnmap_surfaces ha) (fun _ h => h)
        (fun _ _ _ => by rw [hstack]) (by rw [hstack, hW.view_zero])
        (fun hne => (hne hid.symm).elim) (fun hne => (hne rfl).elim) (fun hne => (hne rfl).elim)
        (fun _ _ h => h) hcreated
    · have hstack : (surfaceUnmap fe a).stack = windowDestroy fe.stack s.serverId := by
        rw [surfaceUnmap_stack ha, if_pos hid]
      have hnext : follow W fe (surfaceUnmap fe a) =
          W.next (.other (.call (.destroy s.serverId))) := by
        rw [follow_of_created (surfaceUnmap_created ha), hstack, hW.stack]
        rfl
      rw [hnext] at hwithin ⊢
      have hours : s.serverId ∈ W.foreign := (hW.shown.mapped ha hid).ours
      have hinv := hW.world.step (e := .other (.call (.destroy s.serverId))) hours hwithin
      have hshared : (surfaceUnmap fe a).stack =
          (W.next (.other (.call (.destroy s.serverId)))).t.stack := by
        rw [← hnext]
        rfl
      have hnodup : fe.stack.ids.Nodup := by
        rw [hW.stack]
        exact hW.world.ledger.stack.nodup
      refine ⟨hshared, hinv, hcontents, ?_⟩
      refine hW.shown.replace ha (surfaceUnmap_surfaces ha) (fun _ h => h) (fun id hne _ => ?_) ?_
        (fun _ => ?_) (fun hne => (hne rfl).elim) (fun hne => (hne rfl).elim)
        (fun _ _ h => h) hcreated
      · rw [hstack, view_windowDestroy_ne _ hne]
      · rw [hshared]
        exact Stack.view_zero hinv.ledger.stack
      · rw [hstack, view_windowDestroy_self hnodup]

end Unmap

/-! ## Copying -/

section Copy

variable {fe : Frontend} {a : Nat} {s : FeSurface}

theorem copyRows_len (shmb : ShmBuffer) (block : Block) :
    (copyRows shmb block).len = block.len := by
  unfold copyRows
  generalize List.range shmb.height.toNat = rows
  induction rows generalizing block with
  | nil => rfl
  | cons y rows ih => exact ih (copyRow shmb block y)

theorem leads_newContent {fe' : Frontend} {s' : FeSurface} {address : Nat}
    (ha : fe.surfaces a = some s)
    (hsurfaces : fe'.surfaces = Function.update fe.surfaces a (some s'))
    (hcontent : s'.content = .block address) (hid : s'.serverId = s.serverId)
    (htoplevel : s'.xdgToplevel = s.xdgToplevel)
    (hfresh : s.content = .block address ∨ fe.blocks address = none)
    (hstack : fe'.stack = fe.stack) (hcreated : fe'.created = fe.created)
    (hkeep : ∀ address', s.content ≠ .block address' → address' ≠ address →
      fe'.blocks address' = fe.blocks address')
    (hblock : Holds fe.blocks s → ∃ block, fe'.blocks address = some block ∧
      block.len = s'.cw * s'.ch * 4 ∧ 0 < s'.cw) :
    Leads none (some a) fe fe' where
  created := hcreated ▸ List.prefix_rfl
  coherent {W} hW _ := by
    rw [follow_of_same hW.stack hstack hcreated]
    refine ⟨hstack.trans hW.stack, hW.world, ?_, ?_⟩
    · obtain ⟨block, hlive, hlen⟩ := hblock (hW.contents.held ha)
      rw [hsurfaces]
      refine hW.contents.replace ha (.inr ⟨address, block, hcontent, hlive, hlen⟩)
        (fun address' hold hnew => hkeep address' hold fun heq => ?_) fun address' heq => ?_
      · exact hnew (heq ▸ hcontent)
      · cases hcontent.symm.trans heq
        exact hfresh
    · refine hW.shown.replace ha hsurfaces (fun _ h => h) (fun _ _ _ => by rw [hstack])
        (by rw [hstack, hW.view_zero]) (fun hne => (hne hid).elim) (fun _ => .inl hid)
        (fun hne => ?_) (fun _ _ _ => by simp) fun p hp => .inl (hcreated ▸ hp)
      rw [hid] at hne
      have hold := hW.shown.mapped ha hne
      obtain ⟨w, hw, hrole, happ, -⟩ := hold.window
      exact ⟨⟨w, by rw [hid, hstack, hw], hrole, happ, fun h => (h rfl).elim⟩, hid ▸ hold.ours,
        htoplevel ▸ hold.toplevel, by simp [hcontent]⟩

theorem leads_copyShmBuffer (ha : fe.surfaces a = some s) (shmb : ShmBuffer)
    (heap : Option Nat)
    (hnew : ∀ address ∈ heap, Frontend.free fe.blocks s.content address = none) :
    Leads none (some a) fe (copyShmBuffer fe a shmb heap) := by
  have hidle : Leads none (some a) fe fe :=
    { created := List.prefix_rfl
      coherent := fun {W} hW _ => by
        rw [follow_of_same hW.stack rfl rfl]
        exact ⟨hW.stack, hW.world, hW.contents, hW.shown.weaken _⟩ }
  rw [copyShmBuffer, Frontend.onSurface_eq ha]
  split
  · exact hidle
  · rename_i hsize
    split
    · cases heap with
      | none => exact hidle
      | some address =>
          have hfree := hnew address rfl
          refine leads_newContent ha rfl (rfl : _ = Ptr.block address) rfl rfl ?_ rfl rfl
            (fun address' hold hne => ?_) fun _ => ⟨_, Function.update_self .., ?_⟩
          · by_cases hold : s.content = .block address
            · exact .inl hold
            · exact .inr ((Contents.free_ne hold).symm.trans hfree)
          · exact (Function.update_of_ne hne _ _).trans (Contents.free_ne hold)
          · exact ⟨copyRows_len _ _, by dsimp only; omega⟩
    · cases hcontent : s.content with
      | null => exact hidle
      | mapping base => exact hidle
      | block address =>
          refine leads_newContent ha ?_ hcontent rfl rfl (.inl hcontent)
            rfl rfl (fun address' _ hne => Function.update_of_ne hne _ _) fun hheld => ?_
          · rw [← ha, Function.update_eq_self]
          · rcases hheld with ⟨hnull, -⟩ | ⟨address', block, heq, hlive, hlen⟩
            · rw [hcontent] at hnull
              cases hnull
            · cases heq.symm.trans hcontent
              refine ⟨copyRows shmb block, ?_, (copyRows_len _ _).trans hlen.1, hlen.2⟩
              simp [hlive]

end Copy

/-! ## Mapping and updating -/

section Map

variable {fe : Frontend} {a : Nat} {s : FeSurface}

def firstWindow (fe : Frontend) (s : FeSurface) : Window :=
  newWindow fe.stack.nextId .normal (120 + 40 * fe.cascade.tmod 8) (90 + 40 * fe.cascade.tmod 8)
    s.cw (int32 (s.ch + decorTitlebarH)) 0x00202020
    (if s.title = [] then cString "Wayland" else s.title)

def createOp (fe : Frontend) (s : FeSurface) : StackOp :=
  .create .normal (120 + 40 * fe.cascade.tmod 8) (90 + 40 * fe.cascade.tmod 8) s.cw
    (int32 (s.ch + decorTitlebarH)) 0x00202020
    (if s.title = [] then cString "Wayland" else s.title)

theorem createFor_cases (fe : Frontend) (s : FeSurface) :
    createFor fe s = (fe.stack, 0) ∧ winMax ≤ fe.stack.count ∨
      fe.stack.count < winMax ∧
        createFor fe s = (⟨fe.stack.windows ++ [firstWindow fe s], fe.stack.focusId,
          uint32 (fe.stack.nextId + 1)⟩, fe.stack.nextId) :=
  windowCreate_cases ..

def mappedStack (fe : Frontend) (s : FeSurface) : WindowStack :=
  windowFocus
    (WindowStack.writeById ⟨fe.stack.windows ++ [firstWindow fe s], fe.stack.focusId,
      uint32 (fe.stack.nextId + 1)⟩ fe.stack.nextId (showContent s)) fe.stack.nextId

theorem surfaceMapOrUpdate_created (fe : Frontend) (a : Nat) :
    fe.created <+: (surfaceMapOrUpdate fe a).created := by
  unfold surfaceMapOrUpdate Frontend.onSurface
  cases fe.surfaces a with
  | none => exact List.prefix_rfl
  | some s =>
      dsimp only
      split
      · exact List.prefix_rfl
      · split
        · exact List.prefix_rfl
        · exact List.prefix_append _ _

theorem surfaceMapOrUpdate_cases (ha : fe.surfaces a = some s) (hpos : fe.stack.nextId ≠ 0) :
    s.serverId ≠ 0 ∧ surfaceMapOrUpdate fe a =
        { fe with stack := fe.stack.writeById s.serverId (fitContent s), dirty := true } ∨
      s.serverId = 0 ∧ winMax ≤ fe.stack.count ∧
        surfaceMapOrUpdate fe a = { fe with cascade := int32 (fe.cascade + 1) } ∨
      s.serverId = 0 ∧ fe.stack.count < winMax ∧
        surfaceMapOrUpdate fe a =
          Frontend.setSurface { fe with
            stack := mappedStack fe s
            cascade := int32 (fe.cascade + 1)
            dirty := true
            created := fe.created ++ [(fe.stack.nextId, a)] } a
              { s with serverId := fe.stack.nextId } := by
  rw [surfaceMapOrUpdate, Frontend.onSurface_eq ha]
  by_cases hid : s.serverId = 0
  · rw [if_neg (not_not.mpr hid)]
    rcases createFor_cases fe s with ⟨heq, hfull⟩ | ⟨hroom, heq⟩
    · exact .inr (.inl ⟨hid, hfull, by simp only [heq, if_true]⟩)
    · refine .inr (.inr ⟨hid, hroom, ?_⟩)
      simp only [heq, hpos, if_false]
      rfl
  · rw [if_pos hid]
    exact .inl ⟨hid, rfl⟩

theorem follow_mapped {W : World} {fe' : Frontend} (hW : fe.stack = W.t.stack)
    (hroom : fe.stack.count < winMax) (hpos : fe.stack.nextId ≠ 0)
    (hstack : fe'.stack = mappedStack fe s)
    (hcreated : fe'.created = fe.created ++ [(fe.stack.nextId, a)]) :
    follow W fe fe' =
      ((W.next (.other (.call (createOp fe s)))).next
        (.other (.edit fe.stack.nextId (showContent s)))).next
        (.other (.call (.focus fe.stack.nextId))) := by
  have hcreate : createFor fe s = (⟨fe.stack.windows ++ [firstWindow fe s], fe.stack.focusId,
      uint32 (fe.stack.nextId + 1)⟩, fe.stack.nextId) := by
    rcases createFor_cases fe s with ⟨-, hfull⟩ | ⟨-, heq⟩
    · omega
    · exact heq
  have hmade : Native.Ledger.otherNext W.t.stack W.foreign (.call (createOp fe s)) =
      (⟨fe.stack.windows ++ [firstWindow fe s], fe.stack.focusId,
        uint32 (fe.stack.nextId + 1)⟩, W.foreign ++ [fe.stack.nextId]) := by
    rw [← hW]
    unfold createFor at hcreate
    simp only [Native.Ledger.otherNext, createOp, StackHistory.next, hcreate, hpos, if_false]
  unfold World.next
  simp only [hmade]
  simp [follow, hstack, hcreated, mappedStack, Native.Ledger.otherNext, StackHistory.next]

theorem mappedStack_view (hs : fe.stack.WellFormed)
    (hwrap : fe.stack.nextId + 1 < 4294967296) (hroom : fe.stack.count < winMax) :
    (mappedStack fe s).view fe.stack.nextId = some (showContent s (firstWindow fe s)).content ∧
      ∀ id, id ≠ fe.stack.nextId → (mappedStack fe s).view id = fe.stack.view id := by
  have hkeep : ∀ w, (showContent s w).id = w.id := fun _ => rfl
  have hfresh : fe.stack.nextId ∉ fe.stack.ids := fun hmem => Nat.lt_irrefl _ (hs.below _ hmem)
  have hself : (firstWindow fe s).id = fe.stack.nextId := rfl
  have hnodup := ((hs.append hroom hwrap hself).writeById fe.stack.nextId hkeep).nodup
  have hfocus := (windowFocus_rearranges hnodup fe.stack.nextId).view_eq
  refine ⟨?_, fun id hne => ?_⟩
  · have hcopy : windowById ⟨fe.stack.windows ++ [firstWindow fe s], fe.stack.focusId,
        uint32 (fe.stack.nextId + 1)⟩ fe.stack.nextId = some (firstWindow fe s) := by
      have hnone : KeyedList.lookup Window.id fe.stack.nextId fe.stack.windows = none :=
        KeyedList.lookup_eq_none_iff.mpr hfresh
      rw [windowById_eq_lookup, KeyedList.lookup_append, hnone]
      simp [KeyedList.lookup, hself]
    rw [mappedStack, hfocus, view_writeById _ hkeep, hcopy, Option.map_some]
  · rw [mappedStack, hfocus, view_writeById_ne _ hkeep hne]
    exact view_append_ne fe.stack hne _ _

theorem coherent_follow_mapped {W : World} {fe' : Frontend} {stale : Option Nat}
    (hW : Coherent stale W fe) (hroom : fe.stack.count < winMax)
    (hstack : fe'.stack = mappedStack fe s)
    (hcreated : fe'.created = fe.created ++ [(fe.stack.nextId, a)])
    (hwithin : (follow W fe fe').Within) : (follow W fe fe').Inv := by
  have hpos : fe.stack.nextId ≠ 0 := by
    rw [hW.stack]
    exact Nat.pos_iff_ne_zero.mp hW.world.ledger.stack.nextPos
  have hnext := follow_mapped hW.stack hroom hpos hstack hcreated
  have hours : fe.stack.nextId ∈ (W.next (.other (.call (createOp fe s)))).foreign := by
    have hforeign : W.foreign ++ [fe.stack.nextId] =
        (W.next (.other (.call (createOp fe s)))).foreign := by
      have hgrown : (follow W fe fe').foreign = W.foreign ++ [fe.stack.nextId] := by
        simp [follow, hcreated]
      have hlast := hgrown.symm.trans (congrArg World.foreign hnext)
      exact hlast.trans rfl
    rw [← hforeign]
    simp
  rw [hnext] at hwithin ⊢
  have hfocused := hwithin.mono
  have hcreate := hW.world.step (e := .other (.call (createOp fe s))) trivial hfocused.mono
  have hedit := hcreate.step (e := .other (.edit fe.stack.nextId (showContent s)))
    ⟨fun _ => rfl, .inl hours⟩ hfocused
  exact hedit.step (e := .other (.call (.focus fe.stack.nextId))) trivial hwithin

theorem leads_surfaceMapOrUpdate (ha : fe.surfaces a = some s) (hcontent : s.content ≠ .null)
    (htoplevel : s.xdgToplevel ≠ none) : Leads (some a) none fe (surfaceMapOrUpdate fe a) where
  created := surfaceMapOrUpdate_created fe a
  coherent {W} hW hwithin := by
    have hwf : fe.stack.WellFormed := by
      rw [hW.stack]
      exact hW.world.ledger.stack
    have hpos : fe.stack.nextId ≠ 0 := Nat.pos_iff_ne_zero.mp hwf.nextPos
    have hstale (a' : Nat) (hne : a' ≠ a) (_ : none ≠ some a') : some a ≠ some a' :=
      fun heq => hne (Option.some.inj heq).symm
    rcases surfaceMapOrUpdate_cases ha hpos with
      ⟨hid, heq⟩ | ⟨hid, -, heq⟩ | ⟨hid, hroom, heq⟩
    · have hupdate : Leads (some a) none fe (surfaceMapOrUpdate fe a) := by
        rw [heq]
        exact .edit ha hid rfl (fun _ => rfl) (fun _ => rfl) (fun _ => rfl)
          (fun _ _ _ => ⟨rfl, rfl, rfl, rfl⟩) hstale rfl rfl rfl
      exact hupdate.coherent hW hwithin
    · have hfull : Leads (some a) none fe (surfaceMapOrUpdate fe a) := by
        rw [heq]
        exact (Leads.settle ha fun hne => (hne hid).elim).trans (.same rfl rfl rfl rfl)
      exact hfull.coherent hW hwithin
    · have hstack : (surfaceMapOrUpdate fe a).stack = mappedStack fe s := by
        rw [heq]
        rfl
      have hcreated : (surfaceMapOrUpdate fe a).created =
          fe.created ++ [(fe.stack.nextId, a)] := by
        rw [heq]
        rfl
      have hsurfaces : (surfaceMapOrUpdate fe a).surfaces =
          Function.update fe.surfaces a (some { s with serverId := fe.stack.nextId }) := by
        rw [heq]
        rfl
      have hblocks : (surfaceMapOrUpdate fe a).blocks = fe.blocks := by
        rw [heq]
        rfl
      have hforeign : (follow W fe (surfaceMapOrUpdate fe a)).foreign =
          W.foreign ++ [fe.stack.nextId] := by
        simp [follow, hcreated]
      have hinv := coherent_follow_mapped hW hroom hstack hcreated hwithin
      have hwrap : fe.stack.nextId + 1 < 4294967296 := by
        have hcount := hW.world.ledger.counting.counted
        have hstackW : W.ledger.stack = fe.stack := hW.stack.symm
        rw [hstackW] at hcount
        unfold World.Within Native.Ledger.Within at hwithin
        have hlen : (follow W fe (surfaceMapOrUpdate fe a)).ledger.foreign.length =
            W.ledger.foreign.length + 1 := by
          exact (congrArg List.length hforeign).trans (by simp; rfl)
        have hmade : (follow W fe (surfaceMapOrUpdate fe a)).ledger.created = W.ledger.created :=
          rfl
        rw [hlen, hmade] at hwithin
        omega
      obtain ⟨hself, hothers⟩ := mappedStack_view (s := s) hwf hwrap hroom
      have hnew : fe.stack.nextId ∉ W.foreign := fun hmem => by
        have hlt := hW.world.ledger.counting.foreign _ hmem
        exact Nat.lt_irrefl _ (hW.stack ▸ hlt)
      refine ⟨rfl, hinv, ?_, ?_⟩
      · rw [hsurfaces, hblocks]
        exact hW.contents.keep ha rfl rfl rfl
      · rw [hforeign]
        refine hW.shown.replace ha hsurfaces (fun _ h => List.mem_append_left _ h)
          (fun id _ hne => by rw [hstack, hothers id hne]) ?_ (fun _ => ?_) (fun _ => .inr hnew)
          (fun _ => ?_) hstale fun p hp => ?_
        · exact Stack.view_zero hinv.ledger.stack
        · rw [hid]
          exact Stack.view_zero hinv.ledger.stack
        · exact ⟨⟨_, by rw [hstack]; exact hself, rfl, rfl, fun _ => ⟨rfl, rfl, rfl, rfl⟩⟩,
            by simp, htoplevel, hcontent⟩
        · rw [hcreated] at hp
          rcases List.mem_append.mp hp with hp | hp
          · exact .inl hp
          · exact .inr ⟨List.mem_singleton.mp hp, by simp⟩

end Map

end CrystallineLattice.Wayland
