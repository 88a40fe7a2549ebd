import CrystallineLattice.Native.Ledger

/-!
# The invariant of the window ledger

The invariant has four parts that change on different operations: who names
which window (`Naming`), who holds which mapping (`Mapping`), the window ids
handed out (`Counting`), and the link between a slot and the record of its
window.  That tokens are distinct (`Tokens`) is kept apart: it needs a bound on
the number of sessions, the rest does not.
-/

namespace CrystallineLattice.Native

open CrystallineLattice.Foundation
open CrystallineLattice.Stack

/-- No window is named twice, no wire id is used twice, and windows need a session. -/
structure Naming (wins : Holder → WinTable) (token : Holder → Nat) : Prop where
  owner : ∀ {h j h' j'}, (wins h j).clientWid ≠ 0 → (wins h' j').clientWid ≠ 0 →
    (wins h j).serverId = (wins h' j').serverId → h = h' ∧ j = j'
  distinct : ∀ {h j j'}, (wins h j).clientWid ≠ 0 →
    (wins h j).clientWid = (wins h j').clientWid → j = j'
  vacant : ∀ {h}, token h = 0 → ∀ j, (wins h j).clientWid = 0

/-- The live mappings are the buffers of the occupied slots, each once. -/
structure Mapping (wins : Holder → WinTable) (maps : List (Nat × Nat)) : Prop where
  free : ∀ {h j}, (wins h j).clientWid = 0 → (wins h j).buf = .null
  heap : ∀ {h j address}, (wins h j).buf ≠ .block address
  mapped : ∀ {base len}, (base, len) ∈ maps ↔
    ∃ h j, (wins h j).buf = .mapping base ∧ (wins h j).bufLen = len
  once : (maps.map Prod.fst).Nodup
  single : ∀ {h j h' j' base}, (wins h j).buf = .mapping base →
    (wins h' j').buf = .mapping base → h = h' ∧ j = j'

structure Counting (L : Ledger) : Prop where
  counted : L.stack.nextId = 1 + L.created.length + L.foreign.length
  created : ∀ p ∈ L.created, p.1 < L.stack.nextId
  foreign : ∀ id ∈ L.foreign, id < L.stack.nextId
  apart : ∀ p ∈ L.created, p.1 ∉ L.foreign
  recorded : ∀ {h j id}, L.Owns h j id → ∃ p ∈ L.created, p.1 = id

structure Ledger.Tokens (L : Ledger) : Prop where
  counted : L.nextToken = L.issued.length
  issued : ∀ h, L.token h ≤ L.nextToken
  sessions : ∀ {h h'}, L.token h ≠ 0 → L.token h = L.token h' → h = h'

structure Ledger.Slots (L : Ledger) : Prop where
  vacant : ∀ {h}, L.token h = 0 → ∀ j, (L.wins h j).clientWid = 0
  mapping : Mapping L.wins L.maps

/-- An occupied slot names a window of the stack that shows the slot's buffer. -/
def Linked (s : WindowStack) (slot : ClWin) : Prop :=
  ∃ w, windowById s slot.serverId = some w ∧ w.buf = slot.buf ∧ w.appDecorated = true

structure Ledger.Inv (L : Ledger) : Prop where
  stack : L.stack.WellFormed
  naming : Naming L.wins L.token
  mapping : Mapping L.wins L.maps
  counting : Counting L
  linked : ∀ {h j}, (L.wins h j).clientWid ≠ 0 → Linked L.stack (L.wins h j)

namespace Ledger

/-! ## Tables -/

theorem setWin_wins (L : Ledger) (h : Holder) (j : Fin winMax) (w : ClWin) (h' : Holder)
    (j' : Fin winMax) :
    (L.setWin h j w).wins h' j' = if h' = h ∧ j' = j then w else L.wins h' j' := by
  unfold setWin
  by_cases hh : h' = h
  · subst hh
    by_cases hj : j' = j <;> simp [hj]
  · simp [hh]

@[simp] theorem setWin_wins_self (L : Ledger) (h : Holder) (j : Fin winMax) (w : ClWin) :
    (L.setWin h j w).wins h j = w := by
  simp [setWin_wins]

theorem setWin_wins_ne (L : Ledger) {h h' : Holder} {j j' : Fin winMax} (w : ClWin)
    (hne : ¬ (h' = h ∧ j' = j)) : (L.setWin h j w).wins h' j' = L.wins h' j' := by
  simp [setWin_wins, hne]

theorem setTable_wins (L : Ledger) (h : Holder) (token : Nat) (wins : WinTable) (h' : Holder) :
    (L.setTable h token wins).wins h' = if h' = h then wins else L.wins h' := by
  simp [setTable, Function.update_apply]

theorem setTable_token (L : Ledger) (h : Holder) (token : Nat) (wins : WinTable) (h' : Holder) :
    (L.setTable h token wins).token h' = if h' = h then token else L.token h' := by
  simp [setTable, Function.update_apply]

end Ledger

/-! ## Naming -/

namespace Naming

variable {wins wins' : Holder → WinTable} {token token' : Holder → Nat}

theorem congr (hN : Naming wins token)
    (hwid : ∀ h j, (wins' h j).clientWid = (wins h j).clientWid)
    (hid : ∀ h j, (wins' h j).serverId = (wins h j).serverId) : Naming wins' token where
  owner hocc hocc' h := by
    rw [hwid] at hocc hocc'
    rw [hid, hid] at h
    exact hN.owner hocc hocc' h
  distinct hocc h := by
    rw [hwid] at hocc
    rw [hwid, hwid] at h
    exact hN.distinct hocc h
  vacant h j := by
    rw [hwid]
    exact hN.vacant h j

theorem shrink (hN : Naming wins token)
    (h : ∀ h j, (wins' h j).clientWid = 0 ∨ wins' h j = wins h j) : Naming wins' token where
  owner {h₁ j₁ h₂ j₂} hocc hocc' hid := by
    have e₁ := (h h₁ j₁).resolve_left hocc
    have e₂ := (h h₂ j₂).resolve_left hocc'
    rw [e₁] at hocc hid
    rw [e₂] at hocc' hid
    exact hN.owner hocc hocc' hid
  distinct {h₁ j₁ j₂} hocc hwid := by
    have hocc' : (wins' h₁ j₂).clientWid ≠ 0 := hwid ▸ hocc
    have e₁ := (h h₁ j₁).resolve_left hocc
    have e₂ := (h h₁ j₂).resolve_left hocc'
    rw [e₁] at hocc
    rw [e₁, e₂] at hwid
    exact hN.distinct hocc hwid
  vacant {h₁} htoken j := by
    rcases h h₁ j with hfree | heq
    · exact hfree
    · rw [heq]
      exact hN.vacant htoken j

theorem retoken (hN : Naming wins token) {h : Holder}
    (hfree : ∀ j, (wins h j).clientWid = 0) (tok : Nat) :
    Naming wins (Function.update token h tok) where
  owner := hN.owner
  distinct := hN.distinct
  vacant {h'} htoken j := by
    by_cases hh : h' = h
    · rw [hh]
      exact hfree j
    · rw [Function.update_of_ne hh] at htoken
      exact hN.vacant htoken j

theorem fill (hN : Naming wins token) {h : Holder} {j : Fin winMax} (htoken : token h ≠ 0)
    (hid : ∀ {h' j'}, (wins h' j').clientWid ≠ 0 →
      (wins h' j').serverId ≠ (wins' h j).serverId)
    (hwid : (wins' h j).clientWid ≠ 0 →
      ∀ j', (wins h j').clientWid ≠ (wins' h j).clientWid)
    (hrest : ∀ {h' j'}, ¬ (h' = h ∧ j' = j) → wins' h' j' = wins h' j') :
    Naming wins' token where
  owner {h₁ j₁ h₂ j₂} hocc hocc' heq := by
    by_cases h₁j : h₁ = h ∧ j₁ = j
    · by_cases h₂j : h₂ = h ∧ j₂ = j
      · exact ⟨h₁j.1.trans h₂j.1.symm, h₁j.2.trans h₂j.2.symm⟩
      · rw [hrest h₂j] at hocc' heq
        rw [h₁j.1, h₁j.2] at heq
        exact (hid hocc' heq.symm).elim
    · rw [hrest h₁j] at hocc heq
      by_cases h₂j : h₂ = h ∧ j₂ = j
      · rw [h₂j.1, h₂j.2] at heq
        exact (hid hocc heq).elim
      · rw [hrest h₂j] at hocc' heq
        exact hN.owner hocc hocc' heq
  distinct {h₁ j₁ j₂} hocc heq := by
    have hocc' : (wins' h₁ j₂).clientWid ≠ 0 := heq ▸ hocc
    by_cases h₁j : h₁ = h ∧ j₁ = j
    · by_cases h₂j : h₁ = h ∧ j₂ = j
      · exact h₁j.2.trans h₂j.2.symm
      · rw [hrest h₂j] at heq
        rw [h₁j.1, h₁j.2] at hocc heq
        exact (hwid hocc j₂ heq.symm).elim
    · by_cases h₂j : h₁ = h ∧ j₂ = j
      · rw [hrest h₁j] at heq
        rw [h₂j.1, h₂j.2] at hocc' heq
        exact (hwid hocc' j₁ heq).elim
      · rw [hrest h₁j] at hocc heq
        rw [hrest h₂j] at heq
        exact hN.distinct hocc heq
  vacant {h₁} hzero j₁ := by
    have hne : ¬ (h₁ = h ∧ j₁ = j) := by
      rintro ⟨rfl, -⟩
      exact htoken hzero
    rw [hrest hne]
    exact hN.vacant hzero j₁

theorem relabel (hN : Naming wins token) (σ : Equiv.Perm Holder) :
    Naming (fun h => wins (σ h)) (fun h => token (σ h)) where
  owner hocc hocc' hid := by
    obtain ⟨hh, hj⟩ := hN.owner hocc hocc' hid
    exact ⟨σ.injective hh, hj⟩
  distinct := hN.distinct
  vacant := hN.vacant

end Naming

/-! ## Mapping -/

namespace Mapping

variable {wins wins' : Holder → WinTable} {maps : List (Nat × Nat)}

theorem congr (hM : Mapping wins maps)
    (hfree : ∀ {h j}, (wins' h j).clientWid = 0 → (wins' h j).buf = .null)
    (hbuf : ∀ h j, (wins' h j).buf = (wins h j).buf)
    (hlen : ∀ h j, (wins' h j).buf ≠ .null → (wins' h j).bufLen = (wins h j).bufLen) :
    Mapping wins' maps where
  free := hfree
  heap {h j address} := by
    rw [hbuf]
    exact hM.heap
  mapped {base len} := by
    rw [hM.mapped]
    constructor
    · rintro ⟨h, j, heq, rfl⟩
      have hne : (wins' h j).buf ≠ .null := by simp [hbuf, heq]
      exact ⟨h, j, by rw [hbuf, heq], hlen h j hne⟩
    · rintro ⟨h, j, heq, rfl⟩
      have hne : (wins' h j).buf ≠ .null := by simp [heq]
      exact ⟨h, j, by rw [← hbuf, heq], (hlen h j hne).symm⟩
  once := hM.once
  single h h' := by
    rw [hbuf] at h h'
    exact hM.single h h'

theorem relabel (hM : Mapping wins maps) (σ : Equiv.Perm Holder) :
    Mapping (fun h => wins (σ h)) maps where
  free := hM.free
  heap := hM.heap
  mapped {base len} := by
    rw [hM.mapped]
    constructor
    · rintro ⟨h, j, heq⟩
      exact ⟨σ.symm h, j, by simpa using heq⟩
    · rintro ⟨h, j, heq⟩
      exact ⟨σ h, j, heq⟩
  once := hM.once
  single h h' := by
    obtain ⟨hh, hj⟩ := hM.single h h'
    exact ⟨σ.injective hh, hj⟩

theorem clear (hM : Mapping wins maps)
    (h : ∀ h j, wins' h j = wins h j ∨ wins' h j = .zero ∧ (wins h j).buf = .null) :
    Mapping wins' maps := by
  refine hM.congr (fun {h₁ j₁} hfree => ?_) (fun h₁ j₁ => ?_) (fun h₁ j₁ hne => ?_)
  · rcases h h₁ j₁ with heq | ⟨heq, -⟩
    · rw [heq] at hfree ⊢
      exact hM.free hfree
    · rw [heq]
      rfl
  · rcases h h₁ j₁ with heq | ⟨heq, hnull⟩
    · rw [heq]
    · rw [heq, hnull]
      rfl
  · rcases h h₁ j₁ with heq | ⟨heq, -⟩
    · rw [heq]
    · exact (hne (by rw [heq]; rfl)).elim

theorem unmap (hM : Mapping wins maps) {h : Holder} {j : Fin winMax} {base : Nat}
    (hbuf : (wins h j).buf = .mapping base) (hnull : (wins' h j).buf = .null)
    (hrest : ∀ {h' j'}, ¬ (h' = h ∧ j' = j) → wins' h' j' = wins h' j') :
    Mapping wins' (maps.erase (base, (wins h j).bufLen)) := by
  have hnodup : maps.Nodup := hM.once.of_map
  have hslot {h' : Holder} {j' : Fin winMax} {base' : Nat}
      (h'' : (wins' h' j').buf = .mapping base') :
      ¬ (h' = h ∧ j' = j) ∧ wins' h' j' = wins h' j' := by
    have hne : ¬ (h' = h ∧ j' = j) := by
      rintro ⟨rfl, rfl⟩
      simp [hnull] at h''
    exact ⟨hne, hrest hne⟩
  exact {
    free := fun {h' j'} hfree => by
      by_cases heq : h' = h ∧ j' = j
      · rw [heq.1, heq.2, hnull]
      · rw [hrest heq] at hfree ⊢
        exact hM.free hfree
    heap := fun {h' j' address} => by
      by_cases heq : h' = h ∧ j' = j
      · simp [heq.1, heq.2, hnull]
      · rw [hrest heq]
        exact hM.heap
    mapped := fun {base' len} => by
      rw [hnodup.mem_erase_iff, hM.mapped]
      constructor
      · rintro ⟨hne, h', j', hbuf', hlen⟩
        have hother : ¬ (h' = h ∧ j' = j) := by
          rintro ⟨rfl, rfl⟩
          rw [hbuf] at hbuf'
          injection hbuf' with hbase
          exact hne (by rw [hbase, hlen])
        exact ⟨h', j', by rw [hrest hother, hbuf'], by rw [hrest hother, hlen]⟩
      · rintro ⟨h', j', hbuf', hlen⟩
        obtain ⟨hother, heq⟩ := hslot hbuf'
        rw [heq] at hbuf' hlen
        refine ⟨fun hpair => hother ?_, h', j', hbuf', hlen⟩
        injection hpair with hbase
        exact hM.single hbuf' (hbase ▸ hbuf)
    once := (hM.once).sublist ((List.erase_sublist).map Prod.fst)
    single := fun hbuf₁ hbuf₂ => by
      rw [(hslot hbuf₁).2] at hbuf₁
      rw [(hslot hbuf₂).2] at hbuf₂
      exact hM.single hbuf₁ hbuf₂ }

theorem attach (hM : Mapping wins maps) {h : Holder} {j : Fin winMax} {base len : Nat}
    (hnull : (wins h j).buf = .null) (hfresh : base ∉ maps.map Prod.fst)
    (hocc : (wins' h j).clientWid ≠ 0) (hbuf : (wins' h j).buf = .mapping base)
    (hlen : (wins' h j).bufLen = len)
    (hrest : ∀ {h' j'}, ¬ (h' = h ∧ j' = j) → wins' h' j' = wins h' j') :
    Mapping wins' ((base, len) :: maps) := by
  have hbase {h' : Holder} {j' : Fin winMax} {base' : Nat}
      (h'' : (wins h' j').buf = .mapping base') : base' ≠ base := by
    rintro rfl
    exact hfresh (List.mem_map_of_mem (f := Prod.fst) (hM.mapped.mpr ⟨h', j', h'', rfl⟩))
  have hslot {h' : Holder} {j' : Fin winMax} {base' : Nat}
      (h'' : (wins' h' j').buf = .mapping base') :
      base' = base ∧ h' = h ∧ j' = j ∨
        base' ≠ base ∧ ¬ (h' = h ∧ j' = j) ∧ (wins h' j').buf = .mapping base' := by
    by_cases heq : h' = h ∧ j' = j
    · rw [heq.1, heq.2, hbuf] at h''
      injection h'' with h''
      exact .inl ⟨h''.symm, heq⟩
    · rw [hrest heq] at h''
      exact .inr ⟨hbase h'', heq, h''⟩
  exact {
    free := fun {h' j'} hfree => by
      by_cases heq : h' = h ∧ j' = j
      · rw [heq.1, heq.2] at hfree
        exact (hocc hfree).elim
      · rw [hrest heq] at hfree ⊢
        exact hM.free hfree
    heap := fun {h' j' address} => by
      by_cases heq : h' = h ∧ j' = j
      · simp [heq.1, heq.2, hbuf]
      · rw [hrest heq]
        exact hM.heap
    mapped := fun {base' len'} => by
      rw [List.mem_cons, hM.mapped]
      constructor
      · rintro (hpair | ⟨h', j', hbuf', hlen'⟩)
        · injection hpair with hb hl
          exact ⟨h, j, by rw [hbuf, hb], by rw [hlen, hl]⟩
        · have hother : ¬ (h' = h ∧ j' = j) := by
            rintro ⟨rfl, rfl⟩
            simp [hnull] at hbuf'
          exact ⟨h', j', by rw [hrest hother, hbuf'], by rw [hrest hother, hlen']⟩
      · rintro ⟨h', j', hbuf', hlen'⟩
        rcases hslot hbuf' with ⟨rfl, rfl, rfl⟩ | ⟨-, hother, hold⟩
        · exact .inl (by rw [← hlen, hlen'])
        · exact .inr ⟨h', j', hold, by rw [← hrest hother, hlen']⟩
    once := by
      rw [List.map_cons, List.nodup_cons]
      exact ⟨hfresh, hM.once⟩
    single := fun hbuf₁ hbuf₂ => by
      rcases hslot hbuf₁ with ⟨hb, rfl, rfl⟩ | ⟨hb, -, hold₁⟩
      · rcases hslot hbuf₂ with ⟨-, rfl, rfl⟩ | ⟨hb', -, -⟩
        · exact ⟨rfl, rfl⟩
        · exact (hb' hb).elim
      · rcases hslot hbuf₂ with ⟨hb', -, -⟩ | ⟨-, -, hold₂⟩
        · exact (hb hb').elim
        · exact hM.single hold₁ hold₂ }

end Mapping

/-! ## Counting -/

namespace Counting

variable {L : Ledger}

theorem retable (hL : Counting L) {s : WindowStack} (hnext : s.nextId = L.stack.nextId)
    {wins : Holder → WinTable}
    (hwins : ∀ h j, (wins h j).clientWid ≠ 0 →
      ∃ h' j', (L.wins h' j').clientWid ≠ 0 ∧ (L.wins h' j').serverId = (wins h j).serverId)
    (token : Holder → Nat) (maps : List (Nat × Nat)) :
    Counting { L with stack := s, wins := wins, token := token, maps := maps } where
  counted := hnext.trans hL.counted
  created p hp := hnext ▸ hL.created p hp
  foreign id hid := hnext ▸ hL.foreign id hid
  apart := hL.apart
  recorded {h j id} howns := by
    obtain ⟨h', j', hocc, hid⟩ := hwins h j howns.1
    exact hL.recorded ⟨hocc, hid.trans howns.2⟩

theorem shrink (hL : Counting L) {s : WindowStack} (hnext : s.nextId = L.stack.nextId)
    {wins : Holder → WinTable}
    (hwins : ∀ h j, (wins h j).clientWid = 0 ∨ wins h j = L.wins h j) (token : Holder → Nat) :
    Counting { L with stack := s, wins := wins, token := token } :=
  hL.retable hnext (fun h j hocc => ⟨h, j, by
    rw [← (hwins h j).resolve_left hocc]
    exact ⟨hocc, rfl⟩⟩) token L.maps

theorem restack (hL : Counting L) {s : WindowStack} (hnext : s.nextId = L.stack.nextId) :
    Counting { L with stack := s } :=
  hL.shrink hnext (fun _ _ => .inr rfl) L.token

end Counting

/-! ## The record behind a slot -/

namespace Linked

variable {s s' : WindowStack} {slot : ClWin}

theorem mem_ids (h : Linked s slot) : slot.serverId ∈ s.ids :=
  mem_ids_iff.mpr ⟨h.choose, h.choose_spec.1⟩

theorem of_lookup (h : Linked s slot)
    (heq : windowById s' slot.serverId = windowById s slot.serverId) : Linked s' slot := by
  obtain ⟨w, hw, hbuf, happ⟩ := h
  exact ⟨w, heq.trans hw, hbuf, happ⟩

theorem of_rearranges (h : Linked s slot) (hs : Rearranges s s') : Linked s' slot := by
  obtain ⟨w, hw, hbuf, happ⟩ := h
  have hcontent := hs.content slot.serverId
  rw [hw, Option.map_some] at hcontent
  obtain ⟨w', hw', hsame⟩ := Option.map_eq_some_iff.mp hcontent
  refine ⟨w', hw', ?_, ?_⟩
  · exact (congrArg Window.buf hsame).trans hbuf
  · exact (congrArg Window.appDecorated hsame).trans happ

theorem writeById (h : Linked s slot) {id : Nat} {f : Window → Window}
    (hid : ∀ w, (f w).id = w.id)
    (hsame : slot.serverId = id → ∀ w, (f w).buf = w.buf ∧ (f w).appDecorated = w.appDecorated) :
    Linked (s.writeById id f) slot := by
  obtain ⟨w, hw, hbuf, happ⟩ := h
  by_cases heq : slot.serverId = id
  · refine ⟨f w, ?_, (hsame heq w).1.trans hbuf, (hsame heq w).2.trans happ⟩
    rw [windowById_writeById s hid, if_pos heq, ← heq, hw, Option.map_some]
  · refine ⟨w, ?_, hbuf, happ⟩
    rw [windowById_writeById s hid, if_neg heq, hw]

theorem append (h : Linked s slot) (win : Window) (focusId nextId : Nat) :
    Linked ⟨s.windows ++ [win], focusId, nextId⟩ slot := by
  obtain ⟨w, hw, hbuf, happ⟩ := h
  refine ⟨w, ?_, hbuf, happ⟩
  rw [windowById_eq_lookup] at hw ⊢
  rw [KeyedList.lookup_append, hw, Option.some_or]

theorem destroy (h : Linked s slot) {id : Nat} (hne : slot.serverId ≠ id) :
    Linked (windowDestroy s id) slot :=
  h.of_lookup (windowDestroy_lookup_ne s hne)

end Linked

/-! ## Slots -/

namespace Ledger

variable {L : Ledger}

/-- A transfer to a vacant holder exchanges the two holders. -/
theorem transfer_eq {src dst : Holder} (hen : L.enabled (.transfer src dst)) :
    L.next (.transfer src dst) =
      { L.next (.vacate dst) with
        wins := fun h => (L.next (.vacate dst)).wins (Equiv.swap src dst h)
        token := fun h => (L.next (.vacate dst)).token (Equiv.swap src dst h) } := by
  have hne : src ≠ dst := by
    rintro rfl
    exact hen.1 hen.2
  have hwins : (L.next (.transfer src dst)).wins =
      fun h => (L.next (.vacate dst)).wins (Equiv.swap src dst h) := by
    funext h
    simp only [next, setTable_wins]
    by_cases hsrc : h = src
    · simp [hsrc]
    · by_cases hdst : h = dst
      · simp [hdst, hne, hne.symm]
      · simp [hsrc, hdst, Equiv.swap_apply_of_ne_of_ne hsrc hdst]
  have htoken : (L.next (.transfer src dst)).token =
      fun h => (L.next (.vacate dst)).token (Equiv.swap src dst h) := by
    funext h
    simp only [next, setTable_token]
    by_cases hsrc : h = src
    · simp [hsrc]
    · by_cases hdst : h = dst
      · simp [hdst, hne, hne.symm]
      · simp [hsrc, hdst, Equiv.swap_apply_of_ne_of_ne hsrc hdst]
  rw [← hwins, ← htoken]
  rfl

theorem Inv.slots (hL : L.Inv) : L.Slots := ⟨hL.naming.vacant, hL.mapping⟩

namespace Slots

theorem rebuffer (hL : L.Slots) {h : Holder} {j : Fin winMax} {slot : ClWin}
    {maps : List (Nat × Nat)} (hwid : slot.clientWid = (L.wins h j).clientWid)
    (hmaps : Mapping (L.setWin h j slot).wins maps) (s : WindowStack) :
    Slots ({ L with stack := s, maps := maps }.setWin h j slot) where
  vacant {h'} htoken j' := by
    change ((L.setWin h j slot).wins h' j').clientWid = 0
    rw [setWin_wins]
    split
    · rename_i heq
      rw [hwid, ← heq.1, ← heq.2]
      exact hL.vacant htoken j'
    · exact hL.vacant htoken j'
  mapping := hmaps

theorem unmap (hL : L.Slots) {h : Holder} {j : Fin winMax} (hen : L.enabled (.unmap h j)) :
    (L.next (.unmap h j)).Slots := by
  cases hbuf : (L.wins h j).buf with
  | null => exact (hen.2 hbuf).elim
  | block address => exact (hL.mapping.heap hbuf).elim
  | mapping base =>
      simp only [next, hbuf]
      refine hL.rebuffer (by exact rfl) ?_ _
      exact hL.mapping.unmap hbuf (by simp) fun hother => setWin_wins_ne L _ hother

theorem attach (hL : L.Slots) {h : Holder} {j : Fin winMax} {b : ClBuffer} {base : Nat}
    (hen : L.enabled (.attach h j b base)) : (L.next (.attach h j b base)).Slots := by
  obtain ⟨hocc, hnull, hfresh⟩ := hen
  refine hL.rebuffer (by exact rfl) ?_ _
  exact hL.mapping.attach hnull hfresh (by simpa using hocc) (by simp) (by simp)
    fun hother => setWin_wins_ne L _ hother

theorem clear (hL : L.Slots) {M : Ledger} (hmaps : M.maps = L.maps)
    (hslot : ∀ h j, M.wins h j = L.wins h j ∨
      M.wins h j = .zero ∧ (L.wins h j).buf = .null)
    (htoken : ∀ h, M.token h = L.token h ∨ ∀ j, (M.wins h j).clientWid = 0) : M.Slots where
  vacant {h} hzero j := by
    rcases htoken h with heq | hfree
    · rcases hslot h j with hsame | ⟨hcleared, -⟩
      · rw [hsame]
        exact hL.vacant (heq.symm.trans hzero) j
      · rw [hcleared]
        rfl
    · exact hfree j
  mapping := hmaps ▸ hL.mapping.clear hslot

theorem close_slot {h : Holder} {j : Fin winMax} (hen : L.enabled (.close h j)) (h' : Holder)
    (j' : Fin winMax) :
    (L.next (.close h j)).wins h' j' = L.wins h' j' ∨
      (L.next (.close h j)).wins h' j' = .zero ∧ (L.wins h' j').buf = .null := by
  by_cases heq : h' = h ∧ j' = j
  · rw [heq.1, heq.2]
    exact .inr ⟨setWin_wins_self _ _ _ _, hen.2⟩
  · exact .inl (setWin_wins_ne _ _ heq)

theorem close (hL : L.Slots) {h : Holder} {j : Fin winMax} (hen : L.enabled (.close h j)) :
    (L.next (.close h j)).Slots :=
  hL.clear rfl (close_slot hen) fun _ => .inl rfl

theorem vacate_slot (hL : L.Slots) {h : Holder} (hen : L.enabled (.vacate h)) (h' : Holder)
    (j' : Fin winMax) :
    (L.next (.vacate h)).wins h' j' = L.wins h' j' ∨
      (L.next (.vacate h)).wins h' j' = .zero ∧ (L.wins h' j').buf = .null := by
  simp only [next, setTable_wins]
  split
  · rename_i heq
    rw [heq]
    exact .inr ⟨rfl, hL.mapping.free (hen j')⟩
  · exact .inl rfl

theorem vacate (hL : L.Slots) {h : Holder} (hen : L.enabled (.vacate h)) :
    (L.next (.vacate h)).Slots := by
  refine hL.clear rfl (hL.vacate_slot hen) fun h' => ?_
  by_cases heq : h' = h
  · right
    intro j
    rw [heq, next, setTable_wins, if_pos rfl]
    rfl
  · left
    rw [next, setTable_token, if_neg heq]

theorem transfer (hL : L.Slots) {src dst : Holder} (hen : L.enabled (.transfer src dst)) :
    (L.next (.transfer src dst)).Slots := by
  rw [transfer_eq hen]
  have hvacant : L.enabled (.vacate dst) := hL.vacant hen.2
  have hL' := hL.vacate hvacant
  exact ⟨hL'.vacant, hL'.mapping.relabel _⟩

theorem grant (hL : L.Slots) {h : Holder} (hen : L.enabled (.grant h)) :
    (L.next (.grant h)).Slots where
  vacant {h'} htoken j := by
    by_cases heq : h' = h
    · rw [heq]
      exact hen j
    · simp only [next, Function.update_of_ne heq] at htoken
      exact hL.vacant htoken j
  mapping := hL.mapping

theorem enter (hL : L.Slots) {h : Holder} {j : Fin winMax} (htoken : L.token h ≠ 0)
    (hfree : (L.wins h j).clientWid = 0) (wid id : Nat) {M : Ledger}
    (hM : M.token = L.token ∧ M.maps = L.maps)
    (hwins : M.wins =
      (L.setWin h j { L.wins h j with clientWid := wid, serverId := id }).wins) :
    M.Slots where
  vacant {h'} hzero j' := by
    rw [hM.1] at hzero
    have hne : ¬ (h' = h ∧ j' = j) := fun heq => htoken (heq.1 ▸ hzero)
    rw [hwins, setWin_wins_ne _ _ hne]
    exact hL.vacant hzero j'
  mapping := by
    have hnull := hL.mapping.free hfree
    have hbuf (h' : Holder) (j' : Fin winMax) :
        (M.wins h' j').buf = (L.wins h' j').buf ∧
          (M.wins h' j').bufLen = (L.wins h' j').bufLen := by
      rw [hwins, setWin_wins]
      split
      · rename_i heq
        rw [heq.1, heq.2]
        exact ⟨rfl, rfl⟩
      · exact ⟨rfl, rfl⟩
    rw [hM.2]
    refine hL.mapping.congr (fun {h' j'} hzero => ?_) (fun h' j' => (hbuf h' j').1)
      fun h' j' _ => (hbuf h' j').2
    rw [(hbuf h' j').1]
    by_cases heq : h' = h ∧ j' = j
    · rw [heq.1, heq.2]
      exact hnull
    · rw [hwins, setWin_wins_ne _ _ heq] at hzero
      exact hL.mapping.free hzero

theorem step (hL : L.Slots) {op : LedgerOp} (hen : L.enabled op) : (L.next op).Slots := by
  cases op with
  | grant h => exact hL.grant hen
  | transfer src dst => exact hL.transfer hen
  | create h j m sw sh => exact hL.enter hen.1 hen.2.1 m.wid _ ⟨rfl, rfl⟩ rfl
  | unmap h j => exact hL.unmap hen
  | attach h j b base => exact hL.attach hen
  | close h j => exact hL.close hen
  | vacate h => exact hL.vacate hen
  | retitle h j title => exact ⟨hL.vacant, hL.mapping⟩
  | place h j x y w ht => exact ⟨hL.vacant, hL.mapping⟩
  | other op => exact ⟨hL.vacant, hL.mapping⟩

end Slots

/-! ## Operations on the stack alone -/

theorem Inv.restack (hL : L.Inv) {s : WindowStack} (hs : s.WellFormed)
    (hnext : s.nextId = L.stack.nextId)
    (hlinked : ∀ {h j}, (L.wins h j).clientWid ≠ 0 → Linked s (L.wins h j)) :
    Inv { L with stack := s } where
  stack := hs
  naming := hL.naming
  mapping := hL.mapping
  counting := hL.counting.restack hnext
  linked := hlinked

theorem Inv.rearrange (hL : L.Inv) {s : WindowStack} (hs : Rearranges L.stack s) :
    Inv { L with stack := s } :=
  hL.restack (hs.wellFormed hL.stack) hs.nextId fun hocc => (hL.linked hocc).of_rearranges hs

theorem Inv.retitle (hL : L.Inv) (h : Holder) (j : Fin winMax) (title : List UInt8) :
    (L.next (.retitle h j title)).Inv :=
  hL.restack (hL.stack.writeById _ fun _ => rfl) rfl fun hocc =>
    (hL.linked hocc).writeById (fun _ => rfl) fun _ _ => ⟨rfl, rfl⟩

theorem Inv.place (hL : L.Inv) (h : Holder) (j : Fin winMax) (x y w ht : Int) :
    (L.next (.place h j x y w ht)).Inv :=
  hL.rearrange (windowSetGeometry_rearranges _ _ _ _ _ _)

/-! ## Buffers -/

theorem Inv.ne_serverId (hL : L.Inv) {h h' : Holder} {j j' : Fin winMax}
    (hocc : (L.wins h j).clientWid ≠ 0) (hocc' : (L.wins h' j').clientWid ≠ 0)
    (hne : ¬ (h' = h ∧ j' = j)) : (L.wins h' j').serverId ≠ (L.wins h j).serverId := by
  intro heq
  obtain ⟨rfl, rfl⟩ := hL.naming.owner hocc' hocc heq
  exact hne ⟨rfl, rfl⟩

theorem Inv.rebuffer (hL : L.Inv) {h : Holder} {j : Fin winMax} {slot : ClWin}
    {f : Window → Window} {maps : List (Nat × Nat)}
    (hocc : (L.wins h j).clientWid ≠ 0)
    (hwid : slot.clientWid = (L.wins h j).clientWid)
    (hid : slot.serverId = (L.wins h j).serverId)
    (hf : ∀ w, (f w).id = w.id ∧ (f w).buf = slot.buf ∧ (f w).appDecorated = w.appDecorated)
    (hmaps : Mapping (L.setWin h j slot).wins maps) :
    Inv ({ L with
      stack := L.stack.writeById (L.wins h j).serverId f
      maps := maps }.setWin h j slot) where
  stack := hL.stack.writeById _ fun w => (hf w).1
  naming := by
    refine hL.naming.congr (fun h' j' => ?_) (fun h' j' => ?_)
    · rw [setWin_wins]
      split
      · rename_i heq
        rw [hwid, heq.1, heq.2]
      · rfl
    · rw [setWin_wins]
      split
      · rename_i heq
        rw [hid, heq.1, heq.2]
      · rfl
  mapping := hmaps
  counting := by
    have hnext : (L.stack.writeById (L.wins h j).serverId f).nextId = L.stack.nextId := rfl
    refine hL.counting.retable hnext (fun h' j' hocc' => ?_) L.token maps
    change ((L.setWin h j slot).wins h' j').clientWid ≠ 0 at hocc'
    change ∃ h₁ j₁, _ ∧ _ = ((L.setWin h j slot).wins h' j').serverId
    rw [setWin_wins] at hocc' ⊢
    split
    · exact ⟨h, j, hocc, hid.symm⟩
    · rename_i hne
      simp only [hne, if_false] at hocc'
      exact ⟨h', j', hocc', rfl⟩
  linked {h' j'} hocc' := by
    rw [setWin_wins] at hocc' ⊢
    split at hocc'
    · rename_i heq
      simp only [heq, and_self, if_true]
      obtain ⟨w, hw, -, happ⟩ := hL.linked hocc
      refine ⟨f w, ?_, (hf w).2.1, (hf w).2.2.trans happ⟩
      change windowById (L.stack.writeById _ f) slot.serverId = _
      rw [windowById_writeById _ (fun w => (hf w).1), if_pos hid, hw, Option.map_some]
    · rename_i hne
      simp only [hne, if_false]
      exact (hL.linked hocc').writeById (fun w => (hf w).1) fun heq =>
        (hL.ne_serverId hocc hocc' hne heq).elim

theorem Inv.unmap (hL : L.Inv) {h : Holder} {j : Fin winMax}
    (hen : L.enabled (.unmap h j)) : (L.next (.unmap h j)).Inv :=
  hL.rebuffer hen.1 rfl rfl (fun _ => ⟨rfl, rfl, rfl⟩) (hL.slots.unmap hen).mapping

theorem Inv.attach (hL : L.Inv) {h : Holder} {j : Fin winMax} {b : ClBuffer} {base : Nat}
    (hen : L.enabled (.attach h j b base)) : (L.next (.attach h j b base)).Inv :=
  hL.rebuffer hen.1 rfl rfl (fun _ => ⟨rfl, rfl, rfl⟩) (hL.slots.attach hen).mapping

/-! ## Holders -/

theorem free_of_cleared {wins : Holder → WinTable}
    (hslot : ∀ h j, wins h j = L.wins h j ∨ wins h j = .zero ∧ (L.wins h j).buf = .null)
    (h : Holder) (j : Fin winMax) : (wins h j).clientWid = 0 ∨ wins h j = L.wins h j := by
  rcases hslot h j with heq | ⟨heq, -⟩
  · exact .inr heq
  · exact .inl (by rw [heq]; rfl)

theorem Inv.close (hL : L.Inv) {h : Holder} {j : Fin winMax}
    (hen : L.enabled (.close h j)) : (L.next (.close h j)).Inv := by
  have hfree := free_of_cleared (Slots.close_slot hen)
  exact {
    stack := hL.stack.destroy _
    naming := hL.naming.shrink hfree
    mapping := (hL.slots.close hen).mapping
    counting := hL.counting.shrink (windowDestroy_nextId _ _) hfree L.token
    linked := fun {h' j'} hocc' => by
      have hne : ¬ (h' = h ∧ j' = j) := by
        rintro ⟨rfl, rfl⟩
        exact hocc' (congrArg ClWin.clientWid (setWin_wins_self _ _ _ _))
      have heq := (hfree h' j').resolve_left hocc'
      rw [heq] at hocc' ⊢
      exact (hL.linked hocc').destroy (hL.ne_serverId hen.1 hocc' hne) }

theorem Inv.vacate (hL : L.Inv) {h : Holder} (hen : L.enabled (.vacate h)) :
    (L.next (.vacate h)).Inv := by
  have hfree := free_of_cleared (hL.slots.vacate_slot hen)
  have hnaming : Naming L.wins (L.next (.vacate h)).token :=
    hL.naming.retoken hen 0
  exact {
    stack := hL.stack
    naming := hnaming.shrink hfree
    mapping := (hL.slots.vacate hen).mapping
    counting := by
      have hnext : L.stack.nextId = L.stack.nextId := rfl
      exact hL.counting.shrink hnext hfree (L.next (.vacate h)).token
    linked := fun {h' j'} hocc => by
      have heq := (hfree h' j').resolve_left hocc
      rw [heq] at hocc ⊢
      exact hL.linked hocc }

/-- The invariant does not depend on which holder is which. -/
theorem Inv.relabel (hL : L.Inv) (σ : Equiv.Perm Holder) :
    Inv { L with wins := fun h => L.wins (σ h), token := fun h => L.token (σ h) } where
  stack := hL.stack
  naming := hL.naming.relabel σ
  mapping := hL.mapping.relabel σ
  counting := by
    have hnext : L.stack.nextId = L.stack.nextId := rfl
    exact hL.counting.retable hnext (fun h j hocc => ⟨σ h, j, hocc, rfl⟩)
      (fun h => L.token (σ h)) L.maps
  linked := hL.linked

theorem Inv.transfer (hL : L.Inv) {src dst : Holder} (hen : L.enabled (.transfer src dst)) :
    (L.next (.transfer src dst)).Inv := by
  rw [transfer_eq hen]
  have hvacant : L.enabled (.vacate dst) := hL.naming.vacant hen.2
  exact (hL.vacate hvacant).relabel _

theorem Inv.grant (hL : L.Inv) {h : Holder} (hen : L.enabled (.grant h)) :
    (L.next (.grant h)).Inv where
  stack := hL.stack
  naming := hL.naming.retoken hen _
  mapping := hL.mapping
  counting := ⟨hL.counting.counted, hL.counting.created, hL.counting.foreign,
    hL.counting.apart, hL.counting.recorded⟩
  linked := hL.linked

/-! ## Creation -/

def Within (L : Ledger) : Prop := L.created.length + L.foreign.length < 4294967295

theorem applyRolePolicy_rearranges {s : WindowStack} (hs : s.ids.Nodup) (role : WinRole)
    (id : Nat) (sw sh : Int) : Rearranges s (applyRolePolicy s role id sw sh) := by
  unfold applyRolePolicy
  split
  · exact windowFocus_rearranges hs id
  · have hplaced := windowSetGeometry_rearranges s id 0 0 sw sh
    exact hplaced.trans (windowLower_rearranges (hplaced.ids.nodup_iff.mpr hs) id)
  · exact .refl s

theorem requestedWindow_eq {s : WindowStack} (hroom : s.count < winMax) (m : ClCreateWindow) :
    ∃ win, win.id = s.nextId ∧ win.buf = .null ∧
      requestedWindow s m =
        (⟨s.windows ++ [win], s.focusId, uint32 (s.nextId + 1)⟩, s.nextId) := by
  rcases windowCreate_cases s (roleFromWire m.role) m.x m.y
    (if m.w ≠ 0 then int32 m.w else 320) (if m.h ≠ 0 then int32 m.h else 240)
    0x00202020 (cString "client") with ⟨-, hfull⟩ | ⟨-, heq⟩
  · exact (Nat.lt_irrefl _ (Nat.lt_of_lt_of_le hroom hfull)).elim
  · exact ⟨_, rfl, rfl, heq⟩

theorem stackWithNew_spec {s : WindowStack} (hs : s.WellFormed) (hroom : s.count < winMax)
    (hwrap : s.nextId + 1 < 4294967296) (m : ClCreateWindow) (sw sh : Int) :
    (stackWithNew s m sw sh).WellFormed ∧ (stackWithNew s m sw sh).nextId = s.nextId + 1 ∧
      (∀ id, id ∈ (stackWithNew s m sw sh).ids ↔ id ∈ s.ids ∨ id = s.nextId) ∧
      (∀ slot, Linked s slot → Linked (stackWithNew s m sw sh) slot) ∧
      Linked (stackWithNew s m sw sh) ⟨m.wid, s.nextId, .null, 0⟩ := by
  obtain ⟨win, hid, hbuf, heq⟩ := requestedWindow_eq hroom m
  have hnext : uint32 ((s.nextId : Int) + 1) = s.nextId + 1 := by simpa using uint32_of_lt hwrap
  have hkeep : ∀ w : Window, ({ w with appDecorated := true } : Window).id = w.id := fun _ => rfl
  have happend := hs.append hroom hwrap hid
  have hdecorated := happend.writeById s.nextId hkeep
  have hpolicy := applyRolePolicy_rearranges hdecorated.nodup (roleFromWire m.role) s.nextId sw sh
  have hfresh : s.nextId ∉ s.ids := fun hmem => Nat.lt_irrefl _ (hs.below _ hmem)
  rw [stackWithNew, heq]
  refine ⟨hpolicy.wellFormed hdecorated, hpolicy.nextId.trans hnext, fun id => ?_,
    fun slot hslot => ?_, ?_⟩
  · rw [hpolicy.mem_ids, writeById_ids _ hkeep]
    simp [WindowStack.ids, hid]
  · refine ((hslot.append win _ _).writeById hkeep fun hsame => ?_).of_rearranges hpolicy
    exact (hfresh (hsame ▸ hslot.mem_ids)).elim
  · refine Linked.of_rearranges ⟨{ win with appDecorated := true }, ?_, hbuf, rfl⟩ hpolicy
    have hnone : KeyedList.lookup Window.id s.nextId s.windows = none :=
      KeyedList.lookup_eq_none_iff.mpr hfresh
    rw [windowById_writeById _ hkeep, if_pos rfl, windowById_eq_lookup, KeyedList.lookup_append,
      hnone]
    simp [KeyedList.lookup, hid]

theorem Inv.wrap_of_create (hL : L.Inv) {h : Holder} {j : Fin winMax} {m : ClCreateWindow}
    {sw sh : Int} (hwithin : (L.next (.create h j m sw sh)).Within) :
    L.stack.nextId + 1 < 4294967296 := by
  have hlen : L.created.length + 1 + L.foreign.length < 4294967295 := by
    simpa [Within, next, setWin] using hwithin
  rw [hL.counting.counted]
  omega

theorem Inv.named_ne_nextId (hL : L.Inv) {h : Holder} {j : Fin winMax}
    (hocc : (L.wins h j).clientWid ≠ 0) : (L.wins h j).serverId ≠ L.stack.nextId := fun heq =>
  Nat.lt_irrefl _ (hL.stack.below _ (heq ▸ (hL.linked hocc).mem_ids))

theorem Inv.create (hL : L.Inv) {h : Holder} {j : Fin winMax} {m : ClCreateWindow} {sw sh : Int}
    (hen : L.enabled (.create h j m sw sh)) (hwithin : (L.next (.create h j m sw sh)).Within) :
    (L.next (.create h j m sw sh)).Inv := by
  have hslots : (L.next (.create h j m sw sh)).Slots := hL.slots.step hen
  obtain ⟨htoken, hfree, hroom, hwid⟩ := hen
  obtain ⟨hstack, hnext, -, hlinked, hnew⟩ :=
    stackWithNew_spec hL.stack hroom (hL.wrap_of_create hwithin) m sw sh
  have hnull : (L.wins h j).buf = .null := hL.mapping.free hfree
  have hself : (L.next (.create h j m sw sh)).wins h j =
      { L.wins h j with clientWid := m.wid, serverId := L.stack.nextId } :=
    setWin_wins_self _ _ _ _
  have hother {h' : Holder} {j' : Fin winMax} (hne : ¬ (h' = h ∧ j' = j)) :
      (L.next (.create h j m sw sh)).wins h' j' = L.wins h' j' := setWin_wins_ne _ _ hne
  exact {
    stack := hstack
    naming := by
      refine hL.naming.fill htoken (fun hocc => ?_) (fun hne j' => ?_) hother
      · rw [hself]
        exact hL.named_ne_nextId hocc
      · rw [hself] at hne ⊢
        exact hwid hne j'
    mapping := hslots.mapping
    counting := {
      counted := by
        change (stackWithNew L.stack m sw sh).nextId =
          1 + (L.created ++ [(L.stack.nextId, L.token h)]).length + L.foreign.length
        rw [hnext, hL.counting.counted, List.length_append, List.length_singleton]
        omega
      created := fun p hp => by
        change p.1 < (stackWithNew L.stack m sw sh).nextId
        rw [hnext]
        rcases List.mem_append.mp hp with hp | hp
        · exact Nat.lt_succ_of_lt (hL.counting.created p hp)
        · rw [List.mem_singleton.mp hp]
          exact Nat.lt_succ_self _
      foreign := fun id hid => by
        change id < (stackWithNew L.stack m sw sh).nextId
        rw [hnext]
        exact Nat.lt_succ_of_lt (hL.counting.foreign id hid)
      apart := fun p hp hmem => by
        rcases List.mem_append.mp hp with hp | hp
        · exact hL.counting.apart p hp hmem
        · rw [List.mem_singleton.mp hp] at hmem
          exact Nat.lt_irrefl _ (hL.counting.foreign _ hmem)
      recorded := fun {h' j' id} howns => by
        unfold Owns at howns
        by_cases heq : h' = h ∧ j' = j
        · rw [heq.1, heq.2, hself] at howns
          exact ⟨_, List.mem_append_right _ (List.mem_singleton_self _), howns.2⟩
        · rw [hother heq] at howns
          obtain ⟨p, hp, hid⟩ := hL.counting.recorded howns
          exact ⟨p, List.mem_append_left _ hp, hid⟩ }
    linked := fun {h' j'} hocc => by
      by_cases heq : h' = h ∧ j' = j
      · rw [heq.1, heq.2, hself]
        obtain ⟨w, hw, hbuf, happ⟩ := hnew
        exact ⟨w, hw, hbuf.trans hnull.symm, happ⟩
      · rw [hother heq] at hocc ⊢
        exact hlinked _ (hL.linked hocc) }

/-! ## The other users -/

theorem Inv.ours (hL : L.Inv) {h : Holder} {j : Fin winMax}
    (hocc : (L.wins h j).clientWid ≠ 0) : (L.wins h j).serverId ∉ L.foreign := by
  obtain ⟨p, hp, hid⟩ := hL.counting.recorded ⟨hocc, rfl⟩
  exact hid ▸ hL.counting.apart p hp

theorem Inv.edit (hL : L.Inv) {id : Nat} {f : Window → Window}
    (hen : L.enabled (.other (.edit id f))) : (L.next (.other (.edit id f))).Inv := by
  obtain ⟨hid, hallowed⟩ := hen
  refine hL.restack (hL.stack.writeById id hid) rfl fun hocc => ?_
  refine (hL.linked hocc).writeById hid fun heq w => ?_
  rcases hallowed with hforeign | hcontent
  · exact (hL.ours hocc (heq ▸ hforeign)).elim
  · have hbuf : (f w).content.buf = w.content.buf := by rw [hcontent]
    have happ : (f w).content.appDecorated = w.content.appDecorated := by rw [hcontent]
    exact ⟨hbuf, happ⟩

theorem Inv.otherCreate (hL : L.Inv) {win : Window} (hroom : L.stack.count < winMax)
    (hwithin : L.created.length + L.foreign.length + 1 < 4294967295)
    (hid : win.id = L.stack.nextId) :
    Inv { L with
      stack := ⟨L.stack.windows ++ [win], L.stack.focusId, uint32 (L.stack.nextId + 1)⟩
      foreign := L.foreign ++ [L.stack.nextId] } := by
  have hwrap : L.stack.nextId + 1 < 4294967296 := by
    rw [hL.counting.counted]
    omega
  have hnext : uint32 ((L.stack.nextId : Int) + 1) = L.stack.nextId + 1 := by
    simpa using uint32_of_lt hwrap
  exact {
    stack := hL.stack.append hroom hwrap hid
    naming := hL.naming
    mapping := hL.mapping
    counting := {
      counted := by
        simp only [hnext, List.length_append, List.length_singleton]
        rw [hL.counting.counted]
        omega
      created := fun p hp => by
        simp only [hnext]
        exact Nat.lt_succ_of_lt (hL.counting.created p hp)
      foreign := fun id hmem => by
        simp only [hnext]
        rcases List.mem_append.mp hmem with hmem | hmem
        · exact Nat.lt_succ_of_lt (hL.counting.foreign id hmem)
        · rw [List.mem_singleton.mp hmem]
          exact Nat.lt_succ_self _
      apart := fun p hp hmem => by
        rcases List.mem_append.mp hmem with hmem | hmem
        · exact hL.counting.apart p hp hmem
        · have hlt := hL.counting.created p hp
          rw [List.mem_singleton.mp hmem] at hlt
          exact Nat.lt_irrefl _ hlt
      recorded := hL.counting.recorded }
    linked := fun hocc => (hL.linked hocc).append win _ _ }

theorem Inv.other (hL : L.Inv) {op : OtherOp} (hen : L.enabled (.other op))
    (hwithin : (L.next (.other op)).Within) : (L.next (.other op)).Inv := by
  cases op with
  | edit id f => exact hL.edit hen
  | call op =>
      simp only [Within, next, otherNext] at hwithin ⊢
      rcases StackHistory.next_cases (r := ⟨L.stack, L.foreign, []⟩) hL.stack op with
        ⟨hs, hforeign⟩ | ⟨hroom, win, hid, -, hs, hforeign⟩ | ⟨id, rfl, hs, hforeign⟩
      · rw [hforeign]
        exact hL.rearrange hs
      · rw [hforeign] at hwithin
        rw [hs, hforeign]
        exact hL.otherCreate hroom (by simpa [Nat.add_assoc] using hwithin) hid
      · rw [hs, hforeign]
        refine hL.restack (hL.stack.destroy id) (windowDestroy_nextId _ _) fun hocc => ?_
        refine (hL.linked hocc).destroy fun heq => ?_
        have hforeignId : id ∈ L.foreign := hen
        exact hL.ours hocc (heq ▸ hforeignId)

/-! ## Runs -/

theorem Within.mono {op : LedgerOp} (h : (L.next op).Within) : L.Within := by
  unfold Within at h ⊢
  cases op with
  | create h' j m sw sh =>
      simp only [next, setWin, List.length_append, List.length_singleton] at h
      omega
  | other op =>
      cases op with
      | edit id f => exact h
      | call op =>
          have hmono := StackHistory.returned_length_mono ⟨L.stack, L.foreign, []⟩ op
          simp only [next, otherNext] at h hmono
          omega
  | _ => exact h

theorem Inv.step (hL : L.Inv) {op : LedgerOp} (hen : L.enabled op)
    (hwithin : (L.next op).Within) : (L.next op).Inv := by
  cases op with
  | grant h => exact hL.grant hen
  | transfer src dst => exact hL.transfer hen
  | create h j m sw sh => exact hL.create hen hwithin
  | retitle h j title => exact hL.retitle h j title
  | place h j x y w ht => exact hL.place h j x y w ht
  | unmap h j => exact hL.unmap hen
  | attach h j b base => exact hL.attach hen
  | close h j => exact hL.close hen
  | vacate h => exact hL.vacate hen
  | other op => exact hL.other hen hwithin

/-! ## Sessions -/

def TokensWithin (L : Ledger) : Prop := L.issued.length < 4294967295

theorem tokenAfter_eq {n : Nat} (h : n + 1 < 4294967296) : tokenAfter n = n + 1 := by
  have hfirst : uint32 ((n : Int) + 1) = n + 1 := by simpa using uint32_of_lt h
  simp [tokenAfter, hfirst]

theorem Tokens.grant (hL : Tokens L) {h : Holder} (hwithin : (L.next (.grant h)).TokensWithin) :
    Tokens (L.next (.grant h)) := by
  have hlen : L.issued.length + 1 < 4294967295 := by
    simpa [TokensWithin, next] using hwithin
  have hcounted := hL.counted
  have htok : tokenAfter L.nextToken = L.nextToken + 1 := tokenAfter_eq (by omega)
  exact {
    counted := by
      simp only [next, htok, List.length_append, List.length_singleton]
      omega
    issued := fun h' => by
      have hle := hL.issued h'
      simp only [next, Function.update_apply]
      split
      · exact Nat.le_refl _
      · omega
    sessions := fun {h₁ h₂} hne heq => by
      have hle₁ := hL.issued h₁
      have hle₂ := hL.issued h₂
      simp only [next, Function.update_apply] at hne heq
      split at heq
      · split at heq
        · rename_i e₁ e₂
          exact e₁.trans e₂.symm
        · omega
      · rename_i e₁
        split at heq
        · omega
        · rw [if_neg e₁] at hne
          exact hL.sessions hne heq }

theorem Tokens.vacate (hL : Tokens L) (h : Holder) : Tokens (L.next (.vacate h)) where
  counted := hL.counted
  issued h' := by
    simp only [next, setTable_token]
    split
    · exact Nat.zero_le _
    · exact hL.issued h'
  sessions {h₁ h₂} hne heq := by
    simp only [next, setTable_token] at hne heq
    by_cases e₁ : h₁ = h
    · simp [e₁] at hne
    · by_cases e₂ : h₂ = h
      · rw [if_neg e₁] at hne
        rw [if_neg e₁, if_pos e₂] at heq
        exact (hne heq).elim
      · rw [if_neg e₁] at hne
        rw [if_neg e₁, if_neg e₂] at heq
        exact hL.sessions hne heq

theorem Tokens.relabel (hL : Tokens L) (σ : Equiv.Perm Holder) :
    Tokens { L with wins := fun h => L.wins (σ h), token := fun h => L.token (σ h) } where
  counted := hL.counted
  issued h := hL.issued (σ h)
  sessions hne heq := σ.injective (hL.sessions hne heq)

theorem Tokens.step (hL : Tokens L) {op : LedgerOp} (hen : L.enabled op)
    (hwithin : (L.next op).TokensWithin) : Tokens (L.next op) := by
  cases op with
  | grant h => exact hL.grant hwithin
  | transfer src dst =>
      rw [transfer_eq hen]
      exact (hL.vacate dst).relabel _
  | vacate h => exact hL.vacate h
  | _ => exact ⟨hL.counted, hL.issued, hL.sessions⟩

theorem TokensWithin.mono {op : LedgerOp} (h : (L.next op).TokensWithin) : L.TokensWithin := by
  unfold TokensWithin at h ⊢
  cases op with
  | grant h' =>
      simp only [next, List.length_append, List.length_singleton] at h
      omega
  | _ => exact h

end Ledger

end CrystallineLattice.Native
