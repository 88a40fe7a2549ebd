import CrystallineLattice.Native.Requests

/-!
# Whose tables a request touches

A handler works on the window table of its own client.  Every other client and
every orphan is left as it is, and so is the session of the client itself.
-/

namespace CrystallineLattice.Native

open CrystallineLattice.Stack

/-- The later of two histories; nothing that was recorded is forgotten. -/
structure History.Extends (a b : History) : Prop where
  created : a.created <+: b.created
  issued : a.issued <+: b.issued

namespace History.Extends

theorem refl (a : History) : a.Extends a := ⟨List.prefix_rfl, List.prefix_rfl⟩

theorem of_eq {a b : History} (h : b = a) : a.Extends b := h ▸ refl a

theorem trans {a b c : History} (h : a.Extends b) (h' : b.Extends c) : a.Extends c :=
  ⟨h.created.trans h'.created, h.issued.trans h'.issued⟩

end History.Extends

structure OnlyTable (h : Holder) (t t' : Transport) : Prop where
  client : ∀ i, .client i ≠ h → t'.clients i = t.clients i
  orphan : ∀ k, .orphan k ≠ h → t'.orphans k = t.orphans k
  session : ∀ i, (t'.clients i).fd = (t.clients i).fd ∧
    (t'.clients i).hello = (t.clients i).hello ∧ (t'.clients i).token = (t.clients i).token
  parked : ∀ k, (t'.orphans k).token = (t.orphans k).token ∧
    (t'.orphans k).deadlineMs = (t.orphans k).deadlineMs
  history : t.history.Extends t'.history

theorem destroyTable_rule {P : Transport → Prop} {h : Holder}
    (hdrop : ∀ t j, P t → P (winDropBuffer t h j))
    (hdestroy : ∀ t id, P t → P { t with stack := windowDestroy t.stack id })
    {t : Transport} (ht : P t) : P (destroyTable t h) := by
  refine List.foldlRecOn (motive := P) _ _ ht ?_
  intro u hu j _
  unfold destroySlot
  split
  · exact hdestroy _ _ (hdrop u j hu)
  · exact hu

namespace OnlyTable

variable {h : Holder} {t t' t'' : Transport}

theorem of_eq (hclients : t'.clients = t.clients) (horphans : t'.orphans = t.orphans)
    (hhistory : t.history.Extends t'.history) : OnlyTable h t t' where
  client i _ := by rw [hclients]
  orphan k _ := by rw [horphans]
  session i := by simp [hclients]
  parked k := by simp [horphans]
  history := hhistory

theorem same (hclients : t'.clients = t.clients) (horphans : t'.orphans = t.orphans)
    (hhistory : t'.history = t.history) : OnlyTable h t t' :=
  of_eq hclients horphans (.of_eq hhistory)

theorem trans (h₁ : OnlyTable h t t') (h₂ : OnlyTable h t' t'') : OnlyTable h t t'' where
  client i hne := (h₂.client i hne).trans (h₁.client i hne)
  orphan k hne := (h₂.orphan k hne).trans (h₁.orphan k hne)
  session i := by
    obtain ⟨hfd, hhello, htoken⟩ := h₂.session i
    obtain ⟨hfd', hhello', htoken'⟩ := h₁.session i
    exact ⟨hfd.trans hfd', hhello.trans hhello', htoken.trans htoken'⟩
  parked k := by
    obtain ⟨htoken, hdeadline⟩ := h₂.parked k
    obtain ⟨htoken', hdeadline'⟩ := h₁.parked k
    exact ⟨htoken.trans htoken', hdeadline.trans hdeadline'⟩
  history := h₁.history.trans h₂.history

theorem setWin (t : Transport) (h : Holder) (j : Fin winMax) (w : ClWin) :
    OnlyTable h t (t.setWin h j w) := by
  cases h with
  | client i =>
      have hother (i' : Fin clMaxClients) (hne : i' ≠ i) :
          (t.setWin (.client i) j w).clients i' = t.clients i' := by
        simp [Transport.setWin, Transport.setClient, hne]
      exact {
        client := fun i' hne => hother i' fun heq => hne (heq ▸ rfl)
        orphan := fun _ _ => rfl
        session := fun i' => by
          by_cases heq : i' = i
          · subst heq
            simp [Transport.setWin, Transport.setClient]
          · rw [hother i' heq]
            exact ⟨rfl, rfl, rfl⟩
        parked := fun _ => ⟨rfl, rfl⟩
        history := .refl _ }
  | orphan k =>
      have hother (k' : Fin clMaxClients) (hne : k' ≠ k) :
          (t.setWin (.orphan k) j w).orphans k' = t.orphans k' := by
        simp [Transport.setWin, Transport.setOrphan, hne]
      exact {
        client := fun _ _ => rfl
        orphan := fun k' hne => hother k' fun heq => hne (heq ▸ rfl)
        session := fun _ => ⟨rfl, rfl, rfl⟩
        parked := fun k' => by
          by_cases heq : k' = k
          · subst heq
            simp [Transport.setWin, Transport.setOrphan]
          · rw [hother k' heq]
            exact ⟨rfl, rfl⟩
        history := .refl _ }

theorem winDropBuffer (t : Transport) (h : Holder) (j : Fin winMax) :
    OnlyTable h t (winDropBuffer t h j) := by
  unfold Native.winDropBuffer
  dsimp only
  split
  · exact .same rfl rfl rfl
  · refine OnlyTable.trans ?_ (.setWin _ h j _)
    exact .same rfl rfl rfl

theorem closeSlot (t : Transport) (h : Holder) (j : Fin winMax) :
    OnlyTable h t (closeSlot t h j) := by
  refine (winDropBuffer t h j).trans (OnlyTable.trans ?_ (.setWin _ h j .zero))
  exact .same rfl rfl rfl

theorem attachBuffer (t : Transport) (h : Holder) (j : Fin winMax) (b : ClBuffer)
    (base : Nat) : OnlyTable h t (attachBuffer t h j b base) := by
  have hslot := setWin (Native.winDropBuffer t h j) h j
    { (Native.winDropBuffer t h j).wins h j with
      buf := .mapping base
      bufLen := b.stride * b.height }
  refine ((winDropBuffer t h j).trans hslot).trans ?_
  exact .same rfl rfl rfl

theorem destroyTable (t : Transport) (h : Holder) : OnlyTable h t (destroyTable t h) :=
  destroyTable_rule (P := OnlyTable h t) (fun u j hu => hu.trans (winDropBuffer u h j))
    (fun _ _ hu => hu.trans (.same rfl rfl rfl)) (.same rfl rfl rfl)

end OnlyTable

/-! ## Messages -/

section Messages

variable (t : Transport) (h : Holder)

theorem sendFocus_frame (id : Nat) (focused : Bool) : OnlyTable h t (sendFocus t id focused) := by
  unfold sendFocus
  cases findByServerId t id <;> exact .same rfl rfl rfl

theorem notifyFocus_frame (id : Nat) : OnlyTable h t (notifyFocus t id) := by
  unfold notifyFocus
  split
  · exact .same rfl rfl rfl
  · have hfocused : OnlyTable h (sendFocus t t.focusedServerId false)
        { sendFocus t t.focusedServerId false with focusedServerId := id } := .same rfl rfl rfl
    exact ((sendFocus_frame t h _ false).trans hfocused).trans (sendFocus_frame _ h id true)

theorem sendConfigure_frame (fd : Int) (wid id : Nat) :
    OnlyTable h t (sendConfigure t fd wid id) := by
  unfold sendConfigure
  cases windowById t.stack id <;> exact .same rfl rfl rfl

end Messages

theorem adoptWindow_frame (t : Transport) (i : Fin clMaxClients) (j : Fin winMax) (wid : Nat)
    (role : WinRole) (id : Nat) :
    OnlyTable (.client i) t (adoptWindow t i j wid role id) := by
  unfold adoptWindow
  dsimp only
  have hrecorded (s : WindowStack) (p : Nat × Nat) :
      OnlyTable (.client i) t
        { t with stack := s, history := { t.history with created := t.history.created ++ [p] } } :=
    .of_eq rfl rfl ⟨List.prefix_append _ _, List.prefix_rfl⟩
  have hslot (s : WindowStack) (p : Nat × Nat) (w : ClWin) :=
    (hrecorded s p).trans (.setWin _ (.client i) j w)
  split
  · exact ((hslot _ _ _).trans (sendConfigure_frame _ _ _ _ _)).trans (notifyFocus_frame _ _ _)
  · exact (hslot _ _ _).trans (sendConfigure_frame _ _ _ _ _)

/-! ## Handlers -/

section Handlers

variable (t : Transport) (i : Fin clMaxClients)

theorem onCreateWindow_frame (m : ClCreateWindow) :
    OnlyTable (.client i) t (onCreateWindow t i m) := by
  rcases onCreateWindow_cases t i m with ⟨heq, -⟩ | ⟨j, -, heq⟩
  · rw [heq]
    exact .same rfl rfl rfl
  · rw [heq]
    split
    · exact .same rfl rfl rfl
    · refine OnlyTable.trans ?_ (adoptWindow_frame _ i j _ _ _)
      exact .same rfl rfl rfl

theorem onSetTitle_frame (m : ClSetTitle) : OnlyTable (.client i) t (onSetTitle t i m) := by
  rcases onSetTitle_cases t i m with heq | ⟨j, title, -, heq⟩ <;>
    rw [heq] <;> exact .same rfl rfl rfl

theorem onSetGeometry_frame (m : ClSetGeometry) :
    OnlyTable (.client i) t (onSetGeometry t i m) := by
  rcases onSetGeometry_cases t i m with heq | ⟨j, -, heq⟩ <;>
    rw [heq] <;> exact .same rfl rfl rfl

theorem onDestroyWindow_frame (m : ClDestroyWindow) :
    OnlyTable (.client i) t (onDestroyWindow t i m) := by
  rcases onDestroyWindow_cases t i m with heq | ⟨j, -, heq⟩
  · rw [heq]
    exact .same rfl rfl rfl
  · rw [heq]
    exact .closeSlot t (.client i) j

theorem onCommit_frame (m : ClCommit) (fds : List Int) (k : Kernel) :
    OnlyTable (.client i) t (onCommit t i m fds k) := by
  rcases onCommit_cases t i m fds k with ⟨closed, heq⟩ | ⟨closed, j, base, -, -, heq⟩
  · rw [heq]
    exact .same rfl rfl rfl
  · rw [heq]
    refine OnlyTable.trans ?_ (.attachBuffer _ (.client i) j m.buffer base)
    exact .same rfl rfl rfl

theorem onSetCursor_frame (m : ClSetCursor) (fds : List Int) (k : Kernel) :
    OnlyTable (.client i) t (onSetCursor t m fds k) := by
  unfold onSetCursor
  dsimp only
  split
  · exact .same rfl rfl rfl
  · split
    · exact .same rfl rfl rfl
    · cases k.mmap <;> exact .same rfl rfl rfl

/-- Everything but an accepted `CL_HELLO` keeps to the client's own table. -/
theorem dispatch_frame (d : Datagram) (k : Kernel) (dirty : Bool) :
    OnlyTable (.client i) t (dispatch t i d k dirty).t ∨
      (t.clients i).hello = false ∧ d.buf.u32 0 = clHelloType ∧
        (dispatch t i d k dirty).ok = true ∧
        (dispatch t i d k dirty).t = acceptHello t i d := by
  have hclose {u : Transport} (fds : List Int) (h : OnlyTable (.client i) t u) :
      OnlyTable (.client i) t (closeFds u fds) := h.trans (.same rfl rfl rfl)
  have hpath := dispatch_path t i d k dirty
  generalize dispatch t i d k dirty = r at hpath ⊢
  cases hpath with
  | reject why => exact .inl (hclose _ (.same rfl rfl rfl))
  | hello fresh type full accepted => exact .inr ⟨fresh, type, rfl, rfl⟩
  | createWindow ready type full => exact .inl (hclose _ (onCreateWindow_frame t i _))
  | setTitle ready type full => exact .inl (hclose _ (onSetTitle_frame t i _))
  | commit ready type full => exact .inl (onCommit_frame t i _ _ _)
  | destroyWindow ready type full => exact .inl (hclose _ (onDestroyWindow_frame t i _))
  | setGeometry ready type full => exact .inl (hclose _ (onSetGeometry_frame t i _))
  | setCursor ready type full => exact .inl (onSetCursor_frame t i _ _ _)
  | ignore ready type => exact .inl (hclose _ (.same rfl rfl rfl))

end Handlers

/-! ## Handshake and loss -/

theorem tokenAfter_ne_zero (n : Nat) : tokenAfter n ≠ 0 := by
  unfold tokenAfter
  dsimp only
  split
  · decide
  · assumption

theorem granted_frame (t : Transport) (i : Fin clMaxClients) :
    (∀ i', i' ≠ i → (granted t i).clients i' = t.clients i') ∧
      (granted t i).orphans = t.orphans ∧
      (granted t i).clients i =
        { t.clients i with hello := true, token := tokenAfter t.nextToken } := by
  refine ⟨fun i' hne => ?_, rfl, ?_⟩
  · simp [granted, Transport.setClient, hne]
  · simp [granted]

theorem reclaimed_frame (t : Transport) (i k : Fin clMaxClients) :
    (∀ i', i' ≠ i → (reclaimed t i k).clients i' = t.clients i') ∧
      (∀ k', (reclaimed t i k).orphans k' = if k' = k then .zero else t.orphans k') ∧
      (reclaimed t i k).clients i =
        { t.clients i with
          hello := true
          wins := (t.orphans k).wins
          token := (t.orphans k).token } := by
  refine ⟨fun i' hne => ?_, fun k' => ?_, ?_⟩
  · simp [reclaimed, Transport.setClient, Transport.setOrphan, hne]
  · simp [reclaimed, Transport.setClient, Transport.setOrphan, Function.update_apply]
  · simp [reclaimed, Transport.setClient, Transport.setOrphan]

theorem HelloOutcome.frame {t u : Transport} {i : Fin clMaxClients} {token : Nat}
    (h : HelloOutcome t i token u) :
    (∀ i', i' ≠ i → u.clients i' = t.clients i') ∧
      (∀ k, u.orphans k = t.orphans k ∨
        token ≠ 0 ∧ (t.orphans k).token = token ∧ u.orphans k = .zero ∧
          (u.clients i).wins = (t.orphans k).wins) ∧
      (u.clients i).fd = (t.clients i).fd ∧ (u.clients i).hello = true ∧
      (u.clients i).token ≠ 0 ∧ t.history.Extends u.history := by
  have hissued (a : Transport) : a.history.Extends (granted a i).history :=
    ⟨List.prefix_rfl, List.prefix_append _ _⟩
  cases h with
  | fresh unknown =>
      obtain ⟨hothers, horphans, hself⟩ := granted_frame t i
      refine ⟨hothers, fun k => .inl (by rw [horphans]), ?_⟩
      rw [hself]
      exact ⟨rfl, rfl, tokenAfter_ne_zero _, hissued t⟩
  | reclaim k known held windows =>
      obtain ⟨hothers, horphans, hself⟩ := reclaimed_frame t i k
      refine ⟨hothers, fun k' => ?_, ?_⟩
      · rw [horphans, hself]
        split
        · rename_i heq
          subst heq
          exact .inr ⟨known, held, rfl, rfl⟩
        · exact .inl rfl
      · rw [hself]
        exact ⟨rfl, rfl, held ▸ known, .refl _⟩
  | empty k known held windows =>
      obtain ⟨hothers, horphans, hself⟩ := reclaimed_frame t i k
      obtain ⟨hothers', horphans', hself'⟩ := granted_frame (reclaimed t i k) i
      refine ⟨fun i' hne => (hothers' i' hne).trans (hothers i' hne), fun k' => ?_, ?_⟩
      · rw [horphans', horphans, hself', hself]
        split
        · rename_i heq
          subst heq
          exact .inr ⟨known, held, rfl, rfl⟩
        · exact .inl rfl
      · rw [hself', hself]
        exact ⟨rfl, rfl, tokenAfter_ne_zero _, hissued (reclaimed t i k)⟩

theorem acceptHello_frame (t : Transport) (i : Fin clMaxClients) (d : Datagram) :
    ∃ u, HelloOutcome t i (helloToken d) u ∧ (acceptHello t i d).clients = u.clients ∧
      (acceptHello t i d).orphans = u.orphans ∧ (acceptHello t i d).stack = t.stack ∧
      (acceptHello t i d).history = u.history := by
  obtain ⟨u, hu, heq⟩ := acceptHello_cases t i d
  have hstack : u.stack = t.stack := by cases hu <;> rfl
  exact ⟨u, hu, by rw [heq]; rfl, by rw [heq]; rfl, by rw [heq, ← hstack]; rfl,
    by rw [heq]; rfl⟩

theorem clientDrop_frame (t : Transport) (i : Fin clMaxClients) (now : Int) :
    (∀ i', i' ≠ i → (clientDrop t i now).clients i' = t.clients i') ∧
      (clientDrop t i now).clients i = .zero (-1) ∧
      (∀ k, (clientDrop t i now).orphans k =
        if parkingSlot t i = some k then
          ⟨(t.clients i).token, now + clReconnectGraceMs, (t.clients i).wins⟩
        else t.orphans k) ∧
      t.history.Extends (clientDrop t i now).history := by
  unfold clientDrop
  cases parkingSlot t i with
  | none =>
      have hdestroy := OnlyTable.destroyTable t (.client i)
      dsimp only
      generalize destroyTable t (.client i) = u at hdestroy ⊢
      refine ⟨fun i' hne => ?_, ?_, fun k => ?_, hdestroy.history⟩
      · have hother : Holder.client i' ≠ .client i := fun heq => hne (Holder.client.inj heq)
        simpa [Transport.setClient, hne] using hdestroy.client i' hother
      · simp
      · simpa [Transport.setClient] using hdestroy.orphan k (by simp)
  | some k =>
      refine ⟨fun i' hne => ?_, ?_, fun k' => ?_, .refl _⟩
      · simp [Transport.setClient, Transport.setOrphan, hne]
      · simp
      · by_cases heq : k' = k
        · simp [Transport.setClient, Transport.setOrphan, heq]
        · have hne : k ≠ k' := fun h => heq h.symm
          simp [Transport.setClient, Transport.setOrphan, heq, hne]

theorem orphanDestroy_frame (t : Transport) (k : Fin clMaxClients) :
    (orphanDestroy t k).clients = t.clients ∧
      (∀ k', (orphanDestroy t k).orphans k' = if k' = k then .zero else t.orphans k') ∧
      t.history.Extends (orphanDestroy t k).history := by
  have hdestroy := OnlyTable.destroyTable t (.orphan k)
  unfold orphanDestroy
  generalize destroyTable t (.orphan k) = u at hdestroy ⊢
  refine ⟨funext fun i => hdestroy.client i (by simp), fun k' => ?_, hdestroy.history⟩
  by_cases heq : k' = k
  · simp [Transport.setOrphan, heq]
  · have hother : Holder.orphan k' ≠ .orphan k := fun h => heq (Holder.orphan.inj h)
    simpa [Transport.setOrphan, heq] using hdestroy.orphan k' hother

end CrystallineLattice.Native
