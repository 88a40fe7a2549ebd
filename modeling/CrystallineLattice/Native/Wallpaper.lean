import CrystallineLattice.Native.World
import CrystallineLattice.Stack.Wallpaper

/-!
# The wallpaper and the native clients

Whatever the native clients do, wallpapers stay at the bottom and cover the
screen: a new one is made to fit and lowered, and clients cannot move it.  The
size of the screen that the transport knows does not change either.
-/

namespace CrystallineLattice.Native

open CrystallineLattice.Foundation
open CrystallineLattice.Stack

/-- The screen has the same size, and provided `S` the stack was tidied for it. -/
structure Tidy (S : Prop) (t t' : Transport) : Prop where
  sw : t'.sw = t.sw
  sh : t'.sh = t.sh
  stack : S → Tidies t.sw t.sh t.stack t'.stack

structure Spacious (s : WindowStack) : Prop where
  stack : s.WellFormed
  wrap : s.nextId + 1 < 4294967296

/-! ## A new window -/

theorem stackWithNew_tidies {s : WindowStack} (hs : Spacious s) (hroom : s.count < winMax)
    (m : ClCreateWindow) (sw sh : Int) :
    Tidies sw sh s (Ledger.stackWithNew s m sw sh) := by
  have hnext : uint32 ((s.nextId : Int) + 1) = s.nextId + 1 := by
    simpa using uint32_of_lt hs.wrap
  have hfresh : s.nextId ∉ s.windows.map Window.id := fun hmem =>
    Nat.lt_irrefl _ (hs.stack.below _ hmem)
  have hgrown : s.nextId ≤ s.nextId + 1 := Nat.le_succ _
  rcases windowCreate_cases s (roleFromWire m.role) m.x m.y
    (if m.w ≠ 0 then int32 m.w else 320) (if m.h ≠ 0 then int32 m.h else 240)
    0x00202020 (cString "client") with ⟨-, hfull⟩ | ⟨-, heq⟩
  · omega
  · rw [Ledger.stackWithNew, requestedWindow, heq, hnext]
    generalize hwin : newWindow s.nextId (roleFromWire m.role) m.x m.y _ _ _ _ = win
    have hid : win.id = s.nextId := hwin ▸ rfl
    have hrole : win.role = roleFromWire m.role := hwin ▸ rfl
    have hdecorated : WindowStack.writeById ⟨s.windows ++ [win], s.focusId, s.nextId + 1⟩ s.nextId
        (fun w => { w with appDecorated := true }) =
        ⟨s.windows ++ [{ win with appDecorated := true }], s.focusId, s.nextId + 1⟩ := by
      rw [WindowStack.writeById, KeyedList.update_append hfresh hid]
    rw [hdecorated]
    by_cases hdesktop : roleFromWire m.role = .desktop
    · rw [hdesktop, applyRolePolicy, windowLower_eq, windowSetGeometry, WindowStack.writeById]
      dsimp only
      rw [KeyedList.update_append (a := { win with appDecorated := true }) hfresh hid]
      generalize hfit : ({ win with
        appDecorated := true
        x := 0
        y := 0
        w := if 0 < sw then sw else win.w
        h := if 0 < sh then sh else win.h } : Window) = fitted
      have hlowered : KeyedList.toFront Window.id s.nextId (s.windows ++ [fitted]) =
          fitted :: s.windows := KeyedList.toFront_append hfresh (hfit ▸ hid)
      rw [hlowered]
      refine .prepend (hfit ▸ hid) hgrown (hfit ▸ hrole.trans hdesktop) fun hsw hsh => ?_
      rw [← hfit, if_pos hsw, if_pos hsh]
      exact ⟨rfl, rfl, rfl, rfl⟩
    · have happend : Tidies sw sh s
          ⟨s.windows ++ [{ win with appDecorated := true }], s.focusId, s.nextId + 1⟩ :=
        .append hid hgrown (hrole.trans_ne hdesktop)
      refine happend.trans ?_
      unfold applyRolePolicy
      split
      · exact .focus _ _
      · rename_i h
        exact (hdesktop h).elim
      · exact .refl _

/-! ## Handlers -/

namespace Tidy

variable {S : Prop} {t t' t'' : Transport}

theorem of_stack (hsw : t'.sw = t.sw) (hsh : t'.sh = t.sh) (hstack : t'.stack = t.stack) :
    Tidy S t t' :=
  ⟨hsw, hsh, fun _ => hstack ▸ .refl _⟩

theorem refl (t : Transport) : Tidy S t t := of_stack rfl rfl rfl

theorem trans (h : Tidy S t t') (h' : Tidy S t' t'') : Tidy S t t'' where
  sw := h'.sw.trans h.sw
  sh := h'.sh.trans h.sh
  stack hS := (h.stack hS).trans (h.sw ▸ h.sh ▸ h'.stack hS)

theorem setWin (t : Transport) (h : Holder) (j : Fin winMax) (w : ClWin) :
    Tidy S t (t.setWin h j w) := by
  cases h <;> exact of_stack rfl rfl rfl

theorem redraw {id : Nat} {f : Window → Window} (hstack : t'.stack = t.stack.writeById id f)
    (hsw : t'.sw = t.sw) (hsh : t'.sh = t.sh) (hid : ∀ w, (f w).id = w.id)
    (hrole : ∀ w, (f w).role = w.role)
    (hplace : ∀ w, (f w).x = w.x ∧ (f w).y = w.y ∧ (f w).w = w.w ∧ (f w).h = w.h) :
    Tidy S t t' :=
  ⟨hsw, hsh, fun _ => hstack ▸ .edit_inside t.stack id hid hrole hplace⟩

theorem winDropBuffer (t : Transport) (h : Holder) (j : Fin winMax) :
    Tidy S t (winDropBuffer t h j) := by
  unfold Native.winDropBuffer
  dsimp only
  split
  · exact refl t
  · refine trans ?_ (setWin _ h j _)
    exact redraw rfl rfl rfl (fun _ => rfl) (fun _ => rfl) fun _ => ⟨rfl, rfl, rfl, rfl⟩

theorem closeSlot (t : Transport) (h : Holder) (j : Fin winMax) : Tidy S t (closeSlot t h j) := by
  refine (winDropBuffer t h j).trans (trans ?_ (setWin _ h j .zero))
  exact ⟨rfl, rfl, fun _ => .destroy _ _⟩

theorem attachBuffer (t : Transport) (h : Holder) (j : Fin winMax) (b : ClBuffer) (base : Nat) :
    Tidy S t (attachBuffer t h j b base) := by
  have hslot : Tidy S _ _ := setWin (Native.winDropBuffer t h j) h j
    { (Native.winDropBuffer t h j).wins h j with
      buf := .mapping base
      bufLen := b.stride * b.height }
  refine ((winDropBuffer t h j).trans hslot).trans ?_
  exact redraw rfl rfl rfl (fun _ => rfl) (fun _ => rfl) fun _ => ⟨rfl, rfl, rfl, rfl⟩

theorem destroyTable (t : Transport) (h : Holder) : Tidy S t (destroyTable t h) :=
  destroyTable_rule (P := Tidy S t) (fun u j hu => hu.trans (winDropBuffer u h j))
    (fun _ _ hu => hu.trans ⟨rfl, rfl, fun _ => .destroy _ _⟩) (refl t)

theorem notifyFocus (t : Transport) (id : Nat) : Tidy S t (notifyFocus t id) := by
  have hsend (t : Transport) (id : Nat) (focused : Bool) : Tidy S t (sendFocus t id focused) := by
    unfold sendFocus
    cases findByServerId t id <;> exact of_stack rfl rfl rfl
  unfold Native.notifyFocus
  split
  · exact refl t
  · refine (hsend t t.focusedServerId false).trans (trans ?_ (hsend _ id true))
    exact of_stack rfl rfl rfl

theorem adoptWindow (t : Transport) (i : Fin clMaxClients) (j : Fin winMax)
    (m : ClCreateWindow) (hroom : t.stack.count < winMax) (ht : S → Spacious t.stack) :
    Tidy S t (adoptWindow { t with stack := (requestedWindow t.stack m).1 } i j m.wid
      (roleFromWire m.role) t.stack.nextId) := by
  have hconfigure (t : Transport) (fd : Int) (wid id : Nat) :
      Tidy S t (sendConfigure t fd wid id) := by
    unfold sendConfigure
    cases windowById t.stack id <;> exact of_stack rfl rfl rfl
  have hstacked : Tidy S t { t with stack := Ledger.stackWithNew t.stack m t.sw t.sh } :=
    ⟨rfl, rfl, fun hS => stackWithNew_tidies (ht hS) hroom m _ _⟩
  refine hstacked.trans ?_
  unfold Native.adoptWindow
  dsimp only
  split
  · refine trans (trans ?_ (hconfigure _ _ _ _)) (notifyFocus _ _)
    exact of_stack rfl rfl rfl
  · refine trans ?_ (hconfigure _ _ _ _)
    exact of_stack rfl rfl rfl

theorem onCreateWindow (t : Transport) (i : Fin clMaxClients) (m : ClCreateWindow)
    (ht : ∀ j, CreateAccepted t i m j → S → Spacious t.stack) :
    Tidy S t (onCreateWindow t i m) := by
  rcases onCreateWindow_cases t i m with ⟨heq, -⟩ | ⟨j, haccepted, heq⟩
  · rw [heq]
    exact refl t
  · rw [heq]
    split
    · rename_i hzero
      refine ⟨rfl, rfl, fun hS => ?_⟩
      exact (Nat.pos_iff_ne_zero.mp (ht j haccepted hS).stack.nextPos hzero).elim
    · exact adoptWindow t i j m haccepted.room (ht j haccepted)

theorem onSetTitle (t : Transport) (i : Fin clMaxClients) (m : ClSetTitle) :
    Tidy S t (onSetTitle t i m) := by
  rcases onSetTitle_cases t i m with heq | ⟨j, title, -, heq⟩
  · rw [heq]
    exact refl t
  · rw [heq]
    exact redraw rfl rfl rfl (fun _ => rfl) (fun _ => rfl) fun _ => ⟨rfl, rfl, rfl, rfl⟩

theorem onSetGeometry (t : Transport) (i : Fin clMaxClients) (m : ClSetGeometry) :
    Tidy S t (onSetGeometry t i m) := by
  unfold Native.onSetGeometry
  cases winFind (t.clients i) m.wid with
  | none => exact refl t
  | some j =>
      dsimp only
      split
      · exact refl t
      · rename_i hother
        refine ⟨rfl, rfl, fun _ => .edit _ _ (fun _ => rfl) (fun _ => rfl) fun w hw hdesktop => ?_⟩
        exact (hother (by simp [hw, hdesktop])).elim

theorem onCommit (t : Transport) (i : Fin clMaxClients) (m : ClCommit) (fds : List Int)
    (k : Kernel) : Tidy S t (onCommit t i m fds k) := by
  rcases onCommit_cases t i m fds k with ⟨closed, heq⟩ | ⟨closed, j, base, -, -, heq⟩
  · rw [heq]
    exact of_stack rfl rfl rfl
  · rw [heq]
    refine trans ?_ (attachBuffer _ (.client i) j m.buffer base)
    exact of_stack rfl rfl rfl

theorem onDestroyWindow (t : Transport) (i : Fin clMaxClients) (m : ClDestroyWindow) :
    Tidy S t (onDestroyWindow t i m) := by
  rcases onDestroyWindow_cases t i m with heq | ⟨j, -, heq⟩
  · rw [heq]
    exact refl t
  · rw [heq]
    exact closeSlot t (.client i) j

theorem onSetCursor (t : Transport) (m : ClSetCursor) (fds : List Int) (k : Kernel) :
    Tidy S t (onSetCursor t m fds k) := by
  unfold Native.onSetCursor
  dsimp only
  split
  · exact of_stack rfl rfl rfl
  · split
    · exact of_stack rfl rfl rfl
    · cases k.mmap <;> exact of_stack rfl rfl rfl

theorem acceptHello (t : Transport) (i : Fin clMaxClients) (d : Datagram) :
    Tidy S t (acceptHello t i d) := by
  obtain ⟨u, hu, heq⟩ := acceptHello_cases t i d
  rw [heq]
  cases hu <;> exact of_stack rfl rfl rfl

theorem clientDrop (t : Transport) (i : Fin clMaxClients) (now : Int) :
    Tidy S t (clientDrop t i now) := by
  unfold Native.clientDrop
  cases parkingSlot t i with
  | none =>
      have hdestroy := destroyTable (S := S) t (.client i)
      dsimp only
      generalize Native.destroyTable t (.client i) = u at hdestroy ⊢
      exact hdestroy.trans (of_stack rfl rfl rfl)
  | some k => exact of_stack rfl rfl rfl

theorem orphanDestroy (t : Transport) (k : Fin clMaxClients) : Tidy S t (orphanDestroy t k) := by
  have hdestroy := destroyTable (S := S) t (.orphan k)
  unfold Native.orphanDestroy
  generalize Native.destroyTable t (.orphan k) = u at hdestroy ⊢
  exact hdestroy.trans (of_stack rfl rfl rfl)

theorem transportAddClient (t : Transport) (fd : Int) (epollOk : Bool) :
    Tidy S t (transportAddClient t fd epollOk) := by
  unfold Native.transportAddClient
  cases clientByFd t (-1) with
  | none => exact of_stack rfl rfl rfl
  | some i => cases epollOk <;> exact of_stack rfl rfl rfl

theorem dispatch (t : Transport) (i : Fin clMaxClients) (d : Datagram) (k : Kernel)
    (dirty : Bool) (ht : ∀ j, Creates t i d j → S → Spacious t.stack) :
    Tidy S t (dispatch t i d k dirty).t := by
  have hclose {u : Transport} (fds : List Int) (h : Tidy S t u) : Tidy S t (closeFds u fds) :=
    h.trans (of_stack rfl rfl rfl)
  have hpath := dispatch_path t i d k dirty
  generalize Native.dispatch t i d k dirty = r at hpath ⊢
  cases hpath with
  | reject why => exact hclose _ (refl t)
  | hello fresh type full accepted => exact acceptHello t i d
  | createWindow ready type full =>
      exact hclose _ (onCreateWindow t i _ fun j haccepted => ht j ⟨ready, type, full, haccepted⟩)
  | setTitle ready type full => exact hclose _ (onSetTitle t i _)
  | commit ready type full => exact onCommit t i _ _ _
  | destroyWindow ready type full => exact hclose _ (onDestroyWindow t i _)
  | setGeometry ready type full => exact hclose _ (onSetGeometry t i _)
  | setCursor ready type full => exact onSetCursor t _ _ _
  | ignore ready type => exact hclose _ (refl t)

theorem clientDatagram (t : Transport) (i : Fin clMaxClients) (d : Datagram) (k : Kernel)
    (now : Int) (dirty : Bool) (ht : ∀ j, Creates t i d j → S → Spacious t.stack) :
    Tidy S t (clientDatagram t i d k now dirty).t := by
  rcases clientDatagram_cases t i d k now dirty with heq | ⟨-, heq⟩
  · rw [heq]
    exact dispatch t i d k dirty ht
  · have hclosed : Tidy S t (closeFds t d.fds) := of_stack rfl rfl rfl
    rw [heq]
    exact hclosed.trans (clientDrop (closeFds t d.fds) i now)

theorem orphansExpire (t : Transport) (now : Int) : Tidy S t (orphansExpire t now).1 :=
  orphansExpire_rule (P := Tidy S t) (fun u k hu _ _ => hu.trans (orphanDestroy u k)) (refl t)

end Tidy

namespace World

theorem tidy {S : Prop} (W : World) {e : Event} (hours : ∀ op, e ≠ .other op)
    (ht : ∀ i d k now j, e = .datagram i d k now → Creates W.t i d j →
      S → Spacious W.t.stack) :
    Tidy S W.t (W.next e).t := by
  cases e with
  | addClient fd epollOk => exact .transportAddClient W.t fd epollOk
  | datagram i d k now => exact .clientDatagram W.t i d k now false fun j => ht i d k now j rfl
  | hangup i now =>
      simp only [World.next]
      exact .clientDrop W.t i now
  | expire now =>
      simp only [World.next]
      exact .orphansExpire W.t now
  | updateFocus focusId => exact .notifyFocus W.t focusId
  | other op => exact (hours op rfl).elim

theorem screen_next (W : World) (e : Event) :
    (W.next e).t.sw = W.t.sw ∧ (W.next e).t.sh = W.t.sh := by
  by_cases hours : ∃ op, e = .other op
  · obtain ⟨op, rfl⟩ := hours
    exact ⟨rfl, rfl⟩
  · have h := tidy (S := False) W (fun op heq => hours ⟨op, heq⟩)
      fun _ _ _ _ _ _ _ => False.elim
    exact ⟨h.sw, h.sh⟩

theorem Inv.tidies {W : World} {e : Event} (hW : W.Inv) (hen : W.enabled e)
    (hours : ∀ op, e ≠ .other op) (hwithin : (W.next e).Within) :
    Tidies W.t.sw W.t.sh W.t.stack (W.next e).t.stack := by
  refine (tidy (S := True) W hours fun i d k now j heq hmade _ => ?_).stack trivial
  subst heq
  refine ⟨hW.ledger.stack, ?_⟩
  rcases datagram_ledger hW hen with ⟨-, hnone⟩ | ⟨j', -, -, heq⟩
  · exact (hnone j hmade).elim
  · rw [Within, heq] at hwithin
    exact hW.ledger.wrap_of_create hwithin

end World

end CrystallineLattice.Native
