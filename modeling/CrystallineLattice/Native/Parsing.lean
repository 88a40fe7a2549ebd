import CrystallineLattice.Native.Frame
import CrystallineLattice.Native.WireReading

/-!
# Parsing a datagram

What `dispatch` does is split in two: reading the message buffer, which decides
what is called and with which message, and the call.  Only the first part sees
the buffer, and the bytes it reads can be listed.
-/

namespace CrystallineLattice.Native

open CrystallineLattice.Foundation
open CrystallineLattice.Stack

/-! ## What is called -/

/-- What `dispatch` decides on: to drop the client, to greet it, a handler, or nothing. -/
inductive Call where
  | reject
  | hello (token : Nat)
  | createWindow (m : ClCreateWindow)
  | setTitle (m : ClSetTitle)
  | commit (m : ClCommit)
  | destroyWindow (m : ClDestroyWindow)
  | setGeometry (m : ClSetGeometry)
  | setCursor (m : ClSetCursor)
  | ignore

/-- The macro `NEED` in front of a handler. -/
def need (size n : Nat) (handler : BufferReading Call) : BufferReading Call :=
  if n < size then return .reject else handler

def parseHello (n type : Nat) : BufferReading Call :=
  if type ≠ clHelloType then return .reject
  else if n < ClHello.tokenOffset then return .reject
  else do
    let h ← ClHello.reading
    if helloAccepted h then
      if ClHello.size ≤ n then return .hello (← readU32 16) else return .hello 0
    else return .reject

def parseRequest (n type : Nat) : BufferReading Call :=
  if type = clCreateWindowType then
    need ClCreateWindow.size n do return .createWindow (← ClCreateWindow.reading)
  else if type = clSetTitleType then
    need ClSetTitle.size n do return .setTitle (← ClSetTitle.reading)
  else if type = clCommitType then
    need ClCommit.size n do return .commit (← ClCommit.reading)
  else if type = clDestroyWindowType then
    need ClDestroyWindow.size n do return .destroyWindow (← ClDestroyWindow.reading)
  else if type = clSetGeometryType then
    need ClSetGeometry.size n do return .setGeometry (← ClSetGeometry.reading)
  else if type = clSetCursorType then
    need ClSetCursor.size n do return .setCursor (← ClSetCursor.reading)
  else return .ignore

/-- The part of `dispatch` that reads the buffer, for a client that has shaken hands or not. -/
def parse (hello : Bool) (n : Nat) : BufferReading Call :=
  if n < 4 then return .reject
  else do
    let type ← readU32 0
    if hello then parseRequest n type else parseHello n type

def welcomeClient (t : Transport) (i : Fin clMaxClients) (token : Nat) (fds : List Int) :
    Transport :=
  let t := t.setClient i { t.clients i with hello := true }
  let (t, reclaimed) := clientReclaim t i token
  let t :=
    if reclaimed = 0 then
      let (t, tok) := assignToken t
      t.setClient i { t.clients i with token := tok }
    else t
  closeFds (sendWelcome t (t.clients i).fd (t.clients i).token) fds

/-- The part of `dispatch` that does not see the buffer. -/
def Call.perform (t : Transport) (i : Fin clMaxClients) (fds : List Int) (k : Kernel)
    (dirty : Bool) : Call → Dispatched
  | .reject => ⟨closeFds t fds, false, dirty⟩
  | .hello token => ⟨welcomeClient t i token fds, true, true⟩
  | .createWindow m => ⟨closeFds (onCreateWindow t i m) fds, true, true⟩
  | .setTitle m => ⟨closeFds (onSetTitle t i m) fds, true, dirty⟩
  | .commit m => ⟨onCommit t i m fds k, true, true⟩
  | .destroyWindow m => ⟨closeFds (onDestroyWindow t i m) fds, true, true⟩
  | .setGeometry m => ⟨closeFds (onSetGeometry t i m) fds, true, true⟩
  | .setCursor m => ⟨onSetCursor t m fds k, true, true⟩
  | .ignore => ⟨closeFds t fds, true, dirty⟩

/-! ## Parsing is what `dispatch` does -/

section

variable {buf : Bytes} {n : Nat}

theorem run_need (size : Nat) (handler : BufferReading Call) :
    (need size n handler).run buf = if n < size then .reject else handler.run buf :=
  Reading.run_ite ..

theorem run_parseHello (type : Nat) :
    (parseHello n type).run buf =
      if type ≠ clHelloType then .reject
      else if n < ClHello.tokenOffset then .reject
      else if helloAccepted (.read buf) then
        .hello (if ClHello.size ≤ n then (ClHello.read buf).reconnectToken else 0)
      else .reject := by
  have htoken : helloAccepted { ClHello.read buf with reconnectToken := 0 } =
      helloAccepted (.read buf) := rfl
  unfold parseHello
  rw [Reading.run_ite, Reading.run_ite, Reading.run_bind, ClHello.run_reading, Reading.run_ite,
    Reading.run_ite, htoken]
  split_ifs <;> rfl

theorem run_parse (hello : Bool) :
    (parse hello n).run buf =
      if n < 4 then .reject
      else if hello then (parseRequest n (buf.u32 0)).run buf
      else (parseHello n (buf.u32 0)).run buf := by
  unfold parse
  rw [Reading.run_ite, Reading.run_bind, run_readU32, Reading.run_ite]
  rfl

end

theorem acceptHello_eq (t : Transport) (i : Fin clMaxClients) (d : Datagram) :
    acceptHello t i d = welcomeClient t i (helloToken d) d.fds := rfl

section

variable (t : Transport) (i : Fin clMaxClients) (d : Datagram) (k : Kernel) (dirty : Bool)

theorem perform_parseHello :
    ((parseHello d.n (d.buf.u32 0)).run d.buf).perform t i d.fds k dirty =
      dispatchHello t i d dirty := by
  have htoken : (if ClHello.size ≤ d.n then (ClHello.read d.buf).reconnectToken else 0) =
      helloToken d := rfl
  rw [run_parseHello, dispatchHello, htoken, acceptHello_eq]
  split_ifs <;> rfl

theorem perform_parseRequest :
    ((parseRequest d.n (d.buf.u32 0)).run d.buf).perform t i d.fds k dirty =
      dispatchRequest t i d k dirty := by
  unfold parseRequest dispatchRequest
  dsimp only
  simp only [Reading.run_ite, run_need, Reading.run_bind, Reading.run_pure,
    ClCreateWindow.run_reading, ClSetTitle.run_reading, ClCommit.run_reading,
    ClDestroyWindow.run_reading, ClSetGeometry.run_reading, ClSetCursor.run_reading]
  split_ifs <;> rfl

/-- `dispatch` is parsing the buffer and then the call. -/
theorem perform_parse :
    ((parse (t.clients i).hello d.n).run d.buf).perform t i d.fds k dirty =
      dispatch t i d k dirty := by
  rw [run_parse, dispatch, ← perform_parseHello t i d k dirty, ← perform_parseRequest]
  split_ifs <;> rfl

end

/-! ## Which bytes are read -/

section

variable {buf : Bytes} {n : Nat}

theorem reads_need {α : Type} {size : Nat} {message : BufferReading α}
    (h : message.Reads buf (· < size)) (call : α → Call) :
    (need size n do return call (← message)).Reads buf (· < n) := by
  unfold need
  split
  · exact Reading.reads_pure _
  · rename_i hfull
    refine (Reading.reads_bind _ _).mpr ⟨h.mono fun o ho => ?_, Reading.reads_pure _⟩
    omega

theorem reads_parseRequest (type : Nat) : (parseRequest n type).Reads buf (· < n) := by
  unfold parseRequest
  split_ifs
  · exact reads_need (ClCreateWindow.reads buf) _
  · exact reads_need (ClSetTitle.reads buf) _
  · exact reads_need (ClCommit.reads buf) _
  · exact reads_need (ClDestroyWindow.reads buf) _
  · exact reads_need (ClSetGeometry.reads buf) _
  · exact reads_need (ClSetCursor.reads buf) _
  · exact Reading.reads_pure _

theorem reads_parseHello (type : Nat) :
    (parseHello n type).Reads buf fun o =>
      o < n ∧ (ClHello.tokenOffset ≤ o → ClHello.size ≤ n) := by
  unfold parseHello
  split
  · exact Reading.reads_pure _
  · split
    · exact Reading.reads_pure _
    · rename_i hlong
      refine (Reading.reads_bind _ _).mpr ⟨(ClHello.reads buf).mono fun o ho => ?_, ?_⟩
      · omega
      · split
        · split
          · rename_i hfull
            refine (Reading.reads_bind _ _).mpr ⟨?_, Reading.reads_pure _⟩
            have htoken : (readU32 16).Reads buf (· < ClHello.size) :=
              (reads_readU32 16).mpr (by decide)
            exact htoken.mono fun o ho => ⟨by omega, fun _ => hfull⟩
          · exact Reading.reads_pure _
        · exact Reading.reads_pure _

theorem reads_parse (hello : Bool) : (parse hello n).Reads buf (· < n) := by
  unfold parse
  split
  · exact Reading.reads_pure _
  · rename_i hlong
    refine (Reading.reads_bind _ _).mpr ⟨(reads_readU32 0).mpr (by omega), ?_⟩
    cases hello with
    | true => exact reads_parseRequest _
    | false => exact (reads_parseHello _).mono fun o ho => ho.1

end

/-! ## What is called when -/

theorem run_parse_short {buf : Bytes} {n : Nat} (hshort : n < needed (buf.u32 0)) :
    (parse true n).run buf = .reject := by
  rw [run_parse]
  split
  · rfl
  · rw [if_pos rfl]
    unfold parseRequest
    unfold needed at hshort
    simp only [Reading.run_ite, run_need]
    split_ifs at hshort ⊢ <;> first | rfl | omega

theorem run_parse_fresh (buf : Bytes) (n : Nat) :
    (parse false n).run buf = .reject ∨
      ∃ token, (parse false n).run buf = .hello token ∧ buf.u32 0 = clHelloType ∧
        ClHello.tokenOffset ≤ n ∧ (n < ClHello.size → token = 0) := by
  rw [run_parse, run_parseHello]
  split
  · exact .inl rfl
  · simp only [Bool.false_eq_true, if_false]
    split
    · exact .inl rfl
    · rename_i htype
      split
      · exact .inl rfl
      · rename_i hlong
        split
        · exact .inr ⟨_, rfl, not_not.mp htype, Nat.le_of_not_lt hlong,
            fun hshort => if_neg (Nat.not_le.mpr hshort)⟩
        · exact .inl rfl

theorem reads_parse_fresh (buf : Bytes) (n : Nat) :
    (parse false n).Reads buf fun o => ClHello.tokenOffset ≤ o → ClHello.size ≤ n := by
  unfold parse
  split
  · exact Reading.reads_pure _
  · refine (Reading.reads_bind _ _).mpr ⟨?_, (reads_parseHello _).mono fun o ho => ho.2⟩
    have htype : (readU32 0).Reads buf (· < ClHello.tokenOffset) :=
      (reads_readU32 0).mpr (by decide)
    exact htype.mono fun o ho hpast => absurd ho (Nat.not_lt.mpr hpast)

theorem hello_of_dispatch {t : Transport} {i : Fin clMaxClients} {d : Datagram} {k : Kernel}
    {dirty : Bool} (hfresh : (t.clients i).hello = false)
    (hready : ((dispatch t i d k dirty).t.clients i).hello = true) :
    ∃ token, (parse false d.n).run d.buf = .hello token := by
  rcases dispatch_frame t i d k dirty with htable | ⟨-, -, hok, -⟩
  · obtain ⟨-, hsame, -⟩ := htable.session i
    rw [hsame, hfresh] at hready
    cases hready
  · rcases run_parse_fresh d.buf d.n with hreject | ⟨token, htoken, -⟩
    · rw [← perform_parse, hfresh, hreject] at hok
      cases hok
    · exact ⟨token, htoken⟩

/--
`dispatch` and the handler it calls read bytes that were received, and no other
byte of the buffer has an influence on what is called.  A request that is shorter
than its structure drops the client without a call.  Before the handshake the
only call is the greeting, for a `CL_HELLO` of at least 16 bytes; its token is
read only if there are 20.
-/
theorem dispatch_reads_received (t : Transport) (i : Fin clMaxClients) (d : Datagram)
    (k : Kernel) (dirty : Bool) :
    let hello := (t.clients i).hello
    let parsed := (parse hello d.n).run d.buf
    let r := dispatch t i d k dirty
    r = parsed.perform t i d.fds k dirty ∧
      (parse hello d.n).Reads d.buf (· < d.n) ∧
      DependsOn (fun buf => (parse hello d.n).run buf) {o | o < d.n} ∧
      (hello = true → d.buf.u32 0 ∈ requestTypes → d.n < needed (d.buf.u32 0) →
        parsed = .reject ∧ r.ok = false) ∧
      (hello = false →
        (parsed = .reject ∧ r.ok = false ∨
          ∃ token, parsed = .hello token ∧ d.buf.u32 0 = clHelloType ∧
            ClHello.tokenOffset ≤ d.n ∧ (d.n < ClHello.size → token = 0)) ∧
        (parse hello d.n).Reads d.buf (fun o => ClHello.tokenOffset ≤ o → ClHello.size ≤ d.n) ∧
        ((r.t.clients i).hello = true → ∃ token, parsed = .hello token)) := by
  have hperform := (perform_parse t i d k dirty).symm
  have hrejected (h : (parse (t.clients i).hello d.n).run d.buf = .reject) :
      (dispatch t i d k dirty).ok = false := by
    rw [hperform, h]
    rfl
  refine ⟨hperform, reads_parse _, Reading.dependsOn_run fun buf => reads_parse _, ?_, ?_⟩
  · intro hready _ hshort
    have hreject : (parse (t.clients i).hello d.n).run d.buf = .reject := by
      rw [hready]
      exact run_parse_short hshort
    exact ⟨hreject, hrejected hreject⟩
  · intro hfresh
    rw [hfresh] at hrejected ⊢
    refine ⟨?_, reads_parse_fresh _ _, hello_of_dispatch hfresh⟩
    rcases run_parse_fresh d.buf d.n with hreject | hgreet
    · exact .inl ⟨hreject, hrejected hreject⟩
    · exact .inr hgreet

end CrystallineLattice.Native
