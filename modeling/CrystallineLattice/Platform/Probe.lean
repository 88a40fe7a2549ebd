import Mathlib.Data.List.Basic

/-!
# Choosing the device

`drm_open` and the start of the server choose a graphics card by the same policy.
Both open one card after another, the server through the seat and `drm_open` itself;
which card they take and what they leave open is compared here.
-/

namespace CrystallineLattice.Platform

/--
What there is at a device path: whether `open` and the seat can open it, and what it
answers then.  A node that is not there cannot be opened.
-/
structure CardNode where
  present : Bool
  opens : Bool
  seatOpens : Bool
  atomic : Bool
  universalPlanes : Bool
  /-- The resources, with each connector that can be read and whether it is connected. -/
  connectors : Option (List (Option Bool))
  found : seatOpens = true → present = true

def CardNode.Shared (c : CardNode) : Prop := c.seatOpens = c.opens

instance (c : CardNode) : Decidable c.Shared := inferInstanceAs (Decidable (_ = _))

def drmSetCaps (c : CardNode) : Bool := c.atomic && c.universalPlanes

def drmHasConnected (c : CardNode) : Bool :=
  match c.connectors with
  | none => false
  | some connectors => connectors.any (· == some true)

inductive DevicePath where
  | given (path : List UInt8)
  | card (i : Nat)
  deriving DecidableEq, Repr

/-- Closing the seat closes every device that was opened through it. -/
inductive DeviceOp where
  | opened (path : DevicePath)
  | closed (path : DevicePath)
  | seatClosed
  deriving DecidableEq, Repr

/-! ## The two probes -/

def cardCount : Nat := 16

def pathMax : Nat := 64

section

variable (cards : Nat → CardNode) (nodes : List UInt8 → CardNode)

def drmOpenLoop : List Nat → Option Nat → List DeviceOp → Option Nat × List DeviceOp
  | [], fallback, ops => (fallback, ops)
  | i :: is, fallback, ops =>
      if (cards i).opens = false then drmOpenLoop is fallback ops
      else if drmSetCaps (cards i) = false then
        drmOpenLoop is fallback (ops ++ [.opened (.card i), .closed (.card i)])
      else if drmHasConnected (cards i) = true then (some i, ops ++ [.opened (.card i)])
      else
        match fallback with
        | none => drmOpenLoop is (some i) (ops ++ [.opened (.card i)])
        | some f => drmOpenLoop is (some f) (ops ++ [.opened (.card i), .closed (.card i)])

def drmOpen (explicitPath : Option (List UInt8)) : Option DevicePath × List DeviceOp :=
  match explicitPath with
  | some path =>
      if (nodes path).opens = false then (none, [])
      else if drmSetCaps (nodes path) = false then (none, [.opened (.given path),
        .closed (.given path)])
      else (some (.given path), [.opened (.given path)])
  | none =>
      let r := drmOpenLoop cards (List.range cardCount) none []
      (r.1.map .card, r.2)

/-- The loop of `server_run`: the card that is taken, the fallback, and what was done. -/
def probeLoop : List Nat → Option Nat → List DeviceOp → Option Nat × Option Nat × List DeviceOp
  | [], fb, ops => (none, fb, ops)
  | i :: is, fb, ops =>
      if (cards i).present = false then probeLoop is fb ops
      else if (cards i).seatOpens = false then probeLoop is fb ops
      else if drmSetCaps (cards i) = false then
        probeLoop is fb (ops ++ [.opened (.card i), .closed (.card i)])
      else if drmHasConnected (cards i) = true then (some i, fb, ops ++ [.opened (.card i)])
      else
        match fb with
        | none => probeLoop is (some i) (ops ++ [.opened (.card i)])
        | some f => probeLoop is (some f) (ops ++ [.opened (.card i), .closed (.card i)])

/-- The start of `server_run`, which is given up without a device.  A long path is cut off. -/
def probeDevice (explicitPath : Option (List UInt8)) : Option DevicePath × List DeviceOp :=
  match explicitPath with
  | some explicitPath =>
      let path := explicitPath.take (pathMax - 1)
      if (nodes path).seatOpens = false then (none, [.seatClosed])
      else if drmSetCaps (nodes path) = false then (none, [.opened (.given path), .seatClosed])
      else (some (.given path), [.opened (.given path)])
  | none =>
      match probeLoop cards (List.range cardCount) none [] with
      | (none, none, ops) => (none, ops ++ [.seatClosed])
      | (none, some f, ops) => (some (.card f), ops)
      | (some i, none, ops) => (some (.card i), ops)
      | (some i, some f, ops) => (some (.card i), ops ++ [.closed (.card f)])

end

/-! ## What is open -/

def DeviceOp.apply (l : List DevicePath) : DeviceOp → Option (List DevicePath)
  | .opened path => some (l ++ [path])
  | .closed path => if path ∈ l then some (l.erase path) else none
  | .seatClosed => some []

/-- The devices that are left open, if none was closed that was not open. -/
def leftOpen (ops : List DeviceOp) : Option (List DevicePath) := ops.foldlM DeviceOp.apply []

theorem leftOpen_append {ops : List DeviceOp} {l : List DevicePath} (h : leftOpen ops = some l)
    (ops' : List DeviceOp) : leftOpen (ops ++ ops') = ops'.foldlM DeviceOp.apply l := by
  unfold leftOpen at h ⊢
  rw [List.foldlM_append, h]
  rfl

theorem leftOpen_opened {ops : List DeviceOp} {l : List DevicePath} (h : leftOpen ops = some l)
    (path : DevicePath) : leftOpen (ops ++ [.opened path]) = some (l ++ [path]) :=
  leftOpen_append h _

theorem leftOpen_tried {ops : List DeviceOp} {l : List DevicePath} (h : leftOpen ops = some l)
    {path : DevicePath} (hpath : path ∉ l) :
    leftOpen (ops ++ [.opened path, .closed path]) = some l := by
  have herase : (l ++ [path]).erase path = l := by
    rw [List.erase_append_right _ hpath, List.erase_cons_head, List.append_nil]
  rw [leftOpen_append h]
  simp [DeviceOp.apply, herase]

/-! ## The policy -/

def CardNode.usable (c : CardNode) : Bool := c.opens && drmSetCaps c

def CardNode.best (c : CardNode) : Bool := c.usable && drmHasConnected c

section

variable (cards : Nat → CardNode) (nodes : List UInt8 → CardNode)

/-- The first card with a connected connector, or else the first that can be used. -/
def chosenCard (is : List Nat) : Option Nat :=
  (is.find? fun i => (cards i).best).or (is.find? fun i => (cards i).usable)

/-- The first card that can be used, unless it is the one with a connected connector. -/
def fallbackCard (is : List Nat) : Option Nat :=
  (is.find? fun i => (cards i).usable).filter fun f =>
    (is.find? fun i => (cards i).best) ≠ some f

def passedOver (is : List Nat) : Option Nat :=
  if (is.find? fun i => (cards i).best).isSome then fallbackCard cards is else none

def chosenPath : Option (List UInt8) → Option DevicePath
  | some path => if (nodes path).usable then some (.given path) else none
  | none => (chosenCard cards (List.range cardCount)).map .card

def leftBehind : Option (List UInt8) → List DevicePath
  | some _ => []
  | none => ((passedOver cards (List.range cardCount)).map .card).toList

def paths (fb found : Option Nat) : List DevicePath := (fb.toList ++ found.toList).map .card

variable {cards}

theorem probeLoop_spec {is : List Nat} (hnodup : is.Nodup) (hshared : ∀ i ∈ is, (cards i).Shared)
    {fb : Option Nat} (hfb : ∀ f ∈ fb, f ∉ is) {ops : List DeviceOp}
    (hopen : leftOpen ops = some (paths fb none)) :
    let p := probeLoop cards is fb ops
    p.1 = is.find? (fun i => (cards i).best) ∧ p.2.1 = fb.or (fallbackCard cards is) ∧
      leftOpen p.2.2 = some (paths p.2.1 p.1) := by
  induction is generalizing fb ops with
  | nil => exact ⟨rfl, by simp [probeLoop, fallbackCard], hopen⟩
  | cons i is ih =>
      obtain ⟨hi, hnodup⟩ := List.nodup_cons.mp hnodup
      obtain ⟨hsame, hshared⟩ := List.forall_mem_cons.mp hshared
      unfold CardNode.Shared at hsame
      have hfb' : ∀ f ∈ fb, f ∉ is := fun f hf hmem => hfb f hf (List.mem_cons_of_mem _ hmem)
      have hpath : DevicePath.card i ∉ paths fb none := by
        intro hmem
        obtain ⟨f, hf, heq⟩ := List.mem_map.mp hmem
        cases heq
        have hf : i ∈ fb := by simpa using hf
        exact hfb i hf List.mem_cons_self
      have hskip (hunusable : (cards i).usable = false) :
          (i :: is).find? (fun i => (cards i).best) = is.find? (fun i => (cards i).best) ∧
            fallbackCard cards (i :: is) = fallbackCard cards is := by
        have hbest : (cards i).best = false := by rw [CardNode.best, hunusable]; rfl
        simp [fallbackCard, hunusable, hbest]
      simp only [probeLoop, hsame]
      by_cases hopens : (cards i).opens = false
      · have hunusable : (cards i).usable = false := by rw [CardNode.usable, hopens]; rfl
        rw [(hskip hunusable).1, (hskip hunusable).2]
        split
        · exact ih hnodup hshared hfb' hopen
        · exact ih hnodup hshared hfb' hopen
      · have hopens : (cards i).opens = true := by simpa using hopens
        have hpresent := (cards i).found (hsame.trans hopens)
        rw [if_neg (by simp [hpresent]), if_neg (by simp [hopens])]
        by_cases hcaps : drmSetCaps (cards i) = false
        · have hunusable : (cards i).usable = false := by rw [CardNode.usable, hopens, hcaps]; rfl
          rw [(hskip hunusable).1, (hskip hunusable).2, if_pos hcaps]
          exact ih hnodup hshared hfb' (leftOpen_tried hopen hpath)
        · have husable : (cards i).usable = true := by
            rw [CardNode.usable, hopens]
            simpa using hcaps
          rw [if_neg hcaps]
          by_cases hconnected : drmHasConnected (cards i) = true
          · have hbest : (cards i).best = true := by rw [CardNode.best, husable, hconnected]; rfl
            rw [if_pos hconnected]
            refine ⟨by simp [hbest], by simp [fallbackCard, husable, hbest, Option.filter], ?_⟩
            have hpaths : paths fb (some i) = paths fb none ++ [.card i] := by simp [paths]
            rw [hpaths]
            exact leftOpen_opened hopen (.card i)
          · have hbest : (cards i).best = false := by
              rw [CardNode.best, husable]
              simpa using hconnected
            have hnext : (i :: is).find? (fun i => (cards i).best) =
                is.find? (fun i => (cards i).best) := by simp [hbest]
            have hother : is.find? (fun i => (cards i).best) ≠ some i := fun hfind => by
              have hagain := List.find?_some hfind
              simp [hbest] at hagain
            have hfallback : fallbackCard cards (i :: is) = some i := by
              simp [fallbackCard, husable, hbest, hother]
            rw [if_neg hconnected, hnext, hfallback]
            cases fb with
            | none =>
                have hfirst : ∀ f ∈ some i, f ∉ is := fun f hf => by
                  cases hf
                  exact hi
                exact ih hnodup hshared hfirst (leftOpen_opened hopen (.card i))
            | some f => exact ih hnodup hshared hfb' (leftOpen_tried hopen hpath)

theorem drmOpenLoop_eq {is : List Nat} (hshared : ∀ i ∈ is, (cards i).Shared)
    (fb : Option Nat) (ops : List DeviceOp) :
    drmOpenLoop cards is fb ops =
      ((probeLoop cards is fb ops).1.or (probeLoop cards is fb ops).2.1,
        (probeLoop cards is fb ops).2.2) := by
  induction is generalizing fb ops with
  | nil => rfl
  | cons i is ih =>
      obtain ⟨hsame, hshared⟩ := List.forall_mem_cons.mp hshared
      unfold CardNode.Shared at hsame
      simp only [drmOpenLoop, probeLoop, hsame]
      by_cases hopens : (cards i).opens = false
      · rw [if_pos hopens, if_pos hopens]
        split <;> exact ih hshared fb ops
      · have hpresent : ¬ (cards i).present = false := by
          simp [(cards i).found (hsame.trans (by simpa using hopens))]
        rw [if_neg hopens, if_neg hpresent, if_neg hopens]
        split
        · exact ih hshared fb _
        · split
          · rfl
          · cases fb with
            | none => exact ih hshared (some i) _
            | some f => exact ih hshared (some f) _

end

/-- Card 0 has no atomic modesetting, nothing is connected to card 1, and card 2 has a monitor. -/
def threeCards (i : Nat) : CardNode where
  present := i < 3
  opens := i < 3
  seatOpens := i < 3
  atomic := i ≠ 0
  universalPlanes := true
  connectors := some [none, some (i == 2)]
  found h := h

example : probeDevice threeCards (fun _ => threeCards 2) none = (some (.card 2),
    [.opened (.card 0), .closed (.card 0), .opened (.card 1), .opened (.card 2),
      .closed (.card 1)]) := by decide

example : leftOpen (drmOpen threeCards (fun _ => threeCards 2) none).2 =
    some [.card 1, .card 2] := by decide

end CrystallineLattice.Platform
