import Mathlib.Data.Int.Order.Basic
import Mathlib.Data.List.Range
import Mathlib.Tactic.Linarith
import Mathlib.Tactic.Ring

/-!
# Copies between blocks of different pitch

A store assigns a value to each offset.  A `memcpy` copies a run of offsets from
one store to another, and a picture is copied row by row: the rows are tight in
the destination and `pitch` apart in the source.
-/

namespace CrystallineLattice.Foundation

/-- `len` offsets from `src` on are copied to `dst` and on. -/
structure Memcpy where
  dst : Int
  src : Int
  len : Int
  deriving DecidableEq, Repr

namespace Memcpy

variable {α : Type*}

def perform (source : Int → α) (store : Int → α) (m : Memcpy) : Int → α := fun o =>
  if m.dst ≤ o ∧ o < m.dst + m.len then source (m.src + (o - m.dst)) else store o

def ReadsBelow (m : Memcpy) (n : Int) : Prop :=
  ∀ i, 0 ≤ i → i < m.len → 0 ≤ m.src + i ∧ m.src + i < n

def WritesBelow (m : Memcpy) (n : Int) : Prop :=
  ∀ i, 0 ≤ i → i < m.len → 0 ≤ m.dst + i ∧ m.dst + i < n

def row (len pitch : Int) (y : Nat) : Memcpy := ⟨y * len, y * pitch, len⟩

def rows (len pitch : Int) (n : Nat) : List Memcpy := (List.range n).map (row len pitch)

def performAll (source : Int → α) (copies : List Memcpy) (store : Int → α) : Int → α :=
  copies.foldl (perform source) store

theorem perform_row (source store : Int → α) (len pitch : Int) (y : Nat) (o : Int) :
    perform source store (row len pitch y) o =
      if y * len ≤ o ∧ o < y * len + len then source (y * pitch + (o - y * len))
      else store o :=
  rfl

theorem performAll_rows {len : Int} (hlen : 0 < len) (source : Int → α) (pitch : Int)
    (n : Nat) (store : Int → α) {o : Int} (ho : 0 ≤ o) :
    performAll source (rows len pitch n) store o =
      if o < n * len then source (o / len * pitch + o % len) else store o := by
  induction n with
  | zero => simp [performAll, rows, ho]
  | succ n ih =>
      unfold performAll rows at ih ⊢
      rw [List.range_succ, List.map_append, List.foldl_append, List.map_singleton,
        List.foldl_cons, List.foldl_nil, perform_row, ih]
      have hnext : ((n + 1 : Nat) : Int) * len = n * len + len := by
        push_cast
        ring
      rw [hnext]
      by_cases hrow : (n : Int) * len ≤ o ∧ o < n * len + len
      · obtain ⟨hquot, hrem⟩ := (Int.ediv_emod_unique (r := o - n * len) (q := n) hlen).mpr
          ⟨by ring, by omega, by omega⟩
        rw [if_pos hrow, if_pos hrow.2, hquot, hrem]
      · rw [if_neg hrow]
        by_cases hbefore : o < n * len
        · rw [if_pos hbefore, if_pos (by omega)]
        · rw [if_neg hbefore, if_neg (by omega)]

theorem performAll_pixel {w : Int} (source : Int → α) (pitch : Int) (n : Nat) (store : Int → α)
    {x y i : Int} (hx0 : 0 ≤ x) (hx : x < w) (hy0 : 0 ≤ y) (hy : y < n) (hi0 : 0 ≤ i)
    (hi : i < 4) :
    performAll source (rows (w * 4) pitch n) store (4 * (y * w + x) + i) =
      source (y * pitch + 4 * x + i) := by
  have hbase : 0 ≤ y * w := Int.mul_nonneg hy0 (by omega)
  have hnext : (y + 1) * w ≤ n * w := Int.mul_le_mul_of_nonneg_right (by omega) (by omega)
  obtain ⟨hquot, hrem⟩ := (Int.ediv_emod_unique (a := 4 * (y * w + x) + i) (b := w * 4)
    (r := 4 * x + i) (q := y) (by omega)).mpr ⟨by ring, by omega, by omega⟩
  rw [performAll_rows (by omega) source pitch n store (by omega), if_pos (by linarith), hquot,
    hrem]
  congr 1
  ring

theorem mem_rows {len pitch : Int} {n : Nat} {m : Memcpy} :
    m ∈ rows len pitch n ↔ ∃ y, y < n ∧ row len pitch y = m := by
  simp [rows]

theorem rows_writesBelow {len : Int} (hlen : 0 < len) (pitch : Int) (n : Nat) :
    ∀ m ∈ rows len pitch n, m.WritesBelow (n * len) := by
  intro m hm i hi0 hi
  obtain ⟨y, hy, rfl⟩ := mem_rows.mp hm
  have hbase : (0 : Int) ≤ y * len := by positivity
  have hlast : ((y : Int) + 1) * len ≤ n * len := by
    apply mul_le_mul_of_nonneg_right _ hlen.le
    exact_mod_cast hy
  simp only [row] at hi ⊢
  constructor
  · omega
  · linarith

/-- The last row decides: it ends inside the source when a row fits into the pitch. -/
theorem rows_readsBelow_iff {len pitch : Int} (hlen : 0 < len) (hpitch : 0 ≤ pitch) {n : Nat}
    (hn : 0 < n) :
    (∀ m ∈ rows len pitch n, m.ReadsBelow (pitch * n)) ↔ len ≤ pitch := by
  constructor
  · intro hreads
    have hlast := hreads _ (mem_rows.mpr ⟨n - 1, by omega, rfl⟩) (len - 1) (by omega)
      (by simp [row])
    have hcast : ((n - 1 : Nat) : Int) = n - 1 := by omega
    simp only [row, hcast] at hlast
    linarith [hlast.2]
  · intro hfits m hm i hi0 hi
    obtain ⟨y, hy, rfl⟩ := mem_rows.mp hm
    have hbase : (0 : Int) ≤ y * pitch := by positivity
    have hlast : ((y : Int) + 1) * pitch ≤ n * pitch := by
      apply mul_le_mul_of_nonneg_right _ hpitch
      exact_mod_cast hy
    simp only [row] at hi ⊢
    constructor
    · omega
    · linarith

end Memcpy

end CrystallineLattice.Foundation
