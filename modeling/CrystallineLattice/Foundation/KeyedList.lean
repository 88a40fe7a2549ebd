import Mathlib.Data.List.Nodup
import Mathlib.Data.List.Perm.Basic

/-!
# Ordered lists of keyed records

A list of records, each with a key, read and edited through the first record
that carries a given key.  The order of the list is data: records can be moved
to either end.  The file gives the five operations and three kinds of facts
about each of them: what it does to the keys, what a lookup finds afterwards,
and which part of the list it leaves alone.
-/

namespace CrystallineLattice.Foundation.KeyedList

variable {α κ : Type*} (key : α → κ)

/-- Two lists hold the same records, in the same order, under the keys in `q`. -/
def AgreeOn (q : κ → Bool) (l l' : List α) : Prop :=
  l'.filter (fun a => q (key a)) = l.filter fun a => q (key a)

variable [DecidableEq κ]

def lookup (k : κ) (l : List α) : Option α := l.find? fun a => key a = k

def update (k : κ) (f : α → α) : List α → List α
  | [] => []
  | a :: l => if key a = k then f a :: l else a :: update k f l

def remove (k : κ) (l : List α) : List α := l.eraseP fun a => key a = k

def toEnd (k : κ) (l : List α) : List α :=
  match lookup key k l with
  | none => l
  | some a => remove key k l ++ [a]

def toFront (k : κ) (l : List α) : List α :=
  match lookup key k l with
  | none => l
  | some a => a :: remove key k l

variable {key}

/-! ## Lookup -/

theorem key_of_lookup {k : κ} {l : List α} {a : α} (h : lookup key k l = some a) :
    key a = k := by
  simpa using List.find?_some h

theorem mem_of_lookup {k : κ} {l : List α} {a : α} (h : lookup key k l = some a) :
    a ∈ l :=
  List.mem_of_find?_eq_some h

theorem lookup_eq_none_iff {k : κ} {l : List α} :
    lookup key k l = none ↔ k ∉ l.map key := by
  simp [lookup]

theorem exists_lookup_iff {k : κ} {l : List α} :
    (∃ a, lookup key k l = some a) ↔ k ∈ l.map key := by
  rw [← Option.isSome_iff_exists, ← Option.ne_none_iff_isSome, ne_eq,
    lookup_eq_none_iff, not_not]

theorem lookup_append (k : κ) (l l' : List α) :
    lookup key k (l ++ l') = (lookup key k l).or (lookup key k l') := by
  simp [lookup]

theorem lookup_map {f : α → α} (hf : ∀ a, key (f a) = key a) (k : κ) (l : List α) :
    lookup key k (l.map f) = (lookup key k l).map f := by
  simp only [lookup, List.find?_map, Function.comp_def, hf]

/-- With distinct keys a lookup is membership, so the order does not matter. -/
theorem lookup_eq_some_iff {k : κ} {l : List α} {a : α} (hl : (l.map key).Nodup) :
    lookup key k l = some a ↔ a ∈ l ∧ key a = k := by
  constructor
  · intro h
    exact ⟨mem_of_lookup h, key_of_lookup h⟩
  · rintro ⟨hmem, rfl⟩
    obtain ⟨b, hb⟩ := exists_lookup_iff.mpr (List.mem_map_of_mem (f := key) hmem)
    rw [hb, List.inj_on_of_nodup_map hl (mem_of_lookup hb) hmem (key_of_lookup hb)]

theorem lookup_perm {k : κ} {l l' : List α} (hl : (l.map key).Nodup)
    (h : l'.Perm l) : lookup key k l' = lookup key k l := by
  have hl' : (l'.map key).Nodup := ((h.map key).nodup_iff).mpr hl
  ext a
  rw [lookup_eq_some_iff hl', lookup_eq_some_iff hl, h.mem_iff]

/-! ## Rewriting a record -/

theorem map_key_update {k : κ} {f : α → α} (hf : ∀ a, key a = k → key (f a) = k)
    (l : List α) : (update key k f l).map key = l.map key := by
  induction l with
  | nil => rfl
  | cons a l ih =>
      by_cases h : key a = k
      · simp [update, h, hf a h]
      · simp [update, h, ih]

theorem lookup_update {k k' : κ} {f : α → α} (hf : ∀ a, key a = k → key (f a) = k)
    (l : List α) :
    lookup key k' (update key k f l) =
      if k' = k then (lookup key k l).map f else lookup key k' l := by
  induction l with
  | nil => simp [update, lookup]
  | cons a l ih =>
      unfold lookup at ih ⊢
      by_cases h : key a = k
      · by_cases hk : k' = k
        · simp [update, h, hk, hf a h]
        · have hk' : ¬ k = k' := fun e => hk e.symm
          simp [update, h, hk, hk', hf a h]
      · by_cases ha : key a = k'
        · have hk : ¬ k' = k := fun e => h (ha.trans e)
          simp [update, ha, hk]
        · simp only [update, h, if_false, List.find?_cons, ha, decide_false]
          rw [ih]

theorem mem_update {k : κ} {f : α → α} {l : List α} {a : α} (h : a ∈ update key k f l) :
    a ∈ l ∨ ∃ b, lookup key k l = some b ∧ a = f b := by
  induction l with
  | nil => simp [update] at h
  | cons b l ih =>
      by_cases hb : key b = k
      · simp only [update, hb, if_true, List.mem_cons] at h
        rcases h with rfl | h
        · exact .inr ⟨b, by simp [lookup, hb], rfl⟩
        · exact .inl (List.mem_cons_of_mem b h)
      · simp only [update, hb, if_false, List.mem_cons] at h
        rcases h with rfl | h
        · exact .inl List.mem_cons_self
        · rcases ih h with hold | ⟨c, hc, rfl⟩
          · exact .inl (List.mem_cons_of_mem b hold)
          · exact .inr ⟨c, by simpa [lookup, hb] using hc, rfl⟩

theorem update_append {k : κ} {f : α → α} {l l' : List α} {a : α} (hl : k ∉ l.map key)
    (ha : key a = k) : update key k f (l ++ a :: l') = l ++ f a :: l' := by
  induction l with
  | nil => simp [update, ha]
  | cons b l ih =>
      obtain ⟨hb, hl⟩ := not_or.mp (List.mem_cons.not.mp hl)
      have hne : ¬ key b = k := fun h => hb h.symm
      simp [update, hne, ih hl]

theorem update_congr {k : κ} {f g : α → α} {l : List α}
    (h : ∀ a, lookup key k l = some a → f a = g a) : update key k f l = update key k g l := by
  induction l with
  | nil => rfl
  | cons a l ih =>
      unfold lookup at ih h
      by_cases ha : key a = k
      · simp only [update, if_pos ha, h a (by simp [ha])]
      · simp only [update, if_neg ha]
        rw [ih fun b hb => h b (by simpa [ha] using hb)]

theorem update_self (k : κ) (l : List α) : update key k (fun a => a) l = l := by
  induction l with
  | nil => rfl
  | cons a l ih => by_cases ha : key a = k <;> simp [update, ha, ih]

theorem find?_update {k : κ} {f : α → α} {l : List α} {p : α → Bool}
    (h : ∀ a, lookup key k l = some a → p a = false ∧ p (f a) = false) :
    (update key k f l).find? p = l.find? p := by
  induction l with
  | nil => rfl
  | cons a l ih =>
      unfold lookup at ih h
      by_cases ha : key a = k
      · obtain ⟨hold, hnew⟩ := h a (by simp [ha])
        simp [update, ha, hold, hnew]
      · simp only [update, ha, if_false, List.find?_cons]
        rw [ih fun b hb => h b (by simpa [ha] using hb)]

theorem map_update {β : Type*} {g : α → β} {k : κ} {f : α → α} (hg : ∀ a, g (f a) = g a)
    (l : List α) : (update key k f l).map g = l.map g := by
  induction l with
  | nil => rfl
  | cons a l ih =>
      by_cases h : key a = k
      · simp [update, h, hg]
      · simp [update, h, ih]

/-! ## Deleting a record -/

theorem map_key_remove (k : κ) (l : List α) :
    (remove key k l).map key = (l.map key).erase k := by
  induction l with
  | nil => rfl
  | cons a l ih =>
      unfold remove at ih ⊢
      by_cases h : key a = k
      · simp [h]
      · simp [h, ih]

theorem remove_sublist (k : κ) (l : List α) : (remove key k l).Sublist l :=
  List.eraseP_sublist

theorem remove_insert {k : κ} {l : List α} {a : α} (hl : k ∉ l.map key) (ha : key a = k)
    (l' : List α) : remove key k (l ++ a :: l') = l ++ l' := by
  have hnot : ∀ b ∈ l, ¬ decide (key b = k) = true := by simpa using hl
  unfold remove
  rw [List.eraseP_append_right _ hnot]
  simp [ha]

theorem lookup_remove_ne {k k' : κ} (h : k' ≠ k) (l : List α) :
    lookup key k' (remove key k l) = lookup key k' l := by
  induction l with
  | nil => rfl
  | cons a l ih =>
      unfold lookup remove at ih ⊢
      by_cases ha : key a = k
      · have hk : ¬ k = k' := fun e => h e.symm
        simp [ha, hk]
      · by_cases ha' : key a = k' <;>
          simp [ha, ha', h, ih]

/-! ## Edits one after the other -/

theorem update_update {k : κ} {f g : α → α} (hg : ∀ a, key a = k → key (g a) = k) (l : List α) :
    update key k f (update key k g l) = update key k (fun a => f (g a)) l := by
  induction l with
  | nil => rfl
  | cons a l ih =>
      by_cases h : key a = k
      · simp [update, h, hg a h]
      · simp [update, h, ih]

theorem remove_update_self {k : κ} {f : α → α} (hf : ∀ a, key a = k → key (f a) = k)
    (l : List α) : remove key k (update key k f l) = remove key k l := by
  induction l with
  | nil => rfl
  | cons a l ih =>
      unfold remove at ih ⊢
      by_cases h : key a = k
      · simp [update, h, hf a h]
      · simp [update, h, ih]

section Distinct

variable {k k' : κ} (hne : k ≠ k')

include hne

theorem update_comm {f g : α → α} (hf : ∀ a, key a = k → key (f a) = k)
    (hg : ∀ a, key a = k' → key (g a) = k') (l : List α) :
    update key k f (update key k' g l) = update key k' g (update key k f l) := by
  induction l with
  | nil => rfl
  | cons a l ih =>
      by_cases h : key a = k
      · have h' : ¬ key a = k' := fun e => hne (h.symm.trans e)
        have hfa : ¬ key (f a) = k' := fun e => hne ((hf a h).symm.trans e)
        simp only [update, if_pos h, if_neg h', if_neg hfa]
      · by_cases h' : key a = k'
        · have hga : ¬ key (g a) = k := fun e => hne (e.symm.trans (hg a h'))
          simp only [update, if_neg h, if_pos h', if_neg hga]
        · simp only [update, if_neg h, if_neg h', ih]

theorem remove_update {f : α → α} (hf : ∀ a, key a = k' → key (f a) = k') (l : List α) :
    remove key k (update key k' f l) = update key k' f (remove key k l) := by
  induction l with
  | nil => rfl
  | cons a l ih =>
      unfold remove at ih ⊢
      by_cases h : key a = k
      · simp [update, h, hne]
      · by_cases h' : key a = k'
        · have hfa : ¬ key (f a) = k := fun e => hne (e.symm.trans (hf a h'))
          simp [update, h', hfa, hne.symm]
        · simp [update, h, h', ih]

theorem remove_comm (l : List α) :
    remove key k (remove key k' l) = remove key k' (remove key k l) :=
  List.eraseP_comm fun a _ => by
    by_cases h : key a = k'
    · exact .inr (by simpa using fun e => hne (e.symm.trans h))
    · exact .inl (by simpa using h)

omit hne in
theorem getLast?_remove {l : List α} {a : α} (hlast : l.getLast? = some a) (ha : key a ≠ k) :
    (remove key k l).getLast? = some a := by
  obtain ⟨l', rfl⟩ := List.getLast?_eq_some_iff.mp hlast
  unfold remove
  rw [List.eraseP_append]
  split
  · simp
  · simp [ha]

end Distinct

/-! ## Moving a record to an end -/

theorem perm_remove_cons {k : κ} {l : List α} {a : α} (h : lookup key k l = some a) :
    (a :: remove key k l).Perm l := by
  induction l with
  | nil => simp [lookup] at h
  | cons b l ih =>
      unfold lookup at ih h
      unfold remove at ih ⊢
      by_cases hb : key b = k
      · simp only [List.find?_cons, hb, decide_true, Option.some.injEq] at h
        subst h
        simp [hb]
      · simp only [List.find?_cons, hb, decide_false] at h
        simp only [List.eraseP_cons, hb, decide_false, cond_false]
        exact (List.Perm.swap b a _).trans ((ih h).cons b)

theorem update_perm {k : κ} {l : List α} {a : α} (h : lookup key k l = some a) (f : α → α) :
    (update key k f l).Perm (f a :: remove key k l) := by
  induction l with
  | nil => simp [lookup] at h
  | cons b l ih =>
      unfold lookup at ih h
      unfold remove at ih ⊢
      by_cases hb : key b = k
      · simp only [List.find?_cons, hb, decide_true, Option.some.injEq] at h
        subst h
        simp [update, hb]
      · simp only [List.find?_cons, hb, decide_false] at h
        simp only [update, List.eraseP_cons, hb, decide_false, cond_false, if_false]
        exact ((ih h).cons b).trans (List.Perm.swap (f a) b _)

theorem toFront_perm (k : κ) (l : List α) : (toFront key k l).Perm l := by
  unfold toFront
  cases h : lookup key k l with
  | none => exact List.Perm.refl l
  | some a => exact perm_remove_cons h

theorem toEnd_perm (k : κ) (l : List α) : (toEnd key k l).Perm l := by
  unfold toEnd
  cases h : lookup key k l with
  | none => exact List.Perm.refl l
  | some a => exact (List.perm_append_singleton a _).trans (perm_remove_cons h)

theorem lookup_insert {k : κ} {l : List α} {a : α} (hl : k ∉ l.map key) (ha : key a = k)
    (l' : List α) : lookup key k (l ++ a :: l') = some a := by
  rw [lookup_append, lookup_eq_none_iff.mpr hl]
  simp [lookup, ha]

theorem toFront_insert {k : κ} {l : List α} {a : α} (hl : k ∉ l.map key) (ha : key a = k)
    (l' : List α) : toFront key k (l ++ a :: l') = a :: (l ++ l') := by
  unfold toFront
  rw [lookup_insert hl ha, remove_insert hl ha]

theorem toEnd_insert {k : κ} {l : List α} {a : α} (hl : k ∉ l.map key) (ha : key a = k)
    (l' : List α) : toEnd key k (l ++ a :: l') = l ++ l' ++ [a] := by
  unfold toEnd
  rw [lookup_insert hl ha, remove_insert hl ha]

theorem toFront_append {k : κ} {l : List α} {a : α} (hl : k ∉ l.map key) (ha : key a = k) :
    toFront key k (l ++ [a]) = a :: l := by
  rw [toFront_insert hl ha, List.append_nil]

omit [DecidableEq κ] in
theorem exists_insert {l : List α} {a : α} (hl : (l.map key).Nodup) (ha : a ∈ l) :
    ∃ l₁ l₂, l = l₁ ++ a :: l₂ ∧ key a ∉ l₁.map key ∧ key a ∉ l₂.map key := by
  obtain ⟨l₁, l₂, rfl⟩ := List.append_of_mem ha
  rw [List.map_append, List.map_cons] at hl
  obtain ⟨-, hright, hdisjoint⟩ := List.nodup_append'.mp hl
  refine ⟨l₁, l₂, rfl, fun hmem => ?_, (List.nodup_cons.mp hright).1⟩
  exact hdisjoint hmem List.mem_cons_self

omit [DecidableEq κ] in
theorem mem_around_iff {l₁ l₂ : List α} {a b : α} (hl₁ : key a ∉ l₁.map key)
    (hl₂ : key a ∉ l₂.map key) : b ∈ l₁ ++ l₂ ↔ b ∈ l₁ ++ a :: l₂ ∧ key b ≠ key a := by
  have hne {l : List α} (hl : key a ∉ l.map key) (hb : b ∈ l) : key b ≠ key a :=
    fun heq => hl (heq ▸ List.mem_map_of_mem hb)
  simp only [List.mem_append, List.mem_cons]
  constructor
  · rintro (hb | hb)
    · exact ⟨.inl hb, hne hl₁ hb⟩
    · exact ⟨.inr (.inr hb), hne hl₂ hb⟩
  · rintro ⟨hb | rfl | hb, hkey⟩
    · exact .inl hb
    · exact absurd rfl hkey
    · exact .inr hb

/-- Among the records with a property the moved one is moved too. -/
theorem filter_toEnd {l : List α} {a : α} (hl : (l.map key).Nodup) (ha : a ∈ l) (p : α → Bool) :
    (toEnd key (key a) l).filter p =
      if p a then toEnd key (key a) (l.filter p) else l.filter p := by
  obtain ⟨l₁, l₂, rfl, hl₁, -⟩ := exists_insert hl ha
  rw [toEnd_insert hl₁ rfl]
  by_cases hp : p a = true
  · have hfilter : key a ∉ (l₁.filter p).map key := fun hmem =>
      hl₁ ((List.filter_sublist.map key).mem hmem)
    simp only [List.filter_append, List.filter_cons, hp, if_true, List.filter_nil]
    exact (toEnd_insert hfilter rfl _).symm
  · simp [List.filter_append, hp]

/-! ## What is left alone -/

namespace AgreeOn

variable {q : κ → Bool} {l l' l'' : List α}

omit [DecidableEq κ] in
theorem refl (q : κ → Bool) (l : List α) : AgreeOn key q l l := rfl

omit [DecidableEq κ] in
theorem trans (h : AgreeOn key q l l') (h' : AgreeOn key q l' l'') :
    AgreeOn key q l l'' :=
  Eq.trans h' h

theorem lookup_eq {k : κ} (hk : q k = true) (h : AgreeOn key q l l') :
    lookup key k l' = lookup key k l := by
  have hfilter (m : List α) :
      lookup key k (m.filter fun a => q (key a)) = lookup key k m := by
    unfold lookup
    rw [List.find?_filter]
    congr 1
    funext a
    by_cases ha : key a = k <;> simp [ha, hk]
  rw [← hfilter l', ← hfilter l, h]

theorem update {k : κ} (hk : q k = false) {f : α → α}
    (hf : ∀ a, key a = k → key (f a) = k) (l : List α) :
    AgreeOn key q l (update key k f l) := by
  unfold AgreeOn
  induction l with
  | nil => rfl
  | cons a l ih =>
      by_cases h : key a = k
      · simp [KeyedList.update, h, hf a h, hk]
      · simp only [KeyedList.update, h, if_false, List.filter_cons, ih]

theorem remove {k : κ} (hk : q k = false) (l : List α) :
    AgreeOn key q l (remove key k l) := by
  unfold AgreeOn KeyedList.remove
  induction l with
  | nil => rfl
  | cons a l ih =>
      by_cases h : key a = k
      · simp [h, hk]
      · simp only [List.eraseP_cons, h, decide_false, cond_false, List.filter_cons, ih]

theorem toFront {k : κ} (hk : q k = false) (l : List α) :
    AgreeOn key q l (toFront key k l) := by
  unfold KeyedList.toFront
  cases h : lookup key k l with
  | none => exact refl q l
  | some a =>
      have ha : q (key a) = false := by rw [key_of_lookup h, hk]
      simpa [AgreeOn, List.filter_cons, ha] using remove hk l

theorem toEnd {k : κ} (hk : q k = false) (l : List α) :
    AgreeOn key q l (toEnd key k l) := by
  unfold KeyedList.toEnd
  cases h : lookup key k l with
  | none => exact refl q l
  | some a =>
      have ha : q (key a) = false := by rw [key_of_lookup h, hk]
      simpa [AgreeOn, List.filter_append, List.filter_cons, ha] using remove hk l

omit [DecidableEq κ] in
theorem append {a : α} (ha : q (key a) = false) (l : List α) :
    AgreeOn key q l (l ++ [a]) := by
  simp [AgreeOn, ha]

end AgreeOn

end CrystallineLattice.Foundation.KeyedList
