import Mathlib.Data.List.Nodup
import Mathlib.Tactic.SplitIfs

/-!
# Lists of records under distinct keys

A table is a list of records, each of which carries its own key.  The lemmas
here read a record back by its key and update one in place.  The key is a
function `key : α → κ`, so one list can be read under several keys.
-/

namespace OneInfra.Lib

variable {α κ : Type}

/-- A record under a new key keeps the keys distinct. -/
theorem nodup_map_concat {key : α → κ} {l : List α} {x : α}
    (hnd : (l.map key).Nodup) (hnew : key x ∉ l.map key) :
    ((l ++ [x]).map key).Nodup := by
  rw [List.map_append, List.nodup_append]
  refine ⟨hnd, List.nodup_singleton _, ?_⟩
  intro a ha b hb hab
  rw [List.map_cons, List.map_nil, List.mem_singleton] at hb
  rw [hab, hb] at ha
  exact hnew ha

/-- With distinct keys no other record is under the key of `x`. -/
theorem ne_key_of_nodup {key : α → κ} {before after : List α} {x : α}
    (hnd : ((before ++ x :: after).map key).Nodup) :
    (∀ y ∈ before, key y ≠ key x) ∧ ∀ y ∈ after, key y ≠ key x := by
  rw [List.map_append, List.map_cons, List.nodup_middle, List.nodup_cons, List.mem_append,
    not_or] at hnd
  exact ⟨fun y hy h => hnd.1.1 (h ▸ List.mem_map_of_mem hy),
    fun y hy h => hnd.1.2 (h ▸ List.mem_map_of_mem hy)⟩

/-- Dropping and changing records, none of which changes its key. -/
theorem map_filterMap_sublist {key : α → κ} {l : List α} {f : α → Option α}
    (hf : ∀ x y, f x = some y → key y = key x) : ((l.filterMap f).map key).Sublist (l.map key) := by
  induction l with
  | nil => exact List.Sublist.refl _
  | cons x l ih =>
    cases hx : f x with
    | none =>
      rw [List.filterMap_cons_none hx, List.map_cons]
      exact ih.cons _
    | some y =>
      rw [List.filterMap_cons_some hx, List.map_cons, List.map_cons, hf x y hx]
      exact ih.cons_cons _

variable [DecidableEq κ]

/-- The first record of `l` under `k`. -/
def lookupKey (key : α → κ) (k : κ) (l : List α) : Option α :=
  l.find? fun x => key x = k

/-- Update the records of `l` under `k`. -/
def modifyKey (key : α → κ) (k : κ) (f : α → α) (l : List α) : List α :=
  l.map fun x => if key x = k then f x else x

section Modify

variable {key : α → κ} {k : κ} {f : α → α} {l : List α}

/-- An update that keeps `g` of every record keeps the list of its values. -/
theorem map_modifyKey {β : Type} {g : α → β} (hf : ∀ x, g (f x) = g x) :
    (modifyKey key k f l).map g = l.map g := by
  rw [modifyKey, List.map_map]
  apply List.map_congr_left
  intro x _
  rw [Function.comp_apply]
  split_ifs
  · exact hf x
  · rfl

/-- The records after an update: the others, and the updated ones. -/
theorem mem_modifyKey {y : α} :
    y ∈ modifyKey key k f l ↔ (y ∈ l ∧ key y ≠ k) ∨ ∃ x ∈ l, key x = k ∧ y = f x := by
  rw [modifyKey, List.mem_map]
  constructor
  · rintro ⟨x, hx, rfl⟩
    split_ifs with hk
    · exact .inr ⟨x, hx, hk, rfl⟩
    · exact .inl ⟨hx, hk⟩
  · rintro (⟨hy, hk⟩ | ⟨x, hx, hk, rfl⟩)
    · exact ⟨y, hy, if_neg hk⟩
    · exact ⟨x, hx, if_pos hk⟩

theorem forall_mem_modifyKey {P : α → Prop} (h : ∀ x ∈ l, P x)
    (hf : ∀ x ∈ l, P x → P (f x)) : ∀ x ∈ modifyKey key k f l, P x := by
  intro x hx
  obtain ⟨y, hy, rfl⟩ := List.mem_map.mp hx
  split_ifs
  · exact hf y hy (h y hy)
  · exact h y hy

/-- An update is not seen where no record under `k` is. -/
theorem filter_modifyKey {p : α → Bool} (hp : ∀ x, p x = true → key x ≠ k)
    (hf : ∀ x, key x = k → key (f x) = k) :
    (modifyKey key k f l).filter p = l.filter p := by
  have hdropped : ∀ x, key x = k → p x = false := fun x hk =>
    Bool.eq_false_iff.mpr fun h => hp x h hk
  induction l with
  | nil => rfl
  | cons x l ih =>
    rw [modifyKey, List.map_cons, ← modifyKey, List.filter_cons, List.filter_cons, ih]
    by_cases hk : key x = k
    · rw [if_pos hk, hdropped x hk, hdropped (f x) (hf x hk), if_neg Bool.false_ne_true,
        if_neg Bool.false_ne_true]
    · rw [if_neg hk]

/-- Dropping the records under one key and then those under a list of keys. -/
theorem filter_key_notMem_cons {ks : List κ} :
    (l.filter fun x => key x ≠ k).filter (fun x => key x ∉ ks) =
      l.filter fun x => key x ∉ k :: ks := by
  rw [List.filter_filter]
  apply List.filter_congr
  intro x _
  by_cases hk : key x = k <;> simp [hk]

end Modify

section Only

/-- The records of `l` under `k` are copies of `x`. -/
def OnlyAt (key : α → κ) (k : κ) (l : List α) (x : α) : Prop :=
  ∀ y, y ∈ l ∧ key y = k ↔ y = x

variable {key : α → κ} {k k' : κ} {f : α → α} {l : List α} {x : α}

omit [DecidableEq κ] in
theorem OnlyAt.mem (h : OnlyAt key k l x) : x ∈ l ∧ key x = k := (h x).mpr rfl

omit [DecidableEq κ] in
theorem OnlyAt.concat (h : OnlyAt key k l x) {z : α} (hz : key z ≠ k) :
    OnlyAt key k (l ++ [z]) x := by
  intro y
  rw [← h y, List.mem_append, List.mem_singleton]
  constructor
  · rintro ⟨hy | rfl, hkey⟩
    · exact ⟨hy, hkey⟩
    · exact absurd hkey hz
  · exact fun ⟨hy, hkey⟩ => ⟨.inl hy, hkey⟩

omit [DecidableEq κ] in
/-- The first record under a key is the only one. -/
theorem onlyAt_concat (hnew : key x ∉ l.map key) : OnlyAt key (key x) (l ++ [x]) x := by
  intro y
  rw [List.mem_append, List.mem_singleton]
  constructor
  · rintro ⟨hy | hy, hkey⟩
    · exact absurd (hkey ▸ List.mem_map_of_mem hy) hnew
    · exact hy
  · rintro rfl
    exact ⟨.inr rfl, rfl⟩

/-- An update under another key. -/
theorem OnlyAt.modifyKey_ne (h : OnlyAt key k l x) (hne : k' ≠ k)
    (hf : ∀ x, key (f x) = key x) : OnlyAt key k (modifyKey key k' f l) x := by
  intro y
  rw [← h y, mem_modifyKey]
  constructor
  · rintro ⟨⟨hy, -⟩ | ⟨z, -, hz, rfl⟩, hkey⟩
    · exact ⟨hy, hkey⟩
    · exact absurd ((hz.symm.trans (hf z).symm).trans hkey) hne
  · rintro ⟨hy, rfl⟩
    exact ⟨.inl ⟨hy, hne.symm⟩, rfl⟩

/-- An update under the key. -/
theorem OnlyAt.modifyKey_self (h : OnlyAt key k l x) (hf : ∀ x, key (f x) = key x) :
    OnlyAt key k (modifyKey key k f l) (f x) := by
  intro y
  rw [mem_modifyKey]
  constructor
  · rintro ⟨⟨hy, hne⟩ | ⟨z, hz, hkey, rfl⟩, hy'⟩
    · exact absurd hy' hne
    · rw [(h z).mp ⟨hz, hkey⟩]
  · rintro rfl
    obtain ⟨hx, hkey⟩ := h.mem
    exact ⟨.inr ⟨x, hx, hkey, rfl⟩, (hf x).trans hkey⟩

end Only

section Lookup

variable {key : α → κ} {k : κ} {l : List α}

theorem lookupKey_some_mem {x : α} (h : lookupKey key k l = some x) :
    x ∈ l ∧ key x = k :=
  ⟨List.mem_of_find?_eq_some h, by simpa using List.find?_some h⟩

/-- What is found depends on the keys and on what is asked about. -/
theorem map_lookupKey_congr {β : Type} {g : α → β} {l' : List α}
    (h : l'.map (fun x => (key x, g x)) = l.map fun x => (key x, g x)) :
    (lookupKey key k l').map g = (lookupKey key k l).map g := by
  have hfind : ∀ l : List α, (lookupKey key k l).map g =
      ((l.map fun x => (key x, g x)).find? fun entry => entry.1 = k).map Prod.snd := by
    intro l
    rw [List.find?_map, Option.map_map]
    rfl
  rw [hfind, hfind, h]

theorem lookupKey_eq_none_iff : lookupKey key k l = none ↔ k ∉ l.map key := by
  simp only [lookupKey, List.find?_eq_none, decide_eq_true_eq, List.mem_map,
    not_exists, not_and]

/-- With distinct keys a record is found exactly under its own key. -/
theorem lookupKey_eq_some_iff (hnd : (l.map key).Nodup) {x : α} :
    lookupKey key k l = some x ↔ x ∈ l ∧ key x = k := by
  refine ⟨lookupKey_some_mem, ?_⟩
  rintro ⟨hx, rfl⟩
  cases hfind : lookupKey key (key x) l with
  | none => exact absurd (List.mem_map_of_mem hx) (lookupKey_eq_none_iff.mp hfind)
  | some y =>
    obtain ⟨hy, hkey⟩ := lookupKey_some_mem hfind
    rw [List.inj_on_of_nodup_map hnd hy hx hkey]

/-- A record after an update of one key. -/
theorem lookupKey_modifyKey {k' : κ} {f : α → α} (hf : ∀ x, key x = k → key (f x) = k) :
    lookupKey key k' (modifyKey key k f l) =
      if k' = k then (lookupKey key k l).map f else lookupKey key k' l := by
  induction l with
  | nil => simp [lookupKey, modifyKey]
  | cons x l ih =>
    rw [modifyKey, List.map_cons, ← modifyKey]
    by_cases hx : key x = k
    · by_cases hk : k' = k
      · simp [lookupKey, hx, hk, hf x hx]
      · have hne : ¬ k = k' := fun h => hk h.symm
        simp only [lookupKey, hx, hf x hx, hne, hk, if_true, if_false, decide_false,
          List.find?_cons_of_neg, Bool.false_eq_true, not_false_eq_true] at ih ⊢
        exact ih
    · by_cases hk' : key x = k'
      · have hne : ¬ k' = k := fun h => hx (hk'.trans h)
        simp [lookupKey, hk', hne]
      · simp only [lookupKey, hx, hk', if_false, decide_false, List.find?_cons_of_neg,
          Bool.false_eq_true, not_false_eq_true] at ih ⊢
        exact ih

/-- Replacing a record by one with the same `g` keeps the values of `g`. -/
theorem map_modifyKey_const {β : Type} {g : α → β} (hnd : (l.map key).Nodup) {x y : α}
    (hlk : lookupKey key k l = some x) (hg : g y = g x) :
    (modifyKey key k (fun _ => y) l).map g = l.map g := by
  rw [modifyKey, List.map_map]
  apply List.map_congr_left
  intro z hz
  rw [Function.comp_apply]
  split_ifs with hkey
  · have hzx := (lookupKey_eq_some_iff hnd).mpr ⟨hz, hkey⟩
    rw [hlk, Option.some_inj] at hzx
    rw [hg, hzx]
  · rfl

/-- With distinct keys at most one record answers to a key. -/
theorem filter_key_eq_toList (key : α → κ) (k : κ) (hnd : (l.map key).Nodup) :
    l.filter (fun x => key x = k) = (lookupKey key k l).toList := by
  induction l with
  | nil => rfl
  | cons x l ih =>
    rw [List.map_cons, List.nodup_cons] at hnd
    by_cases hk : key x = k
    · have hrest : l.filter (fun x => key x = k) = [] := by
        rw [List.filter_eq_nil_iff]
        intro y hy hky
        rw [decide_eq_true_eq] at hky
        exact hnd.1 (hk ▸ hky ▸ List.mem_map_of_mem hy)
      simp [lookupKey, hk, hrest]
    · have hlk : lookupKey key k (x :: l) = lookupKey key k l := by
        simp [lookupKey, hk]
      rw [hlk, ← ih hnd.2]
      simp [hk]

end Lookup

end OneInfra.Lib
