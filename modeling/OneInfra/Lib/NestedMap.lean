import OneInfra.Lib.GoMap

/-!
# Maps of maps

A program keeps a map whose values are maps again and creates the inner maps when it needs
them.  `AllValues` and `Full` say that no inner map is empty: `Full` of a map is that it has an
entry, and that its values are as required.  Both go down one level, so that a map of several
levels is described by nesting them.

`copyInto` is the loop that copies such a map into another: the inner map of a key is created
if it is missing, and filled by the loop of the level below.  A copy into an empty map is the
map itself if this holds one level below.
-/

namespace OneInfra.Lib.GoMap

variable {K V : Type} [DecidableEq K]

/-- All values of the map are as required. -/
def AllValues (P : V → Prop) (m : GoMap K V) : Prop :=
  ∀ k v, m.lookup k = some v → P v

/-- The map has an entry, and all its values are as required. -/
def Full (P : V → Prop) (m : GoMap K V) : Prop :=
  m ≠ ∅ ∧ AllValues P m

section AllValues

variable {P : V → Prop} {m : GoMap K V} {k : K} {v : V}

theorem allValues_empty : AllValues P (∅ : GoMap K V) := by
  intro k v hlk
  rw [Finmap.lookup_empty] at hlk
  cases hlk

theorem AllValues.insert (h : AllValues P m) (hv : P v) : AllValues P (m.insert k v) := by
  intro k' v' hlk
  rw [lookup_insert_eq] at hlk
  split_ifs at hlk
  · cases hlk
    exact hv
  · exact h k' v' hlk

theorem AllValues.erase (h : AllValues P m) : AllValues P (m.erase k) := by
  intro k' v' hlk
  rw [lookup_erase_eq] at hlk
  split_ifs at hlk
  exact h k' v' hlk

theorem insert_ne_empty : m.insert k v ≠ ∅ := by
  intro hempty
  have hlk := lookup_insert_eq m k k v
  rw [if_pos rfl, hempty, Finmap.lookup_empty] at hlk
  cases hlk

theorem Full.insert (h : AllValues P m) (hv : P v) : Full P (m.insert k v) :=
  ⟨insert_ne_empty, h.insert hv⟩

/-- The values of an inner map that may be missing. -/
theorem AllValues.getD {inner : GoMap K (GoMap K V)} (h : AllValues (Full P) inner) (k : K) :
    AllValues P ((inner.lookup k).getD ∅) := by
  cases hlk : inner.lookup k with
  | none => exact allValues_empty
  | some m => exact (h k m hlk).2

end AllValues

/-! ## Copies -/

/-- The loop that copies a map into `res`, over a traversal of the map.  `copyValue` copies a
value into the value that is there already, or into `zero`. -/
def copyInto {W : Type} (zero : W) (copyValue : K → W → V → W) (traversal : List (K × V))
    (res : GoMap K W) : GoMap K W :=
  traversal.foldl (fun res entry =>
    res.insert entry.1 (copyValue entry.1 ((res.lookup entry.1).getD zero) entry.2)) res

theorem lookup_copyInto_of_notMem {W : Type} {zero : W} {copyValue : K → W → V → W}
    {traversal : List (K × V)} {k : K} (hk : k ∉ traversal.map Prod.fst) (res : GoMap K W) :
    (copyInto zero copyValue traversal res).lookup k = res.lookup k := by
  induction traversal generalizing res with
  | nil => rfl
  | cons entry traversal ih =>
    rw [List.map_cons, List.mem_cons, not_or] at hk
    refine (ih hk.2 _).trans ?_
    rw [lookup_insert_eq, if_neg hk.1]

theorem lookup_copyInto_of_mem {W : Type} {zero : W} {copyValue : K → W → V → W}
    {traversal : List (K × V)} (hnd : (traversal.map Prod.fst).Nodup) {k : K} {v : V}
    (hmem : (k, v) ∈ traversal) (res : GoMap K W) :
    (copyInto zero copyValue traversal res).lookup k =
      some (copyValue k ((res.lookup k).getD zero) v) := by
  induction traversal generalizing res with
  | nil => cases hmem
  | cons entry traversal ih =>
    rw [List.map_cons, List.nodup_cons] at hnd
    rcases List.mem_cons.mp hmem with heq | hmem
    · rw [← heq] at hnd ⊢
      refine (lookup_copyInto_of_notMem hnd.1 _).trans ?_
      rw [lookup_insert_eq, if_pos rfl]
    · have hne : k ≠ entry.1 := by
        intro heq
        exact hnd.1 (heq ▸ List.mem_map_of_mem hmem)
      refine (ih hnd.2 hmem _).trans ?_
      rw [lookup_insert_eq, if_neg hne]

/-- A copy into an empty map is the map, if each value is copied to itself. -/
theorem copyInto_empty {zero : V} {copyValue : K → V → V → V} {m : GoMap K V}
    {traversal : List (K × V)} (htraversal : m.IsIteration traversal)
    (hvalue : ∀ k v, copyValue k zero v = v) : copyInto zero copyValue traversal ∅ = m := by
  apply Finmap.ext_lookup
  intro k
  cases hlk : m.lookup k with
  | none =>
    have hk : k ∉ traversal.map Prod.fst := by
      intro hmem
      obtain ⟨⟨k', v⟩, hentry, rfl⟩ := List.mem_map.mp hmem
      rw [htraversal.mem_iff, hlk] at hentry
      cases hentry
    rw [lookup_copyInto_of_notMem hk, Finmap.lookup_empty]
  | some v =>
    rw [lookup_copyInto_of_mem htraversal.nodup_keys (htraversal.mem_iff.mpr hlk),
      Finmap.lookup_empty, Option.getD_none, hvalue]

end OneInfra.Lib.GoMap
