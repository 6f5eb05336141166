import Mathlib.Data.List.Perm.Basic
import Mathlib.Data.List.Nodup
import Mathlib.Data.List.Count
import Mathlib.Tactic.SplitIfs
import OneInfra.Lib.Keyed

/-!
# An allocator of numbered slots

An allocator hands out the numbers below its capacity under keys of an
arbitrary type.  It keeps two lists: `slots`, the pairs of a key and the
number it holds, and `freed`, the numbers that were held once and are free
again.  A request takes the oldest freed number.  When there is none it
takes the next number that was never handed out, which is the length of
`slots`.

That is right because of one relation between the two lists: together they
are an initial segment of the numbers, each of them once.  `Tiles` states it
for one list, and `SlotAllocator` carries it as a field, so an allocator in
which a number is held twice cannot be built.

* `Tiles.append_next` adds the next number, `Tiles.of_perm` moves numbers
  between the two lists, and `Tiles.mem_iff` reads the segment off.
* `SlotAllocator.request` and `SlotAllocator.release` are the two
  operations.  Their definitions discharge the fields.
* `SlotAllocator.request_eq_none_iff` says when a request fails.
-/

namespace OneInfra.Lib

/-! ## Lists that tile an initial segment -/

/-- The numbers of `l` are those below its length, each once. -/
def Tiles (l : List Nat) : Prop := l.Perm (List.range l.length)

/-- Only the content of the list matters, not its order. -/
theorem Tiles.of_perm {l l' : List Nat} (h : Tiles l) (hperm : l.Perm l') : Tiles l' := by
  unfold Tiles at h ⊢
  rw [← hperm.length_eq]
  exact hperm.symm.trans h

/-- The number after the last one extends the tiling by one. -/
theorem Tiles.append_next {l : List Nat} (h : Tiles l) : Tiles (l ++ [l.length]) := by
  unfold Tiles at h ⊢
  rw [List.length_append, List.length_singleton, List.range_succ]
  exact h.append (List.Perm.refl _)

theorem Tiles.nodup {l : List Nat} (h : Tiles l) : l.Nodup :=
  h.nodup_iff.mpr List.nodup_range

theorem Tiles.mem_iff {l : List Nat} (h : Tiles l) (i : Nat) : i ∈ l ↔ i < l.length := by
  rw [List.Perm.mem_iff h, List.mem_range]

/-! ## The allocator -/

/-- The numbers below `capacity` that are held, by whom, and those that were
given back. -/
structure SlotAllocator (κ : Type) where
  capacity : Nat
  slots : List (κ × Nat)
  freed : List Nat
  keys_nodup : (slots.map Prod.fst).Nodup
  tiles : Tiles (slots.map Prod.snd ++ freed)
  length_le : slots.length + freed.length ≤ capacity

namespace SlotAllocator

variable {κ : Type}

/-- The allocator that holds nothing. -/
def empty (capacity : Nat) : SlotAllocator κ where
  capacity := capacity
  slots := []
  freed := []
  keys_nodup := List.nodup_nil
  tiles := List.Perm.nil
  length_le := Nat.zero_le _

/-- The numbers that the allocator knows. -/
theorem mem_iff (a : SlotAllocator κ) (i : Nat) :
    i ∈ a.slots.map Prod.snd ++ a.freed ↔ i < a.slots.length + a.freed.length := by
  rw [a.tiles.mem_iff, List.length_append, List.length_map]

variable [DecidableEq κ]

/-- The number held under `key`. -/
def held (a : SlotAllocator κ) (key : κ) : Option Nat :=
  (lookupKey Prod.fst key a.slots).map Prod.snd

theorem held_eq_none_iff (a : SlotAllocator κ) (key : κ) :
    a.held key = none ↔ key ∉ a.slots.map Prod.fst := by
  rw [held, Option.map_eq_none_iff, lookupKey_eq_none_iff]

theorem held_eq_some_iff (a : SlotAllocator κ) (key : κ) (i : Nat) :
    a.held key = some i ↔ (key, i) ∈ a.slots := by
  rw [held, Option.map_eq_some_iff]
  constructor
  · rintro ⟨slot, hfind, rfl⟩
    obtain ⟨hmem, rfl⟩ := lookupKey_some_mem hfind
    exact hmem
  · intro h
    exact ⟨(key, i), (lookupKey_eq_some_iff a.keys_nodup).mpr ⟨h, rfl⟩, rfl⟩

/-- Give `key` the number it holds, else the oldest freed number, else the
next number.  There is none when the capacity is used up. -/
def request (a : SlotAllocator κ) (key : κ) : Option (Nat × SlotAllocator κ) :=
  match hheld : a.held key with
  | some i => some (i, a)
  | none =>
    match hfreed : a.freed with
    | i :: freed =>
      some (i, { a with
        slots := a.slots ++ [(key, i)]
        freed := freed
        keys_nodup :=
          nodup_map_concat a.keys_nodup ((a.held_eq_none_iff key).mp hheld)
        tiles := by
          have h := a.tiles
          rw [hfreed] at h
          simpa using h
        length_le := by
          have h := a.length_le
          rw [hfreed, List.length_cons] at h
          rw [List.length_append, List.length_singleton]
          omega })
    | [] =>
      if hroom : a.slots.length < a.capacity then
        some (a.slots.length, { a with
          slots := a.slots ++ [(key, a.slots.length)]
          freed := []
          keys_nodup :=
            nodup_map_concat a.keys_nodup ((a.held_eq_none_iff key).mp hheld)
          tiles := by
            have h := a.tiles
            rw [hfreed] at h
            simpa using h.append_next
          length_le := by
            rw [List.length_append, List.length_singleton]
            exact hroom })
      else none

theorem request_of_held {a : SlotAllocator κ} {key : κ} {i : Nat}
    (hheld : a.held key = some i) : a.request key = some (i, a) := by
  unfold request
  split
  · rename_i j hj
    rw [hheld, Option.some_inj] at hj
    rw [hj]
  · rename_i hnone
    rw [hheld] at hnone
    cases hnone

theorem request_of_freed {a : SlotAllocator κ} {key : κ} {i : Nat} {freed : List Nat}
    (hheld : a.held key = none) (hfreed : a.freed = i :: freed) :
    ∃ a', a.request key = some (i, a') ∧ a'.capacity = a.capacity ∧
      a'.slots = a.slots ++ [(key, i)] ∧ a'.freed = freed := by
  unfold request
  split
  · rename_i j hj
    rw [hheld] at hj
    cases hj
  · split
    · rename_i j rest hj
      rw [hfreed] at hj
      cases hj
      exact ⟨_, rfl, rfl, rfl, rfl⟩
    · rename_i hnil
      rw [hfreed] at hnil
      cases hnil

/-- Without a freed number, a request takes the next one if there is one. -/
theorem request_of_nil {a : SlotAllocator κ} {key : κ} (hheld : a.held key = none)
    (hfreed : a.freed = []) :
    (a.slots.length < a.capacity ∧ ∃ a', a.request key = some (a.slots.length, a') ∧
        a'.capacity = a.capacity ∧ a'.slots = a.slots ++ [(key, a.slots.length)] ∧
        a'.freed = []) ∨
      (¬ a.slots.length < a.capacity ∧ a.request key = none) := by
  unfold request
  split
  · rename_i j hj
    rw [hheld] at hj
    cases hj
  · split
    · rename_i j rest hj
      rw [hfreed] at hj
      cases hj
    · by_cases hroom : a.slots.length < a.capacity
      · rw [dif_pos hroom]
        exact .inl ⟨hroom, _, rfl, rfl, rfl, rfl⟩
      · exact .inr ⟨hroom, dif_neg hroom⟩

/-- A request fails exactly when the key holds nothing and every number
is held. -/
theorem request_eq_none_iff (a : SlotAllocator κ) (key : κ) :
    a.request key = none ↔
      a.held key = none ∧ ∀ i < a.capacity, i ∈ a.slots.map Prod.snd := by
  have hle := a.length_le
  have hmem := a.mem_iff
  cases hheld : a.held key with
  | some i => simp [request_of_held hheld]
  | none =>
    cases hfreed : a.freed with
    | cons i freed =>
      obtain ⟨a', hreq, -⟩ := request_of_freed hheld hfreed
      -- A freed number is below the capacity and, listed once, not held.
      have hi := (hmem i).mp (by simp [hfreed])
      have hnot : i ∉ a.slots.map Prod.snd := fun hslot =>
        (List.nodup_append.mp a.tiles.nodup).2.2 i hslot i (by simp [hfreed]) rfl
      simp only [hreq, reduceCtorEq, true_and, false_iff]
      exact fun hall => hnot (hall i (by omega))
    | nil =>
      simp only [hfreed, List.append_nil, List.length_nil, Nat.add_zero] at hmem
      rcases request_of_nil hheld hfreed with ⟨hroom, a', hreq, -⟩ | ⟨hfull, hreq⟩
      · simp only [hreq, reduceCtorEq, true_and, false_iff]
        intro hall
        exact absurd ((hmem _).mp (hall _ hroom)) (Nat.lt_irrefl _)
      · simp only [hreq, true_and, true_iff]
        intro i hi
        exact (hmem i).mpr (by omega)

/-- With distinct keys, the slot of `key` and the other slots make up the
list. -/
private theorem slots_perm (a : SlotAllocator κ) {key : κ} {i : Nat}
    (hheld : a.held key = some i) :
    a.slots.Perm ((key, i) :: a.slots.filter fun slot => slot.1 ≠ key) := by
  have hmem := (a.held_eq_some_iff key i).mp hheld
  refine (List.perm_ext_iff_of_nodup (List.Nodup.of_map _ a.keys_nodup) ?_).mpr ?_
  · rw [List.nodup_cons]
    exact ⟨by simp, (List.Nodup.of_map _ a.keys_nodup).filter _⟩
  · intro slot
    simp only [List.mem_cons, List.mem_filter, ne_eq, decide_not, Bool.not_eq_eq_eq_not,
      Bool.not_true, decide_eq_false_iff_not]
    constructor
    · intro hslot
      by_cases hkey : slot.1 = key
      · exact .inl (List.inj_on_of_nodup_map a.keys_nodup hslot hmem hkey)
      · exact .inr ⟨hslot, hkey⟩
    · rintro (rfl | ⟨hslot, _⟩)
      · exact hmem
      · exact hslot

private theorem release_perm (a : SlotAllocator κ) {key : κ} {i : Nat}
    (hheld : a.held key = some i) :
    (a.slots.map Prod.snd ++ a.freed).Perm
      ((a.slots.filter fun slot => slot.1 ≠ key).map Prod.snd ++ (a.freed ++ [i])) := by
  have h := ((a.slots_perm hheld).map Prod.snd).append_right a.freed
  refine h.trans ?_
  rw [List.map_cons, ← List.append_assoc]
  exact (List.perm_append_singleton i _).symm

/-- Take the number of `key` back, to the end of the freed numbers. -/
def release (a : SlotAllocator κ) (key : κ) : SlotAllocator κ :=
  match hheld : a.held key with
  | none => a
  | some i =>
    { a with
      slots := a.slots.filter fun slot => slot.1 ≠ key
      freed := a.freed ++ [i]
      keys_nodup := a.keys_nodup.sublist (List.filter_sublist.map Prod.fst)
      tiles := a.tiles.of_perm (a.release_perm hheld)
      length_le := by
        have hlen := (a.release_perm hheld).length_eq
        simp only [List.length_append, List.length_map] at hlen
        have hle := a.length_le
        rw [List.length_append]
        omega }

theorem release_of_not_held {a : SlotAllocator κ} {key : κ} (hheld : a.held key = none) :
    a.release key = a := by
  unfold release
  split
  · rfl
  · rename_i i hi
    rw [hheld] at hi
    cases hi

theorem release_of_held {a : SlotAllocator κ} {key : κ} {i : Nat}
    (hheld : a.held key = some i) :
    (a.release key).capacity = a.capacity ∧
      (a.release key).slots = a.slots.filter (fun slot => slot.1 ≠ key) ∧
      (a.release key).freed = a.freed ++ [i] := by
  unfold release
  split
  · rename_i hnone
    rw [hheld] at hnone
    cases hnone
  · rename_i j hj
    rw [hheld, Option.some_inj] at hj
    exact ⟨rfl, rfl, by rw [hj]⟩

end SlotAllocator

end OneInfra.Lib
