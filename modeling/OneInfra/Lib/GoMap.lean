import Mathlib.Data.Finmap

/-!
# Maps with an unordered content

A map of the source language has no order: two maps with the same entries
are the same value, whatever the order of the assignments that built them.
`Finmap` has that equality.  This file fixes the notation of the development
and the few lemmas that `Finmap` lacks for values of one type.
-/

namespace OneInfra.Lib

/-- A finite map from `K` to `V`. -/
abbrev GoMap (K V : Type) := Finmap fun _ : K => V

namespace GoMap

variable {K V : Type}

section Lookup

variable [DecidableEq K]

theorem lookup_insert_eq (m : GoMap K V) (k k' : K) (v : V) :
    Finmap.lookup k' (m.insert k v) = if k' = k then some v else m.lookup k' := by
  split_ifs with h
  · rw [h, Finmap.lookup_insert]
  · rw [Finmap.lookup_insert_of_ne _ h]

theorem lookup_erase_eq (m : GoMap K V) (k k' : K) :
    Finmap.lookup k' (m.erase k) = if k' = k then none else m.lookup k' := by
  split_ifs with h
  · rw [h, Finmap.lookup_erase]
  · rw [Finmap.lookup_erase_ne h]

/-- A key that is not in the list keeps its value. -/
theorem lookup_foldl_insert_of_notMem {l : List (K × V)} {k : K} (hk : k ∉ l.map Prod.fst)
    (m : GoMap K V) : (l.foldl (fun m e => m.insert e.1 e.2) m).lookup k = m.lookup k := by
  induction l generalizing m with
  | nil => rfl
  | cons entry l ih =>
    rw [List.map_cons, List.mem_cons, not_or] at hk
    rw [List.foldl_cons, ih hk.2, Finmap.lookup_insert_of_ne _ hk.1]

/-- The keys are those of the list and those from before. -/
theorem isSome_lookup_foldl_insert (l : List (K × V)) (k : K) (m : GoMap K V) :
    ((l.foldl (fun m e => m.insert e.1 e.2) m).lookup k).isSome ↔
      k ∈ l.map Prod.fst ∨ (m.lookup k).isSome := by
  induction l generalizing m with
  | nil => simp
  | cons entry l ih =>
    rw [List.foldl_cons, ih, List.map_cons, List.mem_cons, or_assoc, or_left_comm, lookup_insert_eq]
    split_ifs with hk <;> simp [hk]

/-- With distinct keys, every entry of the list is in the map. -/
theorem lookup_foldl_insert_of_mem {l : List (K × V)} (hnd : (l.map Prod.fst).Nodup)
    {entry : K × V} (hentry : entry ∈ l) (m : GoMap K V) :
    (l.foldl (fun m e => m.insert e.1 e.2) m).lookup entry.1 = some entry.2 := by
  induction l generalizing m with
  | nil => cases hentry
  | cons first l ih =>
    obtain ⟨hfirst, hl⟩ := List.nodup_cons.mp hnd
    rw [List.foldl_cons]
    rcases List.mem_cons.mp hentry with rfl | hentry
    · rw [lookup_foldl_insert_of_notMem hfirst, Finmap.lookup_insert]
    · exact ih hl hentry _

/-- A map whose entries are maps, read through the entry `k'` after the entry `k`
was set to `inner`, or dropped because `inner` is empty. -/
theorem bind_lookup_ite_empty {L W α : Type} [DecidableEq L] [DecidableEq W]
    (m : GoMap K (GoMap L W)) (k k' : K) (inner : GoMap L W) {f : GoMap L W → Option α}
    (hf : f ∅ = none) :
    (Finmap.lookup k' (if inner = ∅ then m.erase k else m.insert k inner)).bind f =
      if k' = k then f inner else (m.lookup k').bind f := by
  by_cases hempty : inner = ∅
  · rw [if_pos hempty, lookup_erase_eq, hempty]
    split_ifs
    · rw [Option.bind_none, hf]
    · rfl
  · rw [if_neg hempty, lookup_insert_eq]
    split_ifs <;> rfl

end Lookup

/-! ## Iteration

The order in which a map is traversed is arbitrary, and may differ each time.
`IsIteration` says that a list is one of the traversals. -/

/-- The list has the entries of the map, in some order. -/
def IsIteration (m : GoMap K V) (l : List (K × V)) : Prop :=
  (l : Multiset (K × V)) = m.entries.map fun entry => (entry.1, entry.2)

instance [DecidableEq K] [DecidableEq V] (m : GoMap K V) (l : List (K × V)) :
    Decidable (m.IsIteration l) :=
  inferInstanceAs (Decidable (_ = _))

namespace IsIteration

variable {m : GoMap K V} {l l' : List (K × V)}

theorem mem_iff [DecidableEq K] (h : m.IsIteration l) {k : K} {v : V} :
    (k, v) ∈ l ↔ m.lookup k = some v := by
  rw [← Option.mem_def, Finmap.mem_lookup_iff, ← Multiset.mem_coe, h, Multiset.mem_map]
  constructor
  · rintro ⟨entry, hentry, heq⟩
    cases heq
    exact hentry
  · intro hentry
    exact ⟨_, hentry, rfl⟩

/-- Two traversals of a map are permutations of each other. -/
theorem perm (h : m.IsIteration l) (h' : m.IsIteration l') : l.Perm l' :=
  Multiset.coe_eq_coe.mp (h.trans h'.symm)

theorem of_perm (h : m.IsIteration l) (hperm : l.Perm l') : m.IsIteration l' :=
  (Multiset.coe_eq_coe.mpr hperm.symm).trans h

theorem map_fst (h : m.IsIteration l) : ((l.map Prod.fst : List K) : Multiset K) = m.keys.val := by
  rw [← Multiset.map_coe, h, Multiset.map_map]
  rfl

theorem nodup_keys (h : m.IsIteration l) : (l.map Prod.fst).Nodup := by
  rw [← Multiset.coe_nodup, h.map_fst]
  exact m.keys.nodup

theorem length_eq (h : m.IsIteration l) : l.length = m.keys.card := by
  rw [← List.length_map (f := Prod.fst), ← Multiset.coe_card, h.map_fst]
  rfl

/-- A map with at most one entry has one traversal, also through a function of the
entries. -/
theorem map_eq_of_perm {α : Type} {f : K × V → α} {l' : List α} (h : m.IsIteration l)
    (hone : m.keys.card ≤ 1) (hperm : (l.map f).Perm l') : l.map f = l' := by
  rw [← h.length_eq] at hone
  match l, hone with
  | [], _ => exact (List.nil_perm.mp hperm).symm
  | [entry], _ => exact List.singleton_perm.mp hperm

end IsIteration

theorem exists_isIteration (m : GoMap K V) : ∃ l, m.IsIteration l := by
  obtain ⟨l, hl⟩ := Quot.exists_rep (m.entries.map fun entry => (entry.1, entry.2))
  exact ⟨l, hl⟩

section OfList

variable [DecidableEq K]

/-- The map of a list of entries, a later entry in the place of an earlier one. -/
def ofList (l : List (K × V)) : GoMap K V :=
  l.foldl (fun m entry => m.insert entry.1 entry.2) ∅

theorem keys_ofList (l : List (K × V)) : (ofList l).keys = (l.map Prod.fst).toFinset := by
  have hfold : ∀ m : GoMap K V, (l.foldl (fun m entry => m.insert entry.1 entry.2) m).keys =
      m.keys ∪ (l.map Prod.fst).toFinset := by
    induction l with
    | nil => simp
    | cons entry l ih =>
      intro m
      rw [List.foldl_cons, ih, List.map_cons, List.toFinset_cons]
      ext key
      simp only [Finset.mem_union, Finset.mem_insert, Finmap.mem_keys, Finmap.mem_insert]
      tauto
  rw [ofList, hfold]
  simp

/-- An entry of the map is one of the list. -/
theorem mem_of_lookup_ofList {l : List (K × V)} {k : K} {v : V}
    (h : (ofList l).lookup k = some v) : (k, v) ∈ l := by
  have hfold : ∀ m : GoMap K V,
      (l.foldl (fun m entry => m.insert entry.1 entry.2) m).lookup k = some v →
        m.lookup k = some v ∨ (k, v) ∈ l := by
    clear h
    induction l with
    | nil => exact fun m h => .inl h
    | cons entry l ih =>
      intro m h
      rcases ih _ h with hm | hmem
      · rw [lookup_insert_eq] at hm
        split_ifs at hm with hk
        · cases hm
          exact .inr (hk ▸ List.mem_cons_self)
        · exact .inl hm
      · exact .inr (List.mem_cons_of_mem _ hmem)
  rcases hfold ∅ h with hempty | hmem
  · rw [Finmap.lookup_empty] at hempty
    cases hempty
  · exact hmem

/-- Every key of the list has an entry in a traversal of its map. -/
theorem IsIteration.exists_of_mem {l entries : List (K × V)} (h : (ofList entries).IsIteration l)
    {k : K} (hk : k ∈ entries.map Prod.fst) : ∃ v, (k, v) ∈ l := by
  have hkey : k ∈ (ofList entries).keys := by
    rw [keys_ofList, List.mem_toFinset]
    exact hk
  obtain ⟨v, hv⟩ := Finmap.mem_iff.mp (Finmap.mem_keys.mp hkey)
  exact ⟨v, h.mem_iff.mpr hv⟩

/-- A list with distinct keys is a traversal of its map. -/
theorem isIteration_ofList {l : List (K × V)} (hnd : (l.map Prod.fst).Nodup) :
    (ofList l).IsIteration l := by
  have hfold : ∀ m : GoMap K V, (∀ key ∈ l.map Prod.fst, key ∉ m) →
      (l.foldl (fun m entry => m.insert entry.1 entry.2) m).entries.map
          (fun entry => (entry.1, entry.2)) =
        (l : Multiset (K × V)) + m.entries.map fun entry => (entry.1, entry.2) := by
    induction l with
    | nil => simp
    | cons entry l ih =>
      intro m hnew
      obtain ⟨hentry, hnd⟩ := List.nodup_cons.mp hnd
      rw [List.map_cons, List.forall_mem_cons] at hnew
      rw [List.foldl_cons, ih hnd, Finmap.entries_insert_of_notMem hnew.1, Multiset.map_cons,
        Multiset.add_cons, ← Multiset.cons_coe, Multiset.cons_add]
      intro key hkey
      rw [Finmap.mem_insert, not_or]
      exact ⟨fun heq => hentry (heq ▸ hkey), hnew.2 key hkey⟩
  have hentries := hfold ∅ fun key _ => Finmap.notMem_empty
  rw [show (∅ : GoMap K V).entries = 0 from rfl, Multiset.map_zero, add_zero] at hentries
  exact hentries.symm

end OfList

/-- A map with two entries is not always traversed in the same order of its keys. -/
theorem exists_isIteration_ne {K' : Type} {m : GoMap K V} (htwo : 2 ≤ m.keys.card) {f : K → K'}
    (hf : Function.Injective f) (keys : List K') :
    ∃ l, m.IsIteration l ∧ l.map (fun entry => f entry.1) ≠ keys := by
  obtain ⟨l, hl⟩ := m.exists_isIteration
  by_cases hkeys : l.map (fun entry => f entry.1) = keys
  swap
  · exact ⟨l, hl, hkeys⟩
  refine ⟨l.reverse, hl.of_perm (List.reverse_perm l).symm, ?_⟩
  have hnd : (l.map (fun entry => f entry.1)).Nodup := by
    have hmap := hl.nodup_keys.map hf
    rwa [List.map_map] at hmap
  have hlen : 2 ≤ (l.map (fun entry => f entry.1)).length := by
    rw [List.length_map, hl.length_eq]
    exact htwo
  rw [List.map_reverse, hkeys] at *
  -- the first key and the last one are different
  match keys, hnd, hlen with
  | first :: second :: rest, hnd, _ =>
    intro heq
    have hhead := congrArg List.head? heq
    rw [List.head?_reverse, List.getLast?_cons_cons, List.head?_cons] at hhead
    have hmem := List.mem_of_getLast? hhead
    exact (List.nodup_cons.mp hnd).1 hmem

end GoMap

end OneInfra.Lib
