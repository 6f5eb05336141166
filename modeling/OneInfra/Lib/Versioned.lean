import OneInfra.Lib.Keyed

/-!
# Tables with optimistic concurrency

A table is a list of rows under distinct keys, and every row has a version.  A
writer reads a row, changes its copy and sends it back.  The table takes the copy
only if the row still has the version that the copy was read with.

`IsSnapshot` is what a copy knows about the table later on: the row of its key is
at a later version, or it is the copy.  Every write keeps that, since the version
of a row never comes back.
-/

namespace OneInfra.Lib

/-- Why a write is refused. -/
inductive WriteError
  | conflict
  | notFound
  | other (message : String)
deriving DecidableEq, Repr

theorem map_eq_ok {ε α β : Type} {f : α → β} {x : Except ε α} {b : β} :
    x.map f = .ok b ↔ ∃ a, x = .ok a ∧ f a = b := by
  cases x with
  | error e => exact iff_of_false (fun h => by cases h) (fun ⟨_, h, _⟩ => by cases h)
  | ok a => simp [Except.map]

variable {α κ : Type} [DecidableEq κ] (key : α → κ) (version : α → Nat)

/-- Send a row.  `merge stored sent` is what is stored instead of the row, and
`none` removes it. -/
def putRow (merge : α → α → Option α) (sent : α) (rows : List α) : Except WriteError (List α) :=
  match lookupKey key (key sent) rows with
  | none => .error .notFound
  | some stored =>
    if version stored = version sent then
      .ok (rows.filterMap fun row => if key row = key sent then merge row sent else some row)
    else .error .conflict

/-- What a copy `snapshot` says about the table. -/
def IsSnapshot (rows : List α) (snapshot : α) : Prop :=
  ∀ row ∈ rows, key row = key snapshot →
    version snapshot ≤ version row ∧ (version row = version snapshot → row = snapshot)

variable {key version} {merge : α → α → Option α} {sent : α} {rows rows' : List α}

theorem putRow_eq_ok : putRow key version merge sent rows = .ok rows' ↔
    ∃ stored, lookupKey key (key sent) rows = some stored ∧ version stored = version sent ∧
      rows' = rows.filterMap fun row =>
        if key row = key sent then merge row sent else some row := by
  unfold putRow
  cases lookupKey key (key sent) rows with
  | none => simp
  | some stored =>
    by_cases hver : version stored = version sent
    · simp [hver, eq_comm]
    · simp [hver]

/-- The rows after a write: the others, and what was merged. -/
theorem mem_of_putRow {row : α} (hput : putRow key version merge sent rows = .ok rows')
    (hrow : row ∈ rows') :
    (row ∈ rows ∧ key row ≠ key sent) ∨
      ∃ stored ∈ rows, key stored = key sent ∧ merge stored sent = some row := by
  obtain ⟨-, -, -, rfl⟩ := putRow_eq_ok.mp hput
  obtain ⟨stored, hst, hmerge⟩ := List.mem_filterMap.mp hrow
  split_ifs at hmerge with hkey
  · exact .inr ⟨stored, hst, hkey, hmerge⟩
  · cases hmerge
    exact .inl ⟨hst, hkey⟩

/-- A write that never removes is an update of one row. -/
theorem putRow_some {merge : α → α → α}
    (hput : putRow key version (fun stored sent => some (merge stored sent)) sent rows =
      .ok rows') :
    rows' = modifyKey key (key sent) (fun stored => merge stored sent) rows := by
  obtain ⟨-, -, -, rfl⟩ := putRow_eq_ok.mp hput
  rw [modifyKey, ← List.filterMap_eq_map]
  apply List.filterMap_congr
  intro row _
  rw [Function.comp_apply]
  split_ifs <;> rfl

/-- Under distinct keys, the row that is merged is the one that was looked up. -/
theorem version_eq_of_putRow (hnd : (rows.map key).Nodup)
    (hput : putRow key version merge sent rows = .ok rows') {stored : α} (hst : stored ∈ rows)
    (hkey : key stored = key sent) : version stored = version sent := by
  obtain ⟨current, hlk, hver, -⟩ := putRow_eq_ok.mp hput
  rw [(lookupKey_eq_some_iff hnd).mpr ⟨hst, hkey⟩, Option.some_inj] at hlk
  rw [hlk]
  exact hver

theorem nodup_putRow (hnd : (rows.map key).Nodup)
    (hmerge : ∀ stored row, merge stored sent = some row → key row = key stored)
    (hput : putRow key version merge sent rows = .ok rows') : (rows'.map key).Nodup := by
  obtain ⟨-, -, -, rfl⟩ := putRow_eq_ok.mp hput
  refine hnd.sublist (map_filterMap_sublist ?_)
  intro stored row h
  split_ifs at h
  · exact hmerge stored row h
  · rw [Option.some_inj.mp h]

/-- What a write that never removes does to a value of the rows. -/
theorem map_lookupKey_putRow {merge : α → α → α} {β : Type} {g : α → β}
    (hkeeps : ∀ stored, key (merge stored sent) = key stored)
    (hg : ∀ stored, g (merge stored sent) = g sent)
    (hput : putRow key version (fun stored sent => some (merge stored sent)) sent rows = .ok rows')
    (k : κ) : (lookupKey key k rows').map g =
      if k = key sent then some (g sent) else (lookupKey key k rows).map g := by
  obtain ⟨stored, hlk, -, -⟩ := putRow_eq_ok.mp hput
  rw [putRow_some hput, lookupKey_modifyKey fun row hrow => (hkeeps row).trans hrow]
  split_ifs
  · rw [hlk, Option.map_some, Option.map_some, hg]
  · rfl

/-- A write does not touch the rows under other keys. -/
theorem lookupKey_putRow_of_ne
    (hkeeps : ∀ stored row, merge stored sent = some row → key row = key stored)
    (hput : putRow key version merge sent rows = .ok rows') {k : κ} (hk : k ≠ key sent) :
    lookupKey key k rows' = lookupKey key k rows := by
  obtain ⟨-, -, -, rfl⟩ := putRow_eq_ok.mp hput
  clear hput
  unfold lookupKey
  induction rows with
  | nil => rfl
  | cons row rows ih =>
    by_cases hsent : key row = key sent
    · -- A row under the key of the sent one is neither found before nor after.
      have hne : key row ≠ k := fun heq => hk (heq.symm.trans hsent)
      rw [List.find?_cons_of_neg (by simpa using hne), ← ih]
      cases hmerge : merge row sent with
      | none => rw [List.filterMap_cons_none (by rw [if_pos hsent, hmerge])]
      | some merged =>
        have hmerged : key merged ≠ k := by rwa [hkeeps row merged hmerge]
        rw [List.filterMap_cons_some (by rw [if_pos hsent, hmerge]),
          List.find?_cons_of_neg (by simpa using hmerged)]
    · rw [List.filterMap_cons_some (by rw [if_neg hsent]), List.find?_cons, List.find?_cons, ih]

namespace IsSnapshot

omit [DecidableEq κ] in
theorem of_mem {row : α} (hnd : (rows.map key).Nodup) (hrow : row ∈ rows) :
    IsSnapshot key version rows row := by
  intro other hother hkey
  have heq := List.inj_on_of_nodup_map hnd hother hrow hkey
  exact ⟨Nat.le_of_eq (by rw [heq]), fun _ => heq⟩

/-- A write that raises the version of the row keeps the snapshots. -/
theorem putRow {snapshot : α} (h : IsSnapshot key version rows snapshot)
    (hkeeps : ∀ stored row, merge stored sent = some row → key row = key stored)
    (hraises : ∀ stored row, merge stored sent = some row → version stored < version row)
    (hput : putRow key version merge sent rows = .ok rows') :
    IsSnapshot key version rows' snapshot := by
  intro row hrow hkey
  rcases mem_of_putRow hput hrow with ⟨hold, -⟩ | ⟨stored, hst, -, hmerge⟩
  · exact h row hold hkey
  · have hle := (h stored hst ((hkeeps _ _ hmerge).symm.trans hkey)).1
    have hlt := hraises _ _ hmerge
    exact ⟨by omega, fun heq => by omega⟩

end IsSnapshot

end OneInfra.Lib
