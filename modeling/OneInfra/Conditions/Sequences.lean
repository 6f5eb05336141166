import OneInfra.Conditions

/-!
# Sequences of calls on a condition list

`DropCondition`, `Export` and `NewConditionListFromv1alpha1` of
`internal/pkg/conditions/conditions.go`, and the versioned list with its own
`IsCondition` of `apis/common/v1alpha1/condition_types.go`.

A list whose types are pairwise distinct has at most one condition of a type, so it
is known from two parts: the condition of the type, if any, and the other conditions
in their order.  `filter_type_setCondition` and `filter_ne_setCondition` say what
`SetCondition` does to each.
-/

namespace OneInfra.Conditions

/-! ## The versioned list -/

namespace V1alpha1

/-- `ConditionStatus`. -/
def ConditionStatus := String
deriving DecidableEq, Repr

/-- `Condition`. -/
structure Condition where
  type : String
  status : ConditionStatus
  lastTransitionTime : Nat
  lastSetTime : Nat
  reason : String
  message : String
deriving DecidableEq, Repr

/-- `ConditionList`. -/
abbrev ConditionList := List Condition

/-- `IsCondition`, of the versioned list. -/
def isCondition : ConditionList → String → ConditionStatus → Bool
  | [], _, _ => false
  | condition :: conditions, conditionType, conditionStatus =>
    if condition.type = conditionType then decide (condition.status = conditionStatus)
    else isCondition conditions conditionType conditionStatus

end V1alpha1

/-- The conversion of a status to the versioned type. -/
def ConditionStatus.export (conditionStatus : ConditionStatus) : V1alpha1.ConditionStatus :=
  conditionStatus

/-- The conversion of a status from the versioned type. -/
def newConditionStatusFromv1alpha1 (conditionStatus : V1alpha1.ConditionStatus) :
    ConditionStatus :=
  conditionStatus

/-- `NewConditionListFromv1alpha1`. -/
def newConditionListFromv1alpha1 (conditionList : V1alpha1.ConditionList) : ConditionList :=
  conditionList.map fun condition =>
    { type := condition.type
      status := newConditionStatusFromv1alpha1 condition.status
      lastTransitionTime := condition.lastTransitionTime
      lastSetTime := condition.lastSetTime
      reason := condition.reason
      message := condition.message }

/-- `Export`. -/
def ConditionList.export (conditionList : ConditionList) : V1alpha1.ConditionList :=
  conditionList.map fun condition =>
    { type := condition.type
      status := condition.status.export
      lastTransitionTime := condition.lastTransitionTime
      lastSetTime := condition.lastSetTime
      reason := condition.reason
      message := condition.message }

/-- `DropCondition`. -/
def dropCondition (conditionList : ConditionList) (conditionType : String) : ConditionList :=
  conditionList.filter fun condition => condition.type ≠ conditionType

theorem ConditionStatus.export_inj {status status' : ConditionStatus} :
    status.export = status'.export ↔ status = status' :=
  Iff.rfl

theorem newConditionListFromv1alpha1_export (list : ConditionList) :
    newConditionListFromv1alpha1 (ConditionList.export list) = list := by
  unfold newConditionListFromv1alpha1 ConditionList.export
  rw [List.map_map]
  exact List.map_id'' (fun _ => rfl) list

/-- The two implementations of `IsCondition` agree. -/
theorem isCondition_export (list : ConditionList) (type : String) (status : ConditionStatus) :
    V1alpha1.isCondition (ConditionList.export list) type status.export =
      isCondition list type status := by
  induction list with
  | nil => rfl
  | cons condition list ih =>
    show (if condition.type = type then decide (condition.status.export = status.export)
      else V1alpha1.isCondition (ConditionList.export list) type status.export) = _
    by_cases htype : condition.type = type
    · rw [if_pos htype]
      simp [isCondition, htype, ConditionStatus.export_inj]
    · rw [if_neg htype, ih]
      simp [isCondition, htype]

/-! ## The two parts of a list -/

/-- The time of the last transition of a type, if the list has a condition of it. -/
def lastTransitionTime? (list : ConditionList) (type : String) : Option Nat :=
  (list.find? fun condition => condition.type = type).map Condition.lastTransitionTime

section SetCondition

variable {list : ConditionList} {now : Nat} {type : String} {status : ConditionStatus}

/-- The conditions of other types stay, in their order. -/
theorem filter_ne_setCondition :
    (setCondition list now type status).filter (fun condition => condition.type ≠ type) =
      list.filter fun condition => condition.type ≠ type := by
  have hkept : (list.filterMap fun condition : Condition =>
      if condition.type = type then
        if condition.status = status then
          some { condition with lastSetTime := now, reason := "", message := "" }
        else none
      else some condition).filter (fun condition => condition.type ≠ type) =
        list.filter fun condition => condition.type ≠ type := by
    induction list with
    | nil => rfl
    | cons condition list ih =>
      by_cases htype : condition.type = type
      · by_cases hstat : condition.status = status <;> simpa [htype, hstat] using ih
      · simpa [htype] using ih
  unfold setCondition
  dsimp only
  split
  · rw [List.filter_append, hkept]
    simp
  · exact hkept

/-- With distinct types the conditions of a type are the first one, if any. -/
theorem filter_type_eq (hnd : (list.map Condition.type).Nodup) (type : String) :
    (list.filter fun condition => condition.type = type) =
      (list.find? fun condition => condition.type = type).toList := by
  induction list with
  | nil => rfl
  | cons condition list ih =>
    rw [List.map_cons, List.nodup_cons] at hnd
    by_cases htype : condition.type = type
    · have habsent : (list.filter fun condition => condition.type = type) = [] := by
        rw [List.filter_eq_nil_iff]
        intro other hother
        have hne : other.type ≠ condition.type := by
          intro heq
          exact hnd.1 (heq ▸ List.mem_map_of_mem hother)
        simpa [← htype] using hne
      simpa [htype] using habsent
    · simpa [htype] using ih hnd.2

/-- The condition that `SetCondition` leaves: the old one with a new set time if it had
the status, and else a new one. -/
def conditionSet (list : ConditionList) (now : Nat) (type : String) (status : ConditionStatus) :
    Condition :=
  match list.find? fun condition => condition.type = type with
  | some old =>
    if old.status = status then { old with lastSetTime := now, reason := "", message := "" }
    else ⟨type, status, now, now, "", ""⟩
  | none => ⟨type, status, now, now, "", ""⟩

theorem status_conditionSet : (conditionSet list now type status).status = status := by
  unfold conditionSet
  split
  · split
    · next hstat => exact hstat
    · rfl
  · rfl

theorem type_conditionSet : (conditionSet list now type status).type = type := by
  unfold conditionSet
  split
  · next old hfind =>
    split
    · simpa using List.find?_some hfind
    · rfl
  · rfl

/-- Exactly one condition of the type is left. -/
theorem filter_type_setCondition (hnd : (list.map Condition.type).Nodup) :
    ((setCondition list now type status).filter fun condition => condition.type = type) =
      [conditionSet list now type status] := by
  have hkept : ((list.filterMap fun condition : Condition =>
      if condition.type = type then
        if condition.status = status then
          some { condition with lastSetTime := now, reason := "", message := "" }
        else none
      else some condition).filter fun condition => condition.type = type) =
        (list.filter fun condition => condition.type = type).filterMap fun condition =>
          if condition.status = status then
            some { condition with lastSetTime := now, reason := "", message := "" }
          else none := by
    clear hnd
    induction list with
    | nil => rfl
    | cons condition list ih =>
      by_cases htype : condition.type = type
      · by_cases hstat : condition.status = status <;> simpa [htype, hstat] using ih
      · simpa [htype] using ih
  have hany : (list.any fun condition => condition.type = type ∧ condition.status = status) =
      (list.filter fun condition => condition.type = type).any fun condition =>
        condition.status = status := by
    rw [List.any_filter]
    simp
  unfold setCondition conditionSet
  dsimp only
  rw [apply_ite (List.filter _), List.filter_append, hkept, hany, filter_type_eq hnd]
  cases list.find? fun condition => condition.type = type with
  | none => simp
  | some old => by_cases hstat : old.status = status <;> simp [hstat]

/-- With distinct types `IsCondition` looks for a condition with the status. -/
theorem isCondition_iff (hnd : (list.map Condition.type).Nodup) :
    isCondition list type status = true ↔
      ∃ old ∈ list, old.type = type ∧ old.status = status := by
  have hmem : ∀ old, (list.find? fun condition => condition.type = type) = some old ↔
      old ∈ list ∧ old.type = type := by
    intro old
    rw [← Option.mem_toList, ← filter_type_eq hnd, List.mem_filter, decide_eq_true_iff]
  unfold isCondition
  cases hfind : list.find? fun condition => condition.type = type with
  | none =>
    have hnone : ∀ old, ¬ (old ∈ list ∧ old.type = type) := by
      intro old hold
      have hsome := (hmem old).mpr hold
      rw [hfind] at hsome
      cases hsome
    simp only [Bool.false_eq_true, false_iff]
    intro ⟨old, hold, htype, _⟩
    exact hnone old ⟨hold, htype⟩
  | some old =>
    have hold := (hmem old).mp hfind
    simp only [decide_eq_true_iff]
    constructor
    · intro hstat
      exact ⟨old, hold.1, hold.2, hstat⟩
    · intro ⟨other, hother, htype, hstat⟩
      have hsame := (hmem other).mpr ⟨hother, htype⟩
      rw [hfind, Option.some_inj] at hsame
      rw [hsame, hstat]

theorem find?_setCondition (hnd : (list.map Condition.type).Nodup) :
    ((setCondition list now type status).find? fun condition => condition.type = type) =
      some (conditionSet list now type status) := by
  rw [← List.head?_filter, filter_type_setCondition hnd]
  rfl

theorem isCondition_setCondition_iff (hnd : (list.map Condition.type).Nodup)
    (status' : ConditionStatus) :
    isCondition (setCondition list now type status) type status' = true ↔ status' = status := by
  unfold isCondition
  rw [find?_setCondition hnd]
  dsimp only
  rw [status_conditionSet, decide_eq_true_iff, eq_comm]

/-- `SetCondition` keeps the types distinct. -/
theorem nodup_setCondition (hnd : (list.map Condition.type).Nodup) :
    ((setCondition list now type status).map Condition.type).Nodup := by
  have hparts := (List.filter_append_perm (fun condition : Condition => condition.type = type)
    (setCondition list now type status)).map Condition.type
  have hothers : (setCondition list now type status).filter
      (fun condition => !decide (condition.type = type)) =
        list.filter fun condition => condition.type ≠ type := by
    rw [← @filter_ne_setCondition list now type status]
    simp
  rw [← hparts.nodup_iff, filter_type_setCondition hnd, hothers, List.singleton_append,
    List.map_cons, List.nodup_cons]
  constructor
  · intro hmem
    obtain ⟨other, hother, heq⟩ := List.mem_map.mp hmem
    have hne : other.type ≠ type := by simpa using (List.mem_filter.mp hother).2
    rw [type_conditionSet] at heq
    exact hne heq
  · exact hnd.sublist (List.filter_sublist.map _)

/-- The time of the last transition after `SetCondition`. -/
theorem lastTransitionTime?_setCondition (hnd : (list.map Condition.type).Nodup) :
    lastTransitionTime? (setCondition list now type status) type =
      if isCondition list type status then lastTransitionTime? list type else some now := by
  unfold lastTransitionTime? isCondition
  rw [find?_setCondition hnd]
  unfold conditionSet
  cases list.find? fun condition => condition.type = type with
  | none => rfl
  | some old => by_cases hstat : old.status = status <;> simp [hstat]

end SetCondition

theorem nodup_dropCondition {list : ConditionList} (hnd : (list.map Condition.type).Nodup)
    (type : String) : ((dropCondition list type).map Condition.type).Nodup :=
  hnd.sublist (List.filter_sublist.map _)

/-! ## Sequences of calls -/

/-- A call on a condition list. -/
inductive ListCall
  | setCondition (now : Nat) (conditionType : String) (conditionStatus : ConditionStatus)
  | dropCondition (conditionType : String)
  /-- An export, and an import of what was exported. -/
  | exportImport
deriving DecidableEq, Repr

/-- The list after a call. -/
def ListCall.apply (list : ConditionList) : ListCall → ConditionList
  | .setCondition now conditionType conditionStatus =>
    Conditions.setCondition list now conditionType conditionStatus
  | .dropCondition conditionType => Conditions.dropCondition list conditionType
  | .exportImport => newConditionListFromv1alpha1 (ConditionList.export list)

/-- The list after a sequence of calls. -/
def applyCalls (list : ConditionList) (calls : List ListCall) : ConditionList :=
  calls.foldl ListCall.apply list

theorem ListCall.nodup_apply {list : ConditionList} (hnd : (list.map Condition.type).Nodup)
    (call : ListCall) : ((call.apply list).map Condition.type).Nodup := by
  cases call with
  | setCondition now type status => exact nodup_setCondition hnd
  | dropCondition type => exact nodup_dropCondition hnd type
  | exportImport =>
    show ((newConditionListFromv1alpha1 (ConditionList.export list)).map Condition.type).Nodup
    rw [newConditionListFromv1alpha1_export]
    exact hnd

/-- The types stay distinct along a sequence of calls. -/
theorem nodup_applyCalls {list : ConditionList} (hnd : (list.map Condition.type).Nodup)
    (calls : List ListCall) : ((applyCalls list calls).map Condition.type).Nodup := by
  induction calls generalizing list with
  | nil => exact hnd
  | cons call calls ih => exact ih (call.nodup_apply hnd)

/-- What `SetCondition` does to a list: one condition of the type is left, with the status,
both implementations of `IsCondition` say so, the other conditions stay as they are, and
the time of the last transition is kept or set anew. -/
structure Sets (list list' : ConditionList) (now : Nat) (type : String)
    (status : ConditionStatus) : Prop where
  one : ∃ condition, (list'.filter fun condition => condition.type = type) = [condition] ∧
    condition.status = status
  internal : ∀ status', isCondition list' type status' = true ↔ status' = status
  exported : ∀ status' : ConditionStatus,
    V1alpha1.isCondition (ConditionList.export list') type status'.export = true ↔
      status' = status
  others : (list'.filter fun condition => condition.type ≠ type) =
    list.filter fun condition => condition.type ≠ type
  transition : lastTransitionTime? list' type =
    if ∃ old ∈ list, old.type = type ∧ old.status = status then lastTransitionTime? list type
    else some now
  /-- If the clock does not read the recorded time again, the time changes on a
  transition only. -/
  changes : lastTransitionTime? list type ≠ some now →
    (lastTransitionTime? list' type ≠ lastTransitionTime? list type ↔
      ∀ old ∈ list, old.type = type → old.status ≠ status)

theorem sets_setCondition {list : ConditionList} (hnd : (list.map Condition.type).Nodup)
    (now : Nat) (type : String) (status : ConditionStatus) :
    Sets list (setCondition list now type status) now type status := by
  have htime := @lastTransitionTime?_setCondition list now type status hnd
  refine ⟨⟨_, filter_type_setCondition hnd, status_conditionSet⟩,
    isCondition_setCondition_iff hnd, ?_, filter_ne_setCondition, ?_, ?_⟩
  · intro status'
    rw [isCondition_export, isCondition_setCondition_iff hnd]
  · rw [htime]
    simp only [isCondition_iff hnd]
  · intro hclock
    rw [htime]
    by_cases hold : isCondition list type status = true
    · -- no transition
      rw [if_pos hold]
      obtain ⟨old, hmem, htype, hstat⟩ := (isCondition_iff hnd).mp hold
      constructor
      · intro h
        exact absurd rfl h
      · intro h
        exact absurd hstat (h old hmem htype)
    · rw [if_neg hold]
      constructor
      · intro _ old hmem htype hstat
        exact hold ((isCondition_iff hnd).mpr ⟨old, hmem, htype, hstat⟩)
      · intro _ h
        exact hclock h.symm

/-- After any sequence of calls the types of a list are distinct, and `SetCondition` sets
the condition of the type and nothing else. -/
theorem applyCalls_nodup_and_sets (list : ConditionList)
    (hnd : (list.map Condition.type).Nodup) (calls : List ListCall) :
    ((applyCalls list calls).map Condition.type).Nodup ∧
      ∀ now type status,
        Sets (applyCalls list calls)
          (applyCalls list (calls ++ [.setCondition now type status])) now type status := by
  have hcalls := nodup_applyCalls hnd calls
  refine ⟨hcalls, ?_⟩
  intro now type status
  unfold applyCalls
  rw [List.foldl_append]
  exact sets_setCondition hcalls now type status

/-- A condition is set, dropped and set again. -/
theorem applyCalls_nodup_and_sets_twoTypes :
    let list : ConditionList := [⟨"ReconcileStarted", .true, 1, 2, "", ""⟩,
      ⟨"ReconcileSucceeded", "Paused", 1, 1, "", ""⟩]
    let calls := [.setCondition 3 "ReconcileSucceeded" .true, .dropCondition "ReconcileStarted",
      ListCall.exportImport]
    ((applyCalls list calls).map Condition.type).Nodup ∧
      ∀ now type status,
        Sets (applyCalls list calls)
          (applyCalls list (calls ++ [.setCondition now type status])) now type status :=
  applyCalls_nodup_and_sets _ (by decide) _

end OneInfra.Conditions
