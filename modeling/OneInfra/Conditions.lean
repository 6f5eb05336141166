import Mathlib.Data.List.Nodup

/-!
# Condition lists

`internal/pkg/conditions/conditions.go`.  A condition list is part of the
status of clusters and of components.  The time that `metav1.Now` reads is
an argument `now`, in seconds.
-/

namespace OneInfra.Conditions

/-- `ConditionStatus`.  What is stored may be any text. -/
def ConditionStatus := String
deriving DecidableEq, Repr

/-- `ConditionTrue`. -/
def ConditionStatus.true : ConditionStatus := "True"

/-- `ConditionFalse`. -/
def ConditionStatus.false : ConditionStatus := "False"

/-- `Condition`. -/
structure Condition where
  type : String
  status : ConditionStatus
  lastTransitionTime : Nat
  lastSetTime : Nat
  reason : String
  message : String
deriving DecidableEq, Repr

/-- `ConditionList`. -/
abbrev ConditionList := List Condition

/-- `IsCondition`: the first condition of the type decides. -/
def isCondition (conditionList : ConditionList) (conditionType : String)
    (conditionStatus : ConditionStatus) : Bool :=
  match conditionList.find? fun condition => condition.type = conditionType with
  | some condition => condition.status = conditionStatus
  | none => false

/-- `SetCondition`.  A condition of the type and the status is kept in place
with a new set time, one of the type and another status is dropped, and the
list gets a new condition at its end unless one was kept. -/
def setCondition (conditionList : ConditionList) (now : Nat) (conditionType : String)
    (conditionStatus : ConditionStatus) : ConditionList :=
  let newConditionList := conditionList.filterMap fun condition =>
    if condition.type = conditionType then
      if condition.status = conditionStatus then
        some { condition with lastSetTime := now, reason := "", message := "" }
      else none
    else some condition
  let isTransitioning := !conditionList.any fun condition =>
    condition.type = conditionType ∧ condition.status = conditionStatus
  if isTransitioning then
    newConditionList ++ [⟨conditionType, conditionStatus, now, now, "", ""⟩]
  else newConditionList

variable {list : ConditionList} {now : Nat} {type : String} {status : ConditionStatus}

/-- The conditions after `setCondition` are those of other types, those of the
type and the status, and a new one if there was none of the latter. -/
theorem mem_setCondition {condition : Condition} :
    condition ∈ setCondition list now type status ↔
      (condition ∈ list ∧ condition.type ≠ type) ∨
      (∃ old ∈ list, old.type = type ∧ old.status = status ∧
        condition = { old with lastSetTime := now, reason := "", message := "" }) ∨
      ((∀ old ∈ list, old.type = type → old.status ≠ status) ∧
        condition = ⟨type, status, now, now, "", ""⟩) := by
  have hkept : condition ∈ list.filterMap (fun condition : Condition =>
      if condition.type = type then
        if condition.status = status then
          some { condition with lastSetTime := now, reason := "", message := "" }
        else none
      else some condition) ↔ (condition ∈ list ∧ condition.type ≠ type) ∨
      (∃ old ∈ list, old.type = type ∧ old.status = status ∧
        condition = { old with lastSetTime := now, reason := "", message := "" }) := by
    rw [List.mem_filterMap]
    constructor
    · rintro ⟨old, hold, h⟩
      split_ifs at h with htype hstat
      · exact .inr ⟨old, hold, htype, hstat, (Option.some_inj.mp h).symm⟩
      · cases h
        exact .inl ⟨hold, htype⟩
    · rintro (⟨hmem, htype⟩ | ⟨old, hold, htype, hstat, rfl⟩)
      · exact ⟨condition, hmem, if_neg htype⟩
      · exact ⟨old, hold, by rw [if_pos htype, if_pos hstat]⟩
  simp only [setCondition]
  split_ifs with htransition
  · have hnone : ∀ old ∈ list, old.type = type → old.status ≠ status := by simpa using htransition
    rw [List.mem_append, hkept, List.mem_singleton, or_assoc, and_iff_right hnone]
  · have hsome : ¬ ∀ old ∈ list, old.type = type → old.status ≠ status := by
      simpa using htransition
    rw [hkept]
    refine or_congr_right (or_iff_left ?_).symm
    exact fun h => hsome h.1

/-- After `setCondition` the list has the condition. -/
theorem isCondition_setCondition :
    isCondition (setCondition list now type status) type status := by
  unfold isCondition
  cases hfind : (setCondition list now type status).find? fun c => c.type = type with
  | none =>
    have habsent : ∀ c ∈ setCondition list now type status, c.type ≠ type := by
      simpa using hfind
    by_cases hold : ∃ old ∈ list, old.type = type ∧ old.status = status
    · obtain ⟨old, hmem, htype, hstat⟩ := hold
      exact (habsent _ (mem_setCondition.mpr (.inr (.inl ⟨old, hmem, htype, hstat, rfl⟩)))
        htype).elim
    · have hnone : ∀ old ∈ list, old.type = type → old.status ≠ status :=
        fun old hmem htype hstat => hold ⟨old, hmem, htype, hstat⟩
      exact (habsent _ (mem_setCondition.mpr (.inr (.inr ⟨hnone, rfl⟩))) rfl).elim
  | some c =>
    have htype : c.type = type := by simpa using List.find?_some hfind
    rcases mem_setCondition.mp (List.mem_of_find?_eq_some hfind) with
      ⟨-, hother⟩ | ⟨old, -, -, hstat, rfl⟩ | ⟨-, rfl⟩
    · exact absurd htype hother
    · simpa using hstat
    · simp

/-! ## Conditions up to their times -/

/-- A condition without its times. -/
def Condition.timeless (condition : Condition) : Condition :=
  { condition with lastTransitionTime := 0, lastSetTime := 0 }

/-- `SetCondition` does not look at times. -/
theorem map_timeless_setCondition (list : ConditionList) (now : Nat) (type : String)
    (status : ConditionStatus) :
    (setCondition list now type status).map Condition.timeless =
      setCondition (list.map Condition.timeless) 0 type status := by
  have hkept : (list.filterMap fun condition : Condition =>
      if condition.type = type then
        if condition.status = status then
          some { condition with lastSetTime := now, reason := "", message := "" }
        else none
      else some condition).map Condition.timeless =
        (list.map Condition.timeless).filterMap fun condition : Condition =>
          if condition.type = type then
            if condition.status = status then
              some { condition with lastSetTime := 0, reason := "", message := "" }
            else none
          else some condition := by
    rw [List.map_filterMap, List.filterMap_map]
    refine List.filterMap_congr fun condition _ => ?_
    by_cases htype : condition.type = type
    · by_cases hstat : condition.status = status
      · simp [Condition.timeless, htype, hstat]
      · simp [Condition.timeless, htype, hstat]
    · simp [Condition.timeless, htype]
  unfold setCondition
  dsimp only
  rw [List.any_map, apply_ite (List.map Condition.timeless), List.map_append, hkept]
  rfl

/-- A condition has one status. -/
theorem isCondition_unique {list : ConditionList} {type : String} {status status' : ConditionStatus}
    (h : isCondition list type status = true) (h' : isCondition list type status' = true) :
    status = status' := by
  unfold isCondition at h h'
  cases hfind : list.find? fun condition => condition.type = type with
  | none =>
    rw [hfind] at h
    cases h
  | some condition =>
    rw [hfind] at h h'
    exact (of_decide_eq_true h).symm.trans (of_decide_eq_true h')

end OneInfra.Conditions
