import OneInfra.Cluster.V1alpha1
import OneInfra.Component.Component

/-!
# The cluster controller

`ClusterController.Reconcile` of `controllers/cluster_controller.go` creates and
deletes the components of a cluster until their numbers are those of the spec.
The API calls are recorded in order, and an oracle says from the calls before
it which call fails.  A failed call ends the run with a request to be called
again.

The two subtractions are those of machine integers.  The loop over the excess
replicas indexes the list of the undeleted replicas, and
`reconcileComponents_panics_iff` says when the index leaves it: for a cluster
that is not being deleted, when the number of replicas is negative.  The one
exception is the smallest machine integer.  Subtracting it wraps around, and the
loop does not run.
-/

namespace OneInfra.Controllers

open OneInfra.Lib

/-- The API writes of the controller. -/
inductive ComponentCall
  | create (component : Component)
  | delete (component : Component)

/-- The outcome of a write, from the writes before it. -/
abbrev ComponentApi := List ComponentCall → ComponentCall → Option String

/-- `ctrl.Result`. -/
inductive Result
  | done
  | requeueAfter (seconds : Nat)
deriving DecidableEq, Repr

/-- The calls of the controller over the writes that it made. -/
abbrev ClusterProg (α : Type) := EStateM Fault (List ComponentCall) α

namespace ClusterController

variable (api : ComponentApi)

/-- One write: whether it succeeded. -/
def write (call : ComponentCall) : ClusterProg Bool := fun calls =>
  .ok (api calls call).isNone (calls ++ [call])

/-- The loop that creates the missing replicas: whether every creation
succeeded. -/
def createMissing (component : Component) : Nat → ClusterProg Bool
  | 0 => pure true
  | n + 1 => do
    if ← write api (.create component) then createMissing component n else pure false

/-- The loop that deletes the excess replicas, from the index `i` on. -/
def deleteExcess (replicas : List Component) : Nat → Nat → ClusterProg Bool
  | 0, _ => pure true
  | n + 1, i =>
    match replicas[i]? with
    | none => throw (.panic "index out of range")
    | some component => do
      if ← write api (.delete component) then deleteExcess replicas n (i + 1) else pure false

/-- `reconcileDeletion`. -/
def reconcileDeletion : List Component → ClusterProg Result
  | [] => pure .done
  | component :: components => do
    if ← write api (.delete component) then reconcileDeletion components
    else pure (.requeueAfter 10)

/-- The undeleted components of a role. -/
def undeletedWithRole (components : List Component) (role : Role) : List Component :=
  components.filter fun component => component.role = role ∧ component.deletionTimestamp = none

/-- The replicas of the control plane: whether every write succeeded. -/
def reconcileControlPlane (cluster : Cluster) (components : List Component) :
    ClusterProg Bool :=
  let desired := cluster.controlPlaneReplicas
  let current := undeletedWithRole components .controlPlane
  let currentCount := Int64.ofNat current.length
  if desired > currentCount then
    createMissing api
      (Component.newComponent cluster.namespace cluster.name (cluster.name ++ "-control-plane-")
        .controlPlane)
      (desired - currentCount).toInt.toNat
  else deleteExcess api current (currentCount - desired).toInt.toNat 0

/-- The one replica of the control plane ingress. -/
def reconcileControlPlaneIngress (cluster : Cluster) (components : List Component) :
    ClusterProg Bool :=
  let current := undeletedWithRole components .controlPlaneIngress
  if current.length = 0 then
    write api (.create (Component.newComponent cluster.namespace cluster.name
      (cluster.name ++ "-control-plane-ingress-") .controlPlaneIngress))
  else if current.length > 1 then deleteExcess api current (current.length - 1) 0
  else pure true

/-- `Reconcile`, after the cluster and its components are loaded. -/
def reconcileComponents (cluster : Cluster) (components : List Component) :
    ClusterProg Result := do
  if cluster.deletionTimestamp.isSome then reconcileDeletion api components
  else
    if ← reconcileControlPlane api cluster components then
      if ← reconcileControlPlaneIngress api cluster components then pure .done
      else pure (.requeueAfter 10)
    else pure (.requeueAfter 10)

/-- The errors of `getCluster` that the controller tells apart. -/
inductive GetError
  | notFound
  | other (message : String)
deriving DecidableEq, Repr

/-- `Reconcile`.  The cluster comes from the store and is imported, and the
components are listed; either can fail. -/
def reconcile (env : Environment) (stored : Except GetError V1alpha1.Cluster)
    (listed : Except String (List Component)) : ClusterProg Result :=
  match stored with
  | .error .notFound => pure .done
  | .error (.other _) => pure (.requeueAfter 10)
  | .ok stored =>
    match newClusterFromv1alpha1 env stored with
    | .error (.panic message) => throw (.panic message)
    | .error (.error _) => pure (.requeueAfter 10)
    | .ok cluster =>
      match listed with
      | .error _ => pure (.requeueAfter 10)
      | .ok components => reconcileComponents api cluster components

/-! ## When a run panics -/

section Panics

variable {api : ComponentApi}

/-- A write does not panic, and neither does a loop body whose rest does
not. -/
theorem not_panics_write_bind {α : Type} (call : ComponentCall) {f : Bool → ClusterProg α}
    {calls : List ComponentCall} (hf : ∀ ok, ¬ Panics ((f ok).run (calls ++ [call]))) :
    ¬ Panics ((write api call >>= f).run calls) := by
  refine not_panics_bind (not_panics_ok _ _) ?_
  intro ok calls' hrun
  cases hrun
  exact hf _

theorem not_panics_createMissing (component : Component) (n : Nat)
    (calls : List ComponentCall) : ¬ Panics ((createMissing api component n).run calls) := by
  induction n generalizing calls with
  | zero => exact not_panics_ok _ _
  | succ n ih =>
    refine not_panics_write_bind _ ?_
    rintro (_ | _)
    · exact not_panics_ok _ _
    · exact ih _

theorem not_panics_reconcileDeletion (components : List Component)
    (calls : List ComponentCall) : ¬ Panics ((reconcileDeletion api components).run calls) := by
  induction components generalizing calls with
  | nil => exact not_panics_ok _ _
  | cons component components ih =>
    refine not_panics_write_bind _ ?_
    rintro (_ | _)
    · exact not_panics_ok _ _
    · exact ih _

/-- The loop stays inside the list as long as it has enough replicas left. -/
theorem not_panics_deleteExcess {replicas : List Component} {n i : Nat}
    (hle : i + n ≤ replicas.length) (calls : List ComponentCall) :
    ¬ Panics ((deleteExcess api replicas n i).run calls) := by
  induction n generalizing i calls with
  | zero => exact not_panics_ok _ _
  | succ n ih =>
    have hi : i < replicas.length := by omega
    rw [deleteExcess, List.getElem?_eq_getElem hi]
    refine not_panics_write_bind _ ?_
    rintro (_ | _)
    · exact not_panics_ok _ _
    · exact ih (by omega) _

theorem not_panics_reconcileControlPlaneIngress (cluster : Cluster)
    (components : List Component) (calls : List ComponentCall) :
    ¬ Panics ((reconcileControlPlaneIngress api cluster components).run calls) := by
  simp only [reconcileControlPlaneIngress]
  split_ifs with hzero hmany
  · exact not_panics_ok _ _
  · exact not_panics_deleteExcess (by omega) _
  · exact not_panics_ok _ _

/-- The two numbers that the controller compares, as integers. -/
theorem toInt_ofNat_length {α : Type} {l : List α} (hl : l.length < 2 ^ 63) :
    (Int64.ofNat l.length).toInt = l.length :=
  Int64.toInt_ofNat_of_lt hl

/-- The difference of two machine integers, the first one not negative and not
below the second.  It is the difference of the integers or it wraps around. -/
theorem toInt_sub_of_le (count desired : Int64) (hcount : 0 ≤ count.toInt)
    (hle : desired.toInt ≤ count.toInt) :
    count.toInt - desired.toInt < 2 ^ 63 ∧
        (count - desired).toInt = count.toInt - desired.toInt ∨
      2 ^ 63 ≤ count.toInt - desired.toInt ∧ (count - desired).toInt < 0 := by
  have hlow := desired.le_toInt
  have hhigh := count.toInt_lt
  rw [Int64.toInt_sub, Int.bmod]
  split_ifs with h <;> omega

/-- A list of the role is no longer than the whole list. -/
theorem length_undeletedWithRole_le (components : List Component) (role : Role) :
    (undeletedWithRole components role).length ≤ components.length :=
  List.length_filter_le _ _

/-- The replicas of the control plane are reconciled without a panic unless
their number is negative and its difference to a length is a machine
integer. -/
theorem not_panics_reconcileControlPlane {cluster : Cluster} {components : List Component}
    (hlen : components.length < 2 ^ 63)
    (hreps : 0 ≤ cluster.controlPlaneReplicas ∨
      cluster.controlPlaneReplicas = Int64.minValue) (calls : List ComponentCall) :
    ¬ Panics ((reconcileControlPlane api cluster components).run calls) := by
  have hcount := toInt_ofNat_length
    ((length_undeletedWithRole_le components .controlPlane).trans_lt hlen)
  simp only [reconcileControlPlane]
  split_ifs with hmissing
  · exact not_panics_createMissing _ _ _
  · apply not_panics_deleteExcess
    rw [gt_iff_lt, Int64.lt_iff_toInt_lt, not_lt] at hmissing
    have hsub := toInt_sub_of_le _ _ (by omega) hmissing
    rcases hreps with hnonneg | hmin
    · rw [Int64.le_iff_toInt_le] at hnonneg
      simp only [Int64.toInt_zero] at hnonneg
      omega
    · have hminInt : cluster.controlPlaneReplicas.toInt = -2 ^ 63 := by rw [hmin]; rfl
      omega

/-- A negative number of replicas runs off an empty list. -/
theorem panics_reconcileComponents {cluster : Cluster}
    (hdel : cluster.deletionTimestamp = none)
    (hneg : cluster.controlPlaneReplicas < 0)
    (hmin : cluster.controlPlaneReplicas ≠ Int64.minValue) :
    Panics ((reconcileComponents api cluster []).run []) := by
  have hlow := cluster.controlPlaneReplicas.le_toInt
  have hneg' : cluster.controlPlaneReplicas.toInt < 0 := by
    simpa [Int64.lt_iff_toInt_lt] using hneg
  have hne : cluster.controlPlaneReplicas.toInt ≠ -2 ^ 63 := by
    intro h
    exact hmin (Int64.toInt_inj.mp h)
  have hmissing : ¬ cluster.controlPlaneReplicas > Int64.ofNat 0 := by
    rw [gt_iff_lt, Int64.lt_iff_toInt_lt, not_lt]
    exact hneg'.le
  have hsub := toInt_sub_of_le (Int64.ofNat 0) cluster.controlPlaneReplicas le_rfl hneg'.le
  obtain ⟨n, hn⟩ : ∃ n, (Int64.ofNat 0 - cluster.controlPlaneReplicas).toInt.toNat = n + 1 := by
    have hzero : (Int64.ofNat 0).toInt = 0 := rfl
    exact ⟨_, (Nat.succ_pred_eq_of_pos (by omega)).symm⟩
  refine ⟨"index out of range", [], ?_⟩
  have hrun : (reconcileControlPlane api cluster []).run [] =
      .error (.panic "index out of range") [] := by
    simp only [reconcileControlPlane, undeletedWithRole, List.filter_nil, List.length_nil,
      hmissing, if_false, hn]
    rfl
  simp only [reconcileComponents, hdel, Option.isSome_none, Bool.false_eq_true, if_false,
    EStateM.run_bind, hrun]

/-- Some list of components and some outcomes of the writes make the
controller panic exactly when the cluster is not being deleted and has a
negative number of replicas other than the smallest machine integer. -/
theorem reconcileComponents_panics_iff (cluster : Cluster) :
    (∃ (api : ComponentApi) (components : List Component), components.length < 2 ^ 63 ∧
        Panics ((reconcileComponents api cluster components).run [])) ↔
      cluster.deletionTimestamp = none ∧ cluster.controlPlaneReplicas < 0 ∧
        cluster.controlPlaneReplicas ≠ Int64.minValue := by
  constructor
  · rintro ⟨api, components, hlen, hpanics⟩
    by_contra hcontra
    revert hpanics
    rw [reconcileComponents]
    split_ifs with hdel
    · exact not_panics_reconcileDeletion _ _
    · rw [Option.not_isSome_iff_eq_none] at hdel
      have hreps : 0 ≤ cluster.controlPlaneReplicas ∨
          cluster.controlPlaneReplicas = Int64.minValue := by
        by_contra h
        rw [not_or, Int64.not_le] at h
        exact hcontra ⟨hdel, h⟩
      refine not_panics_bind (not_panics_reconcileControlPlane hlen hreps _) ?_
      rintro (_ | _) calls' -
      · exact not_panics_ok _ _
      · refine not_panics_bind (not_panics_reconcileControlPlaneIngress _ _ _) ?_
        rintro (_ | _) calls'' - <;> exact not_panics_ok _ _
  · rintro ⟨hdeletion, hneg, hmin⟩
    exact ⟨fun _ _ => none, [], by simp, panics_reconcileComponents hdeletion hneg hmin⟩

end Panics

end ClusterController

end OneInfra.Controllers
