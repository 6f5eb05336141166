import OneInfra.Component.Reconciler
import OneInfra.Controllers.Store

/-!
# The component controller

`ComponentReconciler.Reconcile` in `controllers/component_reconciler.go`, with
`newComponentReconciler` of `controllers/reconciler.go` and `UpdateResources` of
`internal/pkg/reconciler/resource_updater.go`.

A run has two phases.  The first, for a component that is not being deleted,
pre-reconciles it and writes what changed, and starts anew if a write conflicts.
The second reconciles the ingress components of the cluster and then the component,
or its deletion.  Each phase loads the hypervisors and the components of the
cluster, works on them in memory, and writes the dirty ones.  The cluster is loaded
once, at the start of the run.

`IsDirty` compares the SHA1 sums of two exports, and in the model it compares the
objects.  No operation on a component changes the cluster, so its export differs
from the loaded one only because the VPN peers are exported in the order of a map,
and then only if there are two.

`Plan` is what may happen in one phase.  A read that fails ends the run at once, and
for the first two reads that is as if there had been no run.
-/

namespace OneInfra.Controllers

open OneInfra.Lib OneInfra.Infra OneInfra.Components

variable {σ : Type}

/-- What may happen in a phase of a run. -/
structure Plan where
  /-- Listing the hypervisors or the components fails. -/
  listFails : Bool := false
  /-- The failure of the write of the component by the controller itself. -/
  componentError : Option WriteError := none
  /-- The failures of the writes of `UpdateResources`. -/
  updateError : Nat → Option WriteError := fun _ => none
  /-- The VPN peers of the cluster are exported in another order. -/
  shuffled : Bool := false
  /-- The order in which the map of hypervisors is traversed. -/
  order : List Hypervisor → List Hypervisor := id
  order_perm : ∀ hypervisors, (order hypervisors).Perm hypervisors := by
    exact fun hypervisors => List.Perm.refl hypervisors

/-! ## Loading and writing -/

/-- `newComponentReconciler`.  The label by which the components are listed is the
cluster of their specification. -/
def load (store : Store) (cluster : Cluster) (outside : σ) : World σ :=
  { hypervisors := store.hypervisors
    cluster := cluster
    components := Component.withCluster store.components cluster.namespace cluster.name
    outside := outside }

/-- A component as `JSONSpecs` exports it. -/
def withoutConditions (component : Component) : Component :=
  { component with conditions := [] }

/-- `IsDirty` of a component, compared with the objects of `loaded`. -/
def componentDirty (loaded : World σ) (component : Component) : Bool :=
  (lookupKey Component.name component.name loaded.components).map withoutConditions ≠
    some (withoutConditions component)

/-- `IsDirty` of a hypervisor, compared with the objects of `loaded`. -/
def hypervisorDirty (loaded : World σ) (hypervisor : Hypervisor) : Bool :=
  lookupKey Hypervisor.name hypervisor.name loaded.hypervisors ≠ some hypervisor

/-- `IsDirty` of the cluster. -/
def clusterDirty (plan : Plan) (cluster : Cluster) : Bool :=
  plan.shuffled ∧ 2 ≤ cluster.vpnPeers.keys.card

/-- The writes of `UpdateResources`. -/
def updateResources (plan : Plan) (loaded world : World σ) : List Write :=
  ((plan.order world.hypervisors).filter (hypervisorDirty loaded)).map .hypervisorStatus ++
  (if clusterDirty plan world.cluster then [.clusterStatus world.cluster] else []) ++
  (world.components.filter (componentDirty loaded)).map .componentStatus

section UpdateResources

variable {plan : Plan} {loaded world : World σ}

theorem hypervisorStatus_mem_updateResources {hypervisor : Hypervisor} :
    .hypervisorStatus hypervisor ∈ updateResources plan loaded world ↔
      hypervisor ∈ world.hypervisors ∧ hypervisorDirty loaded hypervisor := by
  have hcl : ∀ condition : Bool, .hypervisorStatus hypervisor ∉
      if condition then [Write.clusterStatus world.cluster] else [] := by
    intro condition
    split <;> simp
  simp [updateResources, hcl, (plan.order_perm world.hypervisors).mem_iff]

theorem componentStatus_mem_updateResources {component : Component} :
    .componentStatus component ∈ updateResources plan loaded world ↔
      component ∈ world.components ∧ componentDirty loaded component := by
  have hcl : ∀ condition : Bool, .componentStatus component ∉
      if condition then [Write.clusterStatus world.cluster] else [] := by
    intro condition
    split <;> simp
  simp [updateResources, hcl]

theorem componentUpdate_notMem_updateResources {component : Component} :
    .componentUpdate component ∉ updateResources plan loaded world := by
  have hcl : ∀ condition : Bool, .componentUpdate component ∉
      if condition then [Write.clusterStatus world.cluster] else [] := by
    intro condition
    split <;> simp
  simp [updateResources, hcl]

end UpdateResources

/-- The components of a cluster are in one namespace, and so have distinct names. -/
theorem nodup_names_withCluster {components : List Component}
    (hkeys : (components.map Component.key).Nodup) (ns cl : String) :
    ((Component.withCluster components ns cl).map Component.name).Nodup := by
  have hsub : ((Component.withCluster components ns cl).map
      Component.key).Nodup := hkeys.sublist (List.filter_sublist.map _)
  refine List.Nodup.of_map (fun name => (ns, name)) ?_
  rw [List.map_map]
  convert hsub using 1
  apply List.map_congr_left
  intro component hmem
  have hns := (List.mem_filter.mp hmem).2
  simp only [decide_eq_true_eq] at hns
  rw [Function.comp_apply, Component.key, hns.1]

/-! ## The first phase -/

/-- A run of the controller: the store and the outside, the objects that it has in
memory, and whether a write failed. -/
structure Run (σ : Type) where
  store : Store
  outside : σ
  memory : Option (World σ) := none
  writeFailed : Bool := false

/-- How the first phase ends. -/
inductive Outcome
  | done
  | conflict
  | failed
  | panicked
deriving DecidableEq, Repr

/-- Write the dirty objects. -/
def Run.update (run : Run σ) (plan : Plan) (loaded world : World σ) :
    Option WriteError × Run σ :=
  let (error, store) := run.store.writeAll plan.updateError 0 (updateResources plan loaded world)
  (error, { run with store := store, writeFailed := run.writeFailed || error.isSome })

section Phases

variable (outside : Outside σ) (cluster : Cluster) (name : String)

/-- One attempt of the first phase. -/
def preReconcileAttempt (plan : Plan) (run : Run σ) : Outcome × Run σ :=
  if plan.listFails then (.failed, { run with memory := none })
  else
    let loaded := load run.store cluster run.outside
    match (preReconcile outside [name]).run loaded with
    | .error _ world => (.panicked, { run with outside := world.outside, memory := none })
    | .ok errors world =>
      let run := { run with outside := world.outside, memory := some world }
      if errors ≠ [] then (.failed, run)
      else if (lookupKey Component.name name world.components).any (componentDirty loaded) then
        match run.update plan loaded world with
        | (none, run) => (.done, run)
        | (some .conflict, run) => (.conflict, run)
        | (some _, run) => (.failed, run)
      else (.done, run)

/-- `RetryOnConflict` around the first phase. -/
def preReconcilePhase (plans : Nat → Plan) : Nat → Run σ → Outcome × Run σ
  | 0, run => (.conflict, run)
  | tries + 1, run =>
    match preReconcileAttempt outside cluster name (plans tries) run with
    | (.conflict, run) => preReconcilePhase plans tries run
    | result => result

/-! ## The second phase -/

/-- What the second phase did with the component. -/
inductive Done
  | reconciled (succeeded : Bool)
  | deleted (succeeded : Bool)
deriving DecidableEq, Repr

/-- The operations of the second phase.  Without ingress components, `Reconcile` is
called without components and reconciles all. -/
def operations : ReconcileM σ Done := do
  let world ← get
  let component ← component name
  if cluster.deletionTimestamp.isNone ∧ component.role ≠ .controlPlaneIngress then
    let _ ← reconcile outside
      ((Component.withRole world.components .controlPlaneIngress).map Component.name)
  if component.deletionTimestamp.isNone then
    return .reconciled ((← reconcile outside [name]) = [])
  else
    return .deleted ((← reconcileDeletion outside [name]) = [])

/-- The write of the component that the controller makes itself. -/
def componentWrite (loaded : World σ) (component : Component) : Done → Option Write
  | .reconciled true =>
    if componentDirty loaded component then some (.componentStatus component) else none
  | .deleted true => some (.componentUpdate component)
  | .reconciled false | .deleted false => none

/-- The second phase.  `RefreshCachedSpecs` makes the component as it is the loaded
one. -/
def reconcilePhase (plan : Plan) (run : Run σ) : Run σ :=
  if plan.listFails then { run with memory := none }
  else
    let loaded := load run.store cluster run.outside
    match (operations outside cluster name).run loaded with
    | .error _ world => { run with outside := world.outside, memory := none }
    | .ok done world =>
      let run := { run with outside := world.outside, memory := some world }
      match lookupKey Component.name name world.components with
      | none => run
      | some component =>
        let (error, store) := run.store.writeAll (fun _ => plan.componentError) 0
          (componentWrite loaded component done).toList
        let run := { run with store := store, writeFailed := run.writeFailed || error.isSome }
        (run.update plan (loaded.setComponent component) world).2

end Phases

/-! ## The whole run -/

/-- What may happen in a run.  The edits happen between the two phases. -/
structure RunPlan where
  attempts : Nat → Plan := fun _ => {}
  edits : List Edit := []
  main : Plan := {}

/-- The number of attempts of `retry.DefaultRetry`. -/
def retrySteps : Nat := 5

/-- `Reconcile` of the component with the given key. -/
def reconcile (outside : Outside σ) (plan : RunPlan) (key : ObjectKey) (run : Run σ) : Run σ :=
  match lookupKey Component.key key run.store.components with
  | none => run
  | some component =>
    match lookupKey Cluster.key (component.namespace, component.clusterName) run.store.clusters with
    | none => run
    | some cluster =>
      let phase : Run σ → Run σ := fun run =>
        reconcilePhase outside cluster component.name plan.main
          { run with store := plan.edits.foldl Store.edit run.store }
      if component.deletionTimestamp.isSome then phase run
      else if cluster.hasUninitializedCertificates then run
      else
        match preReconcilePhase outside cluster component.name plan.attempts retrySteps run with
        | (.done, run) => phase run
        | (_, run) => run

end OneInfra.Controllers
