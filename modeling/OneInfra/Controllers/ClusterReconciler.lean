import OneInfra.Cluster.Reconciler
import OneInfra.Controllers.ComponentReconciler
import OneInfra.Lib.Reach

/-!
# The cluster controller

`ClusterReconciler.Reconcile` in `controllers/cluster_reconciler.go`, with
`newClusterReconciler` of `controllers/reconciler.go`.

A run reads the cluster, the hypervisors and the components of the cluster, and
reconciles the cluster.  It writes the status of the cluster if there was no error.
Then it refreshes the cached specification and calls `UpdateResources`, which finds
nothing dirty: `Reconcile` changes neither hypervisors nor components, and the cluster
is what was cached a moment before.  The exception is a cluster with two VPN peers, which
are exported in the order of a map.

So a run with errors leaves the stored conditions alone, and a condition that says that
the reconcile succeeded stays there.  `StatusFits` is the condition under which that does
not happen.
-/

namespace OneInfra

open Lib Conditions

/-- The stored cluster with the specification and the metadata of another, or none if it is
removed. -/
def Cluster.withSpecOf (stored sent : Cluster) : Option Cluster :=
  if stored.deletionTimestamp.isSome ∧ sent.finalizers = [] then none
  else some { sent.withStatusOf stored with
    resourceVersion := stored.resourceVersion + 1
    deletionTimestamp := stored.deletionTimestamp }

/-- The answer of the API server to an update of a cluster. -/
def Store.updateCluster (store : Store) (cluster : Cluster) : Except WriteError Store :=
  (putRow Cluster.key Cluster.resourceVersion Cluster.withSpecOf cluster store.clusters).map
    fun clusters => { store with clusters := clusters }

/-- The conditions of the stored cluster. -/
def Store.conditionsAt (store : Store) (key : ObjectKey) : Option ConditionList :=
  (lookupKey Cluster.key key store.clusters).map Cluster.conditions

/-- The conditions that a write sends for a cluster. -/
def Write.conditionsFor (key : ObjectKey) : Write → Option ConditionList
  | .clusterStatus cluster => if key = cluster.key then some cluster.conditions else none
  | .hypervisorStatus _ | .componentStatus _ | .componentUpdate _ => none

/-- The conditions of the stored cluster after writes. -/
def Write.conditionsAfter (key : ObjectKey) (writes : List Write) (conditions : ConditionList) :
    ConditionList :=
  writes.foldl (fun conditions write => (write.conditionsFor key).getD conditions) conditions

end OneInfra

namespace OneInfra.Controllers

open OneInfra.Lib OneInfra.Infra OneInfra.Clusters Conditions

/-- What may happen in a run. -/
structure ClusterPlan where
  /-- What the API server of the cluster answers. -/
  answers : Answers
  clock : Nat → Nat := id
  /-- The failure of the write of the cluster by the controller itself. -/
  clusterError : Option WriteError := none
  /-- Listing, and the writes of `UpdateResources`. -/
  update : Plan := {}

/-- A run: the store after it, the errors that `Reconcile` recorded for the cluster if it was
called, and whether a write failed. -/
structure ClusterRun where
  store : Store
  recorded : Option (List String) := none
  writeFailed : Bool := false

/-- `newClusterReconciler`. -/
def newClusterReconciler (store : Store) (cluster : Cluster) : ClusterReconciler :=
  ⟨store.hypervisors, Component.withCluster store.components cluster.namespace cluster.name⟩

/-- The end of a run: `UpdateResources`. -/
def ClusterRun.update (run : ClusterRun) (plan : Plan) (world : World Unit) : ClusterRun :=
  let (error, store) := run.store.writeAll plan.updateError 0 (updateResources plan world world)
  { run with store := store, writeFailed := run.writeFailed || error.isSome }

/-- A run on a cluster that is not being deleted. -/
def reconcileLive (plan : ClusterPlan) (store : Store) (cluster : Cluster) : ClusterRun :=
  let (clusters, reconcileErrors) := (newClusterReconciler store cluster).reconcile false
    plan.clock [] [(cluster, plan.answers)]
  let reconciled := clusters.headD cluster
  let (error, written) := store.writeAll (fun _ => plan.clusterError) 0
    (if reconcileErrors.isNone then [.clusterStatus reconciled] else [])
  ClusterRun.update
    { store := written
      recorded := some (errorsOf reconcileErrors cluster)
      writeFailed := error.isSome }
    plan.update (load store reconciled ())

/-- A run on a cluster that is being deleted. -/
def reconcileDeleted (plan : ClusterPlan) (store : Store) (cluster : Cluster) : ClusterRun :=
  let (reconciled, reconcileErrors) :=
    (newClusterReconciler store cluster).reconcileDeletion cluster
  let written : Except WriteError Store :=
    if reconcileErrors.isSome then .ok store
    else
      match plan.clusterError with
      | some error => .error error
      | none => store.updateCluster reconciled
  ClusterRun.update
    { store := written.toOption.getD store, writeFailed := !written.isOk }
    plan.update (load store reconciled ())

/-- `Reconcile` of the cluster with the given key. -/
def reconcileCluster (plan : ClusterPlan) (key : ObjectKey) (store : Store) : ClusterRun :=
  match lookupKey Cluster.key key store.clusters with
  | none => { store := store }
  | some cluster =>
    if plan.update.listFails then { store := store }
    else if cluster.deletionTimestamp.isNone then reconcileLive plan store cluster
    else reconcileDeleted plan store cluster

/-! ## Writes of conditions -/

theorem conditionsAt_write {store store' : Store} {write : Write}
    (h : store.write write = .ok store') (key : ObjectKey) :
    store'.conditionsAt key =
      (store.conditionsAt key).map fun conditions =>
        (write.conditionsFor key).getD conditions := by
  cases write with
  | hypervisorStatus hypervisor =>
    obtain ⟨hypervisors, -, rfl⟩ := Store.write_hypervisorStatus_ok h
    exact Option.map_id'.symm
  | componentStatus component =>
    obtain ⟨components, -, rfl⟩ := Store.write_componentStatus_ok h
    exact Option.map_id'.symm
  | componentUpdate component =>
    obtain ⟨components, -, rfl⟩ := Store.write_componentUpdate_ok h
    exact Option.map_id'.symm
  | clusterStatus cluster =>
    obtain ⟨clusters, hput, rfl⟩ := Store.write_clusterStatus_ok h
    unfold Store.conditionsAt Write.conditionsFor
    dsimp only
    have hkey : ∀ stored : Cluster, stored.key = cluster.key →
        (stored.withStatusOf cluster).key = cluster.key := fun _ h => h
    rw [putRow_some hput, lookupKey_modifyKey hkey, Option.map_map]
    split
    · next heq =>
      subst heq
      rw [Option.map_map]
      rfl
    · rfl

theorem conditionsAt_writeAll {errorAt : Nat → Option WriteError} {i : Nat} {writes : List Write}
    {store store' : Store} (h : store.writeAll errorAt i writes = (none, store'))
    (key : ObjectKey) :
    store'.conditionsAt key = (store.conditionsAt key).map (Write.conditionsAfter key writes) := by
  induction writes generalizing store i with
  | nil =>
    cases h
    exact Option.map_id'.symm
  | cons write writes ih =>
    unfold Store.writeAll at h
    split at h
    · cases h
    split at h
    · cases h
    · next hwrite =>
      rw [ih h, conditionsAt_write hwrite, Option.map_map]
      rfl

/-- Writes that send no conditions for the cluster. -/
theorem conditionsAfter_map {α : Type} {key : ObjectKey} {f : α → Write}
    (hf : ∀ a, (f a).conditionsFor key = none) (l : List α) (conditions : ConditionList) :
    Write.conditionsAfter key (l.map f) conditions = conditions := by
  unfold Write.conditionsAfter
  rw [List.foldl_map]
  exact List.foldl_fixed' (fun a => by rw [hf a]; rfl) l

theorem conditionsAfter_updateResources (plan : Plan) (world : World Unit)
    (conditions : ConditionList) :
    Write.conditionsAfter world.cluster.key (updateResources plan world world) conditions =
      if clusterDirty plan world.cluster then world.cluster.conditions else conditions := by
  unfold updateResources
  rw [Write.conditionsAfter, List.foldl_append, List.foldl_append]
  rw [← Write.conditionsAfter, ← Write.conditionsAfter, ← Write.conditionsAfter]
  rw [conditionsAfter_map fun _ => rfl, conditionsAfter_map fun _ => rfl]
  split
  · simp [Write.conditionsAfter, Write.conditionsFor]
  · rfl

/-! ## The condition after a run -/

section Run

variable (plan : ClusterPlan) (key : ObjectKey) (store : Store)

/-- After a run that reconciled the cluster, the stored condition is true exactly if the
reconcile recorded no error for it. -/
def Reflects : Prop :=
  ∀ clusterErrors, (reconcileCluster plan key store).recorded = some clusterErrors →
    ∃ conditions, (reconcileCluster plan key store).store.conditionsAt key = some conditions ∧
      (isCondition conditions reconcileSucceeded .true = true ↔ clusterErrors = [])

/-- Nothing goes wrong, or the stored condition is not true, or `UpdateResources` writes the
conditions of the cluster. -/
def StatusFits : Prop :=
  ∀ cluster, lookupKey Cluster.key key store.clusters = some cluster →
    cluster.deletionTimestamp = none → plan.update.listFails = false →
      Unobstructed (newClusterReconciler store cluster) false plan.answers cluster ∨
        isCondition cluster.conditions reconcileSucceeded .true = false ∨
        Admitted (newClusterReconciler store cluster) cluster ∧
          clusterDirty plan.update cluster = true

end Run

theorem ClusterRun.conditionsAt_update {run : ClusterRun} {plan : Plan} {world : World Unit}
    {key : ObjectKey} (hkey : world.cluster.key = key)
    (h : (run.update plan world).writeFailed = false) :
    run.writeFailed = false ∧ ∀ conditions, run.store.conditionsAt key = some conditions →
      (run.update plan world).store.conditionsAt key =
        some (if clusterDirty plan world.cluster then world.cluster.conditions
          else conditions) := by
  unfold ClusterRun.update at h ⊢
  cases hwrites : run.store.writeAll plan.updateError 0 (updateResources plan world world) with
  | mk error written =>
    rw [hwrites] at h
    obtain ⟨hrun, herr⟩ := Bool.or_eq_false_iff.mp h
    rw [Option.isSome_eq_false_iff, Option.isNone_iff_eq_none] at herr
    subst herr hkey
    refine ⟨hrun, fun conditions hst => ?_⟩
    rw [conditionsAt_writeAll hwrites, hst, Option.map_some, conditionsAfter_updateResources]

/-- What a run does to the stored conditions: it writes those of the reconciled cluster if there
was no error, or if the cluster is dirty. -/
theorem conditionsAt_reconcileLive {plan : ClusterPlan} {store : Store} {cluster : Cluster}
    (hfound : lookupKey Cluster.key cluster.key store.clusters = some cluster)
    (hwritten : (reconcileLive plan store cluster).writeFailed = false) :
    ∃ reconciled clusterErrors,
      (reconcileLive plan store cluster).recorded = some clusterErrors ∧
      Ends (newClusterReconciler store cluster) false plan.answers cluster reconciled
        clusterErrors ∧
      (reconcileLive plan store cluster).store.conditionsAt cluster.key =
        some (if clusterErrors = [] ∨ clusterDirty plan.update cluster then reconciled.conditions
          else cluster.conditions) := by
  obtain ⟨reconciled, reconcileErrors, hrec, hkept, hends, hnone⟩ :=
    reconcile_one (newClusterReconciler store cluster) false plan.clock [] cluster plan.answers
  refine ⟨reconciled, errorsOf reconcileErrors cluster, ?_, hends, ?_⟩
  · unfold reconcileLive
    rw [hrec]
    rfl
  have hkey : reconciled.key = cluster.key := by
    have hname := congrArg Cluster.key hkept
    exact hname
  have hdirty : clusterDirty plan.update reconciled = clusterDirty plan.update cluster := by
    have hpeers := congrArg Cluster.vpnPeers hkept
    exact congrArg (fun peers : VPNPeerMap => decide (plan.update.shuffled ∧ 2 ≤ peers.keys.card))
      hpeers
  unfold reconcileLive at hwritten ⊢
  rw [hrec] at hwritten ⊢
  dsimp only [List.headD_cons] at hwritten ⊢
  generalize hfirst : store.writeAll (fun _ => plan.clusterError) 0
    (if reconcileErrors.isNone then [Write.clusterStatus reconciled] else []) = first
    at hwritten ⊢
  obtain ⟨error, written⟩ := first
  obtain ⟨herr, hlast⟩ := ClusterRun.conditionsAt_update hkey hwritten
  rw [Option.isSome_eq_false_iff, Option.isNone_iff_eq_none] at herr
  subst herr
  -- the write of the controller, and then those of UpdateResources
  have hown : written.conditionsAt cluster.key =
      some (if errorsOf reconcileErrors cluster = [] then reconciled.conditions
        else cluster.conditions) := by
    have hst : store.conditionsAt cluster.key = some cluster.conditions :=
      congrArg (Option.map Cluster.conditions) hfound
    rw [conditionsAt_writeAll hfirst, hst, Option.map_some]
    by_cases hfree : reconcileErrors = none
    · rw [if_pos (hnone.mp hfree), hfree]
      simp [Write.conditionsAfter, Write.conditionsFor, hkey]
    · rw [if_neg (fun h => hfree (hnone.mpr h)), if_neg (by simpa using hfree)]
      rfl
  rw [hlast _ hown]
  show some (if clusterDirty plan.update reconciled = true then reconciled.conditions else _) = _
  rw [hdirty]
  by_cases hfree : errorsOf reconcileErrors cluster = []
  · simp [hfree]
  · simp [hfree]

/-- The condition that is stored after a run, by how the reconcile ended. -/
theorem isCondition_stored_iff {rec : ClusterReconciler} {answers : Answers}
    {cluster reconciled : Cluster} {clusterErrors : List String} (dirty : Bool)
    (hends : Ends rec false answers cluster reconciled clusterErrors) :
    (isCondition (if clusterErrors = [] ∨ dirty then reconciled.conditions
        else cluster.conditions) reconcileSucceeded .true = true ↔ clusterErrors = []) ↔
      Unobstructed rec false answers cluster ∨
        isCondition cluster.conditions reconcileSucceeded .true = false ∨
        Admitted rec cluster ∧ dirty = true := by
  cases hends with
  | refused hrefused hconds herrs =>
    have hobstructed : ¬ Unobstructed rec false answers cluster :=
      fun h => hrefused h.toAdmitted
    simp [herrs, hconds, hobstructed, hrefused]
  | failed hadmitted hobstructed hconds herrs =>
    have hnot : isCondition reconciled.conditions reconcileSucceeded .true = false :=
      Bool.eq_false_iff.mpr fun h => absurd (isCondition_unique h hconds) (by decide)
    cases dirty with
    | false => simp [herrs, hobstructed]
    | true => simp [herrs, hobstructed, hadmitted, hnot]
  | succeeded hunobstructed hconds herrs =>
    simp [herrs, hconds, hunobstructed]

/-- A run reflects its reconcile exactly if the condition holds. -/
theorem reflects_iff {plan : ClusterPlan} {key : ObjectKey} {store : Store}
    (hwritten : (reconcileCluster plan key store).writeFailed = false) :
    Reflects plan key store ↔ StatusFits plan key store := by
  unfold Reflects StatusFits
  unfold reconcileCluster at hwritten ⊢
  cases hfound : lookupKey Cluster.key key store.clusters with
  | none => simp
  | some cluster =>
    rw [hfound] at hwritten
    obtain ⟨-, rfl⟩ := lookupKey_some_mem hfound
    dsimp only at hwritten ⊢
    by_cases hlist : plan.update.listFails = true
    · simp [hlist]
    rw [if_neg hlist] at hwritten ⊢
    by_cases hlive : cluster.deletionTimestamp = none
    · rw [if_pos (by simp [hlive])] at hwritten ⊢
      obtain ⟨reconciled, clusterErrors, hrecorded, hends, hconds⟩ :=
        conditionsAt_reconcileLive hfound hwritten
      simp only [hrecorded, hconds, Option.some.injEq, forall_eq', exists_eq_left', hlive,
        forall_const, hlist]
      exact isCondition_stored_iff (clusterDirty plan.update cluster) hends
    · rw [if_neg (by simpa using hlive)]
      have hrecorded : (reconcileDeleted plan store cluster).recorded = none := rfl
      simp [hrecorded, hlive]

/-! ## Sequences of runs -/

/-- A run of the controller, or a change of the store by others. -/
inductive ClusterEvent
  | run (key : ObjectKey) (plan : ClusterPlan)
  | other (change : Store → Store)

/-- The store after an event. -/
def ClusterEvent.step (store : Store) : ClusterEvent → Store
  | .run key plan => (reconcileCluster plan key store).store
  | .other change => change store

/-- What is asked of the runs of a sequence. -/
def ClusterEvent.OfRun (P : ClusterPlan → ObjectKey → Store → Prop) (store : Store) :
    ClusterEvent → Prop
  | .run key plan => P plan key store
  | .other _ => True

/-- The writes of a run succeed. -/
def Writes (plan : ClusterPlan) (key : ObjectKey) (store : Store) : Prop :=
  (reconcileCluster plan key store).writeFailed = false

/-- **The stored condition reflects the last reconcile.**  In a sequence of runs whose writes
succeed, with any changes of the store between them, every run leaves the condition that fits
its reconcile if and only if none starts with a stored condition that is true and then fails. -/
theorem reflects_iff_statusFits (store : Store) (events : List ClusterEvent)
    (hwrites : AllowedRun ClusterEvent.step (ClusterEvent.OfRun Writes) store events) :
    AllowedRun ClusterEvent.step (ClusterEvent.OfRun Reflects) store events ↔
      AllowedRun ClusterEvent.step (ClusterEvent.OfRun StatusFits) store events := by
  refine hwrites.congr fun store event hevent => ?_
  cases event with
  | run key plan => exact reflects_iff hevent
  | other change => exact .rfl

/-! ### A failure after a success -/

/-- A cluster with its components, and its hypervisor. -/
def oneCluster : Store where
  hypervisors := oneScheduled.hypervisorMap
  clusters := [{ name := "ready", «namespace» := "ns", controlPlaneReplicas := 1 }]
  components := oneScheduled.componentList

/-- The components of the cluster are deleted. -/
def withoutComponents (store : Store) : Store := { store with components := [] }

/-- The cluster is reconciled, its components are deleted, and it is reconciled again. -/
def staleSuccess : List ClusterEvent :=
  [.run ("ns", "ready") { answers := noFailures }, .other withoutComponents,
    .run ("ns", "ready") { answers := noFailures }]

/-- The second run fails with the first check, and the stored condition stays true. -/
theorem not_reflects_staleSuccess :
    AllowedRun ClusterEvent.step (ClusterEvent.OfRun Writes) oneCluster staleSuccess ∧
      ¬ AllowedRun ClusterEvent.step (ClusterEvent.OfRun Reflects) oneCluster staleSuccess := by
  constructor
  · unfold staleSuccess
    refine ⟨?_, trivial, ?_, trivial⟩
    · unfold ClusterEvent.OfRun Writes
      decide +kernel
    · unfold ClusterEvent.OfRun Writes
      decide +kernel
  · rintro ⟨-, -, hreflects, -⟩
    obtain ⟨conditions, hst, hiff⟩ :=
      hreflects ["cluster is not fully scheduled"] (by decide +kernel)
    have htrue : ((staleSuccess.foldl ClusterEvent.step oneCluster).conditionsAt
        ("ns", "ready")).map (isCondition · reconcileSucceeded .true) = some true := by
      decide +kernel
    change Option.map _ (Store.conditionsAt (reconcileCluster _ _ _).store _) = _ at htrue
    rw [hst, Option.map_some, Option.some_inj] at htrue
    cases hiff.mp htrue

/-- A call fails, and then it succeeds. -/
def recovery : List ClusterEvent :=
  [.run ("ns", "ready")
      { answers := { noFailures with
          error := fun method =>
            if method = .reconcileKubeProxy then some "connection refused" else none } },
    .run ("ns", "ready") { answers := noFailures }]

/-- The condition is not true after the first run, and true after the second. -/
theorem reflects_iff_statusFits_recovery :
    AllowedRun ClusterEvent.step (ClusterEvent.OfRun Reflects) oneCluster recovery := by
  refine (reflects_iff_statusFits oneCluster recovery ⟨?_, ?_, trivial⟩).mpr ⟨?_, ?_, trivial⟩
  · show (reconcileCluster _ _ _).writeFailed = false
    decide +kernel
  · show (reconcileCluster _ _ _).writeFailed = false
    decide +kernel
  · intro cluster hfound _ _
    cases hfound
    exact .inr (.inl rfl)
  · intro cluster hfound _ _
    cases hfound
    exact .inl ⟨⟨by decide +kernel, by decide +kernel⟩, by decide +kernel, by decide +kernel,
      fun _ _ => rfl⟩

end OneInfra.Controllers
