import OneInfra.Component.Performs
import OneInfra.Controllers.ComponentReconciler

/-!
# The phases of a run of the component controller

A run of the controller has two phases.  Each loads the objects, works on them in memory and
writes them back.  This file follows the phases and their writes: `writeAll_settles` is the rule
for a list of writes, that what one of the writes establishes and all of them keep holds at the
end, and `reconcile_of_lookup` takes a run apart into its phases.
-/

namespace OneInfra

open Lib Infra

/-! ## The status of the stored objects -/

/-- The status of a hypervisor. -/
def Infra.Hypervisor.status (hypervisor : Hypervisor) :
    NamespacedClusterFileMap × List Int64 × List HypervisorPortAllocation :=
  (hypervisor.files, hypervisor.freedPorts, hypervisor.allocatedPorts)

namespace Store

/-- The stored objects have distinct keys. -/
structure Keyed (store : Store) : Prop where
  hypervisors : (store.hypervisors.map Hypervisor.name).Nodup
  clusters : (store.clusters.map Cluster.key).Nodup
  components : (store.components.map Component.key).Nodup

/-- The status of the stored hypervisor of a name. -/
def hypervisorStatus (store : Store) (name : String) :=
  (lookupKey Hypervisor.name name store.hypervisors).map Hypervisor.status

variable {store store' : Store}

/-! ## One write -/

theorem hypervisorStatus_write {write : Write} (h : store.write write = .ok store')
    (name : String) : store'.hypervisorStatus name =
      match write with
      | .hypervisorStatus hypervisor =>
        if name = hypervisor.name then some hypervisor.status else store.hypervisorStatus name
      | _ => store.hypervisorStatus name := by
  cases write with
  | hypervisorStatus hypervisor =>
    obtain ⟨hypervisors, hput, rfl⟩ := write_hypervisorStatus_ok h
    exact map_lookupKey_putRow (fun _ => rfl) (fun _ => rfl) hput name
  | clusterStatus cluster =>
    obtain ⟨clusters, -, rfl⟩ := write_clusterStatus_ok h
    rfl
  | componentStatus component =>
    obtain ⟨components, -, rfl⟩ := write_componentStatus_ok h
    rfl
  | componentUpdate component =>
    obtain ⟨components, -, rfl⟩ := write_componentUpdate_ok h
    rfl

theorem key_withSpecOf {stored sent row : Component} (h : stored.withSpecOf sent = some row) :
    row.key = stored.key := by
  unfold Component.withSpecOf at h
  split_ifs at h
  cases h
  rfl

theorem Keyed.write (h : store.Keyed) {write : Write} (hwrite : store.write write = .ok store') :
    store'.Keyed := by
  have hsome : ∀ {α κ : Type} {key : α → κ} {merge : α → α → α} {sent : α},
      (∀ stored, key (merge stored sent) = key stored) →
      ∀ stored row, some (merge stored sent) = some row → key row = key stored := by
    intro α κ key merge sent hkeeps stored row heq
    cases heq
    exact hkeeps stored
  cases write with
  | hypervisorStatus hypervisor =>
    obtain ⟨hypervisors, hput, rfl⟩ := write_hypervisorStatus_ok hwrite
    exact { h with hypervisors := nodup_putRow h.hypervisors (hsome fun _ => rfl) hput }
  | clusterStatus sent =>
    obtain ⟨clusters, hput, rfl⟩ := write_clusterStatus_ok hwrite
    exact { h with clusters := nodup_putRow h.clusters (hsome fun _ => rfl) hput }
  | componentStatus component =>
    obtain ⟨components, hput, rfl⟩ := write_componentStatus_ok hwrite
    exact { h with components := nodup_putRow h.components (hsome fun _ => rfl) hput }
  | componentUpdate component =>
    obtain ⟨components, hput, rfl⟩ := write_componentUpdate_ok hwrite
    exact { h with components := nodup_putRow h.components (fun _ _ => key_withSpecOf) hput }

/-! ## A list of writes -/

/-- What every write keeps holds after the writes. -/
theorem writeAll_keeps {P : Store → Prop} {writes : List Write}
    (hkeeps : ∀ write ∈ writes, ∀ {store store'}, P store → store.write write = .ok store' →
      P store') {errorAt : Nat → Option WriteError} {i : Nat} (h : P store) :
    P (store.writeAll errorAt i writes).2 := by
  induction writes generalizing i store with
  | nil => exact h
  | cons write writes ih =>
    rw [writeAll]
    split
    · exact h
    · split
      · exact h
      next store' hwrite =>
        exact ih (fun write hmem => hkeeps write (.tail _ hmem))
          (hkeeps write (.head _) h hwrite)

/-- What one of the writes establishes and every write keeps holds after writes that succeed. -/
theorem writeAll_settles {P : Store → Prop} {writes : List Write}
    (hkeeps : ∀ write ∈ writes, ∀ {store store'}, P store → store.write write = .ok store' →
      P store') {settling : Write} (hmem : settling ∈ writes)
    (hsettles : ∀ {store store' : Store}, store.write settling = .ok store' → P store')
    {errorAt : Nat → Option WriteError} {i : Nat}
    (hok : (store.writeAll errorAt i writes).1 = none) :
    P (store.writeAll errorAt i writes).2 := by
  induction writes generalizing i store with
  | nil => cases hmem
  | cons write writes ih =>
    rw [writeAll] at hok ⊢
    cases herr : errorAt i with
    | some error => rw [herr] at hok; cases hok
    | none =>
      rw [herr] at hok
      cases hwrite : store.write write with
      | error error => rw [hwrite] at hok; cases hok
      | ok store' =>
        rw [hwrite] at hok
        have hrest : ∀ write ∈ writes, ∀ {store store'}, P store →
            store.write write = .ok store' → P store' :=
          fun write hmem => hkeeps write (.tail _ hmem)
        cases hmem with
        | head => exact writeAll_keeps hrest (hsettles hwrite)
        | tail _ hmem => exact ih hrest hmem hok

theorem Keyed.writeAll (h : store.Keyed) {errorAt : Nat → Option WriteError} {i : Nat}
    {writes : List Write} : (store.writeAll errorAt i writes).2.Keyed :=
  writeAll_keeps (fun _ _ {_ _} hkeyed hwrite => hkeyed.write hwrite) h

/-! ## Edits -/

theorem Keyed.edit (h : store.Keyed) (edit : Edit) : (store.edit edit).Keyed := by
  cases edit with
  | createComponent key cl role hyp =>
    unfold Store.edit
    dsimp only
    split_ifs with hmem
    · exact h
    · exact { h with components := nodup_map_concat h.components hmem }
  | scheduleComponent key hyp =>
    refine { h with components := ?_ }
    have hkeys : ∀ component : Component,
        (component.scheduled hyp).key = component.key := by
      intro component
      unfold Component.scheduled
      split_ifs <;> rfl
    unfold Store.edit
    rw [map_modifyKey hkeys]
    exact h.components
  | deleteComponent key now =>
    refine { h with components := h.components.sublist (map_filterMap_sublist ?_) }
    intro component comp' heq
    unfold Component.deleted requestDeletion at heq
    split_ifs at heq <;> cases heq <;> rfl
  | setVPNEnabled key enabled =>
    refine { h with clusters := ?_ }
    have hkeys : ∀ cluster : Cluster, (cluster.withVPNEnabled enabled).key = cluster.key :=
      fun _ => rfl
    unfold Store.edit
    rw [map_modifyKey hkeys]
    exact h.clusters
  | deleteCluster key now =>
    refine { h with clusters := h.clusters.sublist (map_filterMap_sublist ?_) }
    intro cluster cluster' heq
    unfold Cluster.deleted requestDeletion at heq
    split_ifs at heq <;> cases heq <;> rfl

end Store

/-! ## What the operations leave as it is -/

namespace Components

variable {σ : Type}

/-- All ports may be requested and freed. -/
def Permissions.all : Permissions := ⟨fun _ _ => True, fun _ _ => True⟩

theorem Permissions.le_all (p : Permissions) : p.Le .all :=
  ⟨fun _ _ _ => trivial, fun _ _ _ => trivial⟩

/-- A component is found with what no operation changes. -/
theorem SameFrozen.frozen_lookup {world world' : World σ} (h : SameFrozen world world')
    (name : String) :
    (lookupKey Component.name name world'.components).map Component.frozen =
      (lookupKey Component.name name world.components).map Component.frozen :=
  map_lookupKey_congr (h.map_components (fun component => (component.name, component.frozen))
    fun _ => rfl)

end Components

namespace Controllers

open Components

variable {σ : Type} (outside : Outside σ) (cluster : Cluster) (name : String)

/-- The operation on the component itself, the last one of the second phase. -/
def lastOperation (outside : Outside σ) (name : String) (component : Component) :
    ReconcileM σ Done :=
  if component.deletionTimestamp.isNone then do
    return .reconciled ((← Components.reconcile outside [name]) = [])
  else do
    return .deleted ((← reconcileDeletion outside [name]) = [])

/-- The ingress components come first, but for the deletion of a cluster and for an ingress. -/
theorem run_operations {start : World σ} {own : Component}
    (hown : lookupKey Component.name name start.components = some own) :
    (operations outside cluster name).run start =
      if cluster.deletionTimestamp.isNone ∧ own.role ≠ .controlPlaneIngress then
        (Components.reconcile outside ((Component.withRole start.components
          .controlPlaneIngress).map Component.name) >>= fun _ =>
            lastOperation outside name own).run start
      else (lastOperation outside name own).run start := by
  rw [operations, EStateM.run_bind, EStateM.run_get]
  dsimp only
  rw [EStateM.run_bind, run_component, hown]
  by_cases hingress : cluster.deletionTimestamp.isNone ∧ own.role ≠ .controlPlaneIngress
  · simp only [if_pos hingress]
    rfl
  · simp only [if_neg hingress]
    rfl

theorem performs_operations_hostPorts :
    Performs operationPermissions (operations outside cluster name) := by
  refine .bind .get fun world => .bind (performs_component name) fun component => ?_
  have hlast : Performs operationPermissions (lastOperation outside name component) := by
    unfold lastOperation
    split_ifs
    · exact .bind (performs_reconcile_hostPorts outside [name]) fun _ => .pure _
    · exact .bind (performs_reconcileDeletion_hostPorts outside [name]) fun _ => .pure _
  dsimp only
  by_cases hingress : cluster.deletionTimestamp.isNone ∧ component.role ≠ .controlPlaneIngress
  · rw [if_pos hingress]
    exact .bind (performs_reconcile_hostPorts outside _) fun _ => hlast
  · rw [if_neg hingress]
    exact hlast

theorem performs_operations : Performs Permissions.all (operations outside cluster name) :=
  (performs_operations_hostPorts outside cluster name).mono (Permissions.le_all _)

variable {outside cluster name} {store : Store} {s : σ} {world : World σ}

theorem keyed_load (h : store.Keyed) : Keyed (load store cluster s) where
  hypervisors := h.hypervisors
  components := nodup_names_withCluster h.components _ _

theorem sameFrozen_operations (h : store.Keyed) {done : Done}
    (hrun : (operations outside cluster name).run (load store cluster s) = .ok done world) :
    SameFrozen (load store cluster s) world := by
  have hsteps := performs_operations outside cluster name (load store cluster s)
  rw [hrun] at hsteps
  exact Steps.sameFrozen (keyed_load h) hsteps

/-- Operations that end found the component. -/
theorem exists_component_of_operations (h : store.Keyed) {done : Done}
    (hrun : (operations outside cluster name).run (load store cluster s) = .ok done world) :
    ∃ component, lookupKey Component.name name world.components = some component := by
  have hfound : lookupKey Component.name name (load store cluster s).components ≠ none := by
    intro hnone
    unfold operations at hrun
    rw [EStateM.run_bind, EStateM.run_get] at hrun
    dsimp only at hrun
    rw [EStateM.run_bind, run_component, hnone] at hrun
    cases hrun
  have hnames := (sameFrozen_operations h hrun).map_components Component.name (fun _ => rfl)
  refine Option.ne_none_iff_exists'.mp fun hnone => hfound ?_
  rw [lookupKey_eq_none_iff] at hnone ⊢
  rwa [← hnames]

/-- Writes of the dirty hypervisors that succeed save all hypervisors. -/
theorem hypervisorStatus_writeAll {loaded : World σ} {errorAt : Nat → Option WriteError} {i : Nat}
    {writes : List Write}
    (hwrites : ∀ hypervisor, .hypervisorStatus hypervisor ∈ writes ↔
      hypervisor ∈ world.hypervisors ∧ hypervisorDirty loaded hypervisor)
    (hnames : (world.hypervisors.map Hypervisor.name).Nodup)
    (hok : (store.writeAll errorAt i writes).1 = none)
    {hypervisor : Hypervisor} (hmem : hypervisor ∈ world.hypervisors)
    (hclean : hypervisorDirty loaded hypervisor = false →
      store.hypervisorStatus hypervisor.name = some hypervisor.status) :
    (store.writeAll errorAt i writes).2.hypervisorStatus hypervisor.name =
      some hypervisor.status := by
  -- Every write under the name of the hypervisor sends it.
  have hkeeps : ∀ write ∈ writes, ∀ {store store' : Store},
      store.hypervisorStatus hypervisor.name = some hypervisor.status →
      store.write write = .ok store' →
      store'.hypervisorStatus hypervisor.name = some hypervisor.status := by
    intro write hwrite store store' hstat hwritten
    rw [Store.hypervisorStatus_write hwritten]
    cases write with
    | hypervisorStatus sent =>
      dsimp only
      split_ifs with hname
      · have hsent := ((hwrites sent).mp hwrite).1
        rw [List.inj_on_of_nodup_map hnames hsent hmem hname.symm]
      · exact hstat
    | _ => exact hstat
  cases hdirty : hypervisorDirty loaded hypervisor with
  | false => exact Store.writeAll_keeps hkeeps (hclean hdirty)
  | true =>
    refine Store.writeAll_settles hkeeps ((hwrites hypervisor).mpr ⟨hmem, hdirty⟩) ?_ hok
    intro store store' hwritten
    rw [Store.hypervisorStatus_write hwritten]
    exact if_pos rfl

/-! ## The second phase -/

/-- A deletion that succeeds comes after a reconcile of the ingress components, or at once. -/
theorem operations_deleted {start : World σ} {found : Component}
    (hrun : (operations outside cluster name).run start = .ok (.deleted true) world)
    (hfound : lookupKey Component.name name start.components = some found) :
    found.deletionTimestamp.isSome ∧ ∃ before,
      (before = start ∨ found.role ≠ .controlPlaneIngress ∧ ∃ names errors,
        (Components.reconcile outside names).run start = .ok errors before) ∧
      (reconcileDeletion outside [name]).run before = .ok [] world := by
  -- Both ways to the last operation end with the deletion.
  have hlast : ∀ before, (lastOperation outside name found).run before =
      .ok (.deleted true) world → found.deletionTimestamp.isSome ∧
        (reconcileDeletion outside [name]).run before = .ok [] world := by
    intro before hbef
    unfold lastOperation at hbef
    cases hts : found.deletionTimestamp with
    | none =>
      rw [hts, if_pos Option.isNone_none] at hbef
      obtain ⟨errors, after, -, hpure⟩ := run_bind_eq_ok.mp hbef
      cases hpure
    | some now =>
      rw [hts, if_neg (by simp)] at hbef
      obtain ⟨errors, after, hdel, hpure⟩ := run_bind_eq_ok.mp hbef
      have hempty : errors = [] := by
        by_contra hne
        simp [hne] at hpure
      subst hempty
      cases hpure
      exact ⟨rfl, hdel⟩
  rw [run_operations _ _ _ hfound] at hrun
  split_ifs at hrun with hingress
  · obtain ⟨errors, between, hrec, hrest⟩ := run_bind_eq_ok.mp hrun
    obtain ⟨hts, hdel⟩ := hlast between hrest
    exact ⟨hts, between, .inr ⟨hingress.2, _, errors, hrec⟩, hdel⟩
  · obtain ⟨hts, hdel⟩ := hlast _ hrun
    exact ⟨hts, _, .inl rfl, hdel⟩

variable {plan : Plan} {run : Run σ}

/-- The second phase makes two lists of writes. -/
theorem reconcilePhase_of_run (hlist : plan.listFails = false) {done : Done}
    (hrun : (operations outside cluster name).run (load run.store cluster run.outside) =
      .ok done world) {component : Component}
    (hcomp : lookupKey Component.name name world.components = some component) :
    let loaded := load run.store cluster run.outside
    let written := run.store.writeAll (fun _ => plan.componentError) 0
      (componentWrite loaded component done).toList
    let final := written.2.writeAll plan.updateError 0
      (updateResources plan (loaded.setComponent component) world)
    reconcilePhase outside cluster name plan run =
      { store := final.2
        outside := world.outside
        memory := some world
        writeFailed := (run.writeFailed || written.1.isSome) || final.1.isSome } := by
  unfold reconcilePhase
  simp only [hlist, hrun, hcomp]
  rfl

/-! ## The whole run -/

/-- The store and the outside with which the second phase starts, after the edits. -/
def afterEdits (plan : RunPlan) (run : Run σ) : Run σ :=
  { run with store := plan.edits.foldl Store.edit run.store }

/-- The second phase of a run on a component, after the edits. -/
def mainPhase (outside : Outside σ) (plan : RunPlan) (cluster : Cluster) (component : Component)
    (run : Run σ) : Run σ :=
  reconcilePhase outside cluster component.name plan.main (afterEdits plan run)

/-- The run after the first phase. -/
def afterPreReconcile (outside : Outside σ) (plan : RunPlan) (cluster : Cluster)
    (component : Component) : Outcome × Run σ → Run σ
  | (.done, run) => mainPhase outside plan cluster component run
  | (_, run) => run

/-- A run that finds its component and the cluster. -/
theorem reconcile_of_lookup {runPlan : RunPlan} {component : Component} {key : ObjectKey}
    (hcomp : lookupKey Component.key key run.store.components = some component)
    (hcl : lookupKey Cluster.key (component.namespace, component.clusterName)
      run.store.clusters = some cluster) :
    reconcile outside runPlan key run =
      if component.deletionTimestamp.isSome then mainPhase outside runPlan cluster component run
      else if cluster.hasUninitializedCertificates then run
      else afterPreReconcile outside runPlan cluster component
        (preReconcilePhase outside cluster component.name runPlan.attempts retrySteps run) := by
  unfold reconcile
  rw [hcomp]
  dsimp only
  rw [hcl]
  dsimp only
  split_ifs
  · rfl
  · rfl
  · generalize preReconcilePhase outside cluster component.name runPlan.attempts retrySteps run =
      result
    obtain ⟨outcome, run'⟩ := result
    cases outcome <;> rfl

end Controllers

end OneInfra
