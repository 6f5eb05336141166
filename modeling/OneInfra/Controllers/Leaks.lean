import OneInfra.Component.Releases
import OneInfra.Controllers.Phases
import OneInfra.Lib.Reach

/-!
# What hypervisors keep of deleted components

`NoLeak` says that whatever a stored hypervisor has, a port or recorded files, belongs to a
stored component.  The controller removes the finalizer of a component before it writes the
hypervisor, and it frees the ports that the component knows of and that the VPN of the
cluster calls for.  So a component can be gone while a hypervisor still has something of it.

`Workers` are runs of the controller that are going on side by side.  A step of a run is one
attempt of its first phase or its second phase: it loads the objects, works on them and
writes them, and any of the writes may fail.  Users and other controllers edit the store
between the steps.  `exists_events_reconcile` says that `reconcile` is such a sequence of steps.

`noLeak_of_reaches` proves `NoLeak` of all runs in which, at the second phase of a component
that is being deleted, the component accounts for all that hypervisors have of it, and the
writes of the hypervisors do not fail.
-/

namespace OneInfra

open Lib Infra

namespace Store

/-- What the hypervisors have is of the components in `refs`. -/
def OnlyKeeps (refs : List ComponentRef) (store : Store) : Prop :=
  ∀ hypervisor ∈ store.hypervisors, ∀ ref, hypervisor.Keeps ref → ref ∈ refs

/-- What the hypervisors have is of stored components. -/
def NoLeak (store : Store) : Prop :=
  store.OnlyKeeps (store.components.map Component.ref)

theorem not_noLeak_of_keeps {store : Store} {ref : ComponentRef}
    (hkeeps : ∃ hypervisor ∈ store.hypervisors, hypervisor.Keeps ref)
    (hgone : ref ∉ store.components.map Component.ref) : ¬ store.NoLeak := by
  obtain ⟨hypervisor, hmem, hkeeps⟩ := hkeeps
  exact fun h => hgone (h hypervisor hmem ref hkeeps)

/-- A stored component has its finalizer until it is being deleted. -/
def Finalized (store : Store) : Prop :=
  ∀ component ∈ store.components,
    oneInfraCleanupFinalizer ∈ component.finalizers ∨ component.deletionTimestamp.isSome

/-- What a step of the controller relies on. -/
structure Intact (store : Store) : Prop where
  keyed : store.Keyed
  finalized : store.Finalized
  noLeak : store.NoLeak

variable {store store' : Store} {refs : List ComponentRef}

/-! ## Writes -/

theorem OnlyKeeps.write (h : store.OnlyKeeps refs) {write : Write}
    (hwrite : store.write write = .ok store')
    (hsent : ∀ hypervisor, write = .hypervisorStatus hypervisor →
      ∀ ref, hypervisor.Keeps ref → ref ∈ refs) : store'.OnlyKeeps refs := by
  cases write with
  | hypervisorStatus sent =>
    obtain ⟨hypervisors, hput, rfl⟩ := write_hypervisorStatus_ok hwrite
    intro hypervisor hmem ref hkeeps
    rcases mem_of_putRow hput hmem with ⟨hold, -⟩ | ⟨stored, -, -, hmerge⟩
    · exact h hypervisor hold ref hkeeps
    · cases hmerge
      exact hsent sent rfl ref ((Hypervisor.keeps_congr rfl rfl).mp hkeeps)
  | clusterStatus cluster =>
    obtain ⟨clusters, -, rfl⟩ := write_clusterStatus_ok hwrite
    exact h
  | componentStatus component =>
    obtain ⟨components, -, rfl⟩ := write_componentStatus_ok hwrite
    exact h
  | componentUpdate component =>
    obtain ⟨components, -, rfl⟩ := write_componentUpdate_ok hwrite
    exact h

/-- Only an update can remove a component. -/
theorem refs_write {write : Write} (hwrite : store.write write = .ok store')
    (hupdate : ∀ component, write ≠ .componentUpdate component) :
    store'.components.map Component.ref = store.components.map Component.ref := by
  cases write with
  | hypervisorStatus sent =>
    obtain ⟨hypervisors, -, rfl⟩ := write_hypervisorStatus_ok hwrite
    rfl
  | clusterStatus cluster =>
    obtain ⟨clusters, -, rfl⟩ := write_clusterStatus_ok hwrite
    rfl
  | componentStatus component =>
    obtain ⟨components, hput, rfl⟩ := write_componentStatus_ok hwrite
    dsimp only
    rw [putRow_some hput]
    exact map_modifyKey fun _ => rfl
  | componentUpdate component => exact absurd rfl (hupdate component)

/-- An update keeps the other components. -/
theorem mem_refs_update {component : Component}
    (hwrite : store.write (.componentUpdate component) = .ok store')
    (hcl : ∀ stored ∈ store.components, stored.key = component.key →
      stored.ref = component.ref) {ref : ComponentRef}
    (href : ref ∈ store.components.map Component.ref) (hne : ref ≠ component.ref) :
    ref ∈ store'.components.map Component.ref := by
  obtain ⟨components, hput, rfl⟩ := write_componentUpdate_ok hwrite
  obtain ⟨stored, hst, rfl⟩ := List.mem_map.mp href
  obtain ⟨-, -, -, rfl⟩ := putRow_eq_ok.mp hput
  refine List.mem_map_of_mem (List.mem_filterMap.mpr ⟨stored, hst, ?_⟩)
  exact if_neg fun hkey => hne (hcl stored hst hkey)

theorem Finalized.write (h : store.Finalized) {write : Write}
    (hwrite : store.write write = .ok store')
    (hupdate : ∀ component, write = .componentUpdate component →
      ∀ stored ∈ store.components, stored.key = component.key →
        stored.deletionTimestamp.isSome) : store'.Finalized := by
  cases write with
  | hypervisorStatus sent =>
    obtain ⟨hypervisors, -, rfl⟩ := write_hypervisorStatus_ok hwrite
    exact h
  | clusterStatus cluster =>
    obtain ⟨clusters, -, rfl⟩ := write_clusterStatus_ok hwrite
    exact h
  | componentStatus component =>
    obtain ⟨components, hput, rfl⟩ := write_componentStatus_ok hwrite
    intro row hrow
    rcases mem_of_putRow hput hrow with ⟨hold, -⟩ | ⟨stored, hst, -, hmerge⟩
    · exact h row hold
    · cases hmerge
      exact h stored hst
  | componentUpdate component =>
    obtain ⟨components, hput, rfl⟩ := write_componentUpdate_ok hwrite
    intro row hrow
    rcases mem_of_putRow hput hrow with ⟨hold, -⟩ | ⟨stored, hst, hkey, hmerge⟩
    · exact h row hold
    · right
      have hts := hupdate component rfl stored hst hkey
      unfold Component.withSpecOf at hmerge
      split_ifs at hmerge
      cases hmerge
      exact hts

theorem names_write {write : Write} (hwrite : store.write write = .ok store') :
    store'.hypervisors.map Hypervisor.name = store.hypervisors.map Hypervisor.name := by
  cases write with
  | hypervisorStatus sent =>
    obtain ⟨hypervisors, hput, rfl⟩ := write_hypervisorStatus_ok hwrite
    dsimp only
    rw [putRow_some hput]
    exact map_modifyKey fun _ => rfl
  | clusterStatus cluster =>
    obtain ⟨clusters, -, rfl⟩ := write_clusterStatus_ok hwrite
    rfl
  | componentStatus component =>
    obtain ⟨components, -, rfl⟩ := write_componentStatus_ok hwrite
    rfl
  | componentUpdate component =>
    obtain ⟨components, -, rfl⟩ := write_componentUpdate_ok hwrite
    rfl

/-! ## Lists of writes -/

theorem names_writeAll (errorAt : Nat → Option WriteError) (i : Nat) (writes : List Write) :
    (store.writeAll errorAt i writes).2.hypervisors.map Hypervisor.name =
      store.hypervisors.map Hypervisor.name := by
  refine writeAll_keeps (P := fun store' => store'.hypervisors.map Hypervisor.name =
    store.hypervisors.map Hypervisor.name) ?_ rfl
  intro write _ before after hnames hwrite
  rw [names_write hwrite, hnames]

/-- At most one write. -/
theorem writeAll_toList_cases (errorAt : Nat → Option WriteError) (write : Option Write) :
    (store.writeAll errorAt 0 write.toList).2 = store ∨
      ∃ sent, write = some sent ∧
        store.write sent = .ok (store.writeAll errorAt 0 write.toList).2 := by
  cases write with
  | none => exact .inl rfl
  | some sent =>
    rw [Option.toList_some, writeAll]
    cases errorAt 0 with
    | some error => exact .inl rfl
    | none =>
      dsimp only
      cases hwrite : store.write sent with
      | error error => exact .inl rfl
      | ok store' => exact .inr ⟨sent, rfl, hwrite⟩

theorem writeAll_append (errorAt : Nat → Option WriteError) (i : Nat) (writes writes' : List Write)
    (store : Store) :
    store.writeAll errorAt i (writes ++ writes') =
      match store.writeAll errorAt i writes with
      | (none, store) => store.writeAll errorAt (i + writes.length) writes'
      | (some error, store) => (some error, store) := by
  induction writes generalizing i store with
  | nil => rfl
  | cons write writes ih =>
    rw [List.cons_append, writeAll, writeAll]
    cases errorAt i with
    | some error => rfl
    | none =>
      dsimp only
      cases store.write write with
      | error error => rfl
      | ok store =>
        dsimp only
        rw [ih, List.length_cons, Nat.add_assoc, Nat.add_comm 1]

/-- Hypervisors that are stored in the version in which they are sent are written. -/
theorem writeAll_hypervisors {hypervisors : List Hypervisor}
    (hnames : (hypervisors.map Hypervisor.name).Nodup)
    (hvers : ∀ hypervisor ∈ hypervisors,
      (lookupKey Hypervisor.name hypervisor.name store.hypervisors).map
        Hypervisor.resourceVersion = some hypervisor.resourceVersion) (i : Nat) :
    (store.writeAll (fun _ => none) i (hypervisors.map .hypervisorStatus)).1 = none := by
  induction hypervisors generalizing i store with
  | nil => rfl
  | cons hypervisor hypervisors ih =>
    obtain ⟨hhead, htail⟩ := List.forall_mem_cons.mp hvers
    rw [List.map_cons, List.nodup_cons] at hnames
    obtain ⟨stored, hst, hver⟩ := Option.map_eq_some_iff.mp hhead
    have hput : putRow Hypervisor.name Hypervisor.resourceVersion
        (fun stored sent => some (stored.withStatusOf sent)) hypervisor store.hypervisors = .ok _ :=
      putRow_eq_ok.mpr ⟨stored, hst, hver, rfl⟩
    have hwrite : store.write (.hypervisorStatus hypervisor) = .ok { store with
        hypervisors := store.hypervisors.filterMap fun row =>
          if row.name = hypervisor.name then some (row.withStatusOf hypervisor)
          else some row } := by
      rw [Store.write, hput]
      rfl
    rw [List.map_cons, writeAll]
    dsimp only
    rw [hwrite]
    refine ih hnames.2 (fun other hother => ?_) (i + 1)
    have hne : other.name ≠ hypervisor.name := fun heq =>
      hnames.1 (heq ▸ List.mem_map_of_mem hother)
    rw [lookupKey_putRow_of_ne (fun _ _ hmerge => by cases hmerge; rfl) hput hne]
    exact htail other hother

/-! ## Edits -/

theorem OnlyKeeps.edit (h : store.OnlyKeeps refs) (edit : Edit) :
    (store.edit edit).OnlyKeeps refs := by
  cases edit with
  | createComponent key cl role hyp =>
    rw [Store.edit]
    split
    · exact h
    · exact h
  | _ => exact h

theorem Finalized.edit (h : store.Finalized) (edit : Edit) : (store.edit edit).Finalized := by
  cases edit with
  | createComponent key cl role hyp =>
    rw [Store.edit]
    split
    · exact h
    · intro component hmem
      rcases List.mem_append.mp hmem with hold | hnew
      · exact h component hold
      · rw [List.mem_singleton] at hnew
        subst hnew
        exact .inl (.head _)
  | scheduleComponent key hyp =>
    refine forall_mem_modifyKey h fun component _ hcomp => ?_
    unfold Component.scheduled
    split
    · exact hcomp
    · exact hcomp
  | deleteComponent key now =>
    intro component hmem
    obtain ⟨stored, hst, hdel⟩ := List.mem_filterMap.mp hmem
    split_ifs at hdel
    · unfold Component.deleted requestDeletion at hdel
      split_ifs at hdel
      · cases hdel
        exact h _ hst
      · cases hdel
        exact .inr rfl
    · cases hdel
      exact h _ hst
  | setVPNEnabled key enabled => exact h
  | deleteCluster key now => exact h

/-- No edit removes a component that has its finalizer. -/
theorem Finalized.refs_edit (h : store.Finalized) (edit : Edit) {ref : ComponentRef}
    (href : ref ∈ store.components.map Component.ref) :
    ref ∈ (store.edit edit).components.map Component.ref := by
  cases edit with
  | createComponent key cl role hyp =>
    rw [Store.edit]
    split
    · exact href
    · rw [List.map_append]
      exact List.mem_append_left _ href
  | scheduleComponent key hyp =>
    have hsame : ∀ component : Component,
        (component.scheduled hyp).ref = component.ref := by
      intro component
      unfold Component.scheduled
      split
      · rfl
      · rfl
    show ref ∈ (modifyKey _ _ _ _).map _
    rw [map_modifyKey hsame]
    exact href
  | deleteComponent key now =>
    obtain ⟨stored, hst, rfl⟩ := List.mem_map.mp href
    have hkept : ∃ component, (if stored.key = key then stored.deleted now else some stored) =
        some component ∧ component.ref = stored.ref := by
      split_ifs
      · unfold Component.deleted requestDeletion
        split_ifs with hts hfins
        · exact ⟨stored, rfl, rfl⟩
        · rcases h stored hst with hfin | hdel
          · rw [hfins] at hfin
            cases hfin
          · exact absurd hdel hts
        · exact ⟨_, rfl, rfl⟩
      · exact ⟨stored, rfl, rfl⟩
    obtain ⟨component, hcomp, heq⟩ := hkept
    rw [← heq]
    exact List.mem_map_of_mem (List.mem_filterMap.mpr ⟨stored, hst, hcomp⟩)
  | setVPNEnabled key enabled => exact href
  | deleteCluster key now => exact href

theorem NoLeak.edit (h : store.NoLeak) (hfin : store.Finalized) (edit : Edit) :
    (store.edit edit).NoLeak := by
  intro hypervisor hmem ref hkeeps
  exact hfin.refs_edit edit (OnlyKeeps.edit h edit hypervisor hmem ref hkeeps)

end Store

namespace Controllers

open Components

variable {σ : Type} {outside : Outside σ} {cluster : Cluster} {name : String} {store : Store}
  {s : σ} {world : World σ}

/-! ## In memory -/

/-- The names of an allocation say for which component it is. -/
theorem ref_eq_of_allocation {component : Component} {ref : ComponentRef}
    {portName portName' : String} {port : Int64} (hportName : portName ∈ hostPortNames)
    (hportName' : portName' ∈ hostPortNames)
    (hclNs : (component.allocation portName' port).clusterNamespace = ref.clusterNamespace)
    (hclName : (component.allocation portName' port).cluster = ref.clusterName)
    (hcomp : (component.allocation portName' port).component =
      ref.componentName ++ "-" ++ portName) : component.ref = ref := by
  have hinj := @Component.withSubcomponentName_inj component
    { component with name := ref.componentName } portName' portName hportName' hportName hcomp
  cases ref
  simp only [Component.ref, ComponentRef.mk.injEq]
  exact ⟨hclNs, hclName, hinj.1⟩

/-- The components that are loaded are stored, and of the cluster. -/
theorem mem_load_components {component : Component}
    (h : component ∈ (load store cluster s).components) :
    component ∈ store.components ∧ cluster.namespace = component.namespace ∧
      cluster.name = component.clusterName := by
  obtain ⟨hmem, hcl⟩ := List.mem_filter.mp h
  simp only [decide_eq_true_eq] at hcl
  exact ⟨hmem, hcl.1.symm, hcl.2.symm⟩

/-- What a hypervisor has in memory is of a stored component. -/
theorem mem_refs_of_steps {p : Permissions} (hno : store.NoLeak)
    (hnames : ∀ other portName, p.requests other portName → portName ∈ hostPortNames)
    (hsteps : Steps p (load store cluster s) world) {hypervisor : Hypervisor}
    (hmem : hypervisor ∈ world.hypervisors) {ref : ComponentRef} (hkeeps : hypervisor.Keeps ref) :
    ref ∈ store.components.map Component.ref := by
  obtain ⟨before, hbef, horigin⟩ := Steps.hypervisor_origin hsteps hmem
  rcases hkeeps with ⟨portName, hportName, allocation, halloc, hns, hcl, hcomp⟩ |
    hfs
  · rcases horigin.added allocation halloc with hold |
      ⟨component, hloaded, -, portName', port, hallowed, rfl⟩
    · exact hno before hbef ref
        (.inl ⟨portName, hportName, allocation, hold, hns, hcl, hcomp⟩)
    · rw [← ref_eq_of_allocation hportName (hnames _ _ hallowed) hns hcl hcomp]
      exact List.mem_map_of_mem (mem_load_components hloaded).1
  · rcases horigin.files _ _ _ hfs with hold | ⟨hns, hcl, component, hloaded, -, hname⟩
    · exact hno before hbef ref (.inr hold)
    · obtain ⟨hst, hns', hcl'⟩ := mem_load_components hloaded
      have heq : component.ref = ref := by
        cases ref
        simp only [Component.ref, ComponentRef.mk.injEq]
        exact ⟨(hns.trans hns').symm, (hcl.trans hcl').symm, hname⟩
      rw [← heq]
      exact List.mem_map_of_mem hst

/-- A component that accounts for everything leaves nothing when it is deleted. -/
theorem released_operations (hkeyed : store.Keyed) {component : Component}
    (hfound : lookupKey Component.name name (load store cluster s).components = some component)
    (haccounted : Accounted (freedPorts cluster component.role) component store.hypervisors)
    (hrun : (operations outside cluster name).run (load store cluster s) =
      .ok (.deleted true) world) : Released component world := by
  obtain ⟨hmem, hname⟩ := lookupKey_some_mem hfound
  have hcl := (mem_load_components hmem).2
  subst hname
  have hstart : Releasing cluster component (freedPorts cluster component.role) []
      (load store cluster s) :=
    ⟨keyed_load hkeyed, rfl, component, hfound, rfl, haccounted,
      fun _ hgone => absurd hgone List.not_mem_nil⟩
  obtain ⟨-, before, hbef, hdel⟩ := operations_deleted hrun hfound
  have hreleasing : Releasing cluster component (freedPorts cluster component.role) [] before := by
    rcases hbef with rfl | ⟨hrole, names, errors, hrec⟩
    · exact hstart
    · exact (frees_reconcile outside hrole names (load store cluster s) hstart).1 errors before
        hrec
  exact (releases_reconcileDeletion outside hcl before hreleasing).1 [] world hdel rfl

/-! ## What the phases write -/

section Update

variable {current : Store} {refs : List ComponentRef} {plan : Plan} {loaded : World σ}
  {errorAt : Nat → Option WriteError} {i : Nat}

/-- The writes of `UpdateResources` bring what the hypervisors have in memory. -/
theorem onlyKeeps_updateResources (h : current.OnlyKeeps refs)
    (hmemory : ∀ hypervisor ∈ world.hypervisors, ∀ ref, hypervisor.Keeps ref → ref ∈ refs) :
    (current.writeAll errorAt i (updateResources plan loaded world)).2.OnlyKeeps refs := by
  refine Store.writeAll_keeps (P := fun store => store.OnlyKeeps refs) ?_ h
  intro write hmem before after hkeeps hwrite
  refine hkeeps.write hwrite fun hypervisor heq ref => ?_
  subst heq
  exact hmemory hypervisor (hypervisorStatus_mem_updateResources.mp hmem).1 ref

/-- They remove no component. -/
theorem refs_updateResources :
    (current.writeAll errorAt i (updateResources plan loaded world)).2.components.map
      Component.ref = current.components.map Component.ref := by
  refine Store.writeAll_keeps (P := fun store => store.components.map Component.ref =
    current.components.map Component.ref) ?_ rfl
  intro write hmem before after hrefs hwrite
  rw [Store.refs_write hwrite fun component heq =>
    componentUpdate_notMem_updateResources (heq ▸ hmem), hrefs]

theorem finalized_updateResources (h : current.Finalized) :
    (current.writeAll errorAt i (updateResources plan loaded world)).2.Finalized := by
  refine Store.writeAll_keeps (P := fun store => store.Finalized) ?_ h
  intro write hmem before after hfin hwrite
  refine hfin.write hwrite fun component heq => ?_
  subst heq
  exact absurd hmem componentUpdate_notMem_updateResources

/-- They save all hypervisors if no write fails from outside. -/
theorem hypervisorStatus_update (hnames : (world.hypervisors.map Hypervisor.name).Nodup)
    (hvers : ∀ hypervisor ∈ world.hypervisors,
      (lookupKey Hypervisor.name hypervisor.name current.hypervisors).map
        Hypervisor.resourceVersion = some hypervisor.resourceVersion)
    {hypervisor : Hypervisor} (hmem : hypervisor ∈ world.hypervisors)
    (hclean : hypervisorDirty loaded hypervisor = false →
      current.hypervisorStatus hypervisor.name = some hypervisor.status) :
    (current.writeAll (fun _ => none) 0
      (updateResources plan loaded world)).2.hypervisorStatus hypervisor.name =
        some hypervisor.status := by
  unfold updateResources
  rw [List.append_assoc, Store.writeAll_append]
  have hperm := plan.order_perm world.hypervisors
  have hdirty : ((((plan.order world.hypervisors).filter (hypervisorDirty loaded)).map
      Hypervisor.name)).Nodup :=
    ((hperm.map _).nodup_iff.mpr hnames).sublist (List.filter_sublist.map _)
  have hok := Store.writeAll_hypervisors hdirty (fun other hother =>
    hvers other (hperm.mem_iff.mp (List.mem_filter.mp hother).1)) 0
  have hwrites : ∀ other, .hypervisorStatus other ∈ ((plan.order world.hypervisors).filter
      (hypervisorDirty loaded)).map Write.hypervisorStatus ↔
      other ∈ world.hypervisors ∧ hypervisorDirty loaded other := by
    intro other
    simp [hperm.mem_iff]
  have hsaved := hypervisorStatus_writeAll hwrites hnames hok hmem hclean
  rcases hfirst : current.writeAll (fun _ => none) 0 (((plan.order world.hypervisors).filter
    (hypervisorDirty loaded)).map Write.hypervisorStatus) with ⟨error, written⟩
  rw [hfirst] at hok hsaved
  subst hok
  -- the other writes are not of hypervisors
  refine Store.writeAll_keeps (P := fun store => store.hypervisorStatus hypervisor.name =
    some hypervisor.status) ?_ hsaved
  intro write hother before after hstat hwrite
  rw [Store.hypervisorStatus_write hwrite]
  cases write with
  | hypervisorStatus sent =>
    split_ifs at hother
    · simp at hother
    · simp at hother
  | _ => exact hstat

end Update

/-! ## The first phase -/

variable {plan : Plan} {run : Run σ}

/-- An attempt writes what it has in memory, or nothing. -/
theorem store_preReconcileAttempt (outside : Outside σ) (cluster : Cluster) (name : String)
    (plan : Plan) (run : Run σ) :
    (preReconcileAttempt outside cluster name plan run).2.store = run.store ∨
      ∃ errors world,
        (preReconcile outside [name]).run (load run.store cluster run.outside) =
          .ok errors world ∧
        (preReconcileAttempt outside cluster name plan run).2.store =
          (run.store.writeAll plan.updateError 0
            (updateResources plan (load run.store cluster run.outside) world)).2 := by
  unfold preReconcileAttempt
  split
  · exact .inl rfl
  dsimp only
  cases hrun : (preReconcile outside [name]).run (load run.store cluster run.outside) with
  | error fault world => exact .inl rfl
  | ok errors world =>
    dsimp only
    split
    · exact .inl rfl
    split
    · refine .inr ⟨errors, world, rfl, ?_⟩
      unfold Run.update
      rcases run.store.writeAll plan.updateError 0
        (updateResources plan (load run.store cluster run.outside) world) with ⟨error, store⟩
      rcases error with _ | error
      · rfl
      · cases error with
        | conflict => rfl
        | notFound => rfl
        | other message => rfl
    · exact .inl rfl

theorem intact_preReconcileAttempt (h : run.store.Intact) :
    (preReconcileAttempt outside cluster name plan run).2.store.Intact := by
  rcases store_preReconcileAttempt outside cluster name plan run with hsame |
    ⟨errors, world, hrun, hstore⟩
  · rw [hsame]
    exact h
  · have hsteps := (performs_preReconcile outside name).of_run hrun
    have hnames : ∀ other portName, (preReconcilePermissions name).requests other portName →
        portName ∈ hostPortNames := fun _ _ hreq => hreq.2
    rw [hstore]
    refine ⟨h.keyed.writeAll, finalized_updateResources h.finalized, ?_⟩
    unfold Store.NoLeak
    rw [refs_updateResources]
    exact onlyKeeps_updateResources h.noLeak fun hypervisor hmem ref hkeeps =>
      mem_refs_of_steps h.noLeak hnames hsteps hmem hkeeps

/-! ## The second phase -/

/-- A component that is being deleted accounts for all that hypervisors have of it, and they
can be written. -/
def DeletionSafe (store : Store) (cluster : Cluster) (name : String) (plan : Plan) : Prop :=
  ∀ component, lookupKey Component.name name
      (Component.withCluster store.components cluster.namespace cluster.name) = some component →
    component.deletionTimestamp.isSome →
    Accounted (freedPorts cluster component.role) component store.hypervisors ∧
      ∀ i, plan.updateError i = none

/-- The hypervisors of the store are as they are in memory after the writes of a deletion. -/
theorem keeps_of_written (h : store.Keyed) {p : Permissions} {loaded : World σ} {current : Store}
    (hsteps : Steps p (load store cluster s) world)
    (hloaded : loaded.hypervisors = store.hypervisors)
    (hcur : current.hypervisors = store.hypervisors) {hypervisor : Hypervisor}
    (hmem : hypervisor ∈ (current.writeAll (fun _ => none) 0
      (updateResources plan loaded world)).2.hypervisors) {ref : ComponentRef}
    (hkeeps : hypervisor.Keeps ref) :
    ∃ memory ∈ world.hypervisors, memory.Keeps ref := by
  have hkeyed : Keyed (load store cluster s) := keyed_load h
  have hnames : world.hypervisors.map Hypervisor.name = store.hypervisors.map Hypervisor.name :=
    (Steps.sameFrozen hkeyed hsteps).map_hypervisors Hypervisor.name fun _ => rfl
  have hnd : (world.hypervisors.map Hypervisor.name).Nodup := hnames ▸ h.hypervisors
  have hvers : ∀ memory ∈ world.hypervisors,
      (lookupKey Hypervisor.name memory.name current.hypervisors).map Hypervisor.resourceVersion =
        some memory.resourceVersion := by
    intro memory hmemory
    obtain ⟨before, hbef, horigin⟩ := Steps.hypervisor_origin hsteps hmemory
    have hver : memory.frozen.resourceVersion = before.frozen.resourceVersion :=
      congrArg Hypervisor.resourceVersion horigin.frozen
    rw [hcur, (lookupKey_eq_some_iff h.hypervisors).mpr ⟨hbef, horigin.name_eq.symm⟩]
    exact congrArg some hver.symm
  -- the stored hypervisor is the one in memory under its name
  have hwritten := @Store.names_writeAll current (fun _ => none) 0
    (updateResources plan loaded world)
  rw [hcur, ← hnames] at hwritten
  have hname : hypervisor.name ∈ world.hypervisors.map Hypervisor.name := by
    rw [← hwritten]
    exact List.mem_map_of_mem hmem
  obtain ⟨memory, hmemory, heq⟩ := List.mem_map.mp hname
  have hstat : (current.writeAll (fun _ => none) 0
      (updateResources plan loaded world)).2.hypervisorStatus memory.name = some memory.status := by
    refine hypervisorStatus_update hnd hvers hmemory fun hclean => ?_
    have hsame : lookupKey Hypervisor.name memory.name loaded.hypervisors = some memory := by
      simpa [hypervisorDirty] using hclean
    rw [Store.hypervisorStatus, hcur, ← hloaded, hsame]
    rfl
  have hlk := (lookupKey_eq_some_iff (hwritten ▸ hnd)).mpr ⟨hmem, heq.symm⟩
  rw [Store.hypervisorStatus, hlk, Option.map_some, Option.some_inj] at hstat
  simp only [Hypervisor.status, Prod.mk.injEq] at hstat
  exact ⟨memory, hmemory, (Hypervisor.keeps_congr hstat.2.2 hstat.1).mp hkeeps⟩

/-- The controller writes the status of the component, removes it after a deletion, or writes
nothing. -/
theorem writeAll_componentWrite_cases {loaded : World σ} {component : Component} {done : Done}
    {errorAt : Nat → Option WriteError} {written : Store}
    (hwritten : (store.writeAll errorAt 0 (componentWrite loaded component done).toList).2 =
      written) :
    written = store ∨ store.write (.componentStatus component) = .ok written ∨
      done = .deleted true ∧ store.write (.componentUpdate component) = .ok written := by
  subst hwritten
  rcases store.writeAll_toList_cases errorAt (componentWrite loaded component done) with hsame |
    ⟨sent, hsent, hwrite⟩
  · exact .inl hsame
  · unfold componentWrite at hsent
    split at hsent
    · split_ifs at hsent
      cases hsent
      exact .inr (.inl hwrite)
    · cases hsent
      exact .inr (.inr ⟨rfl, hwrite⟩)
    all_goals cases hsent

/-- The component that the operations end with is the stored one. -/
theorem exists_stored_of_operations (h : store.Keyed) {done : Done}
    (hrun : (operations outside cluster name).run (load store cluster s) = .ok done world)
    {component : Component}
    (hcomp : lookupKey Component.name name world.components = some component) :
    ∃ found, lookupKey Component.name name (load store cluster s).components = some found ∧
      found.ref = component.ref ∧
      ∀ stored ∈ store.components, stored.key = component.key → stored = found := by
  have hfrz := (sameFrozen_operations h hrun).frozen_lookup name
  rw [hcomp, Option.map_some] at hfrz
  obtain ⟨found, hfound, hsame⟩ := Option.map_eq_some_iff.mp hfrz.symm
  refine ⟨found, hfound, Component.ref_eq_of_frozen hsame, fun stored hst hkey => ?_⟩
  have hkey' : found.frozen.key = component.frozen.key := congrArg Component.key hsame
  exact List.inj_on_of_nodup_map h.components hst
    (mem_load_components (lookupKey_some_mem hfound).1).1 (hkey.trans hkey'.symm)

/-- The writes of the second phase. -/
theorem intact_writes (h : store.Intact) (hsafe : DeletionSafe store cluster name plan)
    {done : Done}
    (hrun : (operations outside cluster name).run (load store cluster s) = .ok done world)
    {component : Component}
    (hcomp : lookupKey Component.name name world.components = some component)
    {errorAt : Nat → Option WriteError} {written : Store}
    (hwritten : (store.writeAll errorAt 0
      (componentWrite (load store cluster s) component done).toList).2 = written) :
    (written.writeAll plan.updateError 0 (updateResources plan
      ((load store cluster s).setComponent component) world)).2.Intact := by
  have hkeyed : written.Keyed := hwritten ▸ h.keyed.writeAll
  have hsteps := (performs_operations_hostPorts outside cluster name).of_run hrun
  have hnames : ∀ other portName, operationPermissions.requests other portName →
      portName ∈ hostPortNames := fun _ _ hreq => hreq
  have hmemory : ∀ hypervisor ∈ world.hypervisors, ∀ ref, hypervisor.Keeps ref →
      ref ∈ store.components.map Component.ref := fun _ hmem _ hkeeps =>
    mem_refs_of_steps h.noLeak hnames hsteps hmem hkeeps
  obtain ⟨found, hfound, href, hst⟩ := exists_stored_of_operations h.keyed hrun hcomp
  rcases writeAll_componentWrite_cases hwritten with rfl | hwrite | ⟨rfl, hwrite⟩
  · refine ⟨hkeyed.writeAll, finalized_updateResources h.finalized, ?_⟩
    unfold Store.NoLeak
    rw [refs_updateResources]
    exact onlyKeeps_updateResources h.noLeak hmemory
  · have hrefs := Store.refs_write hwrite fun _ => nofun
    refine ⟨hkeyed.writeAll,
      finalized_updateResources (h.finalized.write hwrite fun _ => nofun), ?_⟩
    unfold Store.NoLeak
    rw [refs_updateResources, hrefs]
    exact onlyKeeps_updateResources (h.noLeak.write hwrite fun _ => nofun) hmemory
  · -- the component may be gone, and then the hypervisors are written
    obtain ⟨hts, -⟩ := operations_deleted hrun hfound
    obtain ⟨haccounted, herrs⟩ := hsafe found hfound hts
    have hreleased := released_operations h.keyed hfound haccounted hrun
    have hnone : plan.updateError = fun _ => none := funext herrs
    rw [hnone]
    refine ⟨hkeyed.writeAll, finalized_updateResources (h.finalized.write hwrite ?_), ?_⟩
    · rintro sent ⟨rfl⟩ stored hmem hkey
      rw [hst stored hmem hkey]
      exact hts
    · unfold Store.NoLeak
      rw [refs_updateResources]
      intro hypervisor hmem ref hkeeps
      refine Store.mem_refs_update hwrite (fun stored hmem hkey => ?_) ?_ fun heq => ?_
      · rw [hst stored hmem hkey, href]
      · exact onlyKeeps_updateResources (h.noLeak.write hwrite fun _ => nofun) hmemory hypervisor
          hmem ref hkeeps
      · have hcur : written.hypervisors = store.hypervisors := by
          obtain ⟨components, -, rfl⟩ := Store.write_componentUpdate_ok hwrite
          rfl
        obtain ⟨memory, hmem', hkeeps'⟩ :=
          keeps_of_written h.keyed hsteps rfl hcur hmem hkeeps
        rw [heq, ← href] at hkeeps'
        exact hreleased memory hmem' hkeeps'

theorem intact_reconcilePhase (h : run.store.Intact)
    (hsafe : DeletionSafe run.store cluster name plan) :
    (reconcilePhase outside cluster name plan run).store.Intact := by
  cases hlist : plan.listFails with
  | true =>
    unfold reconcilePhase
    rw [hlist]
    exact h
  | false =>
    cases hrun : (operations outside cluster name).run (load run.store cluster run.outside) with
    | error fault world =>
      unfold reconcilePhase
      simp only [hlist, hrun]
      exact h
    | ok done world =>
      obtain ⟨component, hcomp⟩ := exists_component_of_operations h.keyed hrun
      rw [reconcilePhase_of_run hlist hrun hcomp]
      exact intact_writes h hsafe hrun hcomp rfl

/-! ## Runs side by side -/

/-- The phase that a run is at, and the retries of the first phase that are left. -/
inductive Stage
  | preReconcile (retries : Nat)
  | reconcile
deriving DecidableEq

/-- A run of the controller, with the cluster that it read. -/
structure Worker where
  cluster : Cluster
  name : String
  stage : Stage

/-- The store, and the runs that are going on. -/
structure Workers (σ : Type) where
  store : Store
  outside : σ
  running : List Worker := []

/-- What happens: an edit, the start of a run, or a phase of the run at a position. -/
inductive WorkersEvent
  | edit (edit : Edit)
  | start (key : ObjectKey)
  | phase (plan : Plan) (i : Nat)

/-! ### `Reconcile` as a sequence of phases -/

/-- The store and the outside after a run. -/
def Run.shared (run : Run σ) : Run σ := { store := run.store, outside := run.outside }

/-- What a run has in memory does not matter to an attempt. -/
theorem preReconcileAttempt_shared :
    (preReconcileAttempt outside cluster name plan run.shared).1 =
        (preReconcileAttempt outside cluster name plan run).1 ∧
      (preReconcileAttempt outside cluster name plan run.shared).2.shared =
        (preReconcileAttempt outside cluster name plan run).2.shared := by
  obtain ⟨store, s, memory, writeFailed⟩ := run
  unfold preReconcileAttempt Run.shared Run.update
  dsimp only
  cases hlist : plan.listFails with
  | true => exact ⟨rfl, rfl⟩
  | false =>
    simp only [Bool.false_eq_true, if_false]
    cases (preReconcile outside [name]).run (load store cluster s) with
    | error fault world => exact ⟨rfl, rfl⟩
    | ok errors world =>
      dsimp only
      split_ifs
      · exact ⟨rfl, rfl⟩
      · rcases store.writeAll plan.updateError 0
          (updateResources plan (load store cluster s) world) with ⟨_ | error, written⟩
        · exact ⟨rfl, rfl⟩
        · cases error with
          | _ => exact ⟨rfl, rfl⟩
      · exact ⟨rfl, rfl⟩

theorem reconcilePhase_shared :
    (reconcilePhase outside cluster name plan run.shared).shared =
      (reconcilePhase outside cluster name plan run).shared := by
  obtain ⟨store, s, memory, writeFailed⟩ := run
  unfold reconcilePhase Run.shared
  dsimp only
  split_ifs
  · rfl
  · cases (operations outside cluster name).run (load store cluster s) with
    | error fault world => rfl
    | ok done world =>
      dsimp only
      cases lookupKey Component.name name world.components with
      | none => rfl
      | some component => rfl
namespace Workers

variable {workers workers' : Workers σ}

/-- The run of a component begins. -/
def start (workers : Workers σ) (key : ObjectKey) : List Worker :=
  match lookupKey Component.key key workers.store.components with
  | none => workers.running
  | some component =>
    match lookupKey Cluster.key (component.namespace, component.clusterName)
      workers.store.clusters with
    | none => workers.running
    | some cluster =>
      if component.deletionTimestamp.isSome then
        workers.running ++ [⟨cluster, component.name, .reconcile⟩]
      else if cluster.hasUninitializedCertificates then workers.running
      else workers.running ++ [⟨cluster, component.name, .preReconcile (retrySteps - 1)⟩]

/-- The runs after an attempt of the first phase. -/
def afterAttempt (running : List Worker) (i : Nat) (worker : Worker) :
    Outcome → (retries : Nat) → List Worker
  | .done, _ => running.set i { worker with stage := .reconcile }
  | .conflict, retries + 1 => running.set i { worker with stage := .preReconcile retries }
  | _, _ => running.eraseIdx i

/-- The next phase of a run. -/
def phase (outside : Outside σ) (workers : Workers σ) (plan : Plan) (i : Nat) (worker : Worker) :
    Workers σ :=
  let run : Run σ := { store := workers.store, outside := workers.outside }
  match worker.stage with
  | .preReconcile retries =>
    let (outcome, run) := preReconcileAttempt outside worker.cluster worker.name plan run
    ⟨run.store, run.outside, afterAttempt workers.running i worker outcome retries⟩
  | .reconcile =>
    let run := reconcilePhase outside worker.cluster worker.name plan run
    ⟨run.store, run.outside, workers.running.eraseIdx i⟩

/-- The state after an event. -/
def step (outside : Outside σ) (workers : Workers σ) : WorkersEvent → Workers σ
  | .edit edit => { workers with store := workers.store.edit edit }
  | .start key => { workers with running := workers.start key }
  | .phase plan i =>
    match workers.running[i]? with
    | none => workers
    | some worker => workers.phase outside plan i worker

/-- The run `worker` is the only one. -/
def single (run : Run σ) (worker : Worker) : Workers σ := ⟨run.store, run.outside, [worker]⟩

/-- No run is going on. -/
def idle (run : Run σ) : Workers σ := ⟨run.store, run.outside, []⟩

theorem step_preReconcile (outside : Outside σ) (plan : Plan) (worker : Worker) (retries : Nat)
    (run : Run σ) :
    step outside (single run { worker with stage := .preReconcile retries }) (.phase plan 0) =
      match preReconcileAttempt outside worker.cluster worker.name plan run, retries with
      | (.done, run), _ => single run { worker with stage := .reconcile }
      | (.conflict, run), retries + 1 => single run { worker with stage := .preReconcile retries }
      | (_, run), _ => idle run := by
  have hphase : step outside (single run { worker with stage := .preReconcile retries })
      (.phase plan 0) =
        let result := preReconcileAttempt outside worker.cluster worker.name plan run.shared
        ⟨result.2.shared.store, result.2.shared.outside,
          afterAttempt [{ worker with stage := .preReconcile retries }] 0
            { worker with stage := .preReconcile retries } result.1 retries⟩ := rfl
  obtain ⟨hout, hshared⟩ := @preReconcileAttempt_shared σ outside worker.cluster worker.name
    plan run
  rw [hphase]
  dsimp only
  rw [hout, hshared]
  rcases preReconcileAttempt outside worker.cluster worker.name plan run with ⟨outcome, run'⟩
  cases outcome with
  | conflict => cases retries <;> rfl
  | _ => rfl

/-- A first phase is a sequence of attempts. -/
theorem exists_events_preReconcilePhase (outside : Outside σ) (plans : Nat → Plan)
    (worker : Worker) (retries : Nat) (run : Run σ) :
    ∃ events : List WorkersEvent,
      events.foldl (step outside) (single run { worker with stage := .preReconcile retries }) =
        match preReconcilePhase outside worker.cluster worker.name plans (retries + 1) run with
        | (.done, run) => single run { worker with stage := .reconcile }
        | (_, run) => idle run := by
  induction retries generalizing run with
  | zero =>
    refine ⟨[.phase (plans 0) 0], ?_⟩
    rw [List.foldl_cons, List.foldl_nil, step_preReconcile, preReconcilePhase]
    rcases preReconcileAttempt outside worker.cluster worker.name (plans 0) run with
      ⟨outcome, run'⟩
    cases outcome with
    | _ => rfl
  | succ retries ih =>
    have hstep := step_preReconcile outside (plans (retries + 1)) worker (retries + 1) run
    rw [preReconcilePhase]
    rcases hattempt : preReconcileAttempt outside worker.cluster worker.name
      (plans (retries + 1)) run with ⟨outcome, run'⟩
    rw [hattempt] at hstep
    cases outcome with
    | conflict =>
      obtain ⟨events, hevents⟩ := ih run'
      refine ⟨.phase (plans (retries + 1)) 0 :: events, ?_⟩
      rw [List.foldl_cons, hstep]
      exact hevents
    | _ => exact ⟨[.phase (plans (retries + 1)) 0], hstep⟩

/-- The edits before a second phase, and the phase. -/
theorem exists_events_reconcilePhase (outside : Outside σ) (plan : Plan) (edits : List Edit)
    (cluster : Cluster) (name : String) (run : Run σ) :
    ∃ events : List WorkersEvent,
      events.foldl (step outside) (single run ⟨cluster, name, .reconcile⟩) =
        idle (reconcilePhase outside cluster name plan
          { run with store := edits.foldl Store.edit run.store }) := by
  induction edits generalizing run with
  | nil =>
    refine ⟨[.phase plan 0], ?_⟩
    have hphase : step outside (single run ⟨cluster, name, .reconcile⟩) (.phase plan 0) =
        idle (reconcilePhase outside cluster name plan run.shared).shared := rfl
    rw [List.foldl_cons, List.foldl_nil, hphase, reconcilePhase_shared]
    rfl
  | cons edit edits ih =>
    obtain ⟨events, hevents⟩ := ih { run with store := run.store.edit edit }
    exact ⟨.edit edit :: events, hevents⟩

/-- The first phase, and the second after it. -/
theorem exists_events_afterPreReconcile (outside : Outside σ) (plan : RunPlan) (cluster : Cluster)
    (component : Component) (run : Run σ) :
    ∃ events : List WorkersEvent,
      events.foldl (step outside)
          (single run ⟨cluster, component.name, .preReconcile (retrySteps - 1)⟩) =
        idle (afterPreReconcile outside plan cluster component
          (preReconcilePhase outside cluster component.name plan.attempts retrySteps run)) := by
  obtain ⟨first, hfirst⟩ := exists_events_preReconcilePhase outside plan.attempts
    ⟨cluster, component.name, .reconcile⟩ (retrySteps - 1) run
  rcases hres : preReconcilePhase outside cluster component.name plan.attempts retrySteps run
    with ⟨outcome, run'⟩
  change _ = match
      preReconcilePhase outside cluster component.name plan.attempts retrySteps run with
    | (.done, run) => _
    | (_, run) => _ at hfirst
  rw [hres] at hfirst
  cases outcome with
  | done =>
    obtain ⟨second, hsnd⟩ :=
      exists_events_reconcilePhase outside plan.main plan.edits cluster component.name run'
    refine ⟨first ++ second, ?_⟩
    rw [List.foldl_append, hfirst]
    exact hsnd
  | _ => exact ⟨first, hfirst⟩

/-- A run of the controller is a sequence of phases, with the edits between them. -/
theorem exists_events_reconcile (outside : Outside σ) (plan : RunPlan) (key : ObjectKey)
    (run : Run σ) :
    ∃ events : List WorkersEvent,
      events.foldl (step outside) (idle run) = idle (reconcile outside plan key run) := by
  have hstart : step outside (idle run) (.start key) =
      ⟨run.store, run.outside, start (idle run) key⟩ := rfl
  cases hcomp : lookupKey Component.key key run.store.components with
  | none =>
    refine ⟨[], ?_⟩
    unfold reconcile
    rw [hcomp]
    rfl
  | some component =>
    cases hcl : lookupKey Cluster.key (component.namespace, component.clusterName)
        run.store.clusters with
    | none =>
      refine ⟨[], ?_⟩
      unfold reconcile
      rw [hcomp]
      dsimp only
      rw [hcl]
      rfl
    | some cluster =>
      have hrunning : start (idle run) key =
          if component.deletionTimestamp.isSome then [⟨cluster, component.name, .reconcile⟩]
          else if cluster.hasUninitializedCertificates then []
          else [⟨cluster, component.name, .preReconcile (retrySteps - 1)⟩] := by
        unfold start idle
        dsimp only
        rw [hcomp]
        dsimp only
        rw [hcl]
        rfl
      rw [hrunning] at hstart
      rw [reconcile_of_lookup hcomp hcl]
      split_ifs at hstart ⊢
      · obtain ⟨events, hevents⟩ :=
          exists_events_reconcilePhase outside plan.main plan.edits cluster component.name run
        refine ⟨.start key :: events, ?_⟩
        rw [List.foldl_cons, hstart]
        exact hevents
      · exact ⟨[], rfl⟩
      · obtain ⟨events, hevents⟩ :=
          exists_events_afterPreReconcile outside plan cluster component run
        refine ⟨.start key :: events, ?_⟩
        rw [List.foldl_cons, hstart]
        exact hevents

/-- The second phase of a deletion is safe. -/
def Safe (workers : Workers σ) : WorkersEvent → Prop
  | .phase plan i => ∀ worker, workers.running[i]? = some worker → worker.stage = .reconcile →
      DeletionSafe workers.store worker.cluster worker.name plan
  | _ => True

theorem intact_step {event : WorkersEvent} (h : workers.store.Intact)
    (hsafe : workers.Safe event) : (workers.step outside event).store.Intact := by
  cases event with
  | edit edit =>
    exact ⟨h.keyed.edit edit, h.finalized.edit edit, h.noLeak.edit h.finalized edit⟩
  | start key => exact h
  | phase plan i =>
    unfold step
    dsimp only
    cases hworker : workers.running[i]? with
    | none => exact h
    | some worker =>
      dsimp only
      unfold phase
      cases hstage : worker.stage with
      | preReconcile retries => exact intact_preReconcileAttempt h
      | reconcile => exact intact_reconcilePhase h (hsafe worker hworker hstage)

/-- In every run with safe deletions, what the hypervisors have is of stored components. -/
theorem noLeak_of_reaches (outside : Outside σ) (hkeyed : workers.store.Keyed)
    (hfin : workers.store.Finalized) (hstart : workers.store.NoLeak)
    (hreach : Reaches (step outside) Safe workers workers') : workers'.store.NoLeak := by
  have hintact : workers'.store.Intact :=
    hreach.invariant (fun _ _ => intact_step) ⟨hkeyed, hfin, hstart⟩
  exact hintact.noLeak

/-! ### An ingress of a cluster with a VPN -/

/-- A hypervisor, and a cluster with a VPN. -/
def vpnCluster : Workers Unit :=
  { store :=
      { hypervisors := [⟨"hypervisor", 0, "10.0.0.1", ∅, 30000, 30010, [], []⟩]
        clusters := [{ name := "cluster", «namespace» := "default", vpn := { enabled := true } }]
        components := [] }
    outside := () }

/-- An ingress is created and gets its ports. -/
def createIngress : List WorkersEvent :=
  [.edit (.createComponent ("default", "lb") "cluster" .controlPlaneIngress "hypervisor"),
    .start ("default", "lb"), .phase {} 0]

/-- The ingress is deleted in the second phase. -/
def deleteIngress (plan : Plan) : List WorkersEvent :=
  [.edit (.deleteComponent ("default", "lb") 1), .phase plan 0]

/-- The hypervisor cannot be written after the ingress is gone. -/
def conflicting : List WorkersEvent :=
  createIngress ++ deleteIngress { updateError := fun _ => some .conflict }

/-- The VPN is switched off before the ingress is deleted in another run. -/
def switchedOff : List WorkersEvent :=
  createIngress ++ [.phase { listFails := true } 0,
    .edit (.setVPNEnabled ("default", "cluster") false),
    .edit (.deleteComponent ("default", "lb") 1), .start ("default", "lb"), .phase {} 0]

/-- The ingress is gone, and a hypervisor has something of it. -/
def LosesIngress (workers : Workers Unit) : Prop :=
  workers.running.length = 0 ∧ workers.store.components.length = 0 ∧
    ∃ hypervisor ∈ workers.store.hypervisors, hypervisor.Keeps ⟨"default", "cluster", "lb"⟩

instance (workers : Workers Unit) : Decidable workers.LosesIngress :=
  inferInstanceAs (Decidable (_ ∧ _ ∧ _))

theorem LosesIngress.not_noLeak {workers : Workers Unit} (h : workers.LosesIngress) :
    workers.running.length = 0 ∧ ¬ workers.store.NoLeak := by
  obtain ⟨hrunning, hcomps, hkeeps⟩ := h
  refine ⟨hrunning, Store.not_noLeak_of_keeps hkeeps ?_⟩
  rw [List.length_eq_zero_iff.mp hcomps]
  exact List.not_mem_nil

theorem losesIngress_conflicting :
    (conflicting.foldl (step .succeeding) vpnCluster).LosesIngress := by
  decide +kernel

theorem losesIngress_switchedOff :
    (switchedOff.foldl (step .succeeding) vpnCluster).LosesIngress := by
  decide +kernel

/-- No run is going on, and the hypervisor has a port of an ingress that is gone. -/
theorem not_noLeak_conflicting_switchedOff :
    ((conflicting.foldl (step .succeeding) vpnCluster).running.length = 0 ∧
      ¬ (conflicting.foldl (step .succeeding) vpnCluster).store.NoLeak) ∧
    (switchedOff.foldl (step .succeeding) vpnCluster).running.length = 0 ∧
      ¬ (switchedOff.foldl (step .succeeding) vpnCluster).store.NoLeak :=
  ⟨losesIngress_conflicting.not_noLeak, losesIngress_switchedOff.not_noLeak⟩

theorem noLeak_vpnCluster : vpnCluster.store.NoLeak := by
  intro hypervisor hmem ref hkeeps
  obtain rfl := List.mem_singleton.mp hmem
  rcases hkeeps with ⟨portName, -, allocation, halloc, -⟩ | hfs
  · cases halloc
  · exact absurd rfl hfs

/-- The second phase finds the component with all of its ports. -/
theorem deletionSafe_of_accounted {workers : Workers Unit}
    (h : ∀ worker ∈ workers.running[0]?, ∀ component ∈ lookupKey Component.name worker.name
        (Component.withCluster workers.store.components worker.cluster.namespace
          worker.cluster.name),
      Accounted (freedPorts worker.cluster component.role) component workers.store.hypervisors) :
    workers.Safe (.phase {} 0) :=
  fun worker hworker _ component hcomp _ =>
    ⟨h worker hworker component hcomp, fun _ => rfl⟩

/-- The ingress is deleted without a conflict, and the hypervisor has nothing of it. -/
theorem noLeak_of_reaches_deleteIngress :
    ((createIngress ++ deleteIngress {}).foldl (step .succeeding)
        vpnCluster).store.components.length = 0 ∧
      ((createIngress ++ deleteIngress {}).foldl (step .succeeding) vpnCluster).store.NoLeak := by
  refine ⟨by decide +kernel, ?_⟩
  refine @noLeak_of_reaches Unit vpnCluster _ .succeeding ⟨by decide, by decide, by decide⟩
    nofun noLeak_vpnCluster (reaches_foldl ⟨trivial, trivial, ?_, trivial, ?_, trivial⟩)
  · exact deletionSafe_of_accounted (by decide +kernel)
  · exact deletionSafe_of_accounted (by decide +kernel)

end Workers

end Controllers

end OneInfra
