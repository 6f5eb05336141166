import OneInfra.Component.PortSteps
import OneInfra.Controllers.ComponentReconciler
import OneInfra.Lib.Reach

/-!
# Host ports under concurrent pre-reconciles

Any number of attempts of the first phase of `ComponentReconciler.Reconcile` run at
the same time on one store.  An attempt lists the hypervisors, lists the components
of its cluster and pre-reconciles its component in memory, and then makes its writes
one at a time: the dirty hypervisors first, then the dirty components.  Every other
attempt may make a step in between.  A write that conflicts makes the attempt start
anew, and any other failure ends it.

The cluster of an attempt was read before, and is any cluster.  An attempt here may
start anew any number of times, where the source stops after five.

`PortsAgree` is what the stored objects say about the ports.  The proof keeps three
facts about an attempt that is in progress.  The hypervisors that it listed are
snapshots of the stored ones, whose allocations are still there.  A hypervisor that
it will write extends such a snapshot, and the write is refused unless the snapshot
is current.  A component that it will write has ports that are stored already, or
that are in a hypervisor written before the component.
-/

namespace OneInfra.Controllers

open OneInfra.Lib OneInfra.Infra OneInfra.Components

/-- Where an attempt stands. -/
inductive Attempt
  | idle
  | started (cluster : Cluster) (name : String)
  | listed (cluster : Cluster) (name : String) (hypervisors : List Hypervisor)
  | writing (cluster : Cluster) (name : String) (writes : List Write)

/-- The store and the attempts. -/
structure Attempts where
  store : Store
  attempt : Nat → Attempt

/-- What may happen. -/
inductive AttemptEvent
  | start (i : Nat) (cluster : Cluster) (name : String)
  | listHypervisors (i : Nat)
  | preReconcile (i : Nat) (plan : Plan)
  | write (i : Nat)
  | conflict (i : Nat)
  | abandon (i : Nat)

section Step

variable {σ : Type} (outside : Outside σ) (s : σ)

/-- List the components, pre-reconcile, and collect the writes. -/
def attemptWrites (store : Store) (cluster : Cluster) (name : String)
    (hypervisors : List Hypervisor) (plan : Plan) : List Write :=
  let loaded := { load store cluster s with hypervisors := hypervisors }
  match (preReconcile outside [name]).run loaded with
  | .ok [] world =>
    if (lookupKey Component.name name world.components).any (componentDirty loaded) then
      updateResources plan loaded world
    else []
  | _ => []

/-- An attempt with writes to make. -/
def Attempt.ofWrites (cluster : Cluster) (name : String) : List Write → Attempt
  | [] => .idle
  | write :: writes => .writing cluster name (write :: writes)

/-- Change where one attempt stands. -/
def Attempts.set (state : Attempts) (i : Nat) (attempt : Attempt) : Attempts :=
  { state with attempt := Function.update state.attempt i attempt }

/-- The state after an event.  An event that does not fit changes nothing. -/
def stepAttempts (state : Attempts) : AttemptEvent → Attempts
  | .start i cluster name =>
    match state.attempt i with
    | .idle => state.set i (.started cluster name)
    | _ => state
  | .listHypervisors i =>
    match state.attempt i with
    | .started cluster name => state.set i (.listed cluster name state.store.hypervisors)
    | _ => state
  | .preReconcile i plan =>
    match state.attempt i with
    | .listed cluster name hypervisors => state.set i (.ofWrites cluster name
        (attemptWrites outside s state.store cluster name hypervisors plan))
    | _ => state
  | .write i =>
    match state.attempt i with
    | .writing cluster name (write :: writes) =>
      match state.store.write write with
      | .ok store => { state with store := store }.set i (.ofWrites cluster name writes)
      | .error .conflict => state.set i (.started cluster name)
      | .error _ => state.set i .idle
    | _ => state
  | .conflict i =>
    match state.attempt i with
    | .writing cluster name _ => state.set i (.started cluster name)
    | _ => state
  | .abandon i => state.set i .idle

end Step

/-! ## What holds of the store -/

/-- What the stored objects say about the host ports. -/
structure PortsAgree (store : Store) : Prop where
  /-- A port of a component is allocated to it on its hypervisor. -/
  allocated : ∀ component ∈ store.components, ∀ portName port,
    component.allocatedHostPorts.lookup portName = some port →
    ∃ hypervisor ∈ store.hypervisors, hypervisor.name = component.hypervisorName ∧
      hypervisor.hasPort component.namespace component.clusterName
        (component.withSubcomponentName portName) = some port
  /-- On one hypervisor, a port belongs to one component and one name. -/
  distinct : ∀ component ∈ store.components, ∀ component' ∈ store.components,
    component.hypervisorName = component'.hypervisorName → ∀ portName portName' port,
    component.allocatedHostPorts.lookup portName = some port →
    component'.allocatedHostPorts.lookup portName' = some port →
    component = component' ∧ portName = portName'

/-- A store with nothing allocated yet. -/
structure Unallocated (store : Store) : Prop where
  hypervisorNames : (store.hypervisors.map Hypervisor.name).Nodup
  componentKeys : (store.components.map Component.key).Nodup
  hypervisors : ∀ hypervisor ∈ store.hypervisors,
    hypervisor.allocatedPorts = [] ∧ hypervisor.freedPorts = []
  components : ∀ component ∈ store.components, component.allocatedHostPorts = ∅

/-- The part of the invariant about the stored objects. -/
structure StoreInv (store : Store) : Prop where
  hypervisorNames : (store.hypervisors.map Hypervisor.name).Nodup
  componentKeys : (store.components.map Component.key).Nodup
  portInv : ∀ hypervisor ∈ store.hypervisors, hypervisor.PortInv
  backed : ∀ component ∈ store.components, ∀ portName port,
    component.allocatedHostPorts.lookup portName = some port →
    portName ∈ hostPortNames ∧ Allocated store.hypervisors component portName port

theorem StoreInv.of_unallocated {store : Store} (h : Unallocated store) : StoreInv store where
  hypervisorNames := h.hypervisorNames
  componentKeys := h.componentKeys
  portInv hypervisor hmem :=
    Hypervisor.portInv_of_empty (h.hypervisors hypervisor hmem).1 (h.hypervisors hypervisor hmem).2
  backed component hmem portName port hport := by
    rw [h.components component hmem, Finmap.lookup_empty] at hport
    cases hport

theorem StoreInv.portsAgree {store : Store} (h : StoreInv store) : PortsAgree store where
  allocated component hmem portName port hport := by
    obtain ⟨-, hypervisor, hhyp, hname, halloc⟩ :=
      h.backed component hmem portName port hport
    exact ⟨hypervisor, hhyp, hname,
      (h.portInv hypervisor hhyp).hasPort_eq_some_iff.mpr halloc⟩
  distinct component hmem comp' hmem' hsame portName portName' port hport hport' := by
    obtain ⟨hportName, hypervisor, hhyp, hname, halloc⟩ :=
      h.backed component hmem portName port hport
    obtain ⟨hportName', hyp', hhyp', hname', halloc'⟩ :=
      h.backed comp' hmem' portName' port hport'
    have heq : hyp' = hypervisor := List.inj_on_of_nodup_map h.hypervisorNames hhyp'
      hhyp (hname'.trans (hsame.symm.trans hname.symm))
    subst heq
    -- one port of the hypervisor is one allocation, and that names its owner
    have hallocations := (h.portInv hyp' hhyp').key_eq_of_port_eq halloc
      halloc' rfl
    obtain ⟨hns, -, hcname, hpname, -⟩ :=
      Component.eq_of_allocation_eq hportName hportName' hallocations
    refine ⟨List.inj_on_of_nodup_map h.componentKeys hmem hmem' ?_, hpname⟩
    rw [Component.key, Component.key, hns, hcname]

/-! ## What an attempt knows -/

/-- A hypervisor as it was read: a snapshot whose allocations are still stored. -/
structure Known (store : Store) (hypervisor : Hypervisor) : Prop where
  portInv : hypervisor.PortInv
  stored : hypervisor.name ∈ store.hypervisors.map Hypervisor.name
  snapshot :
    IsSnapshot Hypervisor.name Hypervisor.resourceVersion store.hypervisors hypervisor
  allocations : ∀ stored ∈ store.hypervisors, stored.name = hypervisor.name →
    hypervisor.allocatedPorts ⊆ stored.allocatedPorts

/-- A hypervisor to be written: it extends one that was read. -/
def Extended (store : Store) (hypervisor : Hypervisor) : Prop :=
  hypervisor.PortInv ∧ ∃ read, Known store read ∧ hypervisor.frozen = read.frozen ∧
    read.allocatedPorts ⊆ hypervisor.allocatedPorts

/-- Whether a write is one of a hypervisor. -/
def Write.IsHypervisor : Write → Prop
  | .hypervisorStatus _ => True
  | _ => False

/-- What holds of the writes that an attempt has left. -/
structure PendingWrites (store : Store) (writes : List Write) : Prop where
  ordered : writes.Pairwise fun first second => Write.IsHypervisor second →
    Write.IsHypervisor first
  statusOnly : ∀ component, .componentUpdate component ∉ writes
  hypervisors : ∀ hypervisor, .hypervisorStatus hypervisor ∈ writes → Extended store hypervisor
  identity : ∀ component, .componentStatus component ∈ writes →
    ∀ stored ∈ store.components, stored.key = component.key →
      stored.hypervisorName = component.hypervisorName ∧
        stored.clusterName = component.clusterName
  ports : ∀ component, .componentStatus component ∈ writes → ∀ portName port,
    component.allocatedHostPorts.lookup portName = some port →
    portName ∈ hostPortNames ∧ (Allocated store.hypervisors component portName port ∨
      ∃ hypervisor, .hypervisorStatus hypervisor ∈ writes ∧
        hypervisor.name = component.hypervisorName ∧
        component.allocation portName port ∈ hypervisor.allocatedPorts)

/-- What holds of an attempt. -/
def AttemptInv (store : Store) : Attempt → Prop
  | .idle => True
  | .started _ _ => True
  | .listed _ _ hypervisors =>
    (hypervisors.map Hypervisor.name).Nodup ∧ ∀ hypervisor ∈ hypervisors, Known store hypervisor
  | .writing _ _ writes => PendingWrites store writes

/-- The later store has everything that an attempt may rely on. -/
structure Advances (store store' : Store) : Prop where
  known : ∀ hypervisor, Known store hypervisor → Known store' hypervisor
  allocated : ∀ component portName port, Allocated store.hypervisors component portName port →
    Allocated store'.hypervisors component portName port
  components : ∀ component' ∈ store'.components, ∃ component ∈ store.components,
    component'.key = component.key ∧ component'.hypervisorName = component.hypervisorName ∧
      component'.clusterName = component.clusterName

variable {store store' : Store}

theorem Advances.refl (store : Store) : Advances store store :=
  ⟨fun _ => id, fun _ _ _ => id, fun component h => ⟨component, h, rfl, rfl, rfl⟩⟩

theorem Advances.trans {store'' : Store} (h : Advances store store')
    (h' : Advances store' store'') : Advances store store'' where
  known hypervisor hknown := h'.known hypervisor (h.known hypervisor hknown)
  allocated component portName port halloc :=
    h'.allocated component portName port (h.allocated component portName port halloc)
  components component'' hmem'' := by
    obtain ⟨comp', hmem', hkey', hhyp', hcl'⟩ := h'.components component'' hmem''
    obtain ⟨component, hmem, hkey, hhyp, hcl⟩ := h.components comp' hmem'
    exact ⟨component, hmem, hkey'.trans hkey, hhyp'.trans hhyp,
      hcl'.trans hcl⟩

theorem PendingWrites.advance (h : Advances store store') {writes : List Write}
    (hpending : PendingWrites store writes) : PendingWrites store' writes where
  ordered := hpending.ordered
  statusOnly := hpending.statusOnly
  hypervisors hypervisor hmem := by
    obtain ⟨hinv, read, hknown, hfrz, hsub⟩ := hpending.hypervisors hypervisor hmem
    exact ⟨hinv, read, h.known read hknown, hfrz, hsub⟩
  identity component hmem stored' hst' hkey := by
    obtain ⟨stored, hst, hkey', hhyp, hcl⟩ := h.components stored' hst'
    have := hpending.identity component hmem stored hst (hkey'.symm.trans hkey)
    exact ⟨hhyp.trans this.1, hcl.trans this.2⟩
  ports component hmem portName port hport := by
    obtain ⟨hportName, halloc | hlater⟩ := hpending.ports component hmem portName port hport
    · exact ⟨hportName, .inl (h.allocated _ _ _ halloc)⟩
    · exact ⟨hportName, .inr hlater⟩

theorem AttemptInv.advance (h : Advances store store') {attempt : Attempt}
    (hinv : AttemptInv store attempt) : AttemptInv store' attempt := by
  cases attempt with
  | idle => trivial
  | started cluster name => trivial
  | listed cluster name hypervisors =>
    exact ⟨hinv.1, fun hypervisor hmem => h.known _ (hinv.2 hypervisor hmem)⟩
  | writing cluster name writes => exact PendingWrites.advance h hinv

/-- The stored hypervisors are known. -/
theorem StoreInv.known (h : StoreInv store) {hypervisor : Hypervisor}
    (hmem : hypervisor ∈ store.hypervisors) : Known store hypervisor where
  portInv := h.portInv hypervisor hmem
  stored := List.mem_map_of_mem hmem
  snapshot := .of_mem h.hypervisorNames hmem
  allocations stored hst hname := by
    rw [List.inj_on_of_nodup_map h.hypervisorNames hst hmem hname]
    exact fun _ => id

/-! ## Writes -/

/-- A hypervisor is written.  The version of the write is that of the snapshot, so the
stored hypervisor is the snapshot. -/
theorem write_hypervisorStatus (hinv : StoreInv store) {hypervisor : Hypervisor}
    (hextended : Extended store hypervisor)
    (hwrite : store.write (.hypervisorStatus hypervisor) = .ok store') :
    StoreInv store' ∧ Advances store store' ∧ ∀ stored ∈ store'.hypervisors,
      stored.name = hypervisor.name → stored.allocatedPorts = hypervisor.allocatedPorts := by
  obtain ⟨hypervisors, hput, rfl⟩ := Store.write_hypervisorStatus_ok hwrite
  obtain ⟨hportInv, read, hknown, hfrz, hsub⟩ := hextended
  have hname := Hypervisor.name_eq_of_frozen hfrz
  have hver : hypervisor.frozen.resourceVersion = read.frozen.resourceVersion :=
    congrArg Hypervisor.resourceVersion hfrz
  have hst : ∀ stored ∈ store.hypervisors, stored.name = hypervisor.name → stored = read := by
    intro stored hst hkey
    refine (hknown.snapshot stored hst (hkey.trans hname)).2 ?_
    exact (version_eq_of_putRow hinv.hypervisorNames hput hst hkey).trans hver
  have hcases : ∀ stored ∈ hypervisors,
      (stored ∈ store.hypervisors ∧ stored.name ≠ hypervisor.name) ∨
        (stored = read.withStatusOf hypervisor ∧ read ∈ store.hypervisors) := by
    intro stored hmem
    rcases mem_of_putRow hput hmem with hold | ⟨old, hold, hkey, hmerge⟩
    · exact .inl hold
    · cases hmerge
      have heq := hst old hold hkey
      exact .inr ⟨by rw [heq], heq ▸ hold⟩
  have hrows := putRow_some hput
  have hnames : hypervisors.map Hypervisor.name = store.hypervisors.map Hypervisor.name := by
    rw [hrows]
    exact map_modifyKey fun _ => rfl
  have hwritten : ∀ stored ∈ store.hypervisors, stored.name = hypervisor.name →
      read.withStatusOf hypervisor ∈ hypervisors := by
    intro stored hmem hkey
    rw [hrows]
    exact mem_modifyKey.mpr (.inr ⟨stored, hmem, hkey, by rw [hst stored hmem hkey]⟩)
  have hallocated : ∀ component portName port,
      Allocated store.hypervisors component portName port →
      Allocated hypervisors component portName port := by
    rintro component portName port ⟨stored, hmem, hon, halloc⟩
    by_cases hkey : stored.name = hypervisor.name
    · have heq := hst stored hmem hkey
      refine ⟨_, hwritten stored hmem hkey, ?_, ?_⟩
      · exact (heq ▸ rfl : read.name = stored.name).trans hon
      · exact hsub (heq ▸ halloc)
    · refine ⟨stored, ?_, hon, halloc⟩
      rw [hrows]
      exact mem_modifyKey.mpr (.inl ⟨hmem, hkey⟩)
  refine ⟨⟨hnames ▸ hinv.hypervisorNames, hinv.componentKeys, ?_, ?_⟩, ⟨?_, hallocated, ?_⟩, ?_⟩
  · intro stored hmem
    rcases hcases stored hmem with hold | ⟨rfl, -⟩
    · exact hinv.portInv stored hold.1
    · -- the ranges of the two are the same, and the rest is that of the write
      have hlow : hypervisor.frozen.portRangeLow = read.frozen.portRangeLow :=
        congrArg Hypervisor.portRangeLow hfrz
      have hhigh : hypervisor.frozen.portRangeHigh = read.frozen.portRangeHigh :=
        congrArg Hypervisor.portRangeHigh hfrz
      exact hportInv.congr hlow.symm hhigh.symm rfl rfl
  · intro component hmem portName port hport
    obtain ⟨hportName, hbacked⟩ := hinv.backed component hmem portName port hport
    exact ⟨hportName, hallocated _ _ _ hbacked⟩
  · intro other hother
    refine ⟨hother.portInv, hnames ▸ hother.stored, ?_, ?_⟩
    · refine hother.snapshot.putRow (fun _ _ h => by cases h; rfl) (fun stored row h => ?_) hput
      cases h
      exact Nat.lt_succ_self _
    · intro stored hmem hkey
      rcases hcases stored hmem with ⟨hold, -⟩ | ⟨rfl, hread⟩
      · exact hother.allocations stored hold hkey
      · exact fun _ h => hsub (hother.allocations read hread hkey h)
  · exact fun component hmem => ⟨component, hmem, rfl, rfl, rfl⟩
  · intro stored hmem hkey
    rcases hcases stored hmem with ⟨-, hne⟩ | ⟨rfl, -⟩
    · exact absurd hkey hne
    · rfl

/-- A component is written whose ports are all stored. -/
theorem write_componentStatus (hinv : StoreInv store) {component : Component}
    (hidentity : ∀ stored ∈ store.components, stored.key = component.key →
      stored.hypervisorName = component.hypervisorName ∧
        stored.clusterName = component.clusterName)
    (hports : ∀ portName port, component.allocatedHostPorts.lookup portName = some port →
      portName ∈ hostPortNames ∧ Allocated store.hypervisors component portName port)
    (hwrite : store.write (.componentStatus component) = .ok store') :
    StoreInv store' ∧ Advances store store' := by
  obtain ⟨components, hput, rfl⟩ := Store.write_componentStatus_ok hwrite
  have hrows := putRow_some hput
  have hkeys : components.map Component.key = store.components.map Component.key := by
    rw [hrows]
    exact map_modifyKey fun _ => rfl
  refine ⟨⟨hinv.hypervisorNames, hkeys ▸ hinv.componentKeys, hinv.portInv, ?_⟩,
    fun _ h => ⟨h.portInv, h.stored, h.snapshot, h.allocations⟩, fun _ _ _ => id, ?_⟩
  · intro stored' hmem portName port hport
    rw [hrows] at hmem
    rcases mem_modifyKey.mp hmem with ⟨hold, -⟩ | ⟨stored, hst, hkey, rfl⟩
    · exact hinv.backed stored' hold portName port hport
    · obtain ⟨hportName, hypervisor, hhyp, hon, halloc⟩ := hports portName port hport
      obtain ⟨hname, hcl⟩ := hidentity stored hst hkey
      obtain ⟨hns, hcname⟩ := Prod.mk.inj hkey
      refine ⟨hportName, hypervisor, hhyp, hon.trans hname.symm, ?_⟩
      have heq : (stored.withStatusOf component).allocation portName port =
          component.allocation portName port := by
        simp only [Component.allocation, Component.withSubcomponentName, Component.withStatusOf,
          hns, hcname, hcl]
      rw [heq]
      exact halloc
  · intro stored' hmem
    rw [hrows] at hmem
    rcases mem_modifyKey.mp hmem with ⟨hold, -⟩ | ⟨stored, hst, -, rfl⟩
    · exact ⟨stored', hold, rfl, rfl, rfl⟩
    · exact ⟨stored, hst, rfl, rfl, rfl⟩

/-- After the first of its writes, an attempt has the others left. -/
theorem PendingWrites.write (hinv : StoreInv store) {write : Write} {writes : List Write}
    (hpending : PendingWrites store (write :: writes)) (hwrite : store.write write = .ok store') :
    StoreInv store' ∧ Advances store store' ∧ PendingWrites store' writes := by
  obtain ⟨hhead, htail⟩ := List.pairwise_cons.mp hpending.ordered
  have hrest : ∀ {store' : Store}, Advances store store' →
      (∀ component, .componentStatus component ∈ writes → ∀ portName port,
        component.allocatedHostPorts.lookup portName = some port →
        (∃ hypervisor, write = .hypervisorStatus hypervisor ∧
          hypervisor.name = component.hypervisorName ∧
          component.allocation portName port ∈ hypervisor.allocatedPorts) →
        Allocated store'.hypervisors component portName port) → PendingWrites store' writes := by
    intro store' hadvances hfirst
    have hlater := hpending.advance hadvances
    refine ⟨htail, fun component h => hlater.statusOnly component (.tail _ h),
      fun hypervisor h => hlater.hypervisors hypervisor (.tail _ h),
      fun component h => hlater.identity component (.tail _ h), ?_⟩
    intro component hmem portName port hport
    obtain ⟨hportName, hallocated | ⟨hypervisor, hin, hon, halloc⟩⟩ :=
      hlater.ports component (.tail _ hmem) portName port hport
    · exact ⟨hportName, .inl hallocated⟩
    · rcases List.mem_cons.mp hin with heq | hin
      · exact ⟨hportName, .inl (hfirst component hmem portName port hport
          ⟨hypervisor, heq.symm, hon, halloc⟩)⟩
      · exact ⟨hportName, .inr ⟨hypervisor, hin, hon, halloc⟩⟩
  cases write with
  | hypervisorStatus hypervisor =>
    have hextended := hpending.hypervisors hypervisor (.head _)
    obtain ⟨hinv', hadvances, hwritten⟩ := write_hypervisorStatus hinv hextended hwrite
    refine ⟨hinv', hadvances, hrest hadvances ?_⟩
    rintro component - portName port - ⟨hyp', heq, hon, halloc⟩
    cases heq
    obtain ⟨-, read, hknown, hfrz, -⟩ := hextended
    have hname := Hypervisor.name_eq_of_frozen hfrz
    obtain ⟨stored, hst, hkey⟩ := List.mem_map.mp (hadvances.known read hknown).stored
    have hsame : stored.name = hypervisor.name := hkey.trans hname.symm
    exact ⟨stored, hst, hsame.trans hon, hwritten stored hst hsame ▸ halloc⟩
  | clusterStatus cluster =>
    obtain ⟨clusters, -, rfl⟩ := Store.write_clusterStatus_ok hwrite
    have hadvances : Advances store { store with clusters := clusters } :=
      ⟨fun _ h => ⟨h.portInv, h.stored, h.snapshot, h.allocations⟩, fun _ _ _ => id,
        fun component h => ⟨component, h, rfl, rfl, rfl⟩⟩
    refine ⟨⟨hinv.hypervisorNames, hinv.componentKeys, hinv.portInv, hinv.backed⟩, hadvances,
      hrest hadvances ?_⟩
    rintro component - portName port - ⟨hypervisor, heq, -⟩
    cases heq
  | componentStatus component =>
    -- the hypervisors are written before the components
    have hports : ∀ portName port, component.allocatedHostPorts.lookup portName = some port →
        portName ∈ hostPortNames ∧ Allocated store.hypervisors component portName port := by
      intro portName port hport
      obtain ⟨hportName, hallocated | ⟨hypervisor, hin, -⟩⟩ :=
        hpending.ports component (.head _) portName port hport
      · exact ⟨hportName, hallocated⟩
      · rcases List.mem_cons.mp hin with heq | hin
        · cases heq
        · exact (hhead _ hin trivial).elim
    obtain ⟨hinv', hadvances⟩ :=
      write_componentStatus hinv (hpending.identity component (.head _)) hports hwrite
    refine ⟨hinv', hadvances, hrest hadvances ?_⟩
    rintro comp' - portName port - ⟨hypervisor, heq, -⟩
    cases heq
  | componentUpdate component => exact absurd (.head _) (hpending.statusOnly component)

/-! ## Pre-reconciling -/

section Runs

variable {σ : Type} (outside : Outside σ) (s : σ)

theorem PendingWrites.nil (store : Store) : PendingWrites store [] where
  ordered := .nil
  statusOnly := by simp
  hypervisors := by simp
  identity := by simp
  ports := by simp

/-- The hypervisors come first among the writes. -/
theorem pairwise_updateResources (plan : Plan) (loaded world : World σ) :
    (updateResources plan loaded world).Pairwise fun first second =>
      Write.IsHypervisor second → Write.IsHypervisor first := by
  have hfirst : ∀ write ∈ ((plan.order world.hypervisors).filter (hypervisorDirty loaded)).map
      Write.hypervisorStatus, Write.IsHypervisor write := by
    intro write hwrite
    obtain ⟨hypervisor, -, rfl⟩ := List.mem_map.mp hwrite
    trivial
  have hsnd : ∀ write ∈ (if clusterDirty plan world.cluster then
        [Write.clusterStatus world.cluster] else []) ++
      (world.components.filter (componentDirty loaded)).map Write.componentStatus,
      ¬ Write.IsHypervisor write := by
    intro write hwrite
    rcases List.mem_append.mp hwrite with hcl | hcomp
    · split at hcl
      · rw [List.mem_singleton.mp hcl]
        exact id
      · cases hcl
    · obtain ⟨component, -, rfl⟩ := List.mem_map.mp hcomp
      exact id
  rw [updateResources, List.append_assoc, List.pairwise_append]
  refine ⟨?_, ?_, ?_⟩
  · exact List.pairwise_iff_forall_sublist.mpr fun hsub _ => hfirst _ (hsub.subset (by simp))
  · exact List.pairwise_iff_forall_sublist.mpr fun hsub h =>
      absurd h (hsnd _ (hsub.subset (by simp)))
  · exact fun first hmem second _ _ => hfirst first hmem

theorem pendingWrites_attemptWrites (hinv : StoreInv store) {hypervisors : List Hypervisor}
    (hnd : (hypervisors.map Hypervisor.name).Nodup)
    (hknown : ∀ hypervisor ∈ hypervisors, Known store hypervisor) (cluster : Cluster)
    (name : String) (plan : Plan) :
    PendingWrites store (attemptWrites outside s store cluster name hypervisors plan) := by
  unfold attemptWrites
  dsimp only
  split
  swap
  · exact .nil store
  next world hrun =>
  split
  swap
  · exact .nil store
  have hsteps := performs_preReconcile outside name
    { load store cluster s with hypervisors := hypervisors }
  rw [hrun] at hsteps
  change Steps _ _ world at hsteps
  have hkeyed : Keyed { load store cluster s with hypervisors := hypervisors } :=
    ⟨hnd, nodup_names_withCluster hinv.componentKeys _ _⟩
  have hfrees : ∀ other portName, ¬ (preReconcilePermissions name).frees other portName :=
    fun _ _ => id
  have horigin := fun component (hmem : component ∈ world.components) =>
    Steps.ports_origin hkeyed (fun hypervisor h => (hknown hypervisor h).portInv) hfrees hsteps hmem
  refine ⟨pairwise_updateResources _ _ _, fun _ => componentUpdate_notMem_updateResources,
    ?_, ?_, ?_⟩
  · intro hypervisor hmem
    obtain ⟨hmem, -⟩ := hypervisorStatus_mem_updateResources.mp hmem
    obtain ⟨read, hread, horigin⟩ := Steps.hypervisor_origin hsteps hmem
    refine ⟨horigin.portInv (hknown read hread).portInv, read, hknown read hread,
      horigin.frozen, ?_⟩
    intro allocation halloc
    rcases horigin.kept allocation halloc with hkept | ⟨_, -, -, _, _, hfree, -⟩
    · exact hkept
    · exact absurd hfree (hfrees _ _)
  · intro component hmem stored hst hkey
    obtain ⟨hmem, -⟩ := componentStatus_mem_updateResources.mp hmem
    obtain ⟨read, hread, hfrz, -⟩ := horigin component hmem
    have hreadKey : component.frozen.key = read.frozen.key := congrArg Component.key hfrz
    have heq : stored = read := List.inj_on_of_nodup_map hinv.componentKeys hst
      (List.mem_filter.mp hread).1 (hkey.trans hreadKey)
    subst heq
    have hhyp := Component.hypervisorName_eq_of_frozen hfrz
    have hcl : component.frozen.clusterName = stored.frozen.clusterName :=
      congrArg Component.clusterName hfrz
    exact ⟨hhyp.symm, hcl.symm⟩
  · intro component hmem portName port hport
    obtain ⟨hmem, -⟩ := componentStatus_mem_updateResources.mp hmem
    obtain ⟨read, hread, hfrz, hports⟩ := horigin component hmem
    rcases hports portName port hport with hold | ⟨hallowed, hallocated⟩
    · obtain ⟨hportName, hbacked⟩ :=
        hinv.backed read (List.mem_filter.mp hread).1 portName port hold
      exact ⟨hportName, .inl (Allocated.congr hfrz.symm hbacked)⟩
    · refine ⟨hallowed.2, ?_⟩
      obtain ⟨hypervisor, hin, hon, halloc⟩ := Allocated.congr hfrz.symm hallocated
      by_cases hdirty : hypervisorDirty
          { load store cluster s with hypervisors := hypervisors } hypervisor
      · exact .inr ⟨hypervisor, hypervisorStatus_mem_updateResources.mpr ⟨hin, hdirty⟩, hon,
          halloc⟩
      · -- a clean hypervisor is as it was read, and what was read is stored
        have hclean : lookupKey Hypervisor.name hypervisor.name hypervisors = some hypervisor := by
          simpa [hypervisorDirty] using hdirty
        have hread := hknown hypervisor (lookupKey_some_mem hclean).1
        obtain ⟨stored, hst, hkey⟩ := List.mem_map.mp hread.stored
        exact .inl ⟨stored, hst, hkey.trans hon, hread.allocations stored hst hkey halloc⟩

/-! ## Runs -/

/-- The invariant of a run. -/
structure AttemptsInv (state : Attempts) : Prop where
  store : StoreInv state.store
  attempt : ∀ i, AttemptInv state.store (state.attempt i)

theorem AttemptsInv.set {state : Attempts} (h : AttemptsInv state) {i : Nat} {attempt : Attempt}
    (hattempt : AttemptInv state.store attempt) : AttemptsInv (state.set i attempt) := by
  refine ⟨h.store, fun j => ?_⟩
  show AttemptInv state.store (Function.update state.attempt i attempt j)
  by_cases hj : j = i
  · subst hj
    rw [Function.update_self]
    exact hattempt
  · rw [Function.update_of_ne hj]
    exact h.attempt j

theorem attemptInv_ofWrites {cluster : Cluster} {name : String} {writes : List Write}
    (h : PendingWrites store writes) : AttemptInv store (.ofWrites cluster name writes) := by
  cases writes with
  | nil => trivial
  | cons write writes => exact h

theorem attemptsInv_stepAttempts {state : Attempts} (h : AttemptsInv state)
    (event : AttemptEvent) : AttemptsInv (stepAttempts outside s state event) := by
  cases event with
  | start i cluster name =>
    rw [stepAttempts]
    split
    · exact h.set trivial
    · exact h
  | listHypervisors i =>
    rw [stepAttempts]
    split
    · exact h.set ⟨h.store.hypervisorNames, fun _ hmem => h.store.known hmem⟩
    · exact h
  | preReconcile i plan =>
    rw [stepAttempts]
    split
    · next cluster name hypervisors hattempt =>
      have hlisted := h.attempt i
      rw [hattempt] at hlisted
      exact h.set (attemptInv_ofWrites
        (pendingWrites_attemptWrites outside s h.store hlisted.1 hlisted.2 _ _ _))
    · exact h
  | write i =>
    rw [stepAttempts]
    split
    · next cluster name write writes hattempt =>
      have hpending := h.attempt i
      rw [hattempt] at hpending
      split
      · next store' hwrite =>
        obtain ⟨hinv', hadvances, hrest⟩ := PendingWrites.write h.store hpending hwrite
        have hothers : AttemptsInv { state with store := store' } :=
          ⟨hinv', fun j => (h.attempt j).advance hadvances⟩
        exact hothers.set (attemptInv_ofWrites hrest)
      · exact h.set trivial
      · exact h.set trivial
    · exact h
  | conflict i =>
    rw [stepAttempts]
    split
    · exact h.set trivial
    · exact h
  | abandon i => exact h.set trivial

theorem advances_stepAttempts {state : Attempts} (h : AttemptsInv state) (event : AttemptEvent) :
    Advances state.store (stepAttempts outside s state event).store := by
  cases event with
  | write i =>
    rw [stepAttempts]
    split
    · next cluster name write writes hattempt =>
      have hpending := h.attempt i
      rw [hattempt] at hpending
      split
      · next store' hwrite => exact (PendingWrites.write h.store hpending hwrite).2.1
      · exact .refl _
      · exact .refl _
    · exact .refl _
  | abandon i => exact .refl _
  | _ =>
    rw [stepAttempts]
    split
    · exact .refl _
    · exact .refl _

/-- In every state that concurrent pre-reconciles reach, the components and the
hypervisors agree on the host ports, and no port is given twice. -/
theorem portsAgree_of_reaches {store : Store} (hstart : Unallocated store) {state : Attempts}
    (hreach : Reaches (stepAttempts outside s) (fun _ _ => True)
      ⟨store, fun _ => .idle⟩ state) : PortsAgree state.store := by
  have hinv : AttemptsInv state := hreach.invariant
    (fun _ event h _ => attemptsInv_stepAttempts outside s h event)
    ⟨.of_unallocated hstart, fun _ => trivial⟩
  exact hinv.store.portsAgree

/-- A host port that a component was given stays its own.  Whatever attempts go on later, its
hypervisor has the port allocated to it, and the component never has another one of that name. -/
theorem port_stays_of_reaches {store : Store} (hstart : Unallocated store)
    {state later : Attempts}
    (hstate : Reaches (stepAttempts outside s) (fun _ _ => True) ⟨store, fun _ => .idle⟩ state)
    (hlater : Reaches (stepAttempts outside s) (fun _ _ => True) state later)
    {component : Component} (hmem : component ∈ state.store.components) {portName : String}
    {port : Int64} (hport : component.allocatedHostPorts.lookup portName = some port) :
    (∃ hypervisor ∈ later.store.hypervisors, hypervisor.name = component.hypervisorName ∧
      hypervisor.hasPort component.namespace component.clusterName
        (component.withSubcomponentName portName) = some port) ∧
      ∀ comp' ∈ later.store.components, comp'.key = component.key → ∀ port',
        comp'.allocatedHostPorts.lookup portName = some port' → port' = port := by
  have hinv : AttemptsInv state := hstate.invariant
    (fun _ event h _ => attemptsInv_stepAttempts outside s h event)
    ⟨.of_unallocated hstart, fun _ => trivial⟩
  obtain ⟨hinv', hadvances⟩ : AttemptsInv later ∧ Advances state.store later.store :=
    hlater.invariant (P := fun later => AttemptsInv later ∧ Advances state.store later.store)
      (fun _ event h _ => ⟨attemptsInv_stepAttempts outside s h.1 event,
        h.2.trans (advances_stepAttempts outside s h.1 event)⟩)
      ⟨hinv, .refl _⟩
  obtain ⟨hypervisor, hhyp, hname, halloc⟩ := hadvances.allocated component portName
    port (hinv.store.backed component hmem portName port hport).2
  have hhas := (hinv'.store.portInv hypervisor hhyp).hasPort_eq_some_iff.mpr halloc
  refine ⟨⟨hypervisor, hhyp, hname, hhas⟩, ?_⟩
  intro comp' hmem' hkey port' hport'
  -- it is on the same hypervisor, which has one port for its key
  obtain ⟨source, hsource, hkey', hhyp', hcl⟩ := hadvances.components comp' hmem'
  obtain rfl : source = component :=
    List.inj_on_of_nodup_map hinv.store.componentKeys hsource hmem (hkey'.symm.trans hkey)
  obtain ⟨other, hother, hname', halloc'⟩ :=
    (hinv'.store.backed comp' hmem' portName port' hport').2
  obtain rfl : other = hypervisor := List.inj_on_of_nodup_map hinv'.store.hypervisorNames hother
    hhyp (hname'.trans (hhyp'.trans hname.symm))
  have hsame : comp'.allocation portName port' = source.allocation portName port' := by
    have hnames : comp'.namespace = source.namespace ∧ comp'.name = source.name :=
      Prod.ext_iff.mp hkey
    unfold Component.allocation Component.withSubcomponentName
    rw [hnames.1, hnames.2, hcl]
  rw [hsame] at halloc'
  have hhas' := (hinv'.store.portInv other hother).hasPort_eq_some_iff.mpr halloc'
  exact Option.some.inj (hhas'.symm.trans hhas)

end Runs

/-- A hypervisor and two control planes on it. -/
def twoControlPlanes : Store :=
  { hypervisors := [⟨"hypervisor", 0, "10.0.0.1", ∅, 30000, 30010, [], []⟩]
    clusters := [{ name := "cluster", «namespace» := "default" }]
    components :=
      [.created ("default", "a") "cluster" .controlPlane "hypervisor",
        .created ("default", "b") "cluster" .controlPlane "hypervisor"] }

/-- Both control planes are pre-reconciled at the same time, and the second writes
its hypervisor too late. -/
def conflictingAttempts : List AttemptEvent :=
  let cluster : Cluster := { name := "cluster", «namespace» := "default" }
  [.start 0 cluster "a", .start 1 cluster "b", .listHypervisors 0, .listHypervisors 1,
    .preReconcile 0 {}, .preReconcile 1 {}, .write 0, .write 1, .listHypervisors 1,
    .preReconcile 1 {}, .write 1, .write 0, .write 1]

/-- The state at the end. -/
def afterConflict : Attempts :=
  conflictingAttempts.foldl (stepAttempts .succeeding ()) ⟨twoControlPlanes, fun _ => .idle⟩

theorem portsAgree_afterConflict :
    afterConflict.store.components.map (fun component =>
        component.allocatedHostPorts.lookup etcdPeerHostPortName) = [some 30001, some 30004] ∧
      PortsAgree afterConflict.store := by
  have hstart : Unallocated twoControlPlanes := ⟨by decide, by decide, by decide, by decide⟩
  exact ⟨by decide +kernel, portsAgree_of_reaches .succeeding () hstart (reaches_foldl (by decide))⟩

/-- The state before the last write. -/
def beforeLast : Attempts :=
  (conflictingAttempts.take 12).foldl (stepAttempts .succeeding ())
    ⟨twoControlPlanes, fun _ => .idle⟩

theorem port_stays_afterConflict : ∃ component ∈ beforeLast.store.components,
    component.key = ("default", "a") ∧ ∀ comp' ∈ afterConflict.store.components,
      comp'.key = component.key → ∀ port',
        comp'.allocatedHostPorts.lookup etcdPeerHostPortName = some port' →
          port' = 30001 := by
  have hstart : Unallocated twoControlPlanes := ⟨by decide, by decide, by decide, by decide⟩
  obtain ⟨component, hmem, hkey, hport⟩ : ∃ component ∈ beforeLast.store.components,
      component.key = ("default", "a") ∧
        component.allocatedHostPorts.lookup etcdPeerHostPortName = some 30001 := by
    decide +kernel
  have hbef : Reaches (stepAttempts .succeeding ()) (fun _ _ => True)
      ⟨twoControlPlanes, fun _ => .idle⟩ beforeLast := reaches_foldl (by decide)
  have hlater : Reaches (stepAttempts .succeeding ()) (fun _ _ => True) beforeLast
      afterConflict := by
    unfold afterConflict beforeLast
    nth_rewrite 2 [← List.take_append_drop 12 conflictingAttempts]
    rw [List.foldl_append]
    exact reaches_foldl ⟨trivial, trivial⟩
  have hstays := port_stays_of_reaches .succeeding () hstart hbef hlater hmem hport
  exact ⟨component, hmem, hkey, hstays.2⟩

end OneInfra.Controllers
