import OneInfra.Cluster.Reconciler
import OneInfra.Component.PortSteps
import OneInfra.Lib.Reach
import OneInfra.Lib.Triple

/-!
# The bootstrap of etcd

The container of etcd starts a new cluster of etcd unless its arguments name the
existing members, and they do so only if etcd answered when the container was
generated.  This file follows the containers that are generated for the components of
a cluster, while control planes are reconciled in any order, the cluster publishes its
storage endpoints and the objects are changed by others.

* `EtcdAnswers` says that a component gets an answer when it asks for the members, and
  `etcdMembers_answers` that asking does not fail then.
* `Generates` says which containers a reconcile adds to the history.  It is a logic of
  `OneInfra.Component.Logic`, so that only the container itself is new here.
* `SingleBootstrap` says that one component at most bootstraps a cluster.
  `singleBootstrap_of_reaches` proves it of the runs in which etcd answers to a
  component from the moment when another one has bootstrapped the cluster.

Without the answer the second component bootstraps as well, whether or not the cluster
has published its storage endpoints.
-/

namespace OneInfra

open Lib Infra

variable {σ : Type} {α β : Type}

namespace Components

/-! ## Asking for the members -/

/-- A component of the cluster gets an answer when it asks etcd for the members: the
client can be created and each of its calls succeeds. -/
structure EtcdAnswers (outside : Outside σ) (cluster : Cluster) : Prop where
  initialized : cluster.hasUninitializedCertificates = false
  parses : ∀ etcdServer ca, cluster.etcdServer = some etcdServer → etcdServer.ca = some ca →
    outside.parsesCertificate ca.certificate = true
  certifies : ∀ ca commonName organization extraSANs s message,
    (outside.createCertificate ca commonName organization extraSANs s).1 ≠ .error (.error message)
  connects : ∀ ref endpoints s, ∃ members,
    (outside.etcd ref (.connect endpoints) s).1 = .ok members
  lists : ∀ ref endpoints s, ∃ members,
    (outside.etcd ref (.memberList endpoints) s).1 = .ok members

/-- The world has this cluster. -/
def HasCluster (cluster : Cluster) (world : World σ) : Prop :=
  world.cluster = cluster

/-- `x` does not return an error in a world with this cluster, and keeps the cluster. -/
abbrev Answers (cluster : Cluster) (x : ReconcileM σ α) : Prop :=
  Triple (HasCluster cluster) x (fun _ => HasCluster cluster) fun _ => False

namespace Answers

variable {known : Cluster} {outside : Outside σ} (name : String)

theorem of_run {x : ReconcileM σ α} {p : Permissions} (hx : Performs p x)
    (herr : ∀ world message world', world.cluster = known →
      x.run world ≠ .error (.error message) world') : Answers known x := by
  intro world hw
  constructor
  · intro a world' hrun
    exact (Steps.cluster_eq (hx.of_run hrun)).trans hw
  · intro message world' hrun
    exact herr world message world' hw hrun

/-- An error that is caught is no error. -/
theorem attempt {x : ReconcileM σ α} {p : Permissions} (hx : Performs p x) :
    Answers known (attempt x) := by
  refine of_run (Performs.attempt hx) fun world message world' _ hrun => ?_
  obtain ⟨-, _, hpanic⟩ := run_attempt_eq_error.mp hrun
  cases hpanic

theorem bind_cluster {f : Cluster → ReconcileM σ α} (hf : Answers known (f known)) :
    Answers known (cluster >>= f) := by
  intro world hw
  have hrun : (cluster >>= f).run world = (f world.cluster).run world := rfl
  rw [hrun, show world.cluster = known from hw]
  exact hf world hw

theorem bind_deref {pointer : Option β} {f : β → ReconcileM σ α}
    (hf : ∀ b, pointer = some b → Answers known (f b)) :
    Answers known (ofExcept (deref pointer) >>= f) := by
  cases pointer with
  | none => exact .bind (Q := fun _ _ => False) (.of_panic _) fun _ _ h => h.elim
  | some b => exact hf b rfl

theorem component : Answers known (component name : ReconcileM σ Component) := by
  refine of_run (performs_component (p := noPorts) name) fun world message world' _ hrun => ?_
  rw [run_component] at hrun
  split at hrun
  · cases hrun
  · cases hrun

/-- A call to the outside that succeeds. -/
theorem bind_onOutside {call : σ → β × σ} {f : β → ReconcileM σ α}
    (hf : ∀ s, Answers known (f (call s).1)) : Answers known (onOutside call >>= f) := by
  intro world hw
  exact hf world.outside { world with outside := (call world.outside).2 } hw

theorem bind_etcd {call : EtcdCall} {f : Except EtcdError (List EtcdMember) → ReconcileM σ α}
    (hf : ∀ s, Answers known (f (outside.etcd ⟨known.namespace, known.name, name⟩ call s).1)) :
    Answers known (etcd outside name call >>= f) := by
  rw [etcd, bind_assoc]
  exact bind_cluster (bind_onOutside hf)

variable (h : EtcdAnswers outside known)

include h

theorem createCertificate (ca : Option Certificate) (commonName : String)
    (organization extraSANs : List String) :
    Answers known (createCertificate outside ca commonName organization extraSANs) := by
  refine bind_onOutside fun s => ?_
  have hcertifies := h.certifies ca commonName organization extraSANs s
  split
  · exact .of_pure fun _ hw => hw
  · next fault hfault =>
    cases fault with
    | error message => exact absurd hfault (hcertifies message)
    | panic message => exact .of_panic message

theorem clientCertificate (ca : Option Certificate) (certificateName commonName : String)
    (organization extraSANs : List String) :
    Answers known
      (clientCertificate outside name ca certificateName commonName organization extraSANs) := by
  refine .bind (component name) fun found => ?_
  split
  · exact .of_pure fun _ hw => hw
  · refine .bind (createCertificate h _ _ _ _) fun certificate => ?_
    refine .bind (component name) fun found => ?_
    exact .bind (.of_modify fun _ hw => hw) fun _ => .of_pure fun _ hw => hw

/-- The client is created. -/
theorem etcdClientWithEndpoints (endpoints : List String) :
    Answers known (ControlPlane.etcdClientWithEndpoints outside name endpoints) := by
  refine bind_cluster ?_
  rw [if_neg (by simp [h.initialized])]
  refine bind_deref fun etcdServer hetcdServer => bind_deref fun ca hca => ?_
  rw [if_neg (by simp [h.parses etcdServer ca hetcdServer hca])]
  refine bind_deref fun certificateAuthorities _ => ?_
  refine .bind (clientCertificate name h _ _ _ _ _) fun _ => ?_
  refine bind_etcd name fun s => ?_
  obtain ⟨members, hmembers⟩ := h.connects ⟨known.namespace, known.name, name⟩ endpoints s
  rw [hmembers]
  exact .of_pure fun _ hw => hw

omit h in
/-- The endpoints are those of the components whose port is known or can be had. -/
theorem clientEndpointsOf (components : List Component) :
    Answers known (ControlPlane.clientEndpointsOf components : ReconcileM σ (List String)) := by
  induction components with
  | nil => exact .of_pure fun _ hw => hw
  | cons found components ih =>
    rw [ControlPlane.clientEndpointsOf]
    split
    · exact ih
    refine .bind (.of_get fun _ hw => hw) fun world => ?_
    split
    · exact ih
    refine .bind (attempt (performs_requestPort (p := anyPorts) _ _ trivial)) fun result => ?_
    cases result with
    | error message => exact ih
    | ok port => exact .bind ih fun _ => .of_pure fun _ hw => hw

/-- The list of the members is returned. -/
theorem etcdMembers : Answers known (ControlPlane.etcdMembers outside name) := by
  refine .bind (.bind (.bind (.of_get fun _ hw => hw) fun _ => clientEndpointsOf _)
    fun endpoints => etcdClientWithEndpoints name h endpoints) fun client => ?_
  refine bind_etcd name fun s => ?_
  obtain ⟨members, hmembers⟩ := h.lists ⟨known.namespace, known.name, name⟩ client s
  rw [hmembers]
  exact .of_pure fun _ hw => hw

end Answers

/-! ## The containers of a reconcile -/

/-- A container that a component of the cluster gets.  It does not bootstrap if etcd
answers. -/
structure GeneratedFor (outside : Outside σ) (cluster : Cluster) (name : String)
    (container : EtcdContainer) : Prop where
  clusterNamespace : container.clusterNamespace = cluster.namespace
  clusterName : container.clusterName = cluster.name
  componentName : container.componentName = name
  joins : EtcdAnswers outside cluster → ¬ container.toContainer.Bootstraps

/-- The cluster stays, and only containers of the component are added to the history. -/
def Generates (outside : Outside σ) (known : Cluster) (name : String) (world world' : World σ) :
    Prop :=
  world.cluster = known → world'.cluster = known ∧ ∃ added,
    world'.etcdContainers = world.etcdContainers ++ added ∧
      ∀ container ∈ added, GeneratedFor outside known name container

namespace Generates

variable {outside : Outside σ} {known : Cluster} {name : String} {world world' world'' : World σ}

theorem of_eq (hcl : world'.cluster = world.cluster)
    (hctrs : world'.etcdContainers = world.etcdContainers) :
    Generates outside known name world world' := by
  intro hknown
  refine ⟨hcl.trans hknown, [], ?_, fun _ hmem => absurd hmem List.not_mem_nil⟩
  rw [hctrs, List.append_nil]

theorem trans (h : Generates outside known name world world')
    (h' : Generates outside known name world' world'') :
    Generates outside known name world world'' := by
  intro hknown
  obtain ⟨hknown', added, hadded, hall⟩ := h hknown
  obtain ⟨hknown'', added', hadded', hall'⟩ := h' hknown'
  refine ⟨hknown'', added ++ added', by rw [hadded', hadded, List.append_assoc], ?_⟩
  intro container hmem
  exact (List.mem_append.mp hmem).elim (hall container) (hall' container)

/-- To generate containers of the component only. -/
def logic (outside : Outside σ) (known : Cluster) (name : String) : Logic σ where
  Holds x := Guarantees (Generates outside known name) x
  Reads cluster := cluster = known
  Uploads _ _ _ := True
  onOutside _ _ := of_eq rfl rfl
  quiet hx world := of_eq (congrArg _ (hx.same world)) (congrArg _ (hx.same world))
  bind_cluster hf world hknown := hf world.cluster hknown world hknown
  bind := .bind fun _ _ _ => trans
  attempt := .of_attempt

/-- A program that changes neither the cluster nor the history. -/
theorem of_unchanged {x : ReconcileM σ α}
    (h : ∀ world, (finalState (x.run world)).cluster = world.cluster ∧
      (finalState (x.run world)).etcdContainers = world.etcdContainers) :
    (logic outside known name).Holds x :=
  fun world => of_eq (h world).1 (h world).2

theorem tolerant : (logic outside known name).Tolerant :=
  ⟨fun _ => of_unchanged fun _ => ⟨rfl, rfl⟩⟩

theorem hasData (other : String) : (logic outside known name).HasData other := by
  refine ⟨fun hf => guarantees_bind_component (fun _ => of_eq rfl rfl) _
    fun found world hfound hname => ?_⟩
  obtain ⟨a, comp', hrun, -⟩ := hf found world hfound hname
  rw [hrun]
  exact of_eq rfl rfl

theorem requestPort (other portName : String) :
    (logic outside known name).Holds (requestPort other portName) := by
  refine of_unchanged fun world => ?_
  rw [run_requestPort]
  repeat' split
  all_goals exact ⟨rfl, rfl⟩

theorem serves : (logic outside known name).ServesCertificates outside name := by
  refine tolerant.serves (hasData _) (fun _ _ _ _ => trivial) fun _ files _ _ => ?_
  exact (tolerant.derefHypervisor name).uploadFiles (.bind (tolerant.derefHypervisor name)
    fun _ => of_unchanged fun _ => ⟨rfl, rfl⟩)

theorem servesEtcd : (logic outside known name).ServesEtcd outside name :=
  serves.toServesEtcd (fun _ => requestPort _ _) (requestPort _ _)

/-- The members are listed if etcd answers. -/
theorem initialClusterState_joins (hanswers : EtcdAnswers outside known)
    {state : InitialClusterState} (hw : world.cluster = known)
    (hrun : (ControlPlane.initialClusterState outside name).run world = .ok state world') :
    ∃ members, state = .existing members := by
  have hall : Triple (HasCluster known) (ControlPlane.initialClusterState outside name)
      (fun state _ => ∃ members, state = .existing members) fun _ => True := by
    refine .bind (Q := fun _ => HasCluster known) ?_ fun cluster => ?_
    · exact .bind (.of_get fun _ h => h) fun _ => .of_pure fun _ h => h
    refine .bind (Q := fun result world => ∃ members, result = .ok members) ?_ fun result => ?_
    · exact (Answers.etcdMembers name hanswers).of_attempt
        (fun members _ _ => ⟨members, rfl⟩) fun _ _ => False.elim
    cases result with
    | error message =>
      intro _ hres
      obtain ⟨_, hok⟩ := hres
      cases hok
    | ok members =>
      refine .bind (.trivial _) fun peerURL => .bind (.trivial _) fun entries => ?_
      exact .of_pure fun _ _ => ⟨entries, rfl⟩
  exact (hall world hw).1 state world' hrun

/-- Going on with the state that was decided on. -/
theorem bind_initialClusterState {f : InitialClusterState → ReconcileM σ α}
    (hf : ∀ state, (EtcdAnswers outside known → ∃ members, state = .existing members) →
      (logic outside known name).Holds (f state)) :
    (logic outside known name).Holds (ControlPlane.initialClusterState outside name >>= f) := by
  intro world hknown
  have hdecides : (logic outside known name).Holds
      (ControlPlane.initialClusterState outside name) := servesEtcd.initialClusterState
  have hfirst := hdecides world
  rw [EStateM.run_bind]
  cases hrun : (ControlPlane.initialClusterState outside name).run world with
  | error fault world' =>
    rw [hrun] at hfirst
    exact hfirst hknown
  | ok state world' =>
    rw [hrun] at hfirst
    have hjoins : EtcdAnswers outside known → ∃ members, state = .existing members :=
      fun hanswers => initialClusterState_joins hanswers hknown hrun
    exact hfirst.trans (hf state hjoins world') hknown

theorem etcdContainer (etcdClientHostPort etcdPeerHostPort : Int64) :
    (logic outside known name).Holds
      (ControlPlane.etcdContainer outside name etcdClientHostPort etcdPeerHostPort) := by
  refine .bind_cluster fun cluster hcl => ?_
  have hcl : cluster = known := hcl
  subst hcl
  split
  · exact .error _
  refine .bind (tolerant.derefHypervisor name) fun hypervisor => ?_
  refine .bind servesEtcd.etcdClientEndpoints fun clientEndpoints => ?_
  refine bind_initialClusterState fun state hjoins => ?_
  dsimp only
  refine .bind (fun world hknown => ⟨hknown, [_], rfl, ?_⟩) fun _ => .pure _
  intro container hmem
  rw [List.mem_singleton] at hmem
  subst hmem
  refine ⟨rfl, rfl, rfl, fun hanswers => ?_⟩
  rw [EtcdContainer.bootstraps_toContainer_iff]
  obtain ⟨members, rfl⟩ := hjoins hanswers
  exact fun hnone => hnone members rfl

/-- What a reconcile adds to the history. -/
theorem reconcile : (logic outside known name).Holds (ControlPlane.reconcile outside name) :=
  (servesEtcd.toServesControlPlane (hasData _) (requestPort _ _) (fun _ => requestPort _ _)
    etcdContainer).reconcile

end Generates

end Components

/-! ## Runs -/

open Components Clusters

/-- What happens around the components of a cluster. -/
inductive BootstrapEvent (σ : Type)
  /-- `Reconcile` of a control plane.  The outside answers as it likes in each. -/
  | reconcile (outside : Outside σ) (name : String)
  /-- The storage endpoints of the cluster are reconciled. -/
  | reconcileStorageEndpoints
  /-- Others change the objects and the outside. -/
  | load (hypervisors : List Hypervisor) (cluster : Cluster) (components : List Component)
      (outside : σ)

namespace World

/-- The cluster reconciler publishes the storage endpoints. -/
def reconcileStorageEndpoints (world : World σ) : World σ :=
  let clusterReconciler : ClusterReconciler := ⟨world.hypervisors, world.components⟩
  { world with
    cluster := (clusterReconciler.reconcileStorageEndpoints ⟨world.cluster, ∅, 0⟩).cluster }

/-- The world after an event. -/
def afterBootstrap (world : World σ) : BootstrapEvent σ → World σ
  | .reconcile outside name => finalState ((ControlPlane.reconcile outside name).run world)
  | .reconcileStorageEndpoints => world.reconcileStorageEndpoints
  | .load hypervisors cluster components outside =>
    { world with
      hypervisors := hypervisors
      cluster := cluster
      components := components
      outside := outside }

/-- A container of the component was generated that bootstraps the cluster. -/
def Bootstrapped (world : World σ) (clusterNamespace clusterName componentName : String) : Prop :=
  ∃ container ∈ world.etcdContainers, container.clusterNamespace = clusterNamespace ∧
    container.clusterName = clusterName ∧ container.componentName = componentName ∧
    container.toContainer.Bootstraps

/-- One component of a cluster bootstraps it at most. -/
def SingleBootstrap (world : World σ) : Prop :=
  ∀ clusterNamespace clusterName componentName componentName',
    world.Bootstrapped clusterNamespace clusterName componentName →
    world.Bootstrapped clusterNamespace clusterName componentName' →
    componentName = componentName'

/-- etcd answers to a component of a cluster that another one has bootstrapped. -/
def SafeBootstrap (world : World σ) : BootstrapEvent σ → Prop
  | .reconcile outside name => ∀ other ≠ name,
      world.Bootstrapped world.cluster.namespace world.cluster.name other →
      EtcdAnswers outside world.cluster
  | _ => True

variable {world world' : World σ} {ns cl comp : String}

/-- What a reconcile bootstraps: the own cluster, for the component, and only if etcd does
not answer. -/
theorem bootstrapped_reconcile {outside : Outside σ} {name : String}
    (h : (finalState ((ControlPlane.reconcile outside name).run world)).Bootstrapped
      ns cl comp) :
    world.Bootstrapped ns cl comp ∨
      (ns = world.cluster.namespace ∧ cl = world.cluster.name ∧
        comp = name ∧ ¬ EtcdAnswers outside world.cluster) := by
  obtain ⟨container, hmem, rfl, rfl, rfl, hbootstraps⟩ := h
  have hgenerates : (Generates.logic outside world.cluster name).Holds
      (ControlPlane.reconcile outside name) := Generates.reconcile
  obtain ⟨-, added, hadded, hall⟩ := hgenerates world rfl
  rw [hadded] at hmem
  rcases List.mem_append.mp hmem with hold | hnew
  · exact .inl ⟨container, hold, rfl, rfl, rfl, hbootstraps⟩
  · have hgen := hall container hnew
    exact .inr ⟨hgen.clusterNamespace, hgen.clusterName, hgen.componentName,
      fun hanswers => hgen.joins hanswers hbootstraps⟩

/-- One step. -/
theorem SingleBootstrap.after {event : BootstrapEvent σ} (h : world.SingleBootstrap)
    (hsafe : world.SafeBootstrap event) : (world.afterBootstrap event).SingleBootstrap := by
  cases event with
  | reconcileStorageEndpoints => exact h
  | load hypervisors cluster components outside => exact h
  | reconcile outside name =>
    intro ns cl first second hfirst hsnd
    have hsafe : ∀ other ≠ name,
        world.Bootstrapped world.cluster.namespace world.cluster.name other →
        EtcdAnswers outside world.cluster := hsafe
    rcases bootstrapped_reconcile hfirst with hold | ⟨rfl, rfl, rfl, hsilent⟩
    · rcases bootstrapped_reconcile hsnd with hold' | ⟨rfl, rfl, rfl, hsilent⟩
      · exact h _ _ _ _ hold hold'
      · -- the cluster had been bootstrapped, and etcd did not answer
        by_contra hne
        exact hsilent (hsafe first hne hold)
    · rcases bootstrapped_reconcile hsnd with hold' | ⟨-, -, rfl, -⟩
      · by_contra hne
        exact hsilent (hsafe second (Ne.symm hne) hold')
      · rfl

/-- **One bootstrap.**  In a run from a world in which no container of etcd was generated,
one component at most bootstraps a cluster, if etcd answers to every component that is
reconciled after another one has bootstrapped its cluster. -/
theorem singleBootstrap_of_reaches (hstart : world.etcdContainers = [])
    (hreach : Reaches afterBootstrap SafeBootstrap world world') : world'.SingleBootstrap := by
  refine hreach.invariant (fun _ _ h hsafe => h.after hsafe) ?_
  rintro _ _ _ _ ⟨container, hmem, -⟩
  rw [hstart] at hmem
  exact absurd hmem List.not_mem_nil

end World

/-! ## Two control planes -/

/-- An outside in which etcd does not list its members. -/
def Outside.silent : Outside Unit :=
  { Outside.succeeding with
    etcd := fun _ call s => match call with
      | .memberList _ => (.error (.other "unavailable"), s)
      | _ => (.ok [], s) }

/-- A cluster of two control planes that have their ports. -/
def twoControlPlanes : World Unit :=
  let key : Certificate := ⟨"crt", "key"⟩
  let hypervisor : Hypervisor :=
    { name := "h", resourceVersion := 1, ipAddress := "10.0.0.1", portRangeLow := 30000
      portRangeHigh := 60000, files := ∅, freedPorts := [], allocatedPorts := [] }
  let cluster : Cluster :=
    { name := "c", «namespace» := "ns", serviceCIDR := "10.96.0.0/12", controlPlaneReplicas := 2
      certificateAuthorities := some ⟨key, key, key, key, key, key⟩
      etcdServer := some { ca := some key }
      apiServer := some { ca := some key, serviceAccount := some ⟨"pub", "priv"⟩ } }
  let controlPlane (name : String) : Component :=
    { name := name, «namespace» := "ns", clusterName := "c", role := .controlPlane
      hypervisorName := "h" }
  finalState ((preReconcile Outside.succeeding []).run
    { hypervisors := [hypervisor]
      cluster := cluster
      components := [controlPlane "a", controlPlane "b"]
      outside := () })

namespace World

/-- The control planes are reconciled one after the other, and the cluster between them.
etcd is not reached from the first one. -/
def reconcileBoth (outside : Outside Unit) : List (BootstrapEvent Unit) :=
  [.reconcile Outside.silent "a", .reconcileStorageEndpoints, .reconcile outside "b"]

/-- etcd is not reached from the second control plane either.  The cluster has published the
endpoints of both by then, and the second one bootstraps as well. -/
theorem not_singleBootstrap_silent :
    ∃ world, world = (reconcileBoth Outside.silent).foldl afterBootstrap twoControlPlanes ∧
      world.etcdContainers.map (fun container =>
        (container.clusterNamespace, container.clusterName, container.componentName,
          container.initialClusterState)) = [("ns", "c", "a", .new), ("ns", "c", "b", .unset)] ∧
      ¬ world.SingleBootstrap := by
  have hruns : ∃ world ∈ [(reconcileBoth Outside.silent).foldl afterBootstrap twoControlPlanes],
      world.etcdContainers.map (fun container =>
        (container.clusterNamespace, container.clusterName, container.componentName,
          container.initialClusterState)) =
        [("ns", "c", "a", .new), ("ns", "c", "b", .unset)] := by
    decide +kernel
  obtain ⟨world, hw, hctrs⟩ := hruns
  have hbootstrapped : ∀ (name : String) (state : InitialClusterState),
      ("ns", "c", name, state) ∈ [("ns", "c", "a", .new), ("ns", "c", "b", .unset)] →
      (∀ members, state ≠ .existing members) → world.Bootstrapped "ns" "c" name := by
    intro name state hmem hnew
    rw [← hctrs] at hmem
    obtain ⟨container, hgen, heq⟩ := List.mem_map.mp hmem
    simp only [Prod.mk.injEq] at heq
    obtain ⟨hns, hcl, hname, rfl⟩ := heq
    exact ⟨container, hgen, hns, hcl, hname,
      (EtcdContainer.bootstraps_toContainer_iff container).mpr hnew⟩
  have ha := hbootstrapped "a" .new (by simp) (by simp)
  have hb := hbootstrapped "b" .unset (by simp) (by simp)
  refine ⟨world, List.mem_singleton.mp hw, hctrs, fun h => ?_⟩
  exact absurd (h _ _ _ _ ha hb) (by decide)

/-- Neither reconcile changes whether certificates are missing. -/
theorem hasUninitializedCertificates_after (world : World σ) (outside : Outside σ) (name : String) :
    ((world.afterBootstrap (.reconcile outside name)).afterBootstrap
      .reconcileStorageEndpoints).cluster.hasUninitializedCertificates =
      world.cluster.hasUninitializedCertificates := by
  have hgen : (Generates.logic outside world.cluster name).Holds
      (ControlPlane.reconcile outside name) := Generates.reconcile
  have hcl := (hgen world rfl).1
  generalize hbtw : finalState ((ControlPlane.reconcile outside name).run world) = between
    at hcl
  rw [show world.afterBootstrap (.reconcile outside name) = between from hbtw, ← hcl]
  dsimp only [afterBootstrap, reconcileStorageEndpoints,
    ClusterReconciler.reconcileStorageEndpoints]
  cases ClusterReconciler.storageEndpointsOf _ _ with
  | error message => rfl
  | ok endpoints => rfl

theorem etcdAnswers_succeeding {cluster : Cluster}
    (h : cluster.hasUninitializedCertificates = false) :
    EtcdAnswers Outside.succeeding cluster where
  initialized := h
  parses _ _ _ _ := rfl
  certifies _ _ _ _ _ _ := nofun
  connects _ _ _ := ⟨[], rfl⟩
  lists _ _ _ := ⟨[], rfl⟩

/-- The second control plane joins if etcd answers to it. -/
theorem singleBootstrap_of_reaches_succeeding :
    ((reconcileBoth Outside.succeeding).foldl afterBootstrap
      twoControlPlanes).SingleBootstrap := by
  have hstart : twoControlPlanes.etcdContainers = [] := by decide +kernel
  have hinit : twoControlPlanes.cluster.hasUninitializedCertificates = false := by
    decide +kernel
  have hfirst : twoControlPlanes.SafeBootstrap (.reconcile Outside.silent "a") := by
    rintro other - ⟨container, hmem, -⟩
    rw [hstart] at hmem
    exact absurd hmem List.not_mem_nil
  have hsnd : ((twoControlPlanes.afterBootstrap (.reconcile Outside.silent "a")).afterBootstrap
      .reconcileStorageEndpoints).SafeBootstrap (.reconcile Outside.succeeding "b") := by
    intro other _ _
    have hafter := hasUninitializedCertificates_after twoControlPlanes Outside.silent "a"
    exact etcdAnswers_succeeding (hafter.trans hinit)
  have hrun : AllowedRun afterBootstrap SafeBootstrap twoControlPlanes
      (reconcileBoth Outside.succeeding) := ⟨hfirst, trivial, hsnd, trivial⟩
  exact singleBootstrap_of_reaches hstart (reaches_foldl hrun)

end World

end OneInfra
