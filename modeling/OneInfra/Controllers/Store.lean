import OneInfra.Component.Component
import OneInfra.Cluster.V1alpha1
import OneInfra.Lib.Versioned

/-!
# The store behind the controllers

The API server keeps hypervisors, clusters and components.  The objects are those
that the controllers have in memory, since the conversions from and to the
versioned objects lose nothing that the controllers write.

Status and the rest of an object are written separately.  A write of either kind
is refused if the object changed since the sender read it.  An object that is
being deleted is removed when its last finalizer is.  `Edit` is what users and the
other controllers do: they create components, assign hypervisors, delete, and
switch the VPN of a cluster.
-/

namespace OneInfra

open Lib Infra

/-- The namespace and the name of an object. -/
abbrev ObjectKey := String × String

instance : LawfulBEq ObjectKey := inferInstance

/-- The key of a component. -/
def Component.key (component : Component) : ObjectKey := (component.namespace, component.name)

/-- The key of a cluster. -/
def Cluster.key (cluster : Cluster) : ObjectKey := (cluster.namespace, cluster.name)

/-! ## Status -/

/-- The stored hypervisor with the status of another. -/
def Infra.Hypervisor.withStatusOf (stored sent : Hypervisor) : Hypervisor :=
  { stored with
    resourceVersion := stored.resourceVersion + 1
    files := sent.files
    freedPorts := sent.freedPorts
    allocatedPorts := sent.allocatedPorts }

/-- The stored cluster with the status of another. -/
def Cluster.withStatusOf (stored sent : Cluster) : Cluster :=
  { stored with
    resourceVersion := stored.resourceVersion + 1
    clientCertificates := sent.clientCertificates
    storageClientEndpoints := sent.storageClientEndpoints
    storagePeerEndpoints := sent.storagePeerEndpoints
    vpnPeers := sent.vpnPeers
    apiServerEndpoint := sent.apiServerEndpoint
    vpnServerEndpoint := sent.vpnServerEndpoint
    currentJoinTokens := sent.currentJoinTokens
    conditions := sent.conditions }

/-- The stored component with the status of another. -/
def Component.withStatusOf (stored sent : Component) : Component :=
  { stored with
    resourceVersion := stored.resourceVersion + 1
    allocatedHostPorts := sent.allocatedHostPorts
    clientCertificates := sent.clientCertificates
    serverCertificates := sent.serverCertificates
    inputEndpoints := sent.inputEndpoints
    outputEndpoints := sent.outputEndpoints
    conditions := sent.conditions }

/-- The stored component with the specification and the metadata of another, or
none if it is removed. -/
def Component.withSpecOf (stored sent : Component) : Option Component :=
  if stored.deletionTimestamp.isSome ∧ sent.finalizers = [] then none
  else some { stored with
    resourceVersion := stored.resourceVersion + 1
    labels := sent.labels
    annotations := sent.annotations
    finalizers := sent.finalizers
    role := sent.role
    hypervisorName := sent.hypervisorName
    clusterName := sent.clusterName }

/-! ## The store -/

/-- The stored objects. -/
structure Store where
  hypervisors : List Hypervisor
  clusters : List Cluster
  components : List Component

/-- A write of a controller. -/
inductive Write
  | hypervisorStatus (hypervisor : Hypervisor)
  | clusterStatus (cluster : Cluster)
  | componentStatus (component : Component)
  | componentUpdate (component : Component)

namespace Store

/-- The answer of the API server to a write. -/
def write (store : Store) : Write → Except WriteError Store
  | .hypervisorStatus hypervisor =>
    (putRow Hypervisor.name Hypervisor.resourceVersion
      (fun stored sent => some (stored.withStatusOf sent)) hypervisor store.hypervisors).map
      fun hypervisors => { store with hypervisors := hypervisors }
  | .clusterStatus cluster =>
    (putRow Cluster.key Cluster.resourceVersion
      (fun stored sent => some (stored.withStatusOf sent)) cluster store.clusters).map
      fun clusters => { store with clusters := clusters }
  | .componentStatus component =>
    (putRow Component.key Component.resourceVersion
      (fun stored sent => some (stored.withStatusOf sent)) component store.components).map
      fun components => { store with components := components }
  | .componentUpdate component =>
    (putRow Component.key Component.resourceVersion Component.withSpecOf component
      store.components).map fun components => { store with components := components }

section Write

variable {store store' : Store}

theorem write_hypervisorStatus_ok {hypervisor : Hypervisor}
    (h : store.write (.hypervisorStatus hypervisor) = .ok store') :
    ∃ hypervisors, putRow Hypervisor.name Hypervisor.resourceVersion
        (fun stored sent => some (stored.withStatusOf sent)) hypervisor store.hypervisors =
          .ok hypervisors ∧ { store with hypervisors := hypervisors } = store' :=
  map_eq_ok.mp h

theorem write_clusterStatus_ok {cluster : Cluster}
    (h : store.write (.clusterStatus cluster) = .ok store') :
    ∃ clusters, putRow Cluster.key Cluster.resourceVersion
        (fun stored sent => some (stored.withStatusOf sent)) cluster store.clusters =
          .ok clusters ∧ { store with clusters := clusters } = store' :=
  map_eq_ok.mp h

theorem write_componentStatus_ok {component : Component}
    (h : store.write (.componentStatus component) = .ok store') :
    ∃ components, putRow Component.key Component.resourceVersion
        (fun stored sent => some (stored.withStatusOf sent)) component store.components =
          .ok components ∧ { store with components := components } = store' :=
  map_eq_ok.mp h

theorem write_componentUpdate_ok {component : Component}
    (h : store.write (.componentUpdate component) = .ok store') :
    ∃ components, putRow Component.key Component.resourceVersion Component.withSpecOf component
        store.components = .ok components ∧ { store with components := components } = store' :=
  map_eq_ok.mp h

end Write

/-- Make writes in sequence up to the first that fails.  `errorAt` are the failures
that do not come from the store. -/
def writeAll (errorAt : Nat → Option WriteError) :
    Nat → List Write → Store → Option WriteError × Store
  | _, [], store => (none, store)
  | i, write :: writes, store =>
    match errorAt i with
    | some error => (some error, store)
    | none =>
      match store.write write with
      | .error error => (some error, store)
      | .ok store => writeAll errorAt (i + 1) writes store

end Store

/-! ## Edits -/

/-- What happens to the store besides the writes of the component controller. -/
inductive Edit
  | createComponent (key : ObjectKey) (clusterName : String) (role : Role)
      (hypervisorName : String)
  | scheduleComponent (key : ObjectKey) (hypervisorName : String)
  | deleteComponent (key : ObjectKey) (now : Nat)
  | setVPNEnabled (key : ObjectKey) (enabled : Bool)
  | deleteCluster (key : ObjectKey) (now : Nat)
deriving DecidableEq, Repr

/-- A component as it is stored when it is created. -/
def Component.created (key : ObjectKey) (clusterName : String) (role : Role)
    (hypervisorName : String) : Component :=
  { name := key.2
    «namespace» := key.1
    finalizers := [oneInfraCleanupFinalizer]
    role := role
    hypervisorName := hypervisorName
    clusterName := clusterName }

/-- A component after the scheduler assigned a hypervisor to it. -/
def Component.scheduled (component : Component) (hypervisorName : String) : Component :=
  if component.hypervisorName = "" then
    { component with
      resourceVersion := component.resourceVersion + 1, hypervisorName := hypervisorName }
  else component

/-- An object after the request to delete it, which stays while it has finalizers. -/
def requestDeletion {α : Type} (deletionTimestamp : α → Option Nat) (finalizers : α → List String)
    (mark : α → α) (object : α) : Option α :=
  if (deletionTimestamp object).isSome then some object
  else if finalizers object = [] then none
  else some (mark object)

/-- A component after the request to delete it. -/
def Component.deleted (component : Component) (now : Nat) : Option Component :=
  requestDeletion Component.deletionTimestamp Component.finalizers (fun component =>
    { component with
      resourceVersion := component.resourceVersion + 1, deletionTimestamp := some now }) component

/-- A cluster after its VPN was switched. -/
def Cluster.withVPNEnabled (cluster : Cluster) (enabled : Bool) : Cluster :=
  { cluster with
    resourceVersion := cluster.resourceVersion + 1
    vpn := { cluster.vpn with enabled := enabled } }

/-- A cluster after the request to delete it. -/
def Cluster.deleted (cluster : Cluster) (now : Nat) : Option Cluster :=
  requestDeletion Cluster.deletionTimestamp Cluster.finalizers (fun cluster =>
    { cluster with
      resourceVersion := cluster.resourceVersion + 1, deletionTimestamp := some now }) cluster

/-- The store after an edit. -/
def Store.edit (store : Store) : Edit → Store
  | .createComponent key clusterName role hypervisorName =>
    if key ∈ store.components.map Component.key then store
    else { store with
      components := store.components ++ [.created key clusterName role hypervisorName] }
  | .scheduleComponent key hypervisorName =>
    { store with
      components := modifyKey Component.key key (·.scheduled hypervisorName) store.components }
  | .deleteComponent key now =>
    { store with
      components := store.components.filterMap fun component =>
        if component.key = key then component.deleted now else some component }
  | .setVPNEnabled key enabled =>
    { store with
      clusters := modifyKey Cluster.key key (·.withVPNEnabled enabled) store.clusters }
  | .deleteCluster key now =>
    { store with
      clusters := store.clusters.filterMap fun cluster =>
        if cluster.key = key then cluster.deleted now else some cluster }

end OneInfra
