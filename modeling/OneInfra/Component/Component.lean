import OneInfra.Cluster.Cluster
import OneInfra.Infra.Hypervisor

/-!
# Components in memory

`Component` follows `internal/pkg/component/component.go`, and the list
functions those of `component_list.go`.  A component holds its host ports by
name.  The hypervisor holds the same ports under the namespace, the cluster
and the text `component-name`, which `withSubcomponentName` builds.

Certificates are kept by name like ports.  The functions that create them are in
`OneInfra.Component.World`.
-/

namespace OneInfra

open Lib Conditions Infra

/-- `Role`.  The zero value is that of a role that the import does not know. -/
inductive Role
  | unknown
  | controlPlane
  | controlPlaneIngress
deriving DecidableEq, Repr

/-- `Component`. -/
structure Component where
  name : String := ""
  generateName : String := ""
  «namespace» : String
  resourceVersion : Nat := 0
  labels : GoMap String String := ∅
  annotations : GoMap String String := ∅
  finalizers : List String := []
  deletionTimestamp : Option Nat := none
  role : Role
  hypervisorName : String := ""
  clusterName : String
  allocatedHostPorts : GoMap String Int64 := ∅
  clientCertificates : GoMap String Certificate := ∅
  serverCertificates : GoMap String Certificate := ∅
  inputEndpoints : GoMap String String := ∅
  outputEndpoints : GoMap String String := ∅
  conditions : ConditionList := []

namespace Component

instance : DecidableEq Component := fun a b =>
  decidable_of_iff
    (a.name = b.name ∧ a.generateName = b.generateName ∧ a.namespace = b.namespace ∧
      a.resourceVersion = b.resourceVersion ∧ a.labels = b.labels ∧
      a.annotations = b.annotations ∧ a.finalizers = b.finalizers ∧
      a.deletionTimestamp = b.deletionTimestamp ∧ a.role = b.role ∧
      a.hypervisorName = b.hypervisorName ∧ a.clusterName = b.clusterName ∧
      a.allocatedHostPorts = b.allocatedHostPorts ∧
      a.clientCertificates = b.clientCertificates ∧
      a.serverCertificates = b.serverCertificates ∧ a.inputEndpoints = b.inputEndpoints ∧
      a.outputEndpoints = b.outputEndpoints ∧ a.conditions = b.conditions)
    (by cases a; cases b; simp)

/-- `NewComponent`. -/
def newComponent (clusterNamespace clusterName componentGenerateName : String)
    (role : Role) : Component :=
  { generateName := componentGenerateName
    «namespace» := clusterNamespace
    clusterName := clusterName
    role := role }

/-- `WithSubcomponentName`. -/
def withSubcomponentName (component : Component) (subcomponentName : String) : String :=
  component.name ++ "-" ++ subcomponentName

/-- `RequestPort`: the port, the component and the hypervisor after it. -/
def requestPort (component : Component) (hypervisor : Hypervisor) (name : String) :
    Except String Int64 × Component × Hypervisor :=
  match component.allocatedHostPorts.lookup name with
  | some allocatedPort => (.ok allocatedPort, component, hypervisor)
  | none =>
    match hypervisor.requestPort component.namespace component.clusterName
        (component.withSubcomponentName name) with
    | (.error message, hypervisor) => (.error message, component, hypervisor)
    | (.ok allocatedPort, hypervisor) =>
      (.ok allocatedPort, { component with
        allocatedHostPorts := component.allocatedHostPorts.insert name allocatedPort },
        hypervisor)

/-- `FreePort`.  The error of the source comes from the hypervisor, which
returns none. -/
def freePort (component : Component) (hypervisor : Hypervisor) (name : String) :
    Component × Hypervisor :=
  match component.allocatedHostPorts.lookup name with
  | none => (component, hypervisor)
  | some _ =>
    ({ component with allocatedHostPorts := component.allocatedHostPorts.erase name },
      hypervisor.freePort component.namespace component.clusterName
        (component.withSubcomponentName name))

/-- `List.WithRole`. -/
def withRole (list : List Component) (role : Role) : List Component :=
  list.filter fun component => component.role = role

/-- `List.WithCluster`. -/
def withCluster (list : List Component) (clusterNamespace clusterName : String) :
    List Component :=
  list.filter fun component =>
    component.namespace = clusterNamespace ∧ component.clusterName = clusterName

end Component

end OneInfra
