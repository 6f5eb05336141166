import OneInfra.Lib.GoMap
import OneInfra.Lib.SlotAllocator

/-!
# Hypervisors and their host ports

`Hypervisor` follows `internal/pkg/infra/hypervisor.go`.  The labels, the
annotations, the CRI clients and the connection pool are absent: no function
of the development reads them.  `loadedContentsHash` is not a field either:
it belongs to the copy that a controller loads.

The port allocator is the part with an invariant.  `requestPort` hands out
the oldest freed port, and else the port `portRangeLow + len(allocatedPorts)`.
That port is free because the allocated and the freed ports together are an
initial segment of the range.  `OneInfra.Infra.Ports` reads a hypervisor as a
`Lib.SlotAllocator` over the keys `(namespace, cluster, component)`, and
proves that the two operations of the source are those of the allocator.

Ports have the Go type `int` of a 64-bit machine, and the sum
`portRangeLow + len(allocatedPorts)` wraps around.
-/

namespace OneInfra.Infra

open OneInfra.Lib

/-- `HypervisorPortAllocation`: one allocated port and its owner. -/
structure HypervisorPortAllocation where
  clusterNamespace : String
  cluster : String
  component : String
  port : Int64
deriving DecidableEq, Repr

/-- The three names under which a port is allocated. -/
abbrev PortKey := String × String × String

/-- The owner of an allocation. -/
def HypervisorPortAllocation.key (allocation : HypervisorPortAllocation) : PortKey :=
  (allocation.clusterNamespace, allocation.cluster, allocation.component)

/-- `FileMap`: file paths and the sums of their contents. -/
abbrev FileMap := GoMap String String

/-- `ComponentFileMap`. -/
abbrev ComponentFileMap := GoMap String FileMap

/-- `ClusterFileMap`. -/
abbrev ClusterFileMap := GoMap String ComponentFileMap

/-- `NamespacedClusterFileMap`. -/
abbrev NamespacedClusterFileMap := GoMap String ClusterFileMap

/-- `Hypervisor`. -/
structure Hypervisor where
  name : String
  resourceVersion : Nat
  ipAddress : String
  files : NamespacedClusterFileMap
  portRangeLow : Int64
  portRangeHigh : Int64
  freedPorts : List Int64
  allocatedPorts : List HypervisorPortAllocation

instance : DecidableEq Hypervisor := fun a b =>
  decidable_of_iff
    (a.name = b.name ∧ a.resourceVersion = b.resourceVersion ∧ a.ipAddress = b.ipAddress ∧
      a.files = b.files ∧ a.portRangeLow = b.portRangeLow ∧
      a.portRangeHigh = b.portRangeHigh ∧ a.freedPorts = b.freedPorts ∧
      a.allocatedPorts = b.allocatedPorts)
    (by cases a; cases b; simp)

namespace Hypervisor

/-! ## The operations of the source -/

/-- `HasPort`: the port allocated under the three names, if any. -/
def hasPort (hypervisor : Hypervisor)
    (clusterNamespace clusterName componentName : String) : Option Int64 :=
  (hypervisor.allocatedPorts.find? fun allocatedPort =>
    allocatedPort.clusterNamespace = clusterNamespace ∧
      allocatedPort.cluster = clusterName ∧
      allocatedPort.component = componentName).map (·.port)

/-- `RequestPort`.  The error leaves the hypervisor as it was.  No slice has `2 ^ 64`
elements, and a list that has does not get a further one. -/
def requestPort (hypervisor : Hypervisor)
    (clusterNamespace clusterName componentName : String) :
    Except String Int64 × Hypervisor :=
  match hypervisor.hasPort clusterNamespace clusterName componentName with
  | some existingPort => (.ok existingPort, hypervisor)
  | none =>
    match hypervisor.freedPorts with
    | newPort :: freedPorts =>
      (.ok newPort, { hypervisor with
        freedPorts := freedPorts
        allocatedPorts := hypervisor.allocatedPorts ++
          [⟨clusterNamespace, clusterName, componentName, newPort⟩] })
    | [] =>
      let newPort := hypervisor.portRangeLow + Int64.ofNat hypervisor.allocatedPorts.length
      if newPort > hypervisor.portRangeHigh ∨ 2 ^ 64 ≤ hypervisor.allocatedPorts.length then
        (.error ("no available ports on hypervisor \"" ++ hypervisor.name ++ "\""), hypervisor)
      else
        (.ok newPort, { hypervisor with
          allocatedPorts := hypervisor.allocatedPorts ++
            [⟨clusterNamespace, clusterName, componentName, newPort⟩] })

/-- `FreePort`.  The loop keeps the last allocation that matches, and the
error of the source is always nil. -/
def freePort (hypervisor : Hypervisor)
    (clusterNamespace clusterName componentName : String) : Hypervisor :=
  let isMatch := fun portAllocation : HypervisorPortAllocation =>
    decide (portAllocation.clusterNamespace = clusterNamespace ∧
      portAllocation.cluster = clusterName ∧
      portAllocation.component = componentName)
  let newAllocatedPorts := hypervisor.allocatedPorts.filter fun a => !isMatch a
  match (hypervisor.allocatedPorts.filter isMatch).getLast? with
  | none => hypervisor
  | some hypervisorPortAllocation =>
    { hypervisor with
      allocatedPorts := newAllocatedPorts
      freedPorts := hypervisor.freedPorts ++ [hypervisorPortAllocation.port] }

end Hypervisor

end OneInfra.Infra
