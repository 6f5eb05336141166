import OneInfra.Cluster.Cluster
import OneInfra.Infra.Ports

/-!
# Versioned hypervisors, their import and their export

`V1alpha1.Hypervisor` follows `apis/infra/v1alpha1/hypervisor_types.go`, and the
conversions are those of `internal/pkg/infra/hypervisor.go` and
`hypervisor_endpoint.go`.  `ImportedHypervisor` adds to `Hypervisor` the fields
that only the conversions read.

All imports of a process share a pool of endpoints, by the name of the hypervisor.
`HypervisorConnectionPool.connection` returns the endpoint of the pool if there is
one, and drops the endpoint of the object.  So an imported hypervisor does not
always export to its object.  `importAll_export_iff` says when it does, for a
sequence of imports.

The file map of an object may be absent, and that of an export never is.  The
encoding of the export, which `RefreshCachedSpecs` hashes, does not fail.
-/

namespace OneInfra

open Lib Infra

namespace V1alpha1

/-- `LocalHypervisorCRIEndpoint`. -/
structure LocalHypervisorCRIEndpoint where
  criEndpoint : String := ""
deriving DecidableEq, Repr

/-- `RemoteHypervisorCRIEndpoint`. -/
structure RemoteHypervisorCRIEndpoint where
  criEndpoint : String := ""
  caCertificate : String := ""
  clientCertificate : Option Certificate := none
deriving DecidableEq, Repr

/-- `HypervisorPortRange`. -/
structure HypervisorPortRange where
  low : Int64 := 0
  high : Int64 := 0
deriving DecidableEq, Repr

/-- `HypervisorSpec`. -/
structure HypervisorSpec where
  localCRIEndpoint : Option LocalHypervisorCRIEndpoint := none
  remoteCRIEndpoint : Option RemoteHypervisorCRIEndpoint := none
  «public» : Bool := false
  ipAddress : String := ""
  portRange : HypervisorPortRange := {}
deriving DecidableEq, Repr

/-- `HypervisorStatus`. -/
structure HypervisorStatus where
  allocatedPorts : List HypervisorPortAllocation := []
  freedPorts : List Int64 := []
  files : Option NamespacedClusterFileMap := none

/-- `Hypervisor`, with the fields of its `ObjectMeta` that the code reads. -/
structure Hypervisor where
  name : String
  resourceVersion : Nat := 0
  labels : GoMap String String := ∅
  annotations : GoMap String String := ∅
  spec : HypervisorSpec := {}
  status : HypervisorStatus := {}

end V1alpha1

namespace Infra

/-! ## Endpoints -/

/-- `hypervisorEndpoint`, without the connection that an endpoint opens. -/
inductive HypervisorEndpoint
  | localHypervisorEndpoint (criEndpoint : String)
  | remoteHypervisorEndpoint (criEndpoint : String) (caCertificate : Certificate)
      (clientCertificate : Option Certificate)
deriving DecidableEq, Repr

/-- `Export` of an endpoint. -/
def HypervisorEndpoint.export : HypervisorEndpoint →
    Option V1alpha1.LocalHypervisorCRIEndpoint × Option V1alpha1.RemoteHypervisorCRIEndpoint
  | .localHypervisorEndpoint criEndpoint => (some ⟨criEndpoint⟩, none)
  | .remoteHypervisorEndpoint criEndpoint caCertificate clientCertificate =>
    (none, some ⟨criEndpoint, caCertificate.certificate, clientCertificate⟩)

/-- `HypervisorConnectionPool`. -/
abbrev HypervisorConnectionPool := GoMap String HypervisorEndpoint

/-- `connection`, with the pool after it. -/
def HypervisorConnectionPool.connection (connectionPool : HypervisorConnectionPool)
    (hypervisorName : String) (hypervisorEndpoint : HypervisorEndpoint) :
    HypervisorEndpoint × HypervisorConnectionPool :=
  match connectionPool.lookup hypervisorName with
  | some hypervisorConnection => (hypervisorConnection, connectionPool)
  | none => (hypervisorEndpoint, connectionPool.insert hypervisorName hypervisorEndpoint)

/-- The endpoint that `setHypervisorEndpointFromv1alpha1` builds from an object. -/
def specEndpoint (hypervisor : V1alpha1.Hypervisor) : Except String HypervisorEndpoint :=
  match hypervisor.spec.localCRIEndpoint, hypervisor.spec.remoteCRIEndpoint with
  | some _, some _ => .error ("hypervisor \"" ++ hypervisor.name ++
      "\" has both a local and a remote CRI endpoint, can only have one")
  | some localCRIEndpoint, none => .ok (.localHypervisorEndpoint localCRIEndpoint.criEndpoint)
  | none, some remoteCRIEndpoint => .ok (.remoteHypervisorEndpoint remoteCRIEndpoint.criEndpoint
      ⟨remoteCRIEndpoint.caCertificate, ""⟩ remoteCRIEndpoint.clientCertificate)
  | none, none => .error ("hypervisor \"" ++ hypervisor.name ++
      "\" is missing a local or a remote CRI endpoint")

/-- An endpoint that comes from an object. -/
theorem export_specEndpoint {hypervisor : V1alpha1.Hypervisor} {endpoint : HypervisorEndpoint}
    (h : specEndpoint hypervisor = .ok endpoint) :
    endpoint.export = (hypervisor.spec.localCRIEndpoint, hypervisor.spec.remoteCRIEndpoint) := by
  unfold specEndpoint at h
  cases hlocal : hypervisor.spec.localCRIEndpoint <;>
    cases hremote : hypervisor.spec.remoteCRIEndpoint <;>
    rw [hlocal, hremote] at h <;> cases h <;> rfl

/-! ## Hypervisors -/

/-- `Hypervisor` with the fields that only its conversions read. -/
structure ImportedHypervisor extends Hypervisor where
  labels : GoMap String String
  annotations : GoMap String String
  «public» : Bool
  endpoint : HypervisorEndpoint

/-- `NewHypervisorFromv1alpha1`, with the pool after it. -/
def newHypervisorFromv1alpha1 (hypervisor : V1alpha1.Hypervisor)
    (connectionPool : HypervisorConnectionPool) :
    Except String ImportedHypervisor × HypervisorConnectionPool :=
  match specEndpoint hypervisor with
  | .error message => (.error message, connectionPool)
  | .ok hypervisorEndpoint =>
    let (endpoint, connectionPool) :=
      connectionPool.connection hypervisor.name hypervisorEndpoint
    (.ok
      { name := hypervisor.name
        resourceVersion := hypervisor.resourceVersion
        ipAddress := hypervisor.spec.ipAddress
        files := hypervisor.status.files.getD ∅
        portRangeLow := hypervisor.spec.portRange.low
        portRangeHigh := hypervisor.spec.portRange.high
        freedPorts := hypervisor.status.freedPorts
        allocatedPorts := hypervisor.status.allocatedPorts
        labels := hypervisor.labels
        annotations := hypervisor.annotations
        «public» := hypervisor.spec.public
        endpoint := endpoint }, connectionPool)

/-- `Export`. -/
def ImportedHypervisor.export (hypervisor : ImportedHypervisor) : V1alpha1.Hypervisor :=
  { name := hypervisor.name
    resourceVersion := hypervisor.resourceVersion
    labels := hypervisor.labels
    annotations := hypervisor.annotations
    spec :=
      { localCRIEndpoint := hypervisor.endpoint.export.1
        remoteCRIEndpoint := hypervisor.endpoint.export.2
        «public» := hypervisor.public
        ipAddress := hypervisor.ipAddress
        portRange := ⟨hypervisor.portRangeLow, hypervisor.portRangeHigh⟩ }
    status :=
      { allocatedPorts := hypervisor.allocatedPorts
        freedPorts := hypervisor.freedPorts
        files := some hypervisor.files } }

/-- The object with an empty file map in place of an absent one. -/
def withFileMap (hypervisor : V1alpha1.Hypervisor) : V1alpha1.Hypervisor :=
  { hypervisor with status.files := some (hypervisor.status.files.getD ∅) }

/-! ## Round trips -/

/-- The object has one endpoint, so that its import succeeds. -/
def Importable (hypervisor : V1alpha1.Hypervisor) : Prop :=
  ∃ endpoint, specEndpoint hypervisor = .ok endpoint

/-- The endpoints of an object. -/
def endpointsOf (hypervisor : V1alpha1.Hypervisor) :
    Option V1alpha1.LocalHypervisorCRIEndpoint × Option V1alpha1.RemoteHypervisorCRIEndpoint :=
  (hypervisor.spec.localCRIEndpoint, hypervisor.spec.remoteCRIEndpoint)

/-- The pool has no other endpoint under the name of the object. -/
def PoolAgrees (connectionPool : HypervisorConnectionPool) (hypervisor : V1alpha1.Hypervisor) :
    Prop :=
  ∀ endpoint, connectionPool.lookup hypervisor.name = some endpoint →
    endpoint.export = endpointsOf hypervisor

/-- An import fails and leaves the pool, or it gives a hypervisor that has all of
the object but perhaps the endpoint. -/
theorem newHypervisorFromv1alpha1_cases (hypervisor : V1alpha1.Hypervisor)
    (connectionPool : HypervisorConnectionPool) :
    (¬ Importable hypervisor ∧ ∃ message,
      newHypervisorFromv1alpha1 hypervisor connectionPool = (.error message, connectionPool)) ∨
    ∃ endpoint imported connectionPool', specEndpoint hypervisor = .ok endpoint ∧
      connectionPool.connection hypervisor.name endpoint = (imported.endpoint, connectionPool') ∧
      newHypervisorFromv1alpha1 hypervisor connectionPool = (.ok imported, connectionPool') ∧
      (imported.export = withFileMap hypervisor ↔
        imported.endpoint.export = endpointsOf hypervisor) := by
  unfold newHypervisorFromv1alpha1
  cases hspec : specEndpoint hypervisor with
  | error message =>
    refine .inl ⟨?_, message, rfl⟩
    intro ⟨endpoint, hok⟩
    rw [hspec] at hok
    cases hok
  | ok endpoint =>
    refine .inr ⟨endpoint, _, _, rfl, rfl, rfl, ?_⟩
    constructor
    · intro hexp
      have hspecs := congrArg V1alpha1.Hypervisor.spec hexp
      exact Prod.ext (congrArg V1alpha1.HypervisorSpec.localCRIEndpoint hspecs)
        (congrArg V1alpha1.HypervisorSpec.remoteCRIEndpoint hspecs)
    · intro hep
      simp only [ImportedHypervisor.export, hep]
      rfl

/-- The pool after a connection has the returned endpoint under the name, and is
otherwise the same. -/
theorem HypervisorConnectionPool.lookup_connection {connectionPool connectionPool' :
    HypervisorConnectionPool} {name : String} {endpoint returned : HypervisorEndpoint}
    (h : connectionPool.connection name endpoint = (returned, connectionPool')) (other : String) :
    connectionPool'.lookup other =
      if other = name then some returned else connectionPool.lookup other := by
  unfold connection at h
  cases hlk : connectionPool.lookup name with
  | some existing =>
    rw [hlk] at h
    cases h
    split_ifs with hname
    · rw [hname, hlk]
    · rfl
  | none =>
    rw [hlk] at h
    cases h
    exact GoMap.lookup_insert_eq _ _ _ _

/-- The returned endpoint exports to that of the object if the pool agrees, and
only then. -/
theorem HypervisorConnectionPool.export_connection_iff {connectionPool connectionPool' :
    HypervisorConnectionPool} {hypervisor : V1alpha1.Hypervisor}
    {endpoint returned : HypervisorEndpoint} (hspec : specEndpoint hypervisor = .ok endpoint)
    (h : connectionPool.connection hypervisor.name endpoint = (returned, connectionPool')) :
    returned.export = endpointsOf hypervisor ↔ PoolAgrees connectionPool hypervisor := by
  unfold connection at h
  unfold PoolAgrees
  cases hlk : connectionPool.lookup hypervisor.name with
  | some existing =>
    rw [hlk] at h
    cases h
    simp
  | none =>
    rw [hlk] at h
    cases h
    simp [export_specEndpoint hspec, endpointsOf]

/-- Import objects in sequence, with one pool. -/
def importAll (connectionPool : HypervisorConnectionPool) :
    List V1alpha1.Hypervisor → List (V1alpha1.Hypervisor × Except String ImportedHypervisor)
  | [] => []
  | hypervisor :: hypervisors =>
    let (imported, connectionPool) := newHypervisorFromv1alpha1 hypervisor connectionPool
    (hypervisor, imported) :: importAll connectionPool hypervisors

/-- No object of the sequence has other endpoints than the pool at the start, or
than another object of its name. -/
structure EndpointsAgree (connectionPool : HypervisorConnectionPool)
    (hypervisors : List V1alpha1.Hypervisor) : Prop where
  pool : ∀ hypervisor ∈ hypervisors, Importable hypervisor → PoolAgrees connectionPool hypervisor
  pairwise : hypervisors.Pairwise fun a b =>
    a.name = b.name → Importable a → Importable b → endpointsOf a = endpointsOf b

section EndpointsAgree

variable {connectionPool connectionPool' : HypervisorConnectionPool}
  {hypervisor : V1alpha1.Hypervisor} {hypervisors : List V1alpha1.Hypervisor}

/-- An object that is not imported has no part in the condition. -/
theorem endpointsAgree_cons_of_not_importable (h : ¬ Importable hypervisor) :
    EndpointsAgree connectionPool (hypervisor :: hypervisors) ↔
      EndpointsAgree connectionPool hypervisors := by
  constructor
  · intro hagree
    exact ⟨fun other hother => hagree.pool other (List.mem_cons_of_mem _ hother),
      (List.pairwise_cons.mp hagree.pairwise).2⟩
  · intro hagree
    refine ⟨?_, List.pairwise_cons.mpr ⟨fun other _ _ himp => absurd himp h,
      hagree.pairwise⟩⟩
    intro other hother himp
    rcases List.mem_cons.mp hother with rfl | hother
    · exact absurd himp h
    · exact hagree.pool other hother himp

/-- An object that is imported agrees with the pool, and its endpoint is in the pool
for the rest. -/
theorem endpointsAgree_cons_of_importable {endpoint returned : HypervisorEndpoint}
    (hspec : specEndpoint hypervisor = .ok endpoint)
    (h : connectionPool.connection hypervisor.name endpoint = (returned, connectionPool')) :
    EndpointsAgree connectionPool (hypervisor :: hypervisors) ↔
      PoolAgrees connectionPool hypervisor ∧ EndpointsAgree connectionPool' hypervisors := by
  have hlk := HypervisorConnectionPool.lookup_connection h
  have hret := HypervisorConnectionPool.export_connection_iff hspec h
  constructor
  · intro hagree
    have hpool := hagree.pool hypervisor List.mem_cons_self ⟨endpoint, hspec⟩
    obtain ⟨hhead, htail⟩ := List.pairwise_cons.mp hagree.pairwise
    refine ⟨hpool, ?_, htail⟩
    intro other hother himp found hfound
    rw [hlk] at hfound
    split_ifs at hfound with hname
    · cases hfound
      rw [hret.mpr hpool]
      exact hhead other hother hname.symm ⟨endpoint, hspec⟩ himp
    · exact hagree.pool other (List.mem_cons_of_mem _ hother) himp found hfound
  · intro ⟨hpool, hagree⟩
    have hsame : ∀ other ∈ hypervisors, hypervisor.name = other.name → Importable other →
        endpointsOf hypervisor = endpointsOf other := by
      intro other hother hname himp
      have hfound := hagree.pool other hother himp returned (by rw [hlk, if_pos hname.symm])
      rw [← hfound, hret.mpr hpool]
    refine ⟨?_, List.pairwise_cons.mpr
      ⟨fun other hother hname _ himp => hsame other hother hname himp, hagree.pairwise⟩⟩
    intro other hother himp
    rcases List.mem_cons.mp hother with rfl | hother
    · exact hpool
    · intro found hfound
      by_cases hname : other.name = hypervisor.name
      · rw [← hsame other hother hname.symm himp]
        exact hpool found (hname ▸ hfound)
      · exact hagree.pool other hother himp found (by rw [hlk, if_neg hname, hfound])

end EndpointsAgree

/-- In a sequence of imports, every imported hypervisor exports to its object if and
only if the endpoints agree. -/
theorem importAll_export_iff (connectionPool : HypervisorConnectionPool)
    (hypervisors : List V1alpha1.Hypervisor) :
    (∀ hypervisor imported, (hypervisor, .ok imported) ∈ importAll connectionPool hypervisors →
        imported.export = withFileMap hypervisor) ↔
      EndpointsAgree connectionPool hypervisors := by
  induction hypervisors generalizing connectionPool with
  | nil => exact iff_of_true (fun _ _ h => absurd h List.not_mem_nil) ⟨by simp, .nil⟩
  | cons hypervisor hypervisors ih =>
    rcases newHypervisorFromv1alpha1_cases hypervisor connectionPool with
      ⟨hnot, message, hrun⟩ | ⟨endpoint, imported, pool, hspec, hconn, hrun, hexp⟩
    · rw [endpointsAgree_cons_of_not_importable hnot, ← ih]
      simp [importAll, hrun]
    · rw [endpointsAgree_cons_of_importable hspec hconn, ← ih,
        ← HypervisorConnectionPool.export_connection_iff hspec hconn, ← hexp]
      simp only [importAll, hrun, List.mem_cons, Prod.mk.injEq, Except.ok.injEq]
      constructor
      · intro h
        exact ⟨h hypervisor imported (.inl ⟨rfl, rfl⟩), fun other result hmem =>
          h other result (.inr hmem)⟩
      · rintro ⟨hhead, htail⟩ other result hmem
        rcases hmem with ⟨rfl, rfl⟩ | hmem
        · exact hhead
        · exact htail other result hmem

/-- A hypervisor whose socket was edited between two imports. -/
def editedSocket : List V1alpha1.Hypervisor :=
  [{ name := "private", spec := { localCRIEndpoint := some ⟨"/run/old.sock"⟩ } },
    { name := "private", spec := { localCRIEndpoint := some ⟨"/run/new.sock"⟩ } }]

/-- The second import exports to the socket of the first. -/
theorem importAll_editedSocket : ∃ hypervisor imported,
    (hypervisor, .ok imported) ∈ importAll ∅ editedSocket ∧
      hypervisor.spec.localCRIEndpoint = some ⟨"/run/new.sock"⟩ ∧
      imported.export.spec.localCRIEndpoint = some ⟨"/run/old.sock"⟩ :=
  ⟨_, _, List.mem_cons_of_mem _ List.mem_cons_self, rfl, rfl⟩

end Infra

end OneInfra
