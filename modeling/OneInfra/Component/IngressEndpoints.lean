import OneInfra.Component.IngressRun
import OneInfra.Component.PortSteps
import OneInfra.Component.Records

/-!
# The backends of an ingress

An ingress publishes the control planes of its cluster as its input endpoints, and the
HAProxy in its pod forwards to them.  Two loops of
`internal/pkg/component/components/control_plane_ingress.go` collect them:
`reconcileInputAndOutputEndpoints` leaves out the control planes that are being deleted, and
`haProxyConfiguration` does not.

`beforePod` is the part of `Reconcile` that comes before `EnsurePod` for the HAProxy pod, and
`reconcile_eq` says so.  It returns the servers that the configuration was rendered from.

`Backend` is what both sides should hold: a control plane that is not being deleted, with the
address of its hypervisor and its own port.  A backend stays one in all later steps, since no
step of an ingress frees a port.
-/

namespace OneInfra.Components.ControlPlaneIngress

open OneInfra.Lib OneInfra.Infra

variable {σ : Type} (outside : Outside σ)

/-! ## The run up to the pod -/

/-- The servers that `haProxyConfiguration` renders. -/
def haProxyServers : ReconcileM σ (List (String × String)) := do
  let world ← get
  ofExcept ((world.clusterComponents .controlPlane).mapM (apiServerAddress world))

/-- What `EnsurePod` is called with, and the servers of the rendered configuration. -/
structure IngressPod where
  cluster : Cluster
  apiserverHostPort : Int64
  apiServers : List (String × String)

/-- `Reconcile` before it ensures the pod. -/
def beforePod (name : String) : ReconcileM σ IngressPod := do
  let cluster ← cluster
  let clusterComponents := (← get).clusterComponents .controlPlane
  if !Component.allWithHypervisorAssigned clusterComponents then
    throw (.error ("could not reconcile component \"" ++ name ++
      "\", not all cluster components have an hypervisor assigned"))
  if (clusterComponents.length : Int) ≠ cluster.controlPlaneReplicas.toInt then
    throw (.error ("could not reconcile component \"" ++ name ++
      "\", control plane replicas do not match with current listed number of components"))
  let _ ← derefHypervisor name
  reconcileInputAndOutputEndpoints name
  host outside name (.ensureImage haProxyImage)
  let apiserverHostPort ← requestPort name apiServerHostPortName
  let apiServers ← haProxyServers
  let haProxyConfig ← callOutside (outside.render (.haProxy apiServers))
  uploadFiles outside name
    [(componentSecretsPathFile cluster.namespace cluster.name name "haproxy.cfg", haProxyConfig)]
  return ⟨cluster, apiserverHostPort, apiServers⟩

/-! ## Steps that free no port -/

section Steps

variable {p : Permissions} {world world' : World σ}

/-- The same component later.  It has all ports that it had. -/
structure Later (component component' : Component) : Prop where
  frozen : component'.frozen = component.frozen
  ports : ∀ portName port, component.allocatedHostPorts.lookup portName = some port →
    component'.allocatedHostPorts.lookup portName = some port

/-- A step that sets a component to a later one. -/
theorem exists_later_setComponent (hkeyed : Keyed world) {component own own' : Component}
    (hown : lookupKey Component.name own.name world.components = some own)
    (hlater : Later own own') (hmem : component ∈ world.components) :
    ∃ comp' ∈ (world.setComponent own').components, Later component comp' := by
  have hname := Component.name_eq_of_frozen hlater.frozen
  by_cases heq : component.name = own'.name
  · have hsame : component = own := by
      have hfound := (lookupKey_eq_some_iff hkeyed.components).mpr ⟨hmem, heq.trans hname⟩
      rw [hown, Option.some_inj] at hfound
      exact hfound.symm
    rw [hsame]
    exact ⟨own', mem_modifyKey.mpr (.inr ⟨component, hmem, heq, rfl⟩), hlater⟩
  · exact ⟨component, mem_modifyKey.mpr (.inl ⟨hmem, heq⟩), rfl, fun _ _ => id⟩

theorem exists_later_step (hfrees : ∀ name portName, ¬ p.frees name portName)
    (hkeyed : Keyed world) (hstep : WorldStep p world world') {component : Component}
    (hmem : component ∈ world.components) :
    ∃ comp' ∈ world'.components, Later component comp' := by
  have hsame : ∃ comp' ∈ world.components, Later component comp' :=
    ⟨component, hmem, rfl, fun _ _ => id⟩
  cases hstep with
  | @requestPort own own' hypervisor hyp' portName port hcomp _ _ hreq =>
    refine exists_later_setComponent hkeyed hcomp ⟨?_, ?_⟩ hmem
    · exact (Component.frozen_requestPort hreq).1
    · intro other held hheld
      rw [Component.lookup_requestPort hreq]
      split_ifs with hother
      · -- the port that was requested is the one that the component had
        rcases Component.requestPort_cases hreq with ⟨hold, -⟩ | ⟨hnone, -⟩
        · rw [← hold, ← hheld, hother]
        · rw [hother, hnone] at hheld
          cases hheld
      · exact hheld
  | freePort _ _ hallowed => exact absurd hallowed (hfrees _ _)
  | data hcomp hfrz hports =>
    refine exists_later_setComponent hkeyed hcomp ⟨hfrz, ?_⟩ hmem
    intro other held hheld
    rw [hports]
    exact hheld
  | recordFiles _ _ _ => exact hsame
  | cleanup _ _ => exact hsame
  | outside _ _ => exact hsame

/-- A component after steps that free no port. -/
theorem exists_later (hfrees : ∀ name portName, ¬ p.frees name portName)
    (hkeyed : Keyed world) (hsteps : Steps p world world') {component : Component}
    (hmem : component ∈ world.components) :
    ∃ comp' ∈ world'.components, Later component comp' := by
  induction hsteps with
  | refl => exact ⟨component, hmem, rfl, fun _ _ => id⟩
  | tail hfirst hstep ih =>
    obtain ⟨between, hbtw, hlater⟩ := ih
    obtain ⟨comp', hmem', hlater'⟩ := exists_later_step hfrees
      ((Steps.sameFrozen hkeyed hfirst).keyed hkeyed) hstep hbtw
    exact ⟨comp', hmem', hlater'.frozen.trans hlater.frozen,
      fun portName port h => hlater'.ports portName port (hlater.ports portName port h)⟩

/-! ## Backends -/

/-- A control plane that is not being deleted, with the address of its hypervisor and its own
port for the API server. -/
def Backend (world : World σ) (componentName address : String) : Prop :=
  ∃ component ∈ world.clusterComponents .controlPlane, component.name = componentName ∧
    component.deletionTimestamp = none ∧
    ∃ hypervisor port, world.componentHypervisor component = some hypervisor ∧
      component.allocatedHostPorts.lookup apiServerHostPortName = some port ∧
      address = joinHostPort hypervisor.ipAddress port

/-- A backend is one in later steps. -/
theorem Backend.mono (hfrees : ∀ name portName, ¬ p.frees name portName) (hkeyed : Keyed world)
    (hsteps : Steps p world world') {comp address : String}
    (h : Backend world comp address) : Backend world' comp address := by
  obtain ⟨component, hmem, hname, hlive, hypervisor, port, hhyp, hport, haddr⟩ := h
  obtain ⟨comp', hmem', hlater⟩ := exists_later hfrees hkeyed hsteps
    (mem_clusterComponents_iff.mp hmem).1
  have hsame := Steps.sameFrozen hkeyed hsteps
  have hip := hsame.map_componentHypervisor hlater.frozen
  rw [hhyp, Option.map_some, Option.map_eq_some_iff] at hip
  obtain ⟨hyp', hhyp', hip⟩ := hip
  have hname' := Component.name_eq_of_frozen hlater.frozen
  have hlive' := Component.deletionTimestamp_eq_of_frozen hlater.frozen
  refine ⟨comp', mem_clusterComponents_of_frozen hsame.cluster hmem hmem' hlater.frozen,
    hname'.trans hname, hlive'.trans hlive, hyp', port, hhyp',
    hlater.ports _ _ hport, ?_⟩
  rw [haddr, hip]

/-- A control plane has one address. -/
theorem Backend.address_unique (hkeyed : Keyed world) {comp address address' : String}
    (h : Backend world comp address) (h' : Backend world comp address') :
    address = address' := by
  obtain ⟨component, hmem, hname, -, hypervisor, port, hhyp, hport, haddr⟩ := h
  obtain ⟨comp', hmem', hname', -, hyp', port', hhyp', hport', haddr'⟩ := h'
  have heq : component = comp' :=
    List.inj_on_of_nodup_map hkeyed.components (mem_clusterComponents_iff.mp hmem).1
      (mem_clusterComponents_iff.mp hmem').1 (hname.trans hname'.symm)
  rw [← heq] at hhyp' hport'
  rw [hhyp, Option.some_inj] at hhyp'
  rw [hport, Option.some_inj] at hport'
  rw [haddr, haddr', hhyp', hport']

end Steps

/-! ## The input endpoints -/

/-- The input endpoints of a component. -/
def inputEndpointsOf (world : World σ) (name : String) : Option (GoMap String String) :=
  (lookupKey Component.name name world.components).map Component.inputEndpoints

/-- The component publishes these endpoints, and each is that of a backend. -/
structure Publishes (name : String) (world : World σ) (endpoints : GoMap String String) : Prop where
  lookup : inputEndpointsOf world name = some endpoints
  backend : ∀ componentName url, endpoints.lookup componentName = some url →
    ∃ address, url = "https://" ++ address ∧ Backend world componentName address

section InputEndpoints

variable {world world' : World σ} {name : String} {endpoints : GoMap String String}

theorem Publishes.mono {p : Permissions} (hfrees : ∀ name portName, ¬ p.frees name portName)
    (hkeyed : Keyed world) (hsteps : Steps p world world') (h : Publishes name world endpoints)
    (hsame : inputEndpointsOf world' name = inputEndpointsOf world name) :
    Publishes name world' endpoints where
  lookup := hsame.trans h.lookup
  backend comp url hlk := by
    obtain ⟨address, hurl, hbackend⟩ := h.backend comp url hlk
    exact ⟨address, hurl, hbackend.mono hfrees hkeyed hsteps⟩

theorem inputEndpointsOf_setComponent {component : Component} (other : String)
    (hmem : component.name ∈ world.components.map Component.name) :
    inputEndpointsOf (world.setComponent component) other =
      if other = component.name then some component.inputEndpoints
      else inputEndpointsOf world other := by
  obtain ⟨found, hfound⟩ := Option.ne_none_iff_exists'.mp fun hnone =>
    lookupKey_eq_none_iff.mp hnone hmem
  unfold inputEndpointsOf World.setComponent
  dsimp only
  rw [lookupKey_modifyKey fun _ _ => rfl]
  split_ifs with hother
  · rw [hfound]
    rfl
  · rfl

/-- A port that was requested is the port of the component. -/
theorem requestPort_ok {other portName : String} {port : Int64}
    (hrun : (requestPort other portName).run world = .ok port world') :
    ∃ component ∈ world'.components, component.name = other ∧
      component.allocatedHostPorts.lookup portName = some port := by
  rw [run_requestPort] at hrun
  split at hrun
  · cases hrun
  next found hfound =>
  obtain ⟨hmem, hname⟩ := lookupKey_some_mem hfound
  split at hrun
  · split at hrun
    · next comp' hyp' hreq =>
      cases hrun
      have hsame := Component.name_eq_of_frozen (Component.frozen_requestPort hreq).1
      refine ⟨comp', mem_modifyKey.mpr (.inr ⟨found, hmem, hsame.symm, rfl⟩),
        hsame.trans hname, ?_⟩
      rw [Component.lookup_requestPort hreq, if_pos rfl]
    · cases hrun
  · split at hrun
    · next hport =>
      cases hrun
      exact ⟨found, hmem, hname, hport⟩
    · cases hrun

theorem inputEndpointsOf_requestPort {other portName : String} {port : Int64}
    (hrun : (requestPort other portName).run world = .ok port world') :
    inputEndpointsOf world' name = inputEndpointsOf world name := by
  have hsame := map_lookupKey_requestPort other portName Component.inputEndpoints
    (fun _ _ => rfl) world name
  rwa [hrun] at hsame

theorem setEndpoints_ok {inputEndpoints outputEndpoints : GoMap String String}
    (hrun : (setEndpoints name inputEndpoints outputEndpoints).run world = .ok () world') :
    inputEndpointsOf world' name = some inputEndpoints := by
  obtain ⟨found, world₁, hcomp, hset⟩ := run_bind_eq_ok.mp hrun
  obtain ⟨hfound, hsame⟩ := component_ok hcomp
  obtain ⟨hmem, hname⟩ := lookupKey_some_mem hfound
  cases hset
  rw [hsame]
  have hlisted : found.name ∈ world.components.map Component.name := List.mem_map_of_mem hmem
  exact (@inputEndpointsOf_setComponent σ world { found with
    inputEndpoints := inputEndpoints, outputEndpoints := outputEndpoints } name hlisted).trans
      (if_pos hname.symm)

theorem performs_setEndpoints (p : Permissions)
    (inputEndpoints outputEndpoints : GoMap String String) :
    Performs p (setEndpoints name inputEndpoints outputEndpoints : ReconcileM σ Unit) :=
  (Performs.hasData p name).setEndpoints inputEndpoints outputEndpoints

theorem performs_addInputEndpoints (components : List Component) :
    Performs (reconcilePermissions name)
      (addInputEndpoints name components : ReconcileM σ Unit) :=
  (Performs.hasData (reconcilePermissions name) name).addInputEndpoints
    (fun _ => performs_requestPort _ _ (.inl rfl)) components

theorem not_frees (name other portName : String) :
    ¬ (reconcilePermissions name).frees other portName := id

/-- After a request for its port a control plane of the cluster is a backend. -/
theorem backend_of_requestPort (hkeyed : Keyed world) {component : Component}
    (hlisted : component.frozen ∈ (world.clusterComponents .controlPlane).map Component.frozen)
    (hlive : component.deletionTimestamp = none)
    {hypervisor : Hypervisor} (hhyp : world.componentHypervisor component = some hypervisor)
    {port : Int64}
    (hrun : (requestPort component.name apiServerHostPortName).run world = .ok port world') :
    Backend world' component.name (joinHostPort hypervisor.ipAddress port) := by
  have hsteps : Steps anyPorts world world' := (performs_requestPort _ _ trivial).of_run hrun
  have hsame := Steps.sameFrozen hkeyed hsteps
  rw [← hsame.map_clusterComponents .controlPlane Component.frozen fun _ => rfl] at hlisted
  obtain ⟨later, hmem, hfrz⟩ := List.mem_map.mp hlisted
  have hname := Component.name_eq_of_frozen hfrz
  -- the component that has the port is the one that was asked for
  obtain ⟨requested, hrequested, hrequestedName, hport⟩ := requestPort_ok hrun
  have heq : later = requested :=
    List.inj_on_of_nodup_map (hsame.keyed hkeyed).components
      (mem_clusterComponents_iff.mp hmem).1 hrequested (hname.trans hrequestedName.symm)
  have hip := hsame.map_componentHypervisor hfrz
  rw [hhyp, Option.map_some, Option.map_eq_some_iff] at hip
  obtain ⟨hyp', hhyp', hip⟩ := hip
  exact ⟨later, hmem, hname, (Component.deletionTimestamp_eq_of_frozen hfrz).trans hlive,
    hyp', port, hhyp', heq ▸ hport, by rw [hip]⟩

/-- One control plane of the loop: its endpoint is added. -/
theorem addInputEndpoint_ok {component : Component} (hkeyed : Keyed world)
    (h : Publishes name world endpoints)
    (hlisted : component.frozen ∈ (world.clusterComponents .controlPlane).map Component.frozen)
    (hasked : isAsked world component = true)
    (hrun : (addInputEndpoint name component).run world = .ok () world') :
    Steps (reconcilePermissions name) world world' ∧
      ∃ url, Publishes name world' (endpoints.insert component.name url) := by
  obtain ⟨hypervisor, hhyp, hbody⟩ :=
    @run_addInputEndpoint_of_isAsked σ world name component hasked
  rw [hbody] at hrun
  obtain ⟨port, world₁, hreq, hrun⟩ := run_bind_eq_ok.mp hrun
  obtain ⟨own, world₂, hcomp, hset⟩ := run_bind_eq_ok.mp hrun
  obtain ⟨hown, rfl⟩ := component_ok hcomp
  have hlive : component.deletionTimestamp = none :=
    Option.isNone_iff_eq_none.mp (Bool.and_eq_true_iff.mp hasked).1
  -- the two steps, and what they keep
  have hsteps₁ : Steps (reconcilePermissions name) world world₂ :=
    (performs_requestPort _ _ (Or.inl rfl)).of_run hreq
  have hsteps₂ : Steps (reconcilePermissions name) world₂ world' :=
    (performs_setEndpoints _ _ _).of_run hset
  have hkeyed₁ := (Steps.sameFrozen hkeyed hsteps₁).keyed hkeyed
  have hbef : own.inputEndpoints = endpoints := by
    have hkept := (inputEndpointsOf_requestPort hreq).trans h.lookup
    rw [inputEndpointsOf, hown] at hkept
    exact Option.some_inj.mp hkept
  refine ⟨hsteps₁.trans hsteps₂, httpsURL hypervisor.ipAddress port, hbef ▸ setEndpoints_ok hset,
    fun comp url hlk => ?_⟩
  rw [GoMap.lookup_insert_eq] at hlk
  split_ifs at hlk with hname
  · cases hlk
    rw [hname]
    exact ⟨_, rfl, (backend_of_requestPort hkeyed hlisted hlive hhyp hreq).mono
      (not_frees name) hkeyed₁ hsteps₂⟩
  · obtain ⟨address, hurl, hbackend⟩ := h.backend comp url hlk
    exact ⟨address, hurl, hbackend.mono (not_frees name) hkeyed (hsteps₁.trans hsteps₂)⟩

/-- What the loop over the control planes leaves: endpoints of backends only, one for each
control plane of the list that is not being deleted and whose hypervisor is known. -/
theorem addInputEndpoints_ok {components : List Component} (hkeyed : Keyed world)
    (h : Publishes name world endpoints)
    (hlisted : ∀ component ∈ components,
      component.frozen ∈ (world.clusterComponents .controlPlane).map Component.frozen)
    (hrun : (addInputEndpoints name components).run world = .ok () world') :
    ∃ endpoints', Publishes name world' endpoints' ∧
      (∀ comp ∈ endpoints, comp ∈ endpoints') ∧
      ∀ component ∈ components, isAsked world component = true → component.name ∈ endpoints' := by
  induction components generalizing world endpoints with
  | nil =>
    cases hrun
    exact ⟨endpoints, h, fun _ => id, by simp⟩
  | cons component components ih =>
    obtain ⟨hhead, hlisted⟩ := List.forall_mem_cons.mp hlisted
    rw [addInputEndpoints, forM_cons_eq] at hrun
    obtain ⟨_, between, hfirst, hrest⟩ := run_bind_eq_ok.mp hrun
    cases hasked : isAsked world component with
    | false =>
      rw [run_addInputEndpoint_of_not_isAsked hasked] at hfirst
      cases hfirst
      obtain ⟨endpoints', h', hkept, hadded⟩ := ih hkeyed h hlisted hrest
      exact ⟨endpoints', h', hkept, List.forall_mem_cons.mpr ⟨by simp [hasked], hadded⟩⟩
    | true =>
      obtain ⟨hsteps, url, h₁⟩ := addInputEndpoint_ok hkeyed h hhead hasked hfirst
      have hsame := Steps.sameFrozen hkeyed hsteps
      rw [← hsame.map_clusterComponents .controlPlane Component.frozen fun _ => rfl] at hlisted
      obtain ⟨endpoints', h', hkept, hadded⟩ := ih (hsame.keyed hkeyed) h₁ hlisted hrest
      rw [isAsked_congr hsame] at hadded
      exact ⟨endpoints', h', fun _ hmem => hkept _ (Finmap.mem_insert.mpr (.inr hmem)),
        List.forall_mem_cons.mpr ⟨fun _ => hkept _ (Finmap.mem_insert.mpr (.inl rfl)), hadded⟩⟩

end InputEndpoints

/-! ## The two collections -/

/-- The endpoints cover the control planes that are not being deleted and whose hypervisor is
known. -/
def Covers (world : World σ) (endpoints : GoMap String String) : Prop :=
  ∀ component ∈ world.clusterComponents .controlPlane, isAsked world component = true →
    component.name ∈ endpoints

section Collected

variable {world world' : World σ} {name : String} {endpoints : GoMap String String}

theorem Covers.mono (hsame : SameFrozen world world') (h : Covers world endpoints) :
    Covers world' endpoints := by
  have hviews := hsame.map_clusterComponents .controlPlane
    (fun component => (component.name, isAsked world component)) fun _ => rfl
  intro component hmem hasked
  rw [isAsked_congr hsame] at hasked
  obtain ⟨source, hsource, heq⟩ := List.mem_map.mp (hviews ▸ List.mem_map_of_mem hmem)
  simp only [Prod.mk.injEq] at heq
  rw [← heq.1]
  exact h source hsource (heq.2.trans hasked)

/-- The endpoints after `reconcileInputAndOutputEndpoints`. -/
theorem reconcileInputAndOutputEndpoints_ok (hkeyed : Keyed world)
    (hrun : (reconcileInputAndOutputEndpoints name).run world = .ok () world') :
    Steps (reconcilePermissions name) world world' ∧
      ∃ endpoints, Publishes name world' endpoints ∧ Covers world' endpoints := by
  obtain ⟨port, world₁, hreq, hrun⟩ := run_bind_eq_ok.mp hrun
  obtain ⟨hypervisor, world₂, hderef, hrun⟩ := run_bind_eq_ok.mp hrun
  obtain ⟨_, world₃, hset, hrun⟩ := run_bind_eq_ok.mp hrun
  obtain ⟨_, _, hget, hloop⟩ := run_bind_eq_ok.mp hrun
  cases hget
  obtain ⟨rfl, -⟩ := derefHypervisor_ok hderef
  have hsteps₁ : Steps (reconcilePermissions name) world world₂ :=
    (performs_requestPort _ _ (Or.inl rfl)).of_run hreq
  have hsteps₂ := hsteps₁.trans ((performs_setEndpoints _ _ _).of_run hset)
  have hsteps₃ : Steps (reconcilePermissions name) world₃ world' :=
    (performs_addInputEndpoints _).of_run hloop
  have hkeyed₃ := (Steps.sameFrozen hkeyed hsteps₂).keyed hkeyed
  have hempty : Publishes name world₃ ∅ := ⟨setEndpoints_ok hset, by simp⟩
  obtain ⟨endpoints, h, -, hadded⟩ := addInputEndpoints_ok hkeyed₃ hempty
    (fun component hmem => List.mem_map_of_mem hmem) hloop
  exact ⟨hsteps₂.trans hsteps₃, endpoints, h,
    Covers.mono (Steps.sameFrozen hkeyed₃ hsteps₃) hadded⟩

/-- What the run up to the pod has collected.  The servers are those of a world in between, and
the components have not changed since. -/
structure Collected (name : String) (world between world' : World σ)
    (endpoints : GoMap String String) (apiServers : List (String × String)) : Prop where
  before : SameFrozen world between
  after : SameFrozen between world'
  components : world'.components = between.components
  publishes : Publishes name between endpoints
  covers : Covers between endpoints
  servers : (between.clusterComponents .controlPlane).mapM (apiServerAddress between) =
    .ok apiServers

/-- To keep the components. -/
def keepingComponents (components : List Component) : Logic σ :=
  .preserving (fun world => world.components = components) (fun _ => True) (fun _ _ _ => True)
    (fun _ _ h => h) fun _ _ => trivial

theorem components_of_holds {α : Type} {x : ReconcileM σ α} {a : α}
    (hx : (keepingComponents world.components).Holds x) (hrun : x.run world = .ok a world') :
    world'.components = world.components :=
  Logic.of_run_preserving hx hrun rfl

theorem collected_of_beforePod (hkeyed : Keyed world) {pod : IngressPod}
    (hrun : (beforePod outside name).run world = .ok pod world') :
    ∃ between endpoints, Collected name world between world' endpoints pod.apiServers := by
  unfold beforePod at hrun
  obtain ⟨cluster, _, hcl, hrun⟩ := run_bind_eq_ok.mp hrun
  cases hcl
  obtain ⟨_, _, hget, hrun⟩ := run_bind_eq_ok.mp hrun
  cases hget
  dsimp only at hrun
  split at hrun
  · cases hrun
  split at hrun
  · cases hrun
  obtain ⟨_, world₁, hderef, hrun⟩ := run_bind_eq_ok.mp hrun
  obtain ⟨_, world₂, heps, hrun⟩ := run_bind_eq_ok.mp hrun
  obtain ⟨_, world₃, himg, hrun⟩ := run_bind_eq_ok.mp hrun
  obtain ⟨port, world₄, hreq, hrun⟩ := run_bind_eq_ok.mp hrun
  obtain ⟨apiServers, world₅, hservers, hrun⟩ := run_bind_eq_ok.mp hrun
  obtain ⟨config, world₆, hrender, hrun⟩ := run_bind_eq_ok.mp hrun
  obtain ⟨_, world₇, hupl, hrun⟩ := run_bind_eq_ok.mp hrun
  cases hrun
  obtain ⟨rfl, -⟩ := derefHypervisor_ok hderef
  obtain ⟨hsteps₂, endpoints, hpublishes, hcovers⟩ :=
    reconcileInputAndOutputEndpoints_ok hkeyed heps
  have hkeyed₂ := (Steps.sameFrozen hkeyed hsteps₂).keyed hkeyed
  obtain ⟨_, _, hget, hmap⟩ := run_bind_eq_ok.mp hservers
  cases hget
  obtain ⟨hmap, rfl⟩ := run_ofExcept_eq_ok.mp hmap
  -- the calls between the endpoints and the servers
  have hsteps₃ : Steps (reconcilePermissions name) world₂ world₃ :=
    (performs_host _ outside name _).of_run himg
  have hsteps₄ : Steps (reconcilePermissions name) world₃ world₅ :=
    (performs_requestPort _ _ (Or.inl rfl)).of_run hreq
  have himg' : inputEndpointsOf world₃ name = inputEndpointsOf world₂ name := by
    rw [inputEndpointsOf, components_of_holds
      ((Logic.tolerant_preserving.derefHypervisor name).host outside _) himg]
    rfl
  have hsteps := hsteps₃.trans hsteps₄
  have hsame := Steps.sameFrozen hkeyed₂ hsteps
  -- the calls after them
  have hsteps₆ : Steps (reconcilePermissions name) world₅ world₆ :=
    (Logic.Holds.callOutside (L := Performs.logic _) _).of_run hrender
  have hsteps₇ : Steps (reconcilePermissions name) world₆ world' :=
    ((Performs.bindsHypervisor _ name).uploadFiles outside _).of_run hupl
  have hcomps := (components_of_holds ((Logic.bindsHypervisor_preserving name
    fun _ _ h _ => h).uploadFiles outside _) hupl).trans
      (components_of_holds (.callOutside _) hrender)
  exact ⟨world₅, endpoints, (Steps.sameFrozen hkeyed hsteps₂).trans hsame,
    Steps.sameFrozen (hsame.keyed hkeyed₂) (hsteps₆.trans hsteps₇),
    hcomps, hpublishes.mono (not_frees name) hkeyed₂ hsteps
      ((inputEndpointsOf_requestPort hreq).trans himg'), hcovers.mono hsame, hmap⟩

/-- The servers are those of the control planes with a port and a known hypervisor. -/
theorem apiServerAddress_eq_ok_iff {component : Component} {comp address : String} :
    apiServerAddress world component = .ok (comp, address) ↔
      component.name = comp ∧
      ∃ hypervisor port, world.componentHypervisor component = some hypervisor ∧
        component.allocatedHostPorts.lookup apiServerHostPortName = some port ∧
        address = joinHostPort hypervisor.ipAddress port := by
  unfold apiServerAddress
  cases component.allocatedHostPorts.lookup apiServerHostPortName with
  | none => exact iff_of_false (fun h => by cases h) (by simp)
  | some port =>
    dsimp only
    cases world.componentHypervisor component with
    | none => exact iff_of_false (fun h => by cases h) (by simp)
    | some hypervisor =>
      change Except.ok _ = Except.ok _ ↔ _
      simp [eq_comm]

/-- Without deletions, the servers are the backends. -/
theorem mem_apiServers_iff (hlive : ∀ component ∈ world.clusterComponents .controlPlane,
      component.deletionTimestamp = none) {apiServers : List (String × String)}
    (hservers : (world.clusterComponents .controlPlane).mapM (apiServerAddress world) =
      .ok apiServers) (comp address : String) :
    (comp, address) ∈ apiServers ↔ Backend world comp address := by
  rw [mem_iff_of_mapM_eq_ok hservers]
  constructor
  · intro ⟨component, hmem, haddr⟩
    obtain ⟨hname, hrest⟩ := apiServerAddress_eq_ok_iff.mp haddr
    exact ⟨component, hmem, hname, hlive component hmem, hrest⟩
  · intro ⟨component, hmem, hname, _, hrest⟩
    exact ⟨component, hmem, apiServerAddress_eq_ok_iff.mpr ⟨hname, hrest⟩⟩

/-- Every control plane has a server. -/
theorem exists_mem_apiServers {apiServers : List (String × String)}
    (hservers : (world.clusterComponents .controlPlane).mapM (apiServerAddress world) =
      .ok apiServers) {component : Component}
    (hmem : component ∈ world.clusterComponents .controlPlane) :
    ∃ address, (component.name, address) ∈ apiServers := by
  obtain ⟨⟨comp, address⟩, haddr⟩ :=
    exists_mapM_eq_ok_iff.mp ⟨apiServers, hservers⟩ component hmem
  obtain ⟨hname, -⟩ := apiServerAddress_eq_ok_iff.mp haddr
  rw [hname]
  exact ⟨address, (mem_iff_of_mapM_eq_ok hservers _).mpr ⟨component, hmem, haddr⟩⟩

/-- No control plane is being deleted before the steps iff none is after them. -/
theorem forall_live_iff (hsame : SameFrozen world world') :
    (∀ component ∈ world'.clusterComponents .controlPlane, component.deletionTimestamp = none) ↔
      ∀ component ∈ world.clusterComponents .controlPlane, component.deletionTimestamp = none := by
  have htimestamps := hsame.map_clusterComponents .controlPlane Component.deletionTimestamp
    fun _ => rfl
  rw [← List.forall_mem_map (P := (· = none)), htimestamps, List.forall_mem_map]

/-- The servers of the configuration and the published input endpoints are the same, and both
are the backends.  Every control plane that is not being deleted is among them. -/
structure BackendsAgree (name : String) (world : World σ) (apiServers : List (String × String)) :
    Prop where
  published : ∃ endpoints, inputEndpointsOf world name = some endpoints ∧
    ∀ componentName url, endpoints.lookup componentName = some url ↔
      ∃ address, url = "https://" ++ address ∧ (componentName, address) ∈ apiServers
  backends : ∀ componentName address,
    (componentName, address) ∈ apiServers ↔ Backend world componentName address
  complete : ∀ component ∈ world.clusterComponents .controlPlane,
    component.deletionTimestamp = none → ∃ address, (component.name, address) ∈ apiServers

namespace Collected

variable {between : World σ} {apiServers : List (String × String)}
  (h : Collected name world between world' endpoints apiServers)

include h

theorem clusterComponents_eq (role : Role) :
    world'.clusterComponents role = between.clusterComponents role := by
  unfold World.clusterComponents
  rw [h.components, h.after.cluster]

theorem backend_iff {comp address : String} :
    Backend world' comp address ↔ Backend between comp address := by
  unfold Backend
  rw [h.clusterComponents_eq]
  refine exists_congr fun component => and_congr_right fun _ => and_congr_right fun _ =>
    and_congr_right fun _ => ?_
  have hip := h.after.map_componentHypervisor (rfl : component.frozen = _)
  cases hafter : world'.componentHypervisor component <;>
    cases hbef : between.componentHypervisor component <;>
      simp_all

/-- Without deletions, both collections are the backends. -/
theorem backendsAgree (hkeyed : Keyed world)
    (hlive : ∀ component ∈ world.clusterComponents .controlPlane,
      component.deletionTimestamp = none) : BackendsAgree name world' apiServers := by
  have hservers := mem_apiServers_iff ((forall_live_iff h.before).mpr hlive) h.servers
  refine ⟨⟨endpoints, ?_, fun comp url => ⟨fun hlk => ?_, ?_⟩⟩,
    fun comp address => (hservers _ _).trans h.backend_iff.symm, fun component hmem _ =>
      exists_mem_apiServers h.servers (h.clusterComponents_eq _ ▸ hmem)⟩
  · rw [← h.publishes.lookup, inputEndpointsOf, h.components]
    rfl
  · obtain ⟨address, hurl, hbackend⟩ := h.publishes.backend comp url hlk
    exact ⟨address, hurl, (hservers _ _).mpr hbackend⟩
  · rintro ⟨address, hurl, hmem⟩
    have hbackend := (hservers _ _).mp hmem
    obtain ⟨component, hcomp, hname, hnone, hypervisor, -, hhyp, -⟩ := id hbackend
    have hlisted := h.covers component hcomp (by simp [isAsked, hnone, hhyp])
    rw [hname] at hlisted
    obtain ⟨url', hlk⟩ := Option.isSome_iff_exists.mp (Finmap.lookup_isSome.mpr hlisted)
    obtain ⟨address', hurl', hbackend'⟩ := h.publishes.backend comp url' hlk
    rw [hlk, hurl', hurl, hbackend'.address_unique (h.before.keyed hkeyed) hbackend]

/-- A control plane that is being deleted has a server, and is no backend. -/
theorem live (hkeyed : Keyed world) (hagree : BackendsAgree name world' apiServers) :
    ∀ component ∈ world.clusterComponents .controlPlane, component.deletionTimestamp = none := by
  refine (forall_live_iff h.before).mp fun component hmem => ?_
  obtain ⟨address, hserver⟩ := exists_mem_apiServers h.servers hmem
  obtain ⟨backend, hbackend, hname, hnone, -⟩ :=
    h.backend_iff.mp ((hagree.backends _ _).mp hserver)
  rw [List.inj_on_of_nodup_map (h.before.keyed hkeyed).components
    (mem_clusterComponents_iff.mp hmem).1 (mem_clusterComponents_iff.mp hbackend).1 hname.symm]
  exact hnone

end Collected

/-- When `Reconcile` comes to the pod, the servers of the HAProxy and the published endpoints
agree iff no control plane of the cluster is being deleted. -/
theorem backendsAgree_iff (hkeyed : Keyed world) {pod : IngressPod}
    (hrun : (beforePod outside name).run world = .ok pod world') :
    BackendsAgree name world' pod.apiServers ↔
      ∀ component ∈ world.clusterComponents .controlPlane, component.deletionTimestamp = none := by
  obtain ⟨between, endpoints, hcollected⟩ := collected_of_beforePod outside hkeyed hrun
  exact ⟨hcollected.live hkeyed, hcollected.backendsAgree hkeyed⟩

end Collected

/-! ### Replacing a control plane -/

/-- Two control planes and an ingress.  The first control plane has that deletion timestamp. -/
def replacingWorld (deletionTimestamp : Option Nat) : World Unit where
  hypervisors :=
    [ { name := "h", resourceVersion := 1, ipAddress := "10.0.0.1", portRangeLow := 30000
        portRangeHigh := 60000, files := ∅, freedPorts := [], allocatedPorts := [] } ]
  cluster := { name := "c", «namespace» := "ns", controlPlaneReplicas := 2 }
  components :=
    [ { name := "cp1", «namespace» := "ns", clusterName := "c", role := .controlPlane
        hypervisorName := "h", deletionTimestamp := deletionTimestamp
        allocatedHostPorts := (∅ : GoMap String Int64).insert apiServerHostPortName 30000 },
      { name := "cp2", «namespace» := "ns", clusterName := "c", role := .controlPlane
        hypervisorName := "h"
        allocatedHostPorts := (∅ : GoMap String Int64).insert apiServerHostPortName 30001 },
      { name := "lb", «namespace» := "ns", clusterName := "c", role := .controlPlaneIngress
        hypervisorName := "h" } ]
  outside := ()

theorem keyed_replacingWorld (deletionTimestamp : Option Nat) :
    Keyed (replacingWorld deletionTimestamp) where
  hypervisors := by simp [replacingWorld]
  components := by simp [replacingWorld]

/-- The servers of a run up to the pod. -/
def serversOf : EStateM.Result Fault (World Unit) IngressPod → Option (List (String × String))
  | .ok pod _ => some pod.apiServers
  | .error _ _ => none

/-- The first control plane is being deleted.  The HAProxy still forwards to it, and it has no
endpoint. -/
theorem not_backendsAgree_replacing : ∃ pod world',
    (beforePod Outside.succeeding "lb").run (replacingWorld (some 1)) = .ok pod world' ∧
      ("cp1", "10.0.0.1:30000") ∈ pod.apiServers ∧
      (∀ endpoints, inputEndpointsOf world' "lb" = some endpoints →
        endpoints.lookup "cp1" = none) ∧
      ¬ BackendsAgree "lb" world' pod.apiServers := by
  have hservers : serversOf ((beforePod Outside.succeeding "lb").run (replacingWorld (some 1))) =
      some [("cp1", "10.0.0.1:30000"), ("cp2", "10.0.0.1:30001")] := by
    decide +kernel
  have heps : (inputEndpointsOf (finalState ((beforePod Outside.succeeding "lb").run
      (replacingWorld (some 1)))) "lb").all fun endpoints =>
        (endpoints.lookup "cp1").isNone := by
    decide +kernel
  cases hrun : (beforePod Outside.succeeding "lb").run (replacingWorld (some 1)) with
  | error fault world' =>
    rw [hrun] at hservers
    cases hservers
  | ok pod world' =>
    rw [hrun] at hservers heps
    have hmem : ("cp1", "10.0.0.1:30000") ∈ pod.apiServers := by
      rw [Option.some_inj.mp hservers]
      exact List.mem_cons_self
    have hnone : ∀ endpoints, inputEndpointsOf world' "lb" = some endpoints →
        endpoints.lookup "cp1" = none := by
      intro endpoints hfound
      change (inputEndpointsOf world' "lb").all _ = true at heps
      rw [hfound] at heps
      exact Option.isNone_iff_eq_none.mp heps
    refine ⟨pod, world', rfl, hmem, hnone, ?_⟩
    intro hagree
    obtain ⟨endpoints, hfound, hlk⟩ := hagree.published
    have hsome := (hlk "cp1" _).mpr ⟨_, rfl, hmem⟩
    rw [hnone endpoints hfound] at hsome
    cases hsome

/-- Both control planes stay. -/
theorem backendsAgree_iff_staying : ∃ pod world',
    (beforePod Outside.succeeding "lb").run (replacingWorld none) = .ok pod world' ∧
      BackendsAgree "lb" world' pod.apiServers := by
  have hret : Returns (beforePod Outside.succeeding "lb") (replacingWorld none) := by
    decide +kernel
  obtain ⟨pod, world', hrun⟩ := hret
  refine ⟨pod, world', hrun, ?_⟩
  refine (backendsAgree_iff Outside.succeeding (keyed_replacingWorld none) hrun).mpr ?_
  decide

end OneInfra.Components.ControlPlaneIngress
