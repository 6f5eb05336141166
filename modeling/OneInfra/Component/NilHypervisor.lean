import OneInfra.Component.IngressRun
import OneInfra.Component.PortSteps
import OneInfra.Component.Records

/-!
# Unknown hypervisors

A component can name a hypervisor that is not in the map, and the inquirer then
returns nil for it.  Some functions test for nil, some only test that the name is
not empty, and some do not test.  This file says which operations read a field of a
nil hypervisor, by what the objects are when the operation starts and by what the
outside answers.

A call goes over several components, and each has its turn in the world that the turns before
it have left.  `Avoids` is the logic of the programs that do not read a nil hypervisor.  It is for
the turns in which all hypervisors are known.  The others end soon, and their runs are
followed step by step.
-/

namespace OneInfra.Components

open OneInfra.Lib OneInfra.Infra

variable {σ α β : Type}

/-! ## Programs that read no nil hypervisor -/

/-- From `world`, `x` ends with a nil hypervisor. -/
def Fails (x : ReconcileM σ α) (world : World σ) : Prop :=
  ∃ world', x.run world = .error nilHypervisor world'

/-- From `world`, `x` keeps what is frozen and does not end with a nil hypervisor. -/
def AvoidsAt (x : ReconcileM σ α) (world : World σ) : Prop :=
  SameFrozen world (finalState (x.run world)) ∧ ¬ Fails x world

/-- The same from every world with the frozen parts of `start`. -/
def Avoids (start : World σ) (x : ReconcileM σ α) : Prop :=
  ∀ world, SameFrozen start world → AvoidsAt x world

section Rules

variable {start world : World σ} {x : ReconcileM σ α} {f : α → ReconcileM σ β}

theorem AvoidsAt.bind (hx : AvoidsAt x world)
    (hf : ∀ a world', x.run world = .ok a world' → SameFrozen world world' →
      AvoidsAt (f a) world') : AvoidsAt (x >>= f) world := by
  obtain ⟨hsame, havoids⟩ := hx
  unfold AvoidsAt Fails
  rw [EStateM.run_bind]
  cases hrun : x.run world with
  | ok a between =>
    rw [hrun] at hsame
    obtain ⟨hsame', havoids'⟩ := hf a between hrun hsame
    exact ⟨hsame.trans hsame', havoids'⟩
  | error fault between =>
    rw [hrun] at hsame
    refine ⟨hsame, fun ⟨world', heq⟩ => havoids ⟨between, ?_⟩⟩
    cases heq
    exact hrun

theorem AvoidsAt.attempt (hx : AvoidsAt x world) : AvoidsAt (Lib.attempt x) world :=
  ⟨by rw [finalState_attempt]; exact hx.1,
    fun ⟨world', heq⟩ => hx.2 ⟨world', (run_attempt_eq_error.mp heq).1⟩⟩

namespace Avoids

theorem bind (hx : Avoids start x) (hf : ∀ a, Avoids start (f a)) : Avoids start (x >>= f) :=
  fun world hw => (hx world hw).bind fun a world' _ hsame =>
    hf a world' (hw.trans hsame)

theorem bind_get {f : World σ → ReconcileM σ α}
    (hf : ∀ world, SameFrozen start world → AvoidsAt (f world) world) : Avoids start (get >>= f) :=
  hf

/-- A program that makes steps and does not end with a nil hypervisor. -/
theorem of_performs (hkeyed : Keyed start) {p : Permissions} (hx : Performs p x)
    (h : ∀ world, SameFrozen start world → ¬ Fails x world) : Avoids start x :=
  fun world hw => ⟨(hx world).sameFrozen (hw.keyed hkeyed), h world hw⟩

end Avoids

end Rules

/-- Creating a certificate does not read a hypervisor. -/
def CertificatesOnly (outside : Outside σ) : Prop :=
  ∀ ca commonName organization extraSANs s,
    (outside.createCertificate ca commonName organization extraSANs s).1 ≠ .error nilHypervisor

/-- Not to end with a nil hypervisor. -/
def Avoids.logic (start : World σ) : Logic σ where
  Holds x := Avoids start x
  Reads _ := True
  Uploads _ _ _ := True
  onOutside _ _ _ := ⟨⟨rfl, rfl, rfl⟩, fun ⟨_, hrun⟩ => by cases hrun⟩
  quiet h world _ := by
    refine ⟨?_, fun ⟨world', hrun⟩ => h.avoids world world' hrun⟩
    rw [h.same]
    exact .refl world
  bind_cluster hf := .bind_get fun world hw => hf world.cluster trivial world hw
  bind := .bind
  attempt hx world hw := (hx world hw).attempt

section Logic

variable {start : World σ} (hkeyed : Keyed start) {outside : Outside σ}
  (hcerts : CertificatesOnly outside) {name : String}
  (hknown : ∀ component ∈ start.components, component.name = name → Known start component)

include hkeyed

theorem Avoids.hasData (name : String) : (Avoids.logic start).HasData name where
  bind_component := by
    intro α f hf
    refine .of_performs hkeyed ((Performs.hasData anyPorts name).bind_component hf) ?_
    rintro world - ⟨world', hrun⟩
    rw [EStateM.run_bind, run_component] at hrun
    cases hfound : lookupKey Component.name name world.components with
    | none =>
      rw [hfound] at hrun
      exact absurd hrun (by simp [nilDereference, nilHypervisor])
    | some found =>
      have hname : found.name = name := (lookupKey_some_mem hfound).2
      obtain ⟨a, component', hret, -⟩ := hf found world (hname ▸ hfound) hname
      rw [hfound] at hrun
      exact absurd (hret.symm.trans hrun) (by simp)

omit hkeyed in
/-- A port is requested for a component with a known hypervisor. -/
theorem not_fails_requestPort {world : World σ} {portName : String}
    (h : ∀ found, lookupKey Component.name name world.components = some found →
      ∃ hypervisor, world.componentHypervisor found = some hypervisor) :
    ¬ Fails (requestPort name portName) world := by
  rintro ⟨world', hrun⟩
  rw [run_requestPort] at hrun
  split at hrun
  · exact absurd hrun (by simp [nilDereference, nilHypervisor])
  next found hfound =>
  obtain ⟨hypervisor, hhyp⟩ := h found hfound
  rw [hhyp] at hrun
  dsimp only at hrun
  split at hrun <;> cases hrun

omit hkeyed in
include hknown in
/-- A known hypervisor is found later. -/
theorem exists_componentHypervisor {world : World σ} (hw : SameFrozen start world)
    {found : Component} (hfound : lookupKey Component.name name world.components = some found) :
    ∃ hypervisor, world.componentHypervisor found = some hypervisor := by
  obtain ⟨hmem, hname⟩ := lookupKey_some_mem hfound
  obtain ⟨source, hsource, hfrz⟩ :=
    List.mem_map.mp (hw.components ▸ List.mem_map_of_mem (f := Component.frozen) hmem)
  have hsourceName := Component.name_eq_of_frozen hfrz
  have hon := Component.hypervisorName_eq_of_frozen hfrz.symm
  rw [← Option.isSome_iff_exists, show (world.componentHypervisor found).isSome =
    (start.componentHypervisor source).isSome from hw.isSome_componentHypervisor hon]
  exact hknown source hsource (hsourceName.trans hname)

include hknown

theorem Avoids.requestPort (portName : String) :
    (Avoids.logic start).Holds (requestPort name portName) :=
  .of_performs (p := anyPorts) hkeyed (performs_requestPort name portName trivial)
    fun _ hw => not_fails_requestPort fun _ => exists_componentHypervisor hknown hw

theorem Avoids.freePort (portName : String) :
    (Avoids.logic start).Holds (freePort name portName) := by
  refine .of_performs (p := anyPorts) hkeyed (performs_freePort name portName trivial) ?_
  rintro world hw ⟨world', hrun⟩
  rw [run_freePort] at hrun
  split at hrun
  · exact absurd hrun (by simp [nilDereference, nilHypervisor])
  next found hfound =>
  obtain ⟨hypervisor, hhyp⟩ := exists_componentHypervisor hknown hw hfound
  rw [hhyp] at hrun
  cases hrun

theorem Avoids.bindsHypervisor : (Avoids.logic start).BindsHypervisor name := by
  have hderef : Avoids start (derefHypervisor name) := by
    refine .of_performs hkeyed (Performs.bindsHypervisor anyPorts name).derefHypervisor ?_
    rintro world hw ⟨world', hrun⟩
    rw [run_derefHypervisor] at hrun
    split at hrun
    · exact absurd hrun (by simp [nilDereference, nilHypervisor])
    next found hfound =>
    obtain ⟨hypervisor, hhyp⟩ := exists_componentHypervisor hknown hw hfound
    rw [hhyp] at hrun
    cases hrun
  refine ⟨hderef, fun {_ f} hf => .of_performs hkeyed
    ((Performs.bindsHypervisor anyPorts name).bind_derefHypervisor hf) ?_⟩
  rintro world hw ⟨world', hrun⟩
  cases hfirst : (derefHypervisor name).run world with
  | error fault between =>
    rw [run_bind_of_error hfirst] at hrun
    cases hrun
    exact (hderef world hw).2 ⟨_, hfirst⟩
  | ok hypervisor between =>
    rw [run_bind_of_ok hfirst] at hrun
    obtain ⟨rfl, found, hfound, hhyp⟩ := derefHypervisor_ok hfirst
    have hname : found.name = name := (lookupKey_some_mem hfound).2
    obtain ⟨a, hyp', hret, -⟩ :=
      hf found hypervisor between (hname ▸ hfound) hname hhyp
    exact absurd (hret.symm.trans hrun) (by simp)

include hcerts

theorem Avoids.serves : (Avoids.logic start).ServesCertificates outside name := by
  have hcreate : ∀ ca commonName organization extraSANs, (Avoids.logic start).Holds
      (createCertificate outside ca commonName organization extraSANs) := by
    intro ca commonName organization extraSANs
    refine .of_performs hkeyed
      ((Performs.tolerant anyPorts).createCertificate outside ca commonName organization
        extraSANs) ?_
    rintro world - ⟨world', hrun⟩
    rw [createCertificate, run_bind_of_ok (show (onOutside _).run world = .ok _ _ from rfl)] at hrun
    split at hrun
    · cases hrun
    next fault heq =>
    cases hrun
    exact hcerts ca commonName organization extraSANs world.outside heq
  have hdata : (Avoids.logic start).HasData name := Avoids.hasData hkeyed name
  exact {
    derefHypervisor := (Avoids.bindsHypervisor hkeyed hknown).derefHypervisor
    clientCertificate := fun ca certificateName commonName organization extraSANs _ =>
      hdata.clientCertificate hcreate ca certificateName commonName organization extraSANs
    serverCertificate := fun ca certificateName commonName organization extraSANs _ =>
      hdata.serverCertificate hcreate ca certificateName commonName organization extraSANs
    secrets := fun _ _ _ _ => trivial
    upload := fun _ files _ _ =>
      (Avoids.bindsHypervisor hkeyed hknown).uploadFiles outside files }

end Logic

/-! ## Other components -/

section Others

variable {start world : World σ} (hkeyed : Keyed start)

theorem frozen_mem_of_sameFrozen (h : SameFrozen start world) {role : Role} {component : Component}
    (hmem : component ∈ world.clusterComponents role) :
    component.frozen ∈ start.components.map Component.frozen :=
  h.components ▸ List.mem_map_of_mem (mem_clusterComponents_iff.mp hmem).1

include hkeyed

/-- A port is requested for a component whose hypervisor was just found. -/
theorem avoidsAt_requestPort {component : Component}
    (hfrom : component.frozen ∈ start.components.map Component.frozen)
    (hw : SameFrozen start world) {hypervisor : Hypervisor}
    (hhyp : world.componentHypervisor component = some hypervisor) (portName : String) :
    AvoidsAt (requestPort component.name portName) world := by
  have hkeyed' := hw.keyed hkeyed
  have hsteps : Steps anyPorts world _ := performs_requestPort component.name portName trivial world
  refine ⟨hsteps.sameFrozen hkeyed', not_fails_requestPort fun found hfound => ⟨hypervisor, ?_⟩⟩
  -- the component of that name has the same hypervisor
  rw [← hw.components] at hfrom
  obtain ⟨other, hother, hfrz⟩ := List.mem_map.mp hfrom
  have hname := Component.name_eq_of_frozen hfrz
  obtain ⟨hmem, hfoundName⟩ := lookupKey_some_mem hfound
  have hsame : found = other := List.inj_on_of_nodup_map hkeyed'.components hmem hother
    (hfoundName.trans hname.symm)
  have hon := Component.hypervisorName_eq_of_frozen hfrz
  rw [hsame, World.componentHypervisor, hon]
  exact hhyp

open ControlPlane in
theorem avoids_clientEndpointsOf {components : List Component}
    (hfrom : ∀ component ∈ components,
      component.frozen ∈ start.components.map Component.frozen) :
    (Avoids.logic start).Holds (clientEndpointsOf components : ReconcileM σ (List String)) := by
  induction components with
  | nil => exact .pure _
  | cons found components ih =>
    obtain ⟨hhead, htail⟩ := List.forall_mem_cons.mp hfrom
    have hrest := ih htail
    rw [clientEndpointsOf]
    split
    · exact hrest
    refine Avoids.bind_get fun world hw => ?_
    split
    · exact hrest world hw
    next hypervisor hhyp =>
    refine (avoidsAt_requestPort hkeyed hhead hw hhyp _).attempt.bind
      fun result world' _ hsame => ?_
    cases result with
    | error message => exact hrest world' (hw.trans hsame)
    | ok port =>
      exact Avoids.bind hrest (fun _ => Logic.Holds.pure (L := Avoids.logic start) _) world'
        (hw.trans hsame)

open ControlPlane in
theorem avoids_advertiseAddressAndPort {components : List Component}
    (hfrom : ∀ component ∈ components,
      component.frozen ∈ start.components.map Component.frozen) (advertised : String × Int64) :
    (Avoids.logic start).Holds
      (advertiseAddressAndPort components advertised : ReconcileM σ (String × Int64)) := by
  induction components generalizing advertised with
  | nil => exact .pure _
  | cons found components ih =>
    obtain ⟨hhead, htail⟩ := List.forall_mem_cons.mp hfrom
    refine Avoids.bind_get fun world hw => ?_
    split
    · exact ih htail _ world hw
    next hypervisor hhyp =>
    refine (avoidsAt_requestPort hkeyed hhead hw hhyp _).attempt.bind
      fun result world' _ hsame => ?_
    cases result with
    | ok port => exact ih htail _ world' (hw.trans hsame)
    | error message => exact ih htail _ world' (hw.trans hsame)

open ControlPlane in
theorem avoids_kubeAPIServerAdvertiseAddressAndPort :
    (Avoids.logic start).Holds
      (kubeAPIServerAdvertiseAddressAndPort : ReconcileM σ (String × Int64)) := by
  intro world hw
  have hcall := (Avoids.logic start).quiet Logic.quiet_clusterLoadBalancers world hw
  refine hcall.bind fun loadBalancers world' hrun _ => ?_
  unfold clusterLoadBalancers at hrun
  rw [EStateM.run_bind, EStateM.run_get] at hrun
  dsimp only at hrun
  split at hrun
  · cases hrun
  · cases hrun
    exact avoids_advertiseAddressAndPort hkeyed
      (fun _ hmem => frozen_mem_of_sameFrozen hw hmem) _ world hw

open ControlPlaneIngress in
theorem avoids_addInputEndpoints (name : String) {components : List Component}
    (hfrom : ∀ component ∈ components,
      component.frozen ∈ start.components.map Component.frozen) :
    (Avoids.logic start).Holds (addInputEndpoints name components : ReconcileM σ Unit) := by
  refine .forM fun found hmem => ?_
  unfold addInputEndpoint
  split
  · exact .pure _
  refine Avoids.bind_get fun world hw => ?_
  split
  · exact Logic.Holds.pure (L := Avoids.logic start) _ world hw
  next hypervisor hhyp =>
  refine (avoidsAt_requestPort hkeyed (hfrom found hmem) hw hhyp _).bind
    fun port world' _ hsame => ?_
  have hset : (Avoids.logic start).Holds (do
      let own ← component name
      setEndpoints name (own.inputEndpoints.insert found.name
        (httpsURL hypervisor.ipAddress port)) own.outputEndpoints) :=
    .bind (.quiet (quiet_component name)) fun _ => (Avoids.hasData hkeyed name).setEndpoints _ _
  exact hset world' (hw.trans hsame)

omit hkeyed in
open ControlPlaneIngress in
theorem avoids_haProxyConfiguration (outside : Outside σ)
    (hbackends : ∀ component ∈ start.clusterComponents .controlPlane, Known start component) :
    (Avoids.logic start).Holds (haProxyConfiguration outside) := by
  refine Avoids.bind_get fun world hw => ?_
  have hlisted : Quiet (ofExcept ((world.clusterComponents .controlPlane).mapM
      (apiServerAddress world)) : ReconcileM σ (List (String × String))) := by
    refine .ofExcept fun herr => ?_
    obtain ⟨before, component, after, hlist, -, haddr⟩ := mapM_eq_error_iff.mp herr
    have hknown : (world.componentHypervisor component).isSome := by
      have hmem : component ∈ world.clusterComponents .controlPlane := by simp [hlist]
      have hnames := hw.map_clusterComponents .controlPlane Component.hypervisorName
        fun _ => rfl
      obtain ⟨source, hsource, hon⟩ := List.mem_map.mp (hnames ▸ List.mem_map_of_mem hmem)
      rw [hw.isSome_componentHypervisor hon.symm]
      exact hbackends source hsource
    unfold apiServerAddress at haddr
    split at haddr
    · cases haddr
    split at haddr
    · next hnone => simp [hnone] at hknown
    · cases haddr
  have hcall : (Avoids.logic start).Holds (do
      let apiServers ← ofExcept ((world.clusterComponents .controlPlane).mapM
        (apiServerAddress world))
      callOutside (outside.render (.haProxy apiServers))) :=
    .bind (.quiet hlisted) fun _ => .callOutside _
  exact hcall world hw

end Others

/-! ## Operations on components with known hypervisors -/

section Operations

variable {start : World σ} (hkeyed : Keyed start) {outside : Outside σ}
  (hcerts : CertificatesOnly outside) {component : Component}
  (hmem : component ∈ start.components) (hknown : Known start component)

include hkeyed hmem hknown in
theorem known_of_name :
    ∀ other ∈ start.components, other.name = component.name → Known start other := by
  intro other hother hname
  exact List.inj_on_of_nodup_map hkeyed.components hother hmem hname ▸ hknown

include hkeyed hcerts hmem hknown

theorem servesEtcd_of_known : (Avoids.logic start).ServesEtcd outside component.name :=
  { Avoids.serves hkeyed hcerts (known_of_name hkeyed hmem hknown) with
    etcdClientEndpoints := Avoids.bind_get fun world hw =>
      avoids_clientEndpointsOf hkeyed (fun _ h => frozen_mem_of_sameFrozen hw h) world hw
    requestEtcdPeer := Avoids.requestPort hkeyed (known_of_name hkeyed hmem hknown) _ }

theorem avoids_reconcile_controlPlane :
    (Avoids.logic start).Holds (ControlPlane.reconcile outside component.name) := by
  have hreq := Avoids.requestPort hkeyed (known_of_name hkeyed hmem hknown)
  have hetcd := servesEtcd_of_known hkeyed hcerts hmem hknown
  have hserves : (Avoids.logic start).ServesControlPlane outside component.name :=
    { hetcd with
      requestEtcdClient := hreq _
      requestAPIServer := hreq _
      endpoints := (Avoids.hasData hkeyed _).controlPlaneEndpoints hetcd.derefHypervisor (hreq _)
      advertise := avoids_kubeAPIServerAdvertiseAddressAndPort hkeyed
      ensureEtcdPod := hetcd.ensureEtcdPod (hreq _) (hetcd.etcdContainer fun _ _ _ =>
        ⟨⟨rfl, rfl, rfl⟩, fun ⟨_, hrun⟩ => by cases hrun⟩) }
  exact hserves.reconcile

theorem avoids_reconcile_ingress
    (hbackends : ∀ backend ∈ start.clusterComponents .controlPlane, Known start backend) :
    (Avoids.logic start).Holds (ControlPlaneIngress.reconcile outside component.name) := by
  have hnames := known_of_name hkeyed hmem hknown
  have hserves := Avoids.serves hkeyed hcerts hnames
  have hreq := Avoids.requestPort hkeyed hnames
  have hingress : (Avoids.logic start).ServesIngress outside component.name :=
    { hserves with
      requestAPIServer := hreq _
      requestWireguard _ _ _ := hreq _
      endpoints := .bind (hreq _) fun _ => .bind hserves.derefHypervisor fun _ =>
        .bind ((Avoids.hasData hkeyed _).setEndpoints _ _) fun _ =>
          Avoids.bind_get fun world hw => avoids_addInputEndpoints hkeyed component.name
            (fun _ h => frozen_mem_of_sameFrozen hw h) world hw
      haProxyConfiguration := avoids_haProxyConfiguration outside hbackends
      service := fun _ _ _ _ _ => trivial }
  exact hingress.reconcile

theorem avoids_reconcileDeletion {operations : ComponentOperations σ}
    (hops : retrieveComponent outside component.role = some operations) :
    (Avoids.logic start).Holds (operations.reconcileDeletion component.name) := by
  have hfrees := Avoids.freePort hkeyed (known_of_name hkeyed hmem hknown)
  have hserves := servesEtcd_of_known hkeyed hcerts hmem hknown
  have hcleanup : (Avoids.logic start).Holds (hostCleanup outside component.name) :=
    (Avoids.bindsHypervisor hkeyed (known_of_name hkeyed hmem hknown)).hostCleanup outside
  cases hrole : component.role with
  | unknown =>
    rw [hrole] at hops
    cases hops
  | controlPlane =>
    rw [hrole] at hops
    cases hops
    exact hserves.reconcileDeletion hcleanup (fun _ _ _ => hserves.removeEtcdMember)
      fun portName _ => hfrees portName
  | controlPlaneIngress =>
    rw [hrole] at hops
    cases hops
    exact hserves.toServes.reconcileIngressDeletion hcleanup hfrees

end Operations

/-! ## Reconcile and deletion of one component -/

open ControlPlaneIngress in
/-- Every hypervisor has room for the ports that a reconcile of the ingress requests. -/
def PortsAvailable (world : World σ) (own : Component) : Prop :=
  ∀ hypervisor ∈ world.hypervisors, hypervisor.HasRoom
    ((keysOn apiServerHostPortName (asking world own) hypervisor.name).countP hypervisor.isNew)

open ControlPlaneIngress in
/-- The condition under which `Reconcile` of a component reads no nil hypervisor.  An ingress
does not come to the addresses of the control planes if a port or the image is missing, or if a
control plane before the unknown one lacks its port. -/
def Reconcilable (outside : Outside σ) (world : World σ) (component : Component) : Prop :=
  match component.role with
  | .controlPlane =>
    (outside.etcdVersion world.cluster.kubernetesVersion).isSome → Known world component
  | .controlPlaneIngress => IngressReady world → Known world component ∧
      (PortsAvailable world component → PullsImage outside world component →
        ∀ backend, firstWithoutAddress world = some backend →
          ¬ Holds backend apiServerHostPortName)
  | .unknown => True

open ControlPlaneIngress in
/-- The reconcile of the component meets a hypervisor that is unknown, its own or that of a
control plane. -/
def MeetsUnknown (world : World σ) (component : Component) : Prop :=
  ¬ Known world component ∨ component.role = .controlPlaneIngress ∧
    ∃ backend ∈ world.clusterComponents .controlPlane, ¬ Known world backend

section One

variable {world : World σ} (hkeyed : Keyed world) {outside : Outside σ} {component : Component}
  (hfound : lookupKey Component.name component.name world.components = some component)

include hfound in
theorem run_derefHypervisor_of_unknown (hunknown : ¬ Known world component) :
    (derefHypervisor component.name).run world = .error nilHypervisor world := by
  simp only [run_derefHypervisor, hfound, Option.not_isSome_iff_eq_none.mp hunknown]

include hkeyed hfound

open ControlPlaneIngress in
/-- A reconcile that meets an unknown hypervisor reads it, or it ends with an error. -/
theorem run_reconcile_of_meetsUnknown {operations : ComponentOperations σ}
    (hops : retrieveComponent outside component.role = some operations)
    (hmeets : MeetsUnknown world component) :
    ¬ Reconcilable outside world component ∧ Fails (operations.reconcile component.name) world ∨
      Reconcilable outside world component ∧ ∃ message world',
        (operations.reconcile component.name).run world = .error (.error message) world' := by
  unfold Reconcilable
  cases hrole : component.role with
  | unknown =>
    rw [hrole] at hops
    cases hops
  | controlPlane =>
    rw [hrole] at hops
    cases hops
    have hunknown : ¬ Known world component := hmeets.resolve_right (by simp [hrole])
    have hcl : (cluster : ReconcileM σ Cluster).run world = .ok world.cluster world := rfl
    dsimp only
    unfold Fails
    rw [ControlPlane.reconcile, run_bind_of_ok hcl]
    cases outside.etcdVersion world.cluster.kubernetesVersion with
    | none => exact .inr ⟨by simp, _, _, rfl⟩
    | some version =>
      exact .inl ⟨by simpa using hunknown, world,
        run_bind_of_error (run_derefHypervisor_of_unknown hfound hunknown)⟩
  | controlPlaneIngress =>
    rw [hrole] at hops
    cases hops
    dsimp only
    by_cases hready : IngressReady world
    swap
    · obtain ⟨message, hrun⟩ := run_reconcile_of_not_ready outside component.name hready
      exact .inr ⟨fun h => absurd h hready, message, world, hrun⟩
    by_cases hknown : Known world component
    swap
    · refine .inl ⟨fun h => hknown (h hready).1, world, ?_⟩
      rw [run_reconcile_of_ready outside component.name hready]
      exact run_bind_of_error (run_derefHypervisor_of_unknown hfound hknown)
    -- some control plane has no address
    obtain ⟨-, unknown, hlisted, hunknown⟩ := hmeets.resolve_left (not_not.mpr hknown)
    obtain ⟨backend, hbackend⟩ : ∃ backend, firstWithoutAddress world = some backend := by
      rw [← Option.isSome_iff_exists, firstWithoutAddress, List.find?_isSome]
      exact ⟨unknown, hlisted, by
        simp [hasAddress, Option.not_isSome_iff_eq_none.mp hunknown]⟩
    have hnames : ((asking world component).map Component.name).Nodup := by
      refine List.nodup_cons.mpr ⟨fun hmem => ?_, (nodup_clusterComponents hkeyed _).sublist
        (List.filter_sublist.map _)⟩
      obtain ⟨other, hother, heq⟩ := List.mem_map.mp hmem
      obtain ⟨hmem', -, -, hctlPlane⟩ := mem_clusterComponents_iff.mp (List.mem_filter.mp hother).1
      exact ne_of_role_eq hkeyed hfound (by simp [hrole]) (.refl world) hmem' hctlPlane heq
    have hcases :=
      run_reconcile_cases outside hkeyed hfound (by simp [hrole]) hready hknown hbackend
    rw [available_iff hnames] at hcases
    rcases hcases with ⟨⟨havail, hpulls, hheld⟩, hfails⟩ | ⟨hnot, hrecords⟩
    · exact .inl ⟨fun h => (h hready).2 havail hpulls backend hbackend hheld, hfails⟩
    · refine .inr ⟨fun _ => ⟨hknown, fun havail hpulls other hother hheld => ?_⟩, hrecords⟩
      rw [hbackend] at hother
      cases hother
      exact hnot ⟨havail, hpulls, hheld⟩

open ControlPlaneIngress in
/-- A reconcile that meets no unknown hypervisor. -/
theorem not_fails_reconcile (hcerts : CertificatesOnly outside)
    {operations : ComponentOperations σ}
    (hops : retrieveComponent outside component.role = some operations)
    (hmeets : ¬ MeetsUnknown world component) :
    Reconcilable outside world component ∧ ¬ Fails (operations.reconcile component.name) world := by
  obtain ⟨hknown, hbackends⟩ := not_or.mp hmeets
  rw [not_not] at hknown
  have hmem := (lookupKey_some_mem hfound).1
  unfold Reconcilable
  cases hrole : component.role with
  | unknown =>
    rw [hrole] at hops
    cases hops
  | controlPlane =>
    rw [hrole] at hops
    cases hops
    exact ⟨fun _ => hknown,
      (avoids_reconcile_controlPlane hkeyed hcerts hmem hknown world (.refl world)).2⟩
  | controlPlaneIngress =>
    rw [hrole] at hops
    cases hops
    have hall : ∀ backend ∈ world.clusterComponents .controlPlane, Known world backend := by
      simpa [hrole] using hbackends
    refine ⟨fun _ => ⟨hknown, fun _ _ backend hbackend hheld => ?_⟩,
      (avoids_reconcile_ingress hkeyed hcerts hmem hknown hall world (.refl world)).2⟩
    have hfirst : (world.clusterComponents .controlPlane).find? (!hasAddress world ·) =
        some backend :=
      hbackend
    have hmisses := List.find?_some hfirst
    rw [hasAddress, show (world.componentHypervisor backend).isSome = true from
        hall backend (List.mem_of_find?_eq_some hfirst),
      show (backend.allocatedHostPorts.lookup apiServerHostPortName).isSome = true from
        hheld] at hmisses
    simp at hmisses

theorem fails_reconcile_iff (hcerts : CertificatesOnly outside)
    {operations : ComponentOperations σ}
    (hops : retrieveComponent outside component.role = some operations) :
    Fails (operations.reconcile component.name) world ↔ ¬ Reconcilable outside world component := by
  by_cases hmeets : MeetsUnknown world component
  · rcases run_reconcile_of_meetsUnknown hkeyed hfound hops hmeets with
      ⟨hnot, hfails⟩ | ⟨hreconcilable, message, world', hrun⟩
    · exact ⟨fun _ => hnot, fun _ => hfails⟩
    · refine ⟨fun hfails => ?_, fun hnot => absurd hreconcilable hnot⟩
      obtain ⟨world'', hnil⟩ := hfails
      rw [hrun] at hnil
      cases hnil
  · obtain ⟨hreconcilable, hnot⟩ := not_fails_reconcile hkeyed hfound hcerts hops hmeets
    exact ⟨fun hfails => absurd hfails hnot, fun h => absurd hreconcilable h⟩

omit hkeyed in
/-- Nothing is done on an unknown hypervisor. -/
theorem run_reconcileDeletion_of_unknown {operations : ComponentOperations σ}
    (hops : retrieveComponent outside component.role = some operations)
    (hunknown : ¬ Known world component) :
    (operations.reconcileDeletion component.name).run world = .ok () world := by
  have hnone : (hypervisor component.name).run world = .ok none world := by
    simp only [hypervisor, EStateM.run_bind, run_component, hfound, EStateM.run_get,
      EStateM.run_pure, Option.not_isSome_iff_eq_none.mp hunknown]
  cases hrole : component.role with
  | unknown =>
    rw [hrole] at hops
    cases hops
  | controlPlane =>
    rw [hrole] at hops
    cases hops
    exact run_bind_of_ok hnone
  | controlPlaneIngress =>
    rw [hrole] at hops
    cases hops
    exact run_bind_of_ok hnone

/-- A deletion never reads a nil hypervisor. -/
theorem not_fails_reconcileDeletion (hcerts : CertificatesOnly outside)
    {operations : ComponentOperations σ}
    (hops : retrieveComponent outside component.role = some operations) :
    ¬ Fails (operations.reconcileDeletion component.name) world := by
  by_cases hknown : Known world component
  · exact (avoids_reconcileDeletion hkeyed hcerts (lookupKey_some_mem hfound).1 hknown
      hops world (.refl world)).2
  · rintro ⟨world', hrun⟩
    rw [run_reconcileDeletion_of_unknown hfound hops hknown] at hrun
    cases hrun

end One

/-! ## Turns -/

section Fails

variable {world world' : World σ} {x : ReconcileM σ α} {f : α → ReconcileM σ β}

theorem fails_bind_of_ok {a : α} (hrun : x.run world = .ok a world') :
    Fails (x >>= f) world ↔ Fails (f a) world' := by
  unfold Fails
  rw [run_bind_of_ok hrun]

theorem fails_bind_iff (hf : ∀ a between, ¬ Fails (f a) between) :
    Fails (x >>= f) world ↔ Fails x world := by
  unfold Fails
  cases hrun : x.run world with
  | ok a between =>
    rw [run_bind_of_ok hrun]
    exact ⟨fun h => absurd h (hf a between), by simp⟩
  | error fault between => rw [run_bind_of_error hrun]; simp

theorem fails_attempt_iff : Fails (Lib.attempt x) world ↔ Fails x world :=
  exists_congr fun _ => run_attempt_eq_error.trans (and_iff_left ⟨_, rfl⟩)

end Fails

section Turn

variable (outside : Outside σ)

theorem role_eq_unknown {role : Role} (h : retrieveComponent outside role = none) :
    role = .unknown := by
  cases role with
  | unknown => rfl
  | controlPlane => cases h
  | controlPlaneIngress => cases h

variable {operation : String → ComponentOperations σ → ReconcileM σ (Except String Unit)}
  {world : World σ}

/-- A call fails if one of the turns does, in the world that the turns before it have left. -/
theorem fails_forEachComponent_iff {names : List String} :
    Fails (forEachComponent outside operation names) world ↔
      ∃ before name after errors world', names = before ++ name :: after ∧
        (forEachComponent outside operation before).run world = .ok errors world' ∧
        Fails (turn outside operation name) world' := by
  induction names generalizing world with
  | nil =>
    refine ⟨fun h => ?_, fun ⟨before, name, after, _, _, heq, _⟩ => absurd heq (by simp)⟩
    obtain ⟨world', hrun⟩ := h
    cases hrun
  | cons name names ih =>
    have hcollect : ∀ outcome between,
        Fails (collectErrors name (forEachComponent outside operation names) outcome) between ↔
          Fails (forEachComponent outside operation names) between := fun outcome between => by
      refine fails_bind_iff fun errors world' hfails => ?_
      obtain ⟨_, hrun⟩ := hfails
      cases outcome <;> cases hrun
    constructor
    · intro hfails
      rw [forEachComponent_cons] at hfails
      cases hrun : (turn outside operation name).run world with
      | error fault between =>
        refine ⟨[], name, names, [], world, rfl, rfl, ?_⟩
        obtain ⟨world', hnil⟩ := hfails
        rw [run_bind_of_error hrun] at hnil
        cases hnil
        exact ⟨_, hrun⟩
      | ok outcome between =>
        rw [fails_bind_of_ok hrun, hcollect, ih] at hfails
        obtain ⟨before, name', after, errors, world', hnames, hbef, hturn⟩ := hfails
        obtain ⟨errors', hrun'⟩ : ∃ errors', (forEachComponent outside operation
            (name :: before)).run world = .ok errors' world' := by
          rw [forEachComponent_cons, run_bind_of_ok hrun, collectErrors, run_bind_of_ok hbef]
          cases outcome <;> exact ⟨_, rfl⟩
        exact ⟨name :: before, name', after, errors', world', by rw [hnames]; rfl, hrun', hturn⟩
    · rintro ⟨before, name', after, errors, world', hnames, hbef, hturn⟩
      rw [forEachComponent_cons]
      cases before with
      | nil =>
        cases hnames
        cases hbef
        obtain ⟨last, hlast⟩ := hturn
        exact ⟨last, run_bind_of_error hlast⟩
      | cons head before =>
        cases hnames
        rw [forEachComponent_cons] at hbef
        obtain ⟨outcome, between, hrun, hrest⟩ := run_bind_eq_ok.mp hbef
        obtain ⟨errors', world'', hrest, hend⟩ := run_bind_eq_ok.mp hrest
        have hsame : world'' = world' := by cases outcome <;> cases hend <;> rfl
        rw [fails_bind_of_ok hrun, hcollect, ih]
        exact ⟨before, name', after, errors', world', rfl, hsame ▸ hrest, hturn⟩

/-- The turn of a component. -/
theorem fails_turn_iff {name : String} :
    Fails (turn outside operation name) world ↔ ∃ component operations,
      lookupKey Component.name name world.components = some component ∧
        retrieveComponent outside component.role = some operations ∧
        Fails (operation name operations) world := by
  unfold turn Fails
  rw [EStateM.run_bind, run_component]
  cases lookupKey Component.name name world.components with
  | none => simp [nilDereference, nilHypervisor]
  | some component =>
    cases hops : retrieveComponent outside component.role with
    | none => simp [hops, pure, EStateM.run, EStateM.pure]
    | some operations => simp [hops]

end Turn

section ReconcileTurn

open ControlPlaneIngress

variable {world : World σ} (hkeyed : Keyed world) {outside : Outside σ} {component : Component}
  (hfound : lookupKey Component.name component.name world.components = some component)

theorem run_setCondition (outside : Outside σ) (conditionType : String)
    (status : Conditions.ConditionStatus) {name : String} {found : Component}
    (hfound : lookupKey Component.name name world.components = some found) :
    ∃ conditions, (setCondition outside name conditionType status).run world =
      .ok () (world.setComponent { found with conditions := conditions }) :=
  ⟨_, run_bind_of_ok (by rw [run_component, hfound])⟩

include hkeyed hfound

/-- What is asked about a component does not depend on its conditions. -/
theorem reconcilable_setComponent_iff {component' : Component}
    (hfrz : component'.frozen = component.frozen)
    (hports : component'.allocatedHostPorts = component.allocatedHostPorts) :
    (Reconcilable outside (world.setComponent component') component' ↔
        Reconcilable outside world component) ∧
      (MeetsUnknown (world.setComponent component') component' ↔ MeetsUnknown world component) := by
  have hrole := Component.role_eq_of_frozen hfrz
  have hon := Component.hypervisorName_eq_of_frozen hfrz
  have hkey : portKey component'.frozen = portKey component.frozen := congrArg portKey hfrz
  have hname := Component.name_eq_of_frozen hfrz
  change portKey component' = portKey component at hkey
  have hknown : Known (world.setComponent component') component' ↔ Known world component := by
    unfold Known World.componentHypervisor
    rw [hon]
    exact Iff.rfl
  unfold Reconcilable MeetsUnknown
  rw [hrole, hknown]
  cases hctlPlane : component.role with
  | unknown => exact ⟨Iff.rfl, by simp⟩
  | controlPlane => exact ⟨Iff.rfl, by simp⟩
  | controlPlaneIngress =>
    have hlist := clusterComponents_of_granted hkeyed hfound (by simp [hctlPlane])
      (Granted.of_data hkeyed hfound component' hfrz hports apiServerHostPortName) (by simp)
    have hkeys (components : List Component) (hypervisorName : String) :
        keysOn apiServerHostPortName (component' :: components) hypervisorName =
          keysOn apiServerHostPortName (component :: components) hypervisorName := by
      simp only [keysOn_cons, lackedKeys, hon, hkey, hports]
    simp only [IngressReady, PortsAvailable, asking, firstWithoutAddress, PullsImage, hlist, hkeys,
      hon, hname]
    exact ⟨Iff.rfl, Iff.rfl⟩

variable {operations : ComponentOperations σ}
  (hops : retrieveComponent outside component.role = some operations)

include hops

omit hops in
/-- The operation starts in a world that differs in a condition only. -/
theorem exists_reconcile_start (outside : Outside σ) : ∃ world', Keyed world' ∧ ∃ component',
    component'.name = component.name ∧ component'.role = component.role ∧
    lookupKey Component.name component'.name world'.components = some component' ∧
    (setCondition outside component.name reconcileStarted .true).run world = .ok () world' ∧
    (Reconcilable outside world' component' ↔ Reconcilable outside world component) ∧
    (MeetsUnknown world' component' ↔ MeetsUnknown world component) := by
  obtain ⟨conditions, hrun⟩ := run_setCondition outside reconcileStarted .true hfound
  have hsame := SameFrozen.setComponent hkeyed hfound
    (show Component.frozen { component with conditions := conditions } = component.frozen from rfl)
  refine ⟨_, hsame.keyed hkeyed, { component with conditions := conditions }, rfl, rfl, ?_, hrun,
    reconcilable_setComponent_iff hkeyed hfound rfl rfl⟩
  show lookupKey Component.name component.name (modifyKey _ _ _ _) = _
  rw [lookupKey_modifyKey fun _ _ => rfl, if_pos rfl, hfound]
  rfl

theorem fails_reconcileComponent_iff (hcerts : CertificatesOnly outside) :
    Fails (reconcileComponent outside component.name operations) world ↔
      ¬ Reconcilable outside world component := by
  obtain ⟨world', hkeyed', component', hname, hrole, hfound', hrun, hsame, -⟩ :=
    exists_reconcile_start hkeyed hfound outside
  rw [reconcileComponent, fails_bind_of_ok hrun, fails_bind_iff, fails_attempt_iff, ← hname,
    fails_reconcile_iff hkeyed' hfound' hcerts (hrole ▸ hops), hsame]
  -- setting a condition reads no hypervisor
  intro outcome between
  have hset (status : Conditions.ConditionStatus) :
      ¬ Fails (setCondition outside component.name reconcileSucceeded status) between := by
    rintro ⟨_, hnil⟩
    cases hlk : lookupKey Component.name component.name between.components with
    | none =>
      rw [setCondition, EStateM.run_bind, run_component, hlk] at hnil
      exact absurd hnil (by simp [nilDereference, nilHypervisor])
    | some found =>
      obtain ⟨_, hset⟩ := run_setCondition outside reconcileSucceeded status hlk
      rw [hset] at hnil
      cases hnil
  rw [fails_bind_iff]
  · exact hset _
  · rintro _ _ ⟨_, hnil⟩
    cases hnil

/-- A reconcile that meets an unknown hypervisor and does not read it records an error. -/
theorem run_reconcileComponent_of_meetsUnknown (hmeets : MeetsUnknown world component)
    (hreconcilable : Reconcilable outside world component) :
    ∃ message world', (reconcileComponent outside component.name operations).run world =
      .ok (.error message) world' := by
  obtain ⟨world₁, hkeyed₁, component₁, hname, hrole, hfound₁, hrun, hsame, hsame'⟩ :=
    exists_reconcile_start hkeyed hfound outside
  rcases run_reconcile_of_meetsUnknown hkeyed₁ hfound₁ (hrole ▸ hops) (hsame'.mpr hmeets) with
    ⟨hnot, -⟩ | ⟨-, message, world₂, hrec⟩
  · exact absurd (hsame.mpr hreconcilable) hnot
  rw [hname] at hrec hfound₁
  -- the component is still there
  have hsteps : Steps operationPermissions world₁ world₂ := by
    have hperforms := (performs_operations outside hops component.name).1 world₁
    rwa [hrec] at hperforms
  obtain ⟨component₂, hfound₂, -⟩ := (hsteps.sameFrozen hkeyed₁).exists_lookup hfound₁
  obtain ⟨conditions, hset⟩ := run_setCondition outside reconcileSucceeded .false hfound₂
  have hattempt : (Lib.attempt (operations.reconcile component.name)).run world₁ =
      .ok (.error message) world₂ := run_attempt_of_error hrec
  refine ⟨message, world₂.setComponent { component₂ with conditions := conditions }, ?_⟩
  rw [reconcileComponent, run_bind_of_ok hrun, run_bind_of_ok hattempt]
  exact run_bind_of_ok hset

end ReconcileTurn

/-! ## Components with unknown hypervisors -/

section Stable

variable {start world : World σ} {p : Permissions}

/-- A component on an unknown hypervisor keeps its ports. -/
theorem Steps.unknown_origin (hkeyed : Keyed start) (hsteps : Steps p start world)
    {component' : Component} (hmem : component' ∈ world.components) :
    ∃ component ∈ start.components, component'.frozen = component.frozen ∧
      (Known world component' ↔ Known start component) ∧
      (¬ Known start component →
        component'.allocatedHostPorts = component.allocatedHostPorts) := by
  induction hsteps generalizing component' with
  | refl => exact ⟨component', hmem, rfl, Iff.rfl, fun _ => rfl⟩
  | @tail between world hfirst hstep ih =>
    have hsame : SameFrozen start world := Steps.sameFrozen hkeyed (hfirst.tail hstep)
    have hcompose : ∀ middle ∈ between.components, component'.frozen = middle.frozen →
        (¬ Known between middle → component'.allocatedHostPorts = middle.allocatedHostPorts) →
        ∃ component ∈ start.components, component'.frozen = component.frozen ∧
          (Known world component' ↔ Known start component) ∧
          (¬ Known start component →
            component'.allocatedHostPorts = component.allocatedHostPorts) := by
      intro middle hmiddle hfrz hports
      obtain ⟨component, hcomp, hfrz', hknown, hports'⟩ := ih hmiddle
      have hon := Component.hypervisorName_eq_of_frozen (hfrz.trans hfrz')
      refine ⟨component, hcomp, hfrz.trans hfrz', ?_, fun hunknown =>
        (hports (hknown.not.mpr hunknown)).trans (hports' hunknown)⟩
      rw [Known, hsame.isSome_componentHypervisor hon, Known]
    -- a port is requested or freed on a hypervisor that is known
    rcases hstep.component_cases hmem with hold | ⟨middle, hmiddle, hfrz,
      ⟨hypervisor, _, _, _, hhyp, -⟩ | ⟨hypervisor, _, hhyp, -⟩ | hports⟩
    · exact hcompose component' hold rfl fun _ => rfl
    · exact hcompose middle hmiddle hfrz fun h => absurd (by simp [Known, hhyp]) h
    · exact hcompose middle hmiddle hfrz fun h => absurd (by simp [Known, hhyp]) h
    · exact hcompose middle hmiddle hfrz fun _ => hports

/-- The component of a name, before and after. -/
theorem Steps.unknown_origin_of_name (hkeyed : Keyed start) (hsteps : Steps p start world)
    {component component' : Component} (hmem : component ∈ start.components)
    (hmem' : component' ∈ world.components) (hname : component'.name = component.name) :
    component'.frozen = component.frozen ∧ (Known world component' ↔ Known start component) ∧
      (¬ Known start component →
        component'.allocatedHostPorts = component.allocatedHostPorts) := by
  obtain ⟨source, hsource, hfrz, hrest⟩ := Steps.unknown_origin hkeyed hsteps hmem'
  have hsourceName := Component.name_eq_of_frozen hfrz
  rw [List.inj_on_of_nodup_map hkeyed.components hmem hsource (hname.symm.trans hsourceName)]
  exact ⟨hfrz, hrest⟩

end Stable

/-! ## Pre-reconciling -/

/-- The condition under which `PreReconcile` of a component reads no nil hypervisor. -/
def PreReconcilable (world : World σ) (component : Component) : Prop :=
  component.hypervisorName = "" ∨ Known world component ∨
    ∀ portName ∈ requestedPorts world.cluster component.role, Holds component portName

/-- The components that a call is about. -/
def Selected (world : World σ) (names : List String) (component : Component) : Prop :=
  component ∈ world.components ∧ (names = [] ∨ component.name ∈ names)

theorem selected_iff {world : World σ} {names : List String} {component : Component} :
    Selected world names component ↔ component ∈ world.components ∧
      component.name ∈ if names = [] then world.components.map Component.name else names := by
  refine and_congr_right fun hmem => ?_
  split
  · next hnil => exact iff_of_true (.inl hnil) (List.mem_map_of_mem hmem)
  · next hne => exact or_iff_right hne

section PreReconcile

variable {start world : World σ} (hkeyed : Keyed start) (outside : Outside σ)

include hkeyed

theorem preReconcilable_congr {p : Permissions} (hsteps : Steps p start world)
    {component component' : Component} (hmem : component ∈ start.components)
    (hmem' : component' ∈ world.components) (hname : component'.name = component.name) :
    PreReconcilable world component' ↔ PreReconcilable start component := by
  obtain ⟨hfrz, hknown, hports⟩ :=
    Steps.unknown_origin_of_name hkeyed hsteps hmem hmem' hname
  have hon := Component.hypervisorName_eq_of_frozen hfrz
  have hrole := Component.role_eq_of_frozen hfrz
  unfold PreReconcilable
  rw [hon, hrole, hknown, Steps.cluster_eq hsteps]
  by_cases hunknown : Known start component
  · simp [hunknown]
  · simp only [Holds, hports hunknown]

theorem returns_turn_preReconcile_iff {component : Component}
    (hfound : lookupKey Component.name component.name start.components = some component) :
    Returns (turn outside (fun name operations => Lib.attempt (operations.preReconcile name))
      component.name) start ↔ PreReconcilable start component := by
  have hcomp : (Components.component component.name).run start = .ok component start := by
    rw [run_component, hfound]
  unfold Returns turn PreReconcilable
  rw [run_bind_of_ok hcomp]
  cases hops : retrieveComponent outside component.role with
  | none =>
    have hunknown := role_eq_unknown outside hops
    exact iff_of_true ⟨_, _, rfl⟩ (.inr (.inr (by simp [hunknown, requestedPorts])))
  | some operations =>
    have hrun := run_preReconcile outside hfound hops
    dsimp only
    by_cases hasg : component.hypervisorName = ""
    · rw [if_pos hasg] at hrun
      exact iff_of_true ⟨_, _, run_attempt_of_error hrun⟩ (.inl hasg)
    rw [if_neg hasg] at hrun
    cases hhyp : start.componentHypervisor component with
    | some hypervisor =>
      refine iff_of_true ?_ (.inr (.inl (by simp [Known, hhyp])))
      rcases run_requestPorts_cases hkeyed hfound hhyp
        (nodup_requestedPorts start.cluster component.role) with
        ⟨world', hports⟩ | ⟨⟨message, world', hports⟩, -⟩
      · exact ⟨_, _, run_attempt_of_ok (hrun.trans hports)⟩
      · exact ⟨_, _, run_attempt_of_error (hrun.trans hports)⟩
    | none =>
      have hunknown : ¬ Known start component := by simp [Known, hhyp]
      rcases run_requestPorts_of_unknown hfound hhyp
        (requestedPorts start.cluster component.role) with ⟨hports, hall⟩ | ⟨hports, hnot⟩
      · exact iff_of_true ⟨_, _, run_attempt_of_ok (hrun.trans hports)⟩ (.inr (.inr hall))
      · refine iff_of_false ?_ (by simp [hasg, hunknown, hnot])
        rintro ⟨_, _, hok⟩
        rw [run_attempt_eq_error.mpr ⟨hrun.trans hports, _, rfl⟩] at hok
        cases hok

theorem returns_forEach_preReconcile_iff (hsteps : Steps anyPorts start world)
    {names : List String} (hnames : ∀ name ∈ names, name ∈ start.components.map Component.name) :
    Returns (forEachComponent outside
        (fun name operations => Lib.attempt (operations.preReconcile name)) names) world ↔
      ∀ component ∈ start.components, component.name ∈ names → PreReconcilable start component := by
  induction names generalizing world with
  | nil => exact iff_of_true (Returns.of_pure _ _) (by simp)
  | cons name names ih =>
    obtain ⟨component, hmem, rfl⟩ := List.mem_map.mp (hnames name (.head _))
    have hsame := hsteps.sameFrozen hkeyed
    obtain ⟨component', hfound', -⟩ := hsame.exists_lookup
      ((lookupKey_eq_some_iff hkeyed.components).mpr ⟨hmem, rfl⟩)
    obtain ⟨hmem', hname⟩ := lookupKey_some_mem hfound'
    have hturn := returns_turn_preReconcile_iff (hsame.keyed hkeyed) outside (hname ▸ hfound')
    rw [preReconcilable_congr hkeyed hsteps hmem hmem' hname, hname] at hturn
    -- the names decide about one component each
    have hcons : (∀ other ∈ start.components, other.name ∈ component.name :: names →
        PreReconcilable start other) ↔ PreReconcilable start component ∧
          ∀ other ∈ start.components, other.name ∈ names → PreReconcilable start other := by
      refine ⟨fun h => ⟨h component hmem (.head _), fun other hother hin =>
        h other hother (.tail _ hin)⟩, fun h other hother hin => ?_⟩
      rcases List.mem_cons.mp hin with heq | hin
      · rw [List.inj_on_of_nodup_map hkeyed.components hother hmem heq]
        exact h.1
      · exact h.2 other hother hin
    rw [hcons, ← hturn, forEachComponent_cons]
    cases hrun : (turn outside (fun name operations => Lib.attempt (operations.preReconcile name))
        component.name).run world with
    | error fault between =>
      refine iff_of_false ?_ fun h => ?_
      · rintro ⟨_, _, hok⟩
        rw [run_bind_of_error hrun] at hok
        cases hok
      · obtain ⟨_, _, hok⟩ := h.1
        rw [hrun] at hok
        cases hok
    | ok outcome between =>
      have hperforms : Performs anyPorts (turn outside
          (fun name operations => Lib.attempt (operations.preReconcile name)) component.name) := by
        refine .bind (performs_component _) fun found => ?_
        split
        · exact .pure _
        · next hops =>
          exact .attempt ((performs_operations_preReconcile outside hops _).mono
            ⟨fun _ _ _ => trivial, fun _ _ _ => trivial⟩)
      rw [and_iff_right ⟨outcome, between, hrun⟩,
        ← ih (hsteps.trans (hperforms.of_run hrun))
          fun other hother => hnames other (.tail _ hother)]
      unfold Returns
      rw [run_bind_of_ok hrun, collectErrors]
      constructor
      · rintro ⟨_, _, hok⟩
        obtain ⟨errors, last, hrest, -⟩ := run_bind_eq_ok.mp hok
        exact ⟨errors, last, hrest⟩
      · rintro ⟨errors, last, hrest⟩
        rw [run_bind_of_ok hrest]
        cases outcome <;> exact ⟨_, _, rfl⟩

theorem returns_preReconcile_iff {names : List String}
    (hnames : ∀ name ∈ names, name ∈ start.components.map Component.name) :
    Returns (preReconcile outside names) start ↔
      ∀ component, Selected start names component → PreReconcilable start component := by
  unfold Returns
  rw [preReconcile, EStateM.run_bind, run_orAllComponents]
  simp only [selected_iff, and_imp]
  refine returns_forEach_preReconcile_iff hkeyed outside .refl ?_
  split
  · exact fun name h => h
  · exact hnames

end PreReconcile

/-! ## The calls of the reconciler -/

section Calls

open ControlPlaneIngress

variable {start world : World σ} (hkeyed : Keyed start) {outside : Outside σ}
  (hcerts : CertificatesOnly outside)

/-- The condition on the objects at the start of a call under which no turn of `Reconcile` for the
component reads a nil hypervisor, whatever the other turns do. -/
def AlwaysReconcilable (outside : Outside σ) (world : World σ) (component : Component) : Prop :=
  match component.role with
  | .controlPlane =>
    (outside.etcdVersion world.cluster.kubernetesVersion).isSome → Known world component
  | .controlPlaneIngress => IngressReady world → Known world component ∧
      ∀ backend ∈ world.clusterComponents .controlPlane,
        Holds backend apiServerHostPortName → Known world backend
  | .unknown => True

theorem ingressReady_congr (hsame : SameFrozen start world) :
    IngressReady world ↔ IngressReady start := by
  have hnames := hsame.map_clusterComponents .controlPlane Component.hypervisorName fun _ => rfl
  have hlen := congrArg List.length hnames
  rw [List.length_map, List.length_map] at hlen
  have hasg (components : List Component) :
      Component.allWithHypervisorAssigned components =
        (components.map Component.hypervisorName).all fun name => name ≠ "" := by
    rw [List.all_map]
    rfl
  unfold IngressReady
  rw [hlen, hsame.cluster, hasg, hasg, hnames]

include hkeyed in
/-- The condition at the start is enough for each turn. -/
theorem AlwaysReconcilable.reconcilable {p : Permissions} (hsteps : Steps p start world)
    {component component' : Component} (hmem : component ∈ start.components)
    (hmem' : component' ∈ world.components) (hname : component'.name = component.name)
    (h : AlwaysReconcilable outside start component) : Reconcilable outside world component' := by
  obtain ⟨hfrz, hknown, -⟩ := Steps.unknown_origin_of_name hkeyed hsteps hmem hmem' hname
  have hrole := Component.role_eq_of_frozen hfrz
  unfold AlwaysReconcilable at h
  unfold Reconcilable
  rw [hrole]
  split at h
  · rw [Steps.cluster_eq hsteps, hknown]
    exact h
  · rw [ingressReady_congr (hsteps.sameFrozen hkeyed), hknown]
    refine fun hready => ⟨(h hready).1, fun _ _ backend hbackend hheld => ?_⟩
    have hfirst : (world.clusterComponents .controlPlane).find? (!hasAddress world ·) =
      some backend := hbackend
    have hlisted := List.mem_of_find?_eq_some hfirst
    obtain ⟨source, hsource, hfrz', hknown', hports⟩ :=
      Steps.unknown_origin hkeyed hsteps (mem_clusterComponents_iff.mp hlisted).1
    have hunknown : ¬ Known start source := by
      rw [← hknown']
      intro hknown
      have hmisses := List.find?_some hfirst
      rw [hasAddress, show (world.componentHypervisor backend).isSome = true from hknown,
        show (backend.allocatedHostPorts.lookup apiServerHostPortName).isSome = true from hheld]
        at hmisses
      simp at hmisses
    refine hunknown ((h hready).2 source (mem_clusterComponents_of_frozen
      (Steps.cluster_eq hsteps).symm hlisted hsource hfrz'.symm) ?_)
    rw [Holds, ← hports hunknown]
    exact hheld
  · trivial

/-- The reconcile of a component in the world in which its turn comes. -/
theorem fails_turn_reconcile_iff (hkeyed : Keyed world) (hcerts : CertificatesOnly outside)
    {name : String} : Fails (turn outside (reconcileComponent outside) name) world ↔
      ∃ component ∈ world.components, component.name = name ∧
        ¬ Reconcilable outside world component := by
  rw [fails_turn_iff]
  constructor
  · rintro ⟨component, operations, hfound, hops, hfails⟩
    obtain ⟨hmem, rfl⟩ := lookupKey_some_mem hfound
    exact ⟨component, hmem, rfl,
      (fails_reconcileComponent_iff hkeyed hfound hops hcerts).mp hfails⟩
  · rintro ⟨component, hmem, rfl, hnot⟩
    have hfound := (lookupKey_eq_some_iff hkeyed.components).mpr ⟨hmem, rfl⟩
    cases hops : retrieveComponent outside component.role with
    | none =>
      refine absurd ?_ hnot
      rw [Reconcilable, role_eq_unknown outside hops]
      trivial
    | some operations =>
      exact ⟨component, operations, hfound, hops,
        (fails_reconcileComponent_iff hkeyed hfound hops hcerts).mpr hnot⟩

include hkeyed hcerts

theorem fails_reconcile_names_iff (names : List String) :
    Fails (reconcile outside names) start ↔
      ∃ before component after errors world,
        (if names = [] then start.components.map Component.name else names) =
          before ++ component.name :: after ∧
        (forEachComponent outside (reconcileComponent outside) before).run start =
          .ok errors world ∧
        component ∈ world.components ∧ ¬ Reconcilable outside world component := by
  unfold Fails
  rw [reconcile, EStateM.run_bind, run_orAllComponents]
  refine (fails_forEachComponent_iff outside).trans ?_
  have hturns (before : List String) (errors : ReconcileErrors) (world : World σ)
      (hrun : (forEachComponent outside (reconcileComponent outside) before).run start =
        .ok errors world) : Keyed world :=
    (((performs_forEach_reconcile outside before).of_run hrun).sameFrozen hkeyed).keyed hkeyed
  constructor
  · rintro ⟨before, name, after, errors, world, hnames, hrun, hfails⟩
    obtain ⟨component, hmem, rfl, hnot⟩ :=
      (fails_turn_reconcile_iff (hturns before errors world hrun) hcerts).mp hfails
    exact ⟨before, component, after, errors, world, hnames, hrun, hmem, hnot⟩
  · rintro ⟨before, component, after, errors, world, hnames, hrun, hmem, hnot⟩
    exact ⟨before, component.name, after, errors, world, hnames, hrun,
      (fails_turn_reconcile_iff (hturns before errors world hrun) hcerts).mpr
        ⟨component, hmem, rfl, hnot⟩⟩

theorem not_fails_reconcile_names {names : List String}
    (h : ∀ component, Selected start names component → AlwaysReconcilable outside start component) :
    ¬ Fails (reconcile outside names) start := by
  rw [fails_reconcile_names_iff hkeyed hcerts]
  rintro ⟨before, component, after, errors, world, hnames, hrun, hmem, hnot⟩
  have hsteps := (performs_forEach_reconcile outside before).of_run hrun
  obtain ⟨source, hsource, hfrz, -⟩ := Steps.unknown_origin hkeyed hsteps hmem
  have hname := Component.name_eq_of_frozen hfrz
  refine hnot (AlwaysReconcilable.reconcilable hkeyed hsteps hsource hmem hname (h source ?_))
  rw [selected_iff, hnames, ← hname]
  exact ⟨hsource, by simp⟩

theorem not_fails_reconcileDeletion_names (names : List String) :
    ¬ Fails (reconcileDeletion outside names) start := by
  unfold reconcileDeletion
  rw [fails_forEachComponent_iff]
  rintro ⟨before, name, after, errors, world, -, hrun, hfails⟩
  have hkeyed' : Keyed world :=
    (((performs_reconcileDeletion_hostPorts outside before).of_run hrun).sameFrozen hkeyed).keyed
      hkeyed
  obtain ⟨component, operations, hfound, hops, hfails⟩ := (fails_turn_iff outside).mp hfails
  obtain ⟨-, rfl⟩ := lookupKey_some_mem hfound
  unfold reconcileComponentDeletion at hfails
  rw [fails_bind_iff, fails_attempt_iff] at hfails
  · exact not_fails_reconcileDeletion hkeyed' hfound hcerts hops hfails
  · -- removing the finalizer reads no hypervisor
    rintro outcome between ⟨_, hnil⟩
    cases outcome with
    | error message => cases hnil
    | ok _ =>
      replace hnil : EStateM.run (Components.component component.name >>= fun found => _) between =
        .error nilHypervisor _ := hnil
      rw [EStateM.run_bind, run_component] at hnil
      cases hlk : lookupKey Component.name component.name between.components with
      | none =>
        rw [hlk] at hnil
        exact absurd hnil (by simp [nilDereference, nilHypervisor])
      | some found =>
        rw [hlk] at hnil
        cases hnil

/-- When the calls of the reconciler read a nil hypervisor, and what they do when they meet an
unknown one and do not read it. -/
theorem nilHypervisor_iff (names : List String) :
    ((∀ name ∈ names, name ∈ start.components.map Component.name) →
      (Returns (preReconcile outside names) start ↔
        ∀ component, Selected start names component → PreReconcilable start component)) ∧
    ¬ Fails (reconcileDeletion outside names) start ∧
    (Fails (reconcile outside names) start ↔
      ∃ before component after errors world,
        (if names = [] then start.components.map Component.name else names) =
          before ++ component.name :: after ∧
        (forEachComponent outside (reconcileComponent outside) before).run start =
          .ok errors world ∧
        component ∈ world.components ∧ ¬ Reconcilable outside world component) ∧
    ((∀ component, Selected start names component →
      AlwaysReconcilable outside start component) → ¬ Fails (reconcile outside names) start) ∧
    ∀ component ∈ start.components, component.role ≠ .unknown →
      (Fails (reconcile outside [component.name]) start ↔ ¬ Reconcilable outside start component) ∧
      (MeetsUnknown start component → Reconcilable outside start component →
        ∃ message world, (reconcile outside [component.name]).run start =
          .ok [(component.name, message)] world) ∧
      (¬ Known start component → ∃ world,
        (reconcileDeletion outside [component.name]).run start = .ok [] world) := by
  refine ⟨returns_preReconcile_iff hkeyed outside,
    not_fails_reconcileDeletion_names hkeyed hcerts names,
    fails_reconcile_names_iff hkeyed hcerts names,
    not_fails_reconcile_names hkeyed hcerts, fun component hmem hrole => ?_⟩
  have hfound := (lookupKey_eq_some_iff hkeyed.components).mpr ⟨hmem, rfl⟩
  obtain ⟨operations, hops⟩ := Option.ne_none_iff_exists'.mp fun hnone =>
    hrole (role_eq_unknown outside hnone)
  have hrec : (reconcile outside [component.name]).run start =
      (reconcileComponent outside component.name operations >>=
        collectErrors component.name (pure [])).run start :=
    run_forEachComponent_singleton outside hfound hops
  refine ⟨?_, fun hmeets hreconcilable => ?_, fun hunknown => ?_⟩
  · unfold Fails
    rw [hrec]
    refine (fails_bind_iff ?_).trans
      (fails_reconcileComponent_iff hkeyed hfound hops hcerts)
    rintro (_ | _) _ ⟨_, hnil⟩ <;> cases hnil
  · obtain ⟨message, world, hrun⟩ :=
      run_reconcileComponent_of_meetsUnknown hkeyed hfound hops hmeets hreconcilable
    exact ⟨message, world, hrec.trans (run_bind_of_ok hrun)⟩
  · have hrun := run_reconcileDeletion_of_unknown hfound hops hunknown
    have hcall : (reconcileDeletion outside [component.name]).run start = _ :=
      run_forEachComponent_singleton outside hfound hops
    have hcomp : (Components.component component.name).run start = .ok component start := by
      rw [run_component, hfound]
    rw [hcall, reconcileComponentDeletion, bind_assoc, run_bind_of_ok (run_attempt_of_ok hrun)]
    simp only [if_true, bind_assoc, run_bind_of_ok hcomp]
    exact ⟨_, rfl⟩

end Calls

/-- A control plane on the hypervisor of that name and an ingress on the hypervisor "here", the
only one that is known. -/
def worldOn (hypervisorName : String) : World Unit where
  hypervisors :=
    [ { name := "here", resourceVersion := 1, ipAddress := "10.0.0.1", portRangeLow := 30000
        portRangeHigh := 60000, files := ∅, freedPorts := [], allocatedPorts := [] } ]
  cluster := { name := "c", «namespace» := "ns", controlPlaneReplicas := 1 }
  components :=
    [ { name := "cp", «namespace» := "ns", clusterName := "c", role := .controlPlane
        hypervisorName := hypervisorName
        allocatedHostPorts := (∅ : GoMap String Int64).insert apiServerHostPortName 30000 },
      { name := "lb", «namespace» := "ns", clusterName := "c", role := .controlPlaneIngress
        hypervisorName := "here" } ]
  outside := ()

/-- The hypervisor of the control plane was deleted.  Pre-reconciling all components and
reconciling the control plane read it, and so does reconciling the ingress alone. -/
theorem fails_worldOn_gone :
    Fails (preReconcile Outside.succeeding []) (worldOn "gone") ∧
      Fails (reconcile Outside.succeeding ["cp"]) (worldOn "gone") ∧
      Fails (reconcile Outside.succeeding ["lb"]) (worldOn "gone") :=
  ⟨⟨_, rfl⟩, ⟨_, rfl⟩, ⟨_, rfl⟩⟩

theorem keyed_worldOn (hypervisorName : String) : Keyed (worldOn hypervisorName) where
  hypervisors := by simp [worldOn]
  components := by simp [worldOn]

theorem known_worldOn_here :
    ∀ component ∈ (worldOn "here").components, Known (worldOn "here") component := by
  unfold Known
  decide

theorem nilHypervisor_iff_worldOn_here :
    Returns (preReconcile Outside.succeeding ["cp", "lb"]) (worldOn "here") ∧
      ¬ Fails (reconcileDeletion Outside.succeeding ["cp", "lb"]) (worldOn "here") ∧
      ¬ Fails (reconcile Outside.succeeding ["cp", "lb"]) (worldOn "here") := by
  have hcerts : CertificatesOnly Outside.succeeding :=
    fun _ _ _ _ _ => by simp [Outside.succeeding]
  obtain ⟨hpre, hdel, -, hrec, -⟩ :=
    nilHypervisor_iff (keyed_worldOn "here") hcerts ["cp", "lb"]
  refine ⟨(hpre (by decide)).mpr fun component h => .inr (.inl (known_worldOn_here _ h.1)),
    hdel, hrec fun component h => ?_⟩
  have hknown := known_worldOn_here _ h.1
  unfold AlwaysReconcilable
  split
  · exact fun _ => hknown
  · exact fun _ => ⟨hknown, fun backend hbackend _ =>
      known_worldOn_here _ (mem_clusterComponents_iff.mp hbackend).1⟩
  · trivial

end OneInfra.Components
