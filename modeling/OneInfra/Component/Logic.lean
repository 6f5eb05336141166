import OneInfra.Component.Steps

/-!
# Properties of the operations on components

A property of programs that a sequence inherits from its parts is proved of an
operation by going through its calls.  `Logic` is such a property, and this file
goes through the calls of every operation once, for an arbitrary one.  What differs
between two properties is what they say of the calls that read the hypervisor of a
component, change the component, upload files, move a port or generate the container of
etcd.  These are fields of `Serves` and of the structures that extend it, and each property
gives its own proof of them.  `Reads` and `Uploads` of a logic say which clusters it is
about, and which paths.

The programs that change nothing are `Quiet`, and every logic has them.  `HasData` is a
logic that has every change of a component that touches no port, and `Tolerant` one that
does not look at how a program ends.
-/

namespace OneInfra.Components

open OneInfra.Lib OneInfra.Infra

variable {σ : Type} {α β : Type}

/-! ## Quiet programs -/

/-- No ports are requested or freed. -/
def noPorts : Permissions := ⟨fun _ _ => False, fun _ _ => False⟩

/-- Any port may be requested and freed. -/
def anyPorts : Permissions := ⟨fun _ _ => True, fun _ _ => True⟩

/-- `x` leaves the world as it is, and does not end with a nil hypervisor. -/
structure Quiet (x : ReconcileM σ α) : Prop where
  same : ∀ world, finalState (x.run world) = world
  avoids : ∀ world world', x.run world ≠ .error nilHypervisor world'

namespace Quiet

variable {x : ReconcileM σ α} {f : α → ReconcileM σ β}

theorem pure (a : α) : Quiet (pure a : ReconcileM σ α) where
  same _ := rfl
  avoids _ _ hrun := by cases hrun

theorem get : Quiet (get : ReconcileM σ (World σ)) where
  same _ := rfl
  avoids _ _ hrun := by cases hrun

theorem throw {fault : Fault} (h : fault ≠ nilHypervisor) :
    Quiet (throw fault : ReconcileM σ α) where
  same _ := rfl
  avoids _ _ hrun := by
    cases hrun
    exact h rfl

theorem ofExcept {a : Except Fault α} (h : a ≠ .error nilHypervisor) :
    Quiet (ofExcept a : ReconcileM σ α) := by
  cases a with
  | ok a => exact .pure a
  | error fault => exact .throw fun heq => h (congrArg _ heq)

theorem bind (hx : Quiet x) (hf : ∀ a, Quiet (f a)) : Quiet (x >>= f) where
  same world := by
    have hfirst := hx.same world
    rw [EStateM.run_bind]
    cases hrun : x.run world with
    | ok a between =>
      rw [hrun] at hfirst
      exact ((hf a).same between).trans hfirst
    | error fault between =>
      rw [hrun] at hfirst
      exact hfirst
  avoids world world' hrun := by
    rw [EStateM.run_bind] at hrun
    cases hfirst : x.run world with
    | ok a between =>
      rw [hfirst] at hrun
      exact (hf a).avoids between world' hrun
    | error fault between =>
      rw [hfirst] at hrun
      cases hrun
      exact hx.avoids world world' hfirst

end Quiet

section Reads

variable (name : String)

theorem quiet_component : Quiet (component name : ReconcileM σ Component) := by
  refine .bind .get fun world => ?_
  split
  · exact .pure _
  · exact .throw (by decide)

theorem quiet_hypervisor : Quiet (hypervisor name : ReconcileM σ (Option Hypervisor)) :=
  .bind (quiet_component name) fun _ => .bind .get fun _ => .pure _

theorem quiet_cluster : Quiet (cluster : ReconcileM σ Cluster) :=
  .bind .get fun _ => .pure _

theorem quiet_deref (pointer : Option α) :
    Quiet (ofExcept (deref pointer) : ReconcileM σ α) :=
  .ofExcept (by cases pointer <;> simp [deref, nilHypervisor])

end Reads

/-- The ports of a control plane. -/
def ControlPlane.hostPortNames : List String :=
  [apiServerHostPortName, etcdPeerHostPortName, etcdClientHostPortName]

/-- The files that `uploadFiles` of a control plane passes, in its order. -/
def ControlPlane.secretFiles : List String :=
  ["etcd-ca.crt", "apiserver-etcd-client.crt", "apiserver-etcd-client.key",
    "apiserver-client-ca.crt", "apiserver.crt", "apiserver.key", "service-account-pub.key",
    "apiserver-kubelet-client.crt", "apiserver-kubelet-client.key",
    "controller-manager.kubeconfig", "service-account.key", "cluster-signing-ca.crt",
    "cluster-signing-ca.key", "scheduler.kubeconfig", "kubelet-ca.crt"]

/-- The files that `reconcileEtcdCertificatesAndKeys` passes, in its order. -/
def ControlPlane.etcdSecretFiles : List String :=
  ["etcd.crt", "etcd.key", "etcd-client-ca.crt", "etcd-peer-ca.crt", "etcd-peer.crt",
    "etcd-peer.key"]

theorem ControlPlane.plain_secretFiles :
    ∀ file ∈ ControlPlane.secretFiles, FilePath.Plain file := by decide

theorem ControlPlane.plain_etcdSecretFiles :
    ∀ file ∈ ControlPlane.etcdSecretFiles, FilePath.Plain file := by decide

/-- The client certificates of a control plane. -/
def ControlPlane.clientCertificateNames : List String :=
  ["apiserver-etcd-client", "kube-apiserver-kubelet-client", "controller-manager", "scheduler",
    "etcd-peer", "oneinfra-client"]

/-- The server certificates of a control plane. -/
def ControlPlane.serverCertificateNames : List String := ["kube-apiserver", "etcd"]

/-! ## Logics -/

/-- A property of programs that composes, and that quiet programs have.  It may be about
programs that read certain clusters and that upload files to certain paths. -/
structure Logic (σ : Type) where
  Holds : ∀ {α : Type}, ReconcileM σ α → Prop
  Reads : Cluster → Prop
  Uploads : Cluster → (name path : String) → Prop
  onOutside : ∀ {α : Type} (call : σ → α × σ), Holds (onOutside call)
  quiet : ∀ {α : Type} {x : ReconcileM σ α}, Quiet x → Holds x
  bind_cluster : ∀ {α : Type} {f : Cluster → ReconcileM σ α},
    (∀ cluster, Reads cluster → Holds (f cluster)) → Holds (cluster >>= f)
  bind : ∀ {α β : Type} {x : ReconcileM σ α} {f : α → ReconcileM σ β},
    Holds x → (∀ a, Holds (f a)) → Holds (x >>= f)
  attempt : ∀ {α : Type} {x : ReconcileM σ α}, Holds x → Holds (attempt x)

namespace Logic

variable {L : Logic σ}

namespace Holds

variable {x : ReconcileM σ α} {f : α → ReconcileM σ β}

theorem quiet (hx : Quiet x) : L.Holds x := L.quiet hx

theorem bind (hx : L.Holds x) (hf : ∀ a, L.Holds (f a)) : L.Holds (x >>= f) := L.bind hx hf

theorem bind_cluster {f : Cluster → ReconcileM σ β}
    (hf : ∀ cluster, L.Reads cluster → L.Holds (f cluster)) : L.Holds (cluster >>= f) :=
  L.bind_cluster hf

theorem attempt (hx : L.Holds x) : L.Holds (Lib.attempt x) := L.attempt hx

theorem pure (a : α) : L.Holds (pure a : ReconcileM σ α) := L.quiet (.pure a)

theorem get : L.Holds (get : ReconcileM σ (World σ)) := L.quiet .get

theorem error (message : String) : L.Holds (throw (.error message) : ReconcileM σ α) :=
  L.quiet (.throw (by simp [nilHypervisor]))

theorem deref (pointer : Option α) :
    L.Holds (ofExcept (deref pointer) : ReconcileM σ α) :=
  L.quiet (quiet_deref pointer)

theorem callOutside (call : σ → Except String α × σ) : L.Holds (callOutside call) := by
  refine .bind (L.onOutside call) fun result => ?_
  cases result with
  | ok a => exact .pure _
  | error message => exact .error _

theorem etcd (outside : Outside σ) (name : String) (call : EtcdCall) :
    L.Holds (etcd outside name call) :=
  .bind (.quiet quiet_cluster) fun _ => L.onOutside _

theorem forM {l : List β} {g : β → ReconcileM σ Unit} (hg : ∀ b ∈ l, L.Holds (g b)) :
    L.Holds (l.forM g) := by
  induction l with
  | nil => exact .pure ()
  | cons b l ih => exact .bind (hg b (.head _)) fun _ => ih fun c hc => hg c (.tail _ hc)

theorem host (outside : Outside σ) {name : String} (h : L.Holds (derefHypervisor name))
    (call : HostCall) : L.Holds (host outside name call) :=
  .bind h fun _ => .bind (.quiet quiet_cluster) fun _ => .callOutside _

theorem kubeConfig {outside : Outside σ} {name certificateName : String}
    (h : ∀ ca commonName organization extraSANs, L.Holds
      (clientCertificate outside name ca certificateName commonName organization extraSANs))
    (ep : String) :
    L.Holds (kubeConfig outside name ep certificateName) := by
  refine .bind (.quiet quiet_cluster) fun cluster => .bind (.deref _) fun _ => ?_
  refine .bind (h _ _ _ _) fun certificate => ?_
  exact .bind (.deref _) fun _ => .bind (.deref _) fun _ => .callOutside _

theorem wireguardScriptContents {outside : Outside σ} {name : String}
    (h : L.Holds (requestPort name wireguardHostPortName : ReconcileM σ Int64)) :
    L.Holds (ControlPlaneIngress.wireguardScriptContents outside name) :=
  .bind (.quiet quiet_cluster) fun _ => .bind h fun _ => .callOutside _

end Holds

/-! ### Changes of a component -/

/-- From `world`, `x` returns after it has changed a component, but not its ports. -/
def ChangesData (component : Component) (x : ReconcileM σ α) (world : World σ) : Prop :=
  ∃ a component', x.run world = .ok a (world.setComponent component') ∧
    component'.frozen = component.frozen ∧
    component'.allocatedHostPorts = component.allocatedHostPorts

/-- `L` has every change of the component of that name that touches no port. -/
structure HasData (L : Logic σ) (name : String) : Prop where
  bind_component : ∀ {α : Type} {f : Component → ReconcileM σ α},
    (∀ found world, lookupKey Component.name found.name world.components = some found →
      found.name = name → ChangesData found (f found) world) → L.Holds (component name >>= f)

namespace HasData

variable {name : String} (h : L.HasData name) (outside : Outside σ)

include h

theorem setEndpoints (inputEndpoints outputEndpoints : GoMap String String) :
    L.Holds (setEndpoints name inputEndpoints outputEndpoints) :=
  h.bind_component fun _ _ _ _ => ⟨_, _, rfl, rfl, rfl⟩

theorem setCondition (conditionType : String) (conditionStatus : Conditions.ConditionStatus) :
    L.Holds (setCondition outside name conditionType conditionStatus) :=
  h.bind_component fun _ _ _ _ => ⟨_, _, rfl, rfl, rfl⟩

variable {outside}

/-- A certificate of a component is cached or created. -/
theorem clientCertificate (hcreate : ∀ ca commonName organization extraSANs,
      L.Holds (createCertificate outside ca commonName organization extraSANs))
    (ca : Option Certificate) (certificateName commonName : String)
    (organization extraSANs : List String) :
    L.Holds
      (clientCertificate outside name ca certificateName commonName organization extraSANs) := by
  refine .bind (.quiet (quiet_component name)) fun found => ?_
  split
  · exact .pure _
  · exact .bind (hcreate _ _ _ _) fun certificate =>
      h.bind_component fun _ _ _ _ => ⟨_, _, rfl, rfl, rfl⟩

theorem serverCertificate (hcreate : ∀ ca commonName organization extraSANs,
      L.Holds (createCertificate outside ca commonName organization extraSANs))
    (ca : Option Certificate) (certificateName commonName : String)
    (organization extraSANs : List String) :
    L.Holds
      (serverCertificate outside name ca certificateName commonName organization extraSANs) := by
  refine .bind (.quiet (quiet_component name)) fun found => ?_
  split
  · exact .pure _
  · exact .bind (hcreate _ _ _ _) fun certificate =>
      h.bind_component fun _ _ _ _ => ⟨_, _, rfl, rfl, rfl⟩

/-- The endpoints of a control plane. -/
theorem controlPlaneEndpoints (hderef : L.Holds (derefHypervisor name))
    (hapiserver : L.Holds (requestPort name apiServerHostPortName : ReconcileM σ Int64)) :
    L.Holds (ControlPlane.reconcileInputAndOutputEndpoints name : ReconcileM σ Unit) :=
  .bind hapiserver fun _ => .bind hderef fun _ => h.setEndpoints _ _

theorem addInputEndpoints
    (hapiserver : ∀ other, L.Holds (requestPort other apiServerHostPortName : ReconcileM σ Int64))
    (components : List Component) :
    L.Holds (ControlPlaneIngress.addInputEndpoints name components) := by
  refine .forM fun found _ => ?_
  unfold ControlPlaneIngress.addInputEndpoint
  split
  · exact .pure _
  refine .bind .get fun world => ?_
  split
  · exact .pure _
  · exact .bind (hapiserver _) fun port => .bind (.quiet (quiet_component name)) fun own =>
      h.setEndpoints _ _

/-- The endpoints of an ingress. -/
theorem ingressEndpoints (hderef : L.Holds (derefHypervisor name))
    (hapiserver : ∀ other, L.Holds (requestPort other apiServerHostPortName : ReconcileM σ Int64)) :
    L.Holds (ControlPlaneIngress.reconcileInputAndOutputEndpoints name : ReconcileM σ Unit) :=
  .bind (hapiserver name) fun _ => .bind hderef fun _ => .bind (h.setEndpoints _ _) fun _ =>
    .bind .get fun _ => h.addInputEndpoints hapiserver _

end HasData

/-- `L` has the programs that end at once, in whatever fault. -/
structure Tolerant (L : Logic σ) : Prop where
  throw : ∀ {α : Type} (fault : Fault), L.Holds (throw fault : ReconcileM σ α)

namespace Tolerant

variable (h : L.Tolerant)

include h

theorem derefHypervisor (name : String) : L.Holds (derefHypervisor name) := by
  refine .bind (.quiet (quiet_hypervisor name)) fun found => ?_
  split
  · exact .pure _
  · exact h.throw _

theorem createCertificate (outside : Outside σ) (ca : Option Certificate) (commonName : String)
    (organization extraSANs : List String) :
    L.Holds (createCertificate outside ca commonName organization extraSANs) := by
  refine .bind (L.onOutside _) fun result => ?_
  split
  · exact .pure _
  · exact h.throw _

theorem haProxyConfiguration (outside : Outside σ) :
    L.Holds (ControlPlaneIngress.haProxyConfiguration outside) := by
  refine .bind .get fun world => .bind ?_ fun _ => .callOutside _
  cases (world.clusterComponents .controlPlane).mapM
      (ControlPlaneIngress.apiServerAddress world) with
  | ok addresses => exact .pure _
  | error fault => exact h.throw fault

end Tolerant

/-! ### Files -/

/-- The end of `uploadFiles`, which records the files. -/
def recordUploaded (outside : Outside σ) (name : String) (files : List (String × String)) :
    ReconcileM σ Unit := do
  let hypervisor ← derefHypervisor name
  modify fun world => world.setHypervisor (hypervisor.recordFiles world.cluster.namespace
    world.cluster.name name (files.map fun file => (file.1, outside.sha1Sum file.2)))

theorem Holds.uploadFiles {outside : Outside σ} {name : String} {files : List (String × String)}
    (hderef : L.Holds (derefHypervisor name))
    (hrecord : L.Holds (recordUploaded outside name files)) :
    L.Holds (uploadFiles outside name files) := by
  refine .bind hderef fun hypervisor => .bind (.quiet quiet_cluster) fun cluster => ?_
  dsimp only
  split
  · exact .pure _
  · exact .bind (hderef.host outside _) fun _ => .bind (hderef.host outside _) fun _ => hrecord

/-- What `L` says of a program that goes on with the hypervisor of a component and changes it. -/
structure BindsHypervisor (L : Logic σ) (name : String) : Prop where
  derefHypervisor : L.Holds (derefHypervisor name)
  bind_derefHypervisor : ∀ {α : Type} {f : Hypervisor → ReconcileM σ α},
    (∀ found hypervisor world,
      lookupKey Component.name found.name world.components = some found → found.name = name →
      world.componentHypervisor found = some hypervisor →
      ∃ a hypervisor', (f hypervisor).run world = .ok a (world.setHypervisor hypervisor') ∧
        Steps noPorts world (world.setHypervisor hypervisor')) →
    L.Holds (Components.derefHypervisor name >>= f)

namespace BindsHypervisor

variable {name : String} (h : L.BindsHypervisor name) (outside : Outside σ)

include h

theorem uploadFiles (files : List (String × String)) :
    L.Holds (uploadFiles outside name files) := by
  refine h.derefHypervisor.uploadFiles ?_
  refine h.bind_derefHypervisor fun found hypervisor world hcomp hname hhyp => ?_
  subst hname
  exact ⟨_, _, rfl, .single (.recordFiles _ hcomp hhyp)⟩

theorem hostCleanup : L.Holds (hostCleanup outside name) := by
  refine .bind (.quiet quiet_cluster) fun cluster => ?_
  refine .bind (h.derefHypervisor.host outside _) fun _ => ?_
  refine h.bind_derefHypervisor fun found hypervisor world hcomp hname hhyp => ?_
  subst hname
  exact ⟨_, _, rfl, .single (.cleanup hcomp hhyp)⟩

end BindsHypervisor

/-- To keep `P`. -/
def preserving (P : World σ → Prop) (Reads : Cluster → Prop)
    (Uploads : Cluster → (name path : String) → Prop)
    (houtside : ∀ world s, P world → P { world with outside := s })
    (hreads : ∀ world, P world → Reads world.cluster) : Logic σ where
  Holds x := Preserves P x
  Reads := Reads
  Uploads := Uploads
  onOutside _ world h := houtside world _ h
  quiet hx world h := (hx.same world).symm ▸ h
  bind_cluster hf world h := hf world.cluster (hreads world h) world h
  bind := .bind
  attempt := .of_attempt

section Preserving

variable {P : World σ → Prop} {Reads : Cluster → Prop}
  {Uploads : Cluster → (name path : String) → Prop}
  {houtside : ∀ world s, P world → P { world with outside := s }}
  {hreads : ∀ world, P world → Reads world.cluster}

theorem of_run_preserving {x : ReconcileM σ α} {a : α} {world world' : World σ}
    (hx : (preserving P Reads Uploads houtside hreads).Holds x) (hrun : x.run world = .ok a world')
    (h : P world) : P world' := by
  have hkept := hx world h
  rwa [hrun] at hkept

theorem tolerant_preserving : (preserving P Reads Uploads houtside hreads).Tolerant :=
  ⟨Preserves.of_throw⟩

theorem bindsHypervisor_preserving (name : String)
    (hset : ∀ world hyp', P world → Steps noPorts world (world.setHypervisor hyp') →
      P (world.setHypervisor hyp')) :
    (preserving P Reads Uploads houtside hreads).BindsHypervisor name where
  derefHypervisor := tolerant_preserving.derefHypervisor name
  bind_derefHypervisor hf := by
    refine guarantees_bind_derefHypervisor (R := fun world world' => P world → P world')
      (fun _ => id) name fun found hypervisor world hcomp hname hhyp h => ?_
    obtain ⟨a, hyp', hrun, hsteps⟩ := hf found hypervisor world hcomp hname hhyp
    rw [hrun]
    exact hset world hyp' h hsteps

end Preserving

/-! ### Shared functions -/

/-- What `L` says of the hypervisor of a component and of the paths of its secrets. -/
structure Serves (L : Logic σ) (outside : Outside σ) (name : String) : Prop where
  derefHypervisor : L.Holds (derefHypervisor name)
  secrets : ∀ cluster file, L.Reads cluster → FilePath.Plain file →
    L.Uploads cluster name
      (componentSecretsPathFile cluster.namespace cluster.name name file)
  upload : ∀ cluster files, L.Reads cluster →
    (∀ file ∈ files, L.Uploads cluster name file.1) → L.Holds (uploadFiles outside name files)

/-- What `L` says of the certificates of a component besides. -/
structure ServesCertificates (L : Logic σ) (outside : Outside σ) (name : String) : Prop
    extends L.Serves outside name where
  clientCertificate : ∀ ca certificateName commonName organization extraSANs,
    certificateName ∈ ControlPlane.clientCertificateNames → L.Holds
      (clientCertificate outside name ca certificateName commonName organization extraSANs)
  serverCertificate : ∀ ca certificateName commonName organization extraSANs,
    certificateName ∈ ControlPlane.serverCertificateNames → L.Holds
      (serverCertificate outside name ca certificateName commonName organization extraSANs)

theorem Tolerant.serves (h : L.Tolerant) {outside : Outside σ} {name : String}
    (hdata : L.HasData name)
    (hsecrets : ∀ cluster file, L.Reads cluster → FilePath.Plain file →
      L.Uploads cluster name
        (componentSecretsPathFile cluster.namespace cluster.name name file))
    (hupl : ∀ cluster files, L.Reads cluster →
      (∀ file ∈ files, L.Uploads cluster name file.1) → L.Holds (uploadFiles outside name files)) :
    L.ServesCertificates outside name where
  derefHypervisor := h.derefHypervisor name
  clientCertificate ca certificateName commonName organization extraSANs _ :=
    hdata.clientCertificate (h.createCertificate outside) ca certificateName commonName organization
      extraSANs
  serverCertificate ca certificateName commonName organization extraSANs _ :=
    hdata.serverCertificate (h.createCertificate outside) ca certificateName commonName organization
      extraSANs
  secrets := hsecrets
  upload := hupl

namespace Serves

variable {outside : Outside σ} {name : String} (h : L.Serves outside name)

include h

theorem host (call : HostCall) : L.Holds (host outside name call) :=
  h.derefHypervisor.host outside call

theorem uploadSecrets {cluster : Cluster} (hcl : L.Reads cluster) (secrets : List String)
    {files : List (String × String)}
    (hpaths : files.map Prod.fst =
      secrets.map (componentSecretsPathFile cluster.namespace cluster.name name))
    (hplain : ∀ secret ∈ secrets, FilePath.Plain secret) :
    L.Holds (uploadFiles outside name files) := by
  refine h.upload cluster files hcl fun file hfile => ?_
  obtain ⟨secret, hsecret, hpath⟩ := List.mem_map.mp (hpaths ▸ List.mem_map_of_mem hfile)
  rw [← hpath]
  exact h.secrets cluster secret hcl (hplain secret hsecret)

end Serves

section ServesCertificates

variable {outside : Outside σ} {name : String} (h : L.ServesCertificates outside name)

namespace ServesCertificates

include h

theorem kubeConfig (ep : String) {certificateName : String}
    (hcert : certificateName ∈ ControlPlane.clientCertificateNames) :
    L.Holds (kubeConfig outside name ep certificateName) :=
  .kubeConfig (fun _ _ _ _ => h.clientCertificate _ _ _ _ _ hcert) ep

end ServesCertificates

/-! ### etcd -/

/-- The end of `etcdContainer`, which records the container in the history. -/
def recordEtcdContainer (container : EtcdContainer) : ReconcileM σ Unit :=
  modify fun world => { world with etcdContainers := world.etcdContainers ++ [container] }

/-- What `L` says of the calls that running etcd needs besides. -/
structure ServesEtcd (L : Logic σ) (outside : Outside σ) (name : String) : Prop
    extends L.ServesCertificates outside name where
  etcdClientEndpoints : L.Holds (ControlPlane.etcdClientEndpoints : ReconcileM σ (List String))
  requestEtcdPeer : L.Holds (requestPort name etcdPeerHostPortName : ReconcileM σ Int64)

namespace ServesCertificates

include h

open ControlPlane in
theorem etcdClientWithEndpoints (endpoints : List String) :
    L.Holds (etcdClientWithEndpoints outside name endpoints) := by
  refine .bind (.quiet quiet_cluster) fun cluster => ?_
  dsimp only
  split
  · exact .error _
  refine .bind (.deref _) fun etcdServer => .bind (.deref _) fun ca => ?_
  split
  · exact .error _
  refine .bind (.deref _) fun certificateAuthorities => ?_
  refine .bind (h.clientCertificate _ _ _ _ _ (by decide)) fun _ => ?_
  refine .bind (.etcd outside name _) fun result => ?_
  cases result with
  | ok _ => exact .pure _
  | error _ => exact .error _

open ControlPlane in
theorem reconcileEtcdCertificatesAndKeys :
    L.Holds (reconcileEtcdCertificatesAndKeys outside name) := by
  refine .bind_cluster fun cluster hcl => ?_
  refine .bind (.deref _) fun certificateAuthorities => ?_
  refine .bind h.derefHypervisor fun hypervisor => ?_
  refine .bind (h.clientCertificate _ _ _ _ _ (by decide)) fun peerCertificate => ?_
  refine .bind (.deref _) fun etcdServer => ?_
  refine .bind (h.serverCertificate _ _ _ _ _ (by decide)) fun serverCertificate => ?_
  refine .bind (.deref _) fun _ => .bind (.deref _) fun _ => ?_
  exact h.uploadSecrets hcl etcdSecretFiles (by simp only [List.map, etcdSecretFiles])
    plain_etcdSecretFiles

end ServesCertificates

end ServesCertificates

namespace ServesEtcd

open ControlPlane

variable {outside : Outside σ} {name : String} (h : L.ServesEtcd outside name)

theorem okOrThrow (result : Except EtcdError α) :
    L.Holds (okOrThrow result : ReconcileM σ α) := by
  rcases result with (_ | message) | a
  · exact .error _
  · exact .error _
  · exact .pure _

theorem initialClusterEntries (peerURL : String) (members : List EtcdMember) :
    Quiet (ofExcept (members.mapM (initialClusterEntry name peerURL)) :
      ReconcileM σ (List (String × String))) := by
  refine .ofExcept fun herr => ?_
  obtain ⟨_, member, _, -, -, hentry⟩ := mapM_eq_error_iff.mp herr
  unfold initialClusterEntry at hentry
  split at hentry
  · exact absurd hentry (by simp [nilHypervisor])
  · cases hentry

include h

theorem etcdClient : L.Holds (etcdClient outside name) :=
  .bind h.etcdClientEndpoints fun _ => h.etcdClientWithEndpoints _

theorem etcdPeerURL : L.Holds (etcdPeerURL name : ReconcileM σ String) :=
  .bind h.requestEtcdPeer fun _ => .bind h.derefHypervisor fun _ => .pure _

theorem etcdMembers : L.Holds (etcdMembers outside name) :=
  .bind h.etcdClient fun _ => .bind (.etcd outside name _) fun _ => okOrThrow _

theorem etcdMemberID : L.Holds (etcdMemberID outside name) :=
  .bind h.etcdMembers fun _ => .bind h.etcdPeerURL fun _ => .pure _

theorem hasEtcdMember : L.Holds (hasEtcdMember outside name) :=
  .bind h.etcdMemberID fun _ => .pure _

theorem setupEtcdLearner : L.Holds (setupEtcdLearner outside name) := by
  refine .bind h.etcdClient fun etcdClient => ?_
  have hadd : ∀ tries, L.Holds (addLearner outside name etcdClient tries) := by
    intro tries
    induction tries with
    | zero => exact .error _
    | succ tries ih =>
      refine .bind h.etcdPeerURL fun peerURL => ?_
      refine .bind (.etcd outside name _) fun result => ?_
      rcases result with (_ | message) | a
      · exact .error _
      · exact ih
      · exact .pure _
  exact hadd 60

theorem hasEtcdLearner : L.Holds (hasEtcdLearner outside name) :=
  .bind h.etcdMembers fun _ => .bind h.etcdPeerURL fun _ => .pure _

theorem promote (tries : Nat) : L.Holds (promote outside name tries) := by
  induction tries with
  | zero => exact .error _
  | succ tries ih =>
    refine .bind h.etcdClient fun client => ?_
    refine .bind (.etcd outside name _) fun result => ?_
    cases result with
    | error _ => exact ih
    | ok members =>
      refine .bind h.etcdPeerURL fun peerURL => ?_
      dsimp only
      split
      · exact .pure _
      split
      · exact ih
      refine .bind (h.etcdClientWithEndpoints _) fun client => ?_
      refine .bind (.etcd outside name _) fun result => ?_
      cases result with
      | error _ => exact ih
      | ok _ => exact .pure _

theorem initialClusterState : L.Holds (initialClusterState outside name) := by
  refine .bind (.quiet quiet_cluster) fun cluster => ?_
  refine .bind (.attempt h.etcdMembers) fun result => ?_
  cases result with
  | error _ =>
    dsimp only
    split
    · exact .pure _
    · exact .pure _
  | ok members =>
    exact .bind h.etcdPeerURL fun peerURL =>
      .bind (.quiet (initialClusterEntries peerURL members)) fun _ => .pure _

theorem etcdContainer (hrecord : ∀ container, L.Holds (recordEtcdContainer container))
    (etcdClientHostPort etcdPeerHostPort : Int64) :
    L.Holds (etcdContainer outside name etcdClientHostPort etcdPeerHostPort) := by
  refine .bind (.quiet quiet_cluster) fun cluster => ?_
  split
  · exact .error _
  refine .bind h.derefHypervisor fun hypervisor => ?_
  refine .bind h.etcdClientEndpoints fun clientEndpoints => ?_
  refine .bind h.initialClusterState fun state => ?_
  exact .bind (hrecord _) fun _ => .pure _

theorem ensureEtcdPod
    (hclient : L.Holds (requestPort name etcdClientHostPortName : ReconcileM σ Int64))
    (hctr : ∀ etcdClientHostPort etcdPeerHostPort,
      L.Holds (ControlPlane.etcdContainer outside name etcdClientHostPort etcdPeerHostPort)) :
    L.Holds (ensureEtcdPod outside name) := by
  refine .bind h.requestEtcdPeer fun etcdPeerHostPort => ?_
  refine .bind hclient fun etcdClientHostPort => ?_
  refine .bind (hctr _ _) fun container => ?_
  exact .bind (.quiet quiet_cluster) fun _ => h.host _

theorem runEtcd (hensure : L.Holds (ControlPlane.ensureEtcdPod outside name)) :
    L.Holds (runEtcd outside name) := by
  refine .bind h.reconcileEtcdCertificatesAndKeys fun _ => ?_
  refine .bind (.attempt h.hasEtcdMember) fun found => ?_
  have hrest : L.Holds (do
      ControlPlane.ensureEtcdPod outside name
      if ← ControlPlane.hasEtcdLearner outside name then promoteEtcdLearner outside name) := by
    refine .bind hensure fun _ => .bind h.hasEtcdLearner fun isLearner => ?_
    split
    · exact h.promote _
    · exact .pure _
  dsimp only
  split
  · exact .bind (.attempt h.setupEtcdLearner) fun _ => hrest
  · exact hrest

theorem removeMember (tries : Nat) : L.Holds (removeMember outside name tries) := by
  induction tries with
  | zero => exact .bind (.quiet (quiet_component name)) fun _ => .error _
  | succ tries ih =>
    refine .bind (.attempt h.etcdMemberID) fun found => ?_
    split
    · exact .pure _
    · exact ih
    refine .bind (.attempt h.etcdClient) fun client => ?_
    split
    · exact ih
    refine .bind (.etcd outside name _) fun result => ?_
    cases result with
    | error _ => exact ih
    | ok _ => exact .pure _

theorem removeEtcdMember : L.Holds (removeEtcdMember outside name) := by
  refine .bind h.etcdClientEndpoints fun endpoints => ?_
  split
  · exact h.removeMember _
  · exact .pure _

end ServesEtcd

/-! ### The control plane -/

section ControlPlane

open ControlPlane

theorem clientEndpointsOf
    (hclient : ∀ name, L.Holds (requestPort name etcdClientHostPortName : ReconcileM σ Int64))
    (components : List Component) :
    L.Holds (clientEndpointsOf components : ReconcileM σ (List String)) := by
  induction components with
  | nil => exact .pure _
  | cons found components ih =>
    rw [ControlPlane.clientEndpointsOf]
    split
    · exact ih
    refine .bind .get fun world => ?_
    split
    · exact ih
    refine .bind (.attempt (hclient _)) fun result => ?_
    cases result with
    | error message => exact ih
    | ok port => exact .bind ih fun _ => .pure _

theorem advertiseAddressAndPort
    (hapiserver : ∀ name, L.Holds (requestPort name apiServerHostPortName : ReconcileM σ Int64))
    (components : List Component) (advertised : String × Int64) :
    L.Holds (advertiseAddressAndPort components advertised : ReconcileM σ (String × Int64)) := by
  induction components generalizing advertised with
  | nil => exact .pure _
  | cons found components ih =>
    refine .bind .get fun world => ?_
    split
    · exact ih _
    refine .bind (.attempt (hapiserver _)) fun result => ?_
    cases result with
    | ok port => exact ih _
    | error message => exact ih _

theorem ServesCertificates.toServesEtcd {outside : Outside σ} {name : String}
    (h : L.ServesCertificates outside name)
    (hclient : ∀ other, L.Holds (requestPort other etcdClientHostPortName : ReconcileM σ Int64))
    (hpeer : L.Holds (requestPort name etcdPeerHostPortName : ReconcileM σ Int64)) :
    L.ServesEtcd outside name :=
  { h with
    etcdClientEndpoints := .bind .get fun _ => clientEndpointsOf hclient _
    requestEtcdPeer := hpeer }

theorem quiet_clusterLoadBalancers :
    Quiet (clusterLoadBalancers : ReconcileM σ (List Component)) := by
  refine .bind .get fun world => ?_
  dsimp only
  split
  · exact .throw (by simp [nilHypervisor])
  · exact .pure _

theorem quiet_kubeAPIServerSANs (outside : Outside σ) : Quiet (kubeAPIServerSANs outside) := by
  refine .bind quiet_cluster fun cluster => ?_
  refine .bind quiet_clusterLoadBalancers fun loadBalancers => ?_
  refine .bind (quiet_deref _) fun apiServer => .bind .get fun world => ?_
  refine .bind (.ofExcept fun herr => ?_) fun _ => .pure _
  unfold Cluster.kubernetesServiceIP Cluster.serviceIP at herr
  split at herr
  · cases herr
  split at herr
  · exact absurd herr (by simp [nilHypervisor])
  · cases herr

end ControlPlane

/-- What `L` says of the calls that reconciling a control plane needs besides. -/
structure ServesControlPlane (L : Logic σ) (outside : Outside σ) (name : String) : Prop
    extends L.ServesEtcd outside name where
  requestEtcdClient : L.Holds (requestPort name etcdClientHostPortName : ReconcileM σ Int64)
  requestAPIServer : L.Holds (requestPort name apiServerHostPortName : ReconcileM σ Int64)
  endpoints : L.Holds (ControlPlane.reconcileInputAndOutputEndpoints name : ReconcileM σ Unit)
  advertise : L.Holds
    (ControlPlane.kubeAPIServerAdvertiseAddressAndPort : ReconcileM σ (String × Int64))
  ensureEtcdPod : L.Holds (ControlPlane.ensureEtcdPod outside name)

theorem ServesEtcd.toServesControlPlane {outside : Outside σ} {name : String}
    (h : L.ServesEtcd outside name) (hdata : L.HasData name)
    (hclient : L.Holds (requestPort name etcdClientHostPortName : ReconcileM σ Int64))
    (hapiserver : ∀ other, L.Holds (requestPort other apiServerHostPortName : ReconcileM σ Int64))
    (hctr : ∀ etcdClientHostPort etcdPeerHostPort,
      L.Holds (ControlPlane.etcdContainer outside name etcdClientHostPort etcdPeerHostPort)) :
    L.ServesControlPlane outside name :=
  { h with
    requestEtcdClient := hclient
    requestAPIServer := hapiserver name
    endpoints := hdata.controlPlaneEndpoints h.derefHypervisor (hapiserver name)
    advertise := .bind (.quiet quiet_clusterLoadBalancers) fun _ =>
      advertiseAddressAndPort hapiserver _ _
    ensureEtcdPod := h.ensureEtcdPod hclient hctr }

namespace ServesControlPlane

open ControlPlane

variable {outside : Outside σ} {name : String} (h : L.ServesControlPlane outside name)

include h

theorem uploadFiles : L.Holds (ControlPlane.uploadFiles outside name) := by
  refine .bind_cluster fun cluster hcl => ?_
  refine .bind (.deref _) fun certificateAuthorities => ?_
  refine .bind (h.clientCertificate _ _ _ _ _ (by decide)) fun etcdClient => ?_
  refine .bind (.quiet (quiet_kubeAPIServerSANs outside)) fun extraSANs => ?_
  refine .bind (.deref _) fun apiServer => ?_
  refine .bind (h.serverCertificate _ _ _ _ _ (by decide)) fun apiServerCertificate => ?_
  refine .bind (h.clientCertificate _ _ _ _ _ (by decide)) fun kubeletClient => ?_
  refine .bind h.advertise fun advertised => ?_
  dsimp only
  refine .bind (h.kubeConfig _ (by decide)) fun controllerManager => ?_
  refine .bind (h.kubeConfig _ (by decide)) fun scheduler => ?_
  refine .bind (.deref _) fun _ => .bind (.deref _) fun _ => .bind (.deref _) fun _ => ?_
  refine .bind (.deref _) fun _ => .bind (.deref _) fun _ => .bind (.deref _) fun _ => ?_
  exact h.uploadSecrets hcl secretFiles (by simp only [List.map, secretFiles])
    plain_secretFiles

theorem reconcile : L.Holds (ControlPlane.reconcile outside name) := by
  refine .bind (.quiet quiet_cluster) fun cluster => ?_
  split
  · exact .error _
  refine .bind h.derefHypervisor fun hypervisor => ?_
  refine .bind h.endpoints fun _ => ?_
  refine .bind (.forM fun image _ => h.host _) fun _ => ?_
  refine .bind h.advertise fun advertised => ?_
  dsimp only
  refine .bind h.uploadFiles fun _ => ?_
  refine .bind h.requestAPIServer fun apiserverHostPort => ?_
  refine .bind (h.runEtcd h.ensureEtcdPod) fun _ => ?_
  exact .bind h.etcdClientEndpoints fun _ => h.host _

end ServesControlPlane

theorem Serves.reconcileDeletion {outside : Outside σ} {name : String}
    (h : L.Serves outside name) (hcleanup : L.Holds (hostCleanup outside name))
    (hremove : ∀ cluster, L.Reads cluster → cluster.deletionTimestamp.isNone →
      L.Holds (ControlPlane.removeEtcdMember outside name))
    (hfrees : ∀ portName ∈ ControlPlane.hostPortNames,
      L.Holds (freePort name portName : ReconcileM σ Unit)) :
    L.Holds (ControlPlane.reconcileDeletion outside name) := by
  have hstop : L.Holds (do
      ControlPlane.stopEtcd outside name
      hostCleanup outside name) :=
    .bind (.bind (.quiet quiet_cluster) fun _ =>
      .bind (h.host _) fun _ =>
      .bind (hfrees _ (by decide)) fun _ => hfrees _ (by decide)) fun _ => hcleanup
  refine .bind (.quiet (quiet_hypervisor name)) fun found => ?_
  dsimp only
  split
  · exact .pure _
  refine .bind (.bind (.quiet quiet_cluster) fun _ =>
    .bind (h.host _) fun _ => hfrees _ (by decide)) fun _ => ?_
  refine .bind_cluster fun cluster hcl => ?_
  split
  · next hts => exact .bind (hremove cluster hcl hts) fun _ => hstop
  · exact hstop

/-! ### The ingress -/

theorem fatal_ne_nilHypervisor (message : String) :
    ControlPlaneIngress.fatal message ≠ nilHypervisor := by
  intro h
  have htext := congrArg String.toList (Fault.panic.inj h)
  rw [String.toList_append] at htext
  exact absurd (congrArg List.head? htext) (by simp)

/-- What `L` says of the calls that reconciling an ingress needs besides. -/
structure ServesIngress (L : Logic σ) (outside : Outside σ) (name : String) : Prop
    extends L.Serves outside name where
  requestAPIServer : L.Holds (requestPort name apiServerHostPortName : ReconcileM σ Int64)
  requestWireguard : ∀ cluster, L.Reads cluster → cluster.vpn.enabled = true →
    L.Holds (requestPort name wireguardHostPortName : ReconcileM σ Int64)
  endpoints : L.Holds
    (ControlPlaneIngress.reconcileInputAndOutputEndpoints name : ReconcileM σ Unit)
  haProxyConfiguration : L.Holds (ControlPlaneIngress.haProxyConfiguration outside)
  service : ∀ cluster cluster', L.Reads cluster → L.Reads cluster' → cluster.vpn.enabled = true →
    L.Uploads cluster' name (ControlPlaneIngress.wireguardSystemdServicePath cluster')

theorem Serves.toServesIngress {outside : Outside σ} {name : String} (h : L.Serves outside name)
    (hdata : L.HasData name) (htolerant : L.Tolerant)
    (hapiserver : ∀ other, L.Holds (requestPort other apiServerHostPortName : ReconcileM σ Int64))
    (hwireguard : L.Holds (requestPort name wireguardHostPortName : ReconcileM σ Int64))
    (hservice : ∀ cluster cluster', L.Reads cluster → L.Reads cluster' →
      cluster.vpn.enabled = true →
      L.Uploads cluster' name (ControlPlaneIngress.wireguardSystemdServicePath cluster')) :
    L.ServesIngress outside name :=
  { h with
    requestAPIServer := hapiserver name
    requestWireguard _ _ _ := hwireguard
    endpoints := hdata.ingressEndpoints h.derefHypervisor hapiserver
    haProxyConfiguration := htolerant.haProxyConfiguration outside
    service := hservice }

namespace ServesIngress

open ControlPlaneIngress

variable {outside : Outside σ} {name : String} (h : L.ServesIngress outside name)

include h

theorem reconcileWireguard {cluster : Cluster} (hcl : L.Reads cluster)
    (hvpn : cluster.vpn.enabled = true) : L.Holds (reconcileWireguard outside name) := by
  refine .bind_cluster fun cluster' hcl' => ?_
  refine .bind (.callOutside _) fun service => ?_
  refine .bind (.attempt (.wireguardScriptContents (h.requestWireguard cluster hcl hvpn)))
    fun script => ?_
  cases script with
  | error message => exact .quiet (.throw (fatal_ne_nilHypervisor message))
  | ok contents =>
    refine .bind (h.upload cluster' _ hcl' ?_) fun _ => .bind (h.host _) fun _ => h.host _
    simp only [List.forall_mem_cons]
    exact ⟨h.service cluster cluster' hcl hcl' hvpn,
      h.secrets cluster' _ hcl' (by decide), h.secrets cluster' _ hcl' (by decide),
      fun file hfile => absurd hfile List.not_mem_nil⟩

theorem reconcile : L.Holds (ControlPlaneIngress.reconcile outside name) := by
  refine .bind_cluster fun cluster hcl => .bind .get fun world => ?_
  dsimp only
  split
  · exact .error _
  split
  · exact .error _
  refine .bind h.derefHypervisor fun hypervisor => ?_
  refine .bind h.endpoints fun _ => ?_
  refine .bind (h.host _) fun _ => ?_
  refine .bind h.requestAPIServer fun port => ?_
  refine .bind h.haProxyConfiguration fun configuration => ?_
  refine .bind (h.uploadSecrets hcl ["haproxy.cfg"] rfl (by decide)) fun _ => ?_
  refine .bind (h.host _) fun _ => ?_
  split
  · next hvpn => exact h.reconcileWireguard hcl hvpn
  · exact .pure _

end ServesIngress

theorem Serves.reconcileIngressDeletion {outside : Outside σ} {name : String}
    (h : L.Serves outside name) (hcleanup : L.Holds (hostCleanup outside name))
    (hfrees : ∀ portName, L.Holds (freePort name portName : ReconcileM σ Unit)) :
    L.Holds (ControlPlaneIngress.reconcileDeletion outside name) := by
  have hstop : L.Holds (ControlPlaneIngress.stopIngress outside name) := by
    refine .bind (.quiet quiet_cluster) fun cluster => ?_
    refine .bind (h.host _) fun _ => .bind (hfrees _) fun _ => ?_
    split
    · exact hfrees _
    · exact .pure _
  refine .bind (.quiet (quiet_hypervisor name)) fun found => ?_
  split
  · exact .pure _
  · exact .bind hstop fun _ => hcleanup

end Logic

end OneInfra.Components
