import OneInfra.Component.PortSteps
import OneInfra.Infra.EnsurePod
import Mathlib.Logic.Equiv.List

/-!
# The pod of a control plane

`Reconcile` of `internal/pkg/component/components/control_plane.go` ends by handing a
pod with three containers to `EnsurePod`.  `podInputs` is `Reconcile` up to there, and
`controlPlanePod` is the pod that is built from what it collects.

The arguments of the containers are maps, and `ArgsFromMap` goes over them in the
order of the map, which differs from run to run.  The sum of the pod is a sum of its
text, in which the order of the arguments shows.  `IsPodOf` says that a pod is one of
those that the inputs can give.

Two reconciles of an unchanged control plane can therefore hand over pods with
different sums, whatever the cluster is.  `EnsurePod` does not find the first pod under
the sum of the second, and replaces it.
-/

namespace OneInfra.Components.ControlPlane

open OneInfra.Lib OneInfra.Infra OneInfra.Infra.Runtime OneInfra.Infra.Hypervisor

/-! ## The pod -/

/-- What `Reconcile` collects for the pod. -/
structure PodInputs where
  cluster : Cluster
  componentName : String
  advertiseAddressHost : String
  advertiseAddressPort : Int64
  apiserverHostPort : Int64
  etcdServers : List String

/-- Whether a version is less than 1.20.  Only versions with a version bundle are
compared, and these parse. -/
abbrev LessThan120 := String → Bool

namespace PodInputs

variable (inputs : PodInputs)

/-- A file among the secrets of the component. -/
def secret (file : String) : String :=
  componentSecretsPathFile inputs.cluster.namespace inputs.cluster.name inputs.componentName file

/-- `kubeControllerManagerArguments`, as a literal with three optional entries. -/
def kubeControllerManagerArguments : GoMap String String :=
  let sized (key : String) (size : Int) : List (String × String) :=
    if size > 0 then [(key, toString size)] else []
  .ofList <|
    [("kubeconfig", inputs.secret "controller-manager.kubeconfig"),
      ("controllers", "*,tokencleaner"),
      ("service-account-private-key-file", inputs.secret "service-account.key"),
      ("cluster-signing-cert-file", inputs.secret "cluster-signing-ca.crt"),
      ("cluster-signing-key-file", inputs.secret "cluster-signing-ca.key"),
      ("cluster-cidr", inputs.cluster.clusterCIDR),
      ("service-cluster-ip-range", inputs.cluster.serviceCIDR),
      ("allocate-node-cidrs", "true")] ++
    sized "node-cidr-mask-size" inputs.cluster.nodeCIDRMaskSize ++
    sized "node-cidr-mask-size-ipv4" inputs.cluster.nodeCIDRMaskSizeIPv4 ++
    sized "node-cidr-mask-size-ipv6" inputs.cluster.nodeCIDRMaskSizeIPv6

/-- The entries of `apiserverArgs`, as the source lists them. -/
def apiserverEntries (lessThan120 : LessThan120) : List (String × String) :=
  [("advertise-address", inputs.advertiseAddressHost),
    ("secure-port", toString inputs.advertiseAddressPort),
    ("etcd-servers", ",".intercalate inputs.etcdServers),
    ("etcd-cafile", inputs.secret "etcd-ca.crt"),
    ("etcd-certfile", inputs.secret "apiserver-etcd-client.crt"),
    ("etcd-keyfile", inputs.secret "apiserver-etcd-client.key"),
    ("anonymous-auth", "true"),
    ("authorization-mode", "Node,RBAC"),
    ("enable-bootstrap-token-auth", "true"),
    ("allow-privileged", "true"),
    ("tls-cert-file", inputs.secret "apiserver.crt"),
    ("tls-private-key-file", inputs.secret "apiserver.key"),
    ("client-ca-file", inputs.secret "apiserver-client-ca.crt"),
    ("service-account-key-file", inputs.secret "service-account-pub.key"),
    ("service-account-signing-key-file", inputs.secret "service-account.key"),
    ("kubelet-certificate-authority", inputs.secret "kubelet-ca.crt"),
    ("kubelet-client-certificate", inputs.secret "apiserver-kubelet-client.crt"),
    ("kubelet-client-key", inputs.secret "apiserver-kubelet-client.key"),
    ("kubelet-preferred-address-types",
      "ExternalIP,ExternalDNS,InternalIP,InternalDNS,Hostname"),
    ("service-cluster-ip-range", inputs.cluster.serviceCIDR),
    ("service-account-issuer", "api"),
    ("service-account-api-audiences", "api")] ++
  if lessThan120 inputs.cluster.kubernetesVersion then [("insecure-port", "0")] else []

/-- `apiserverArgs`. -/
def apiserverArgs (lessThan120 : LessThan120) : GoMap String String :=
  .ofList (inputs.apiserverEntries lessThan120)

/-- The arguments of the scheduler. -/
def schedulerArgs : GoMap String String :=
  .ofList [("kubeconfig", inputs.secret "scheduler.kubeconfig")]

/-- A container of the pod, with its arguments in the order in which their map is
traversed. -/
def container (name : String) (args : List (String × String)) : Container :=
  let secretsPath :=
    componentSecretsPath inputs.cluster.namespace inputs.cluster.name inputs.componentName
  { name := name
    image := "k8s.gcr.io/" ++ name ++ ":v" ++ inputs.cluster.kubernetesVersion
    command := [name]
    args := argsFromMap args
    mounts := (∅ : GoMap String String).insert secretsPath secretsPath }

/-- The pod, for one traversal of each map. -/
def controlPlanePod (apiserver controllerManager scheduler : List (String × String)) : Pod where
  name := controlPlanePodName inputs.cluster
  containers :=
    [inputs.container "kube-apiserver" apiserver,
      inputs.container "kube-controller-manager" controllerManager,
      inputs.container "kube-scheduler" scheduler]
  ports := (∅ : GoMap Int64 Int64).insert inputs.apiserverHostPort inputs.advertiseAddressPort
  privileges := .unprivileged

/-- The pod is one of those that the inputs give. -/
def IsPodOf (lessThan120 : LessThan120) (pod : Pod) : Prop :=
  ∃ apiserver controllerManager scheduler,
    (inputs.apiserverArgs lessThan120).IsIteration apiserver ∧
    inputs.kubeControllerManagerArguments.IsIteration controllerManager ∧
    inputs.schedulerArgs.IsIteration scheduler ∧
    pod = inputs.controlPlanePod apiserver controllerManager scheduler

end PodInputs

/-! ## Up to the pod -/

section Reconcile

variable {σ : Type} (outside : Outside σ) (name : String)

/-- `Reconcile` before its call to `EnsurePod`. -/
def podInputs : ReconcileM σ PodInputs := do
  let cluster ← cluster
  match outside.etcdVersion cluster.kubernetesVersion with
  | none => throw (.error ("could not retrieve version bundle for version \"" ++
      cluster.kubernetesVersion ++ "\""))
  | some etcdVersion =>
    let _ ← derefHypervisor name
    reconcileInputAndOutputEndpoints name
    [ "oneinfra/etcd:" ++ etcdVersion,
      "k8s.gcr.io/kube-apiserver:v" ++ cluster.kubernetesVersion,
      "k8s.gcr.io/kube-controller-manager:v" ++ cluster.kubernetesVersion,
      "k8s.gcr.io/kube-scheduler:v" ++ cluster.kubernetesVersion ].forM fun image =>
        host outside name (.ensureImage image)
    let (advertiseAddressHost, advertiseAddressPort) ← kubeAPIServerAdvertiseAddressAndPort
    uploadFiles outside name
    let apiserverHostPort ← requestPort name apiServerHostPortName
    runEtcd outside name
    let etcdServers ← etcdClientEndpoints
    return { cluster, componentName := name, advertiseAddressHost, advertiseAddressPort,
             apiserverHostPort, etcdServers }

/-- `EnsurePod` with a pod of the inputs, which is known by its name and its ports. -/
def ensureControlPlanePod (inputs : PodInputs) : ReconcileM σ Unit :=
  host outside name (.ensurePod (controlPlanePodName inputs.cluster)
    [(inputs.apiserverHostPort, inputs.advertiseAddressPort)])

/-- `Reconcile` collects the inputs and hands over the pod. -/
theorem reconcile_eq :
    ControlPlane.reconcile outside name =
      podInputs outside name >>= ensureControlPlanePod outside name := by
  unfold ControlPlane.reconcile podInputs
  rw [bind_assoc]
  congr 1
  funext cluster
  cases outside.etcdVersion cluster.kubernetesVersion with
  | none => rfl
  | some etcdVersion =>
    simp only [bind_assoc, pure_bind]
    rfl

end Reconcile

/-! ## Two reconciles -/

/-- No two pods with different arguments have the same sum.  The text of a pod keeps the
order of its lists, so this is that the sum has no collisions. -/
def Determines (sha1Sum : Pod → String) : Prop :=
  ∀ pod pod', sha1Sum pod = sha1Sum pod' →
    pod.containers.map Container.args = pod'.containers.map Container.args

section Stable

variable {σ : Type} (lessThan120 : LessThan120) (outside : Outside σ) (name : String)

/-- A `Reconcile` from `world` hands `pod` to `EnsurePod`, and ends in `world'`. -/
def Hands (world : World σ) (pod : Pod) (world' : World σ) : Prop :=
  ∃ inputs between, (podInputs outside name).run world = .ok inputs between ∧
    inputs.IsPodOf lessThan120 pod ∧
    world' = finalState ((ensureControlPlanePod outside name inputs).run between)

/-- Two reconciles, one after the other, hand over pods with the same sum. -/
def Stable (sha1Sum : Pod → String) (world : World σ) : Prop :=
  ∀ pod world' pod' world'', Hands lessThan120 outside name world pod world' →
    Hands lessThan120 outside name world' pod' world'' → sha1Sum pod = sha1Sum pod'

variable {lessThan120 outside name} {world world' world'' : World σ} {pod pod' : Pod}

theorem Hands.eq_finalState (h : Hands lessThan120 outside name world pod world') :
    world' = finalState ((ControlPlane.reconcile outside name).run world) := by
  obtain ⟨inputs, between, hrun, -, rfl⟩ := h
  rw [reconcile_eq, run_bind_of_ok hrun]

theorem cluster_of_podInputs {inputs : PodInputs}
    (hrun : (podInputs outside name).run world = .ok inputs world') :
    inputs.cluster = world.cluster := by
  unfold podInputs at hrun
  obtain ⟨cluster, between, hcl, hrun⟩ := run_bind_eq_ok.mp hrun
  cases hcl
  split at hrun
  · cases hrun
  obtain ⟨_, _, -, hrun⟩ := run_bind_eq_ok.mp hrun
  obtain ⟨_, _, -, hrun⟩ := run_bind_eq_ok.mp hrun
  obtain ⟨_, _, -, hrun⟩ := run_bind_eq_ok.mp hrun
  obtain ⟨⟨_, _⟩, _, -, hrun⟩ := run_bind_eq_ok.mp hrun
  obtain ⟨_, _, -, hrun⟩ := run_bind_eq_ok.mp hrun
  obtain ⟨_, _, -, hrun⟩ := run_bind_eq_ok.mp hrun
  obtain ⟨_, _, -, hrun⟩ := run_bind_eq_ok.mp hrun
  obtain ⟨_, _, -, hrun⟩ := run_bind_eq_ok.mp hrun
  cases hrun
  rfl

/-- The pods of two reconciles have the same name. -/
theorem Hands.name_eq (h : Hands lessThan120 outside name world pod world')
    (h' : Hands lessThan120 outside name world' pod' world'') : pod'.name = pod.name := by
  have hsteps := performs_reconcile outside name world
  rw [← h.eq_finalState] at hsteps
  obtain ⟨inputs, _, hrun, ⟨_, _, _, -, -, -, rfl⟩, -⟩ := h
  obtain ⟨inputs', _, hrun', ⟨_, _, _, -, -, -, rfl⟩, -⟩ := h'
  show controlPlanePodName inputs'.cluster = controlPlanePodName inputs.cluster
  rw [cluster_of_podInputs hrun', cluster_of_podInputs hrun, hsteps.cluster_eq]

/-- The keys that the arguments of the API server always have. -/
def apiserverKeys : List String :=
  ["advertise-address", "secure-port", "etcd-servers", "etcd-cafile", "etcd-certfile",
    "etcd-keyfile", "anonymous-auth", "authorization-mode", "enable-bootstrap-token-auth",
    "allow-privileged", "tls-cert-file", "tls-private-key-file", "client-ca-file",
    "service-account-key-file", "service-account-signing-key-file",
    "kubelet-certificate-authority", "kubelet-client-certificate", "kubelet-client-key",
    "kubelet-preferred-address-types", "service-cluster-ip-range", "service-account-issuer",
    "service-account-api-audiences"]

theorem keys_apiserverEntries (inputs : PodInputs) (lessThan120 : LessThan120) :
    (inputs.apiserverEntries lessThan120).map Prod.fst =
      apiserverKeys ++
        if lessThan120 inputs.cluster.kubernetesVersion then ["insecure-port"] else [] := by
  rw [PodInputs.apiserverEntries, List.map_append]
  congr 1
  split <;> rfl

/-- The keys are distinct, and the entries are a traversal. -/
theorem isIteration_apiserverEntries (inputs : PodInputs) (lessThan120 : LessThan120) :
    (inputs.apiserverArgs lessThan120).IsIteration (inputs.apiserverEntries lessThan120) := by
  refine GoMap.isIteration_ofList ?_
  rw [keys_apiserverEntries]
  split <;> decide

theorem two_le_card_apiserverArgs (inputs : PodInputs) (lessThan120 : LessThan120) :
    2 ≤ (inputs.apiserverArgs lessThan120).keys.card := by
  have hlen := congrArg List.length (keys_apiserverEntries inputs lessThan120)
  rw [List.length_map, List.length_append] at hlen
  rw [← (isIteration_apiserverEntries inputs lessThan120).length_eq, hlen]
  exact (by decide : 2 ≤ apiserverKeys.length).trans (Nat.le_add_right _ _)

/-- The keys of the arguments have no equals sign, so that each argument shows its
key. -/
theorem flags_apiserverArgs {inputs : PodInputs} {lessThan120 : LessThan120}
    {l : List (String × String)} (hl : (inputs.apiserverArgs lessThan120).IsIteration l) :
    (argsFromMap l).map flagOf = l.map fun entry => "--" ++ entry.1 := by
  have hkeys : ∀ key ∈ (inputs.apiserverEntries lessThan120).map Prod.fst,
      '=' ∉ key.toList := by
    rw [keys_apiserverEntries]
    split <;> decide
  rw [argsFromMap, List.map_map]
  refine List.map_congr_left fun entry hentry => flagOf_eq (hkeys entry.1 ?_)
  exact List.mem_map_of_mem
    ((hl.perm (isIteration_apiserverEntries inputs lessThan120)).mem_iff.mp hentry)

/-- Whatever pod was handed over, another reconcile that comes as far can hand over one
with other arguments. -/
theorem Hands.exists_ne (h' : Hands lessThan120 outside name world' pod' world'') (pod : Pod) :
    ∃ other, Hands lessThan120 outside name world' other world'' ∧
      pod.containers.map Container.args ≠ other.containers.map Container.args := by
  obtain ⟨inputs, between, hrun, ⟨_, controllerManager, scheduler, -, hmanager, hsched, -⟩, heq⟩
    := h'
  have hinjective : Function.Injective fun key : String => "--" ++ key :=
    fun _ _ h => String.append_right_inj _ |>.mp h
  obtain ⟨l, hl, hne⟩ := GoMap.exists_isIteration_ne (two_le_card_apiserverArgs inputs lessThan120)
    hinjective (((pod.containers.map Container.args).headD []).map flagOf)
  refine ⟨inputs.controlPlanePod l controllerManager scheduler,
    ⟨inputs, between, hrun, ⟨l, controllerManager, scheduler, hl, hmanager, hsched, rfl⟩, heq⟩,
    fun hargs => hne ?_⟩
  rw [hargs, ← flags_apiserverArgs hl]
  rfl

/-- **Reconciling an unchanged control plane.**  Two reconciles that hand over a pod hand
over pods with the same sum in every order of the argument maps only if one of them does
not come that far.  Otherwise the second can have another sum than the first, and
`EnsurePod` then replaces the pod that runs. -/
theorem stable_iff {sha1Sum : Pod → String} (hsum : Determines sha1Sum)
    (lessThan120 : LessThan120) (outside : Outside σ) (name : String) (world : World σ) :
    (Stable lessThan120 outside name sha1Sum world ↔
      ¬ ∃ pod world' pod' world'', Hands lessThan120 outside name world pod world' ∧
        Hands lessThan120 outside name world' pod' world'') ∧
    ∀ pod world', Hands lessThan120 outside name world pod world' →
      (∃ pod' world'', Hands lessThan120 outside name world' pod' world'') →
      ∃ pod' world'', Hands lessThan120 outside name world' pod' world'' ∧
        ∀ ids ns cluster rt s,
          IsReadyPod sha1Sum ns cluster name pod s →
          (∀ s' ∈ rt.sandboxes, IsPod ns cluster name pod s' → s' = s) →
          s ∉ (finalState
            ((ensurePod sha1Sum ids ns cluster name pod').run rt)).sandboxes := by
  have hother : ∀ (pod : Pod) {pod' : Pod} {world' world'' : World σ},
      Hands lessThan120 outside name world' pod' world'' →
      ∃ other, Hands lessThan120 outside name world' other world'' ∧
        sha1Sum pod ≠ sha1Sum other := by
    intro pod pod' world' world'' h'
    obtain ⟨other, hhands, hne⟩ := h'.exists_ne pod
    exact ⟨other, hhands, fun heq => hne (hsum pod other heq)⟩
  refine ⟨⟨?_, ?_⟩, ?_⟩
  · rintro hstable ⟨pod, world', pod', world'', h, h'⟩
    obtain ⟨other, hhands, hne⟩ := hother pod h'
    exact hne (hstable pod world' other world'' h hhands)
  · intro hnone pod world' pod' world'' h h'
    exact absurd ⟨pod, world', pod', world'', h, h'⟩ hnone
  · rintro pod world' h ⟨pod', world'', h'⟩
    obtain ⟨other, hhands, hne⟩ := hother pod h'
    refine ⟨other, world'', hhands, ?_⟩
    intro ids ns cluster rt s hready hunique
    exact ensurePod_replaces ids (h.name_eq hhands) hready hunique hne

end Stable

/-! ## A control plane that is restarted -/

/-- A control plane of which nothing is missing. -/
def readyWorld : World Unit where
  hypervisors :=
    [ { name := "h", resourceVersion := 1, ipAddress := "10.0.0.1", portRangeLow := 30000
        portRangeHigh := 60000, files := ∅, freedPorts := [], allocatedPorts := [] } ]
  cluster :=
    let key : Certificate := ⟨"crt", "key"⟩
    { name := "c", «namespace» := "ns", serviceCIDR := "10.96.0.0/12"
      certificateAuthorities := some ⟨key, key, key, key, key, key⟩
      etcdServer := some { ca := some key }
      apiServer := some { ca := some key, serviceAccount := some ⟨"pub", "priv"⟩ } }
  components :=
    [ { name := "cp", «namespace» := "ns", clusterName := "c", role := .controlPlane
        hypervisorName := "h" } ]
  outside := ()

/-- The world after a reconcile of it. -/
def reconciledWorld : World Unit :=
  finalState ((ControlPlane.reconcile Outside.succeeding "cp").run readyWorld)

theorem returns_podInputs_readyWorld :
    Returns (podInputs Outside.succeeding "cp") readyWorld ∧
      Returns (podInputs Outside.succeeding "cp") reconciledWorld := by
  decide +kernel

/-- The lines of the arguments, as the sum of a pod. -/
def lines (pod : Pod) : String :=
  (pod.containers.flatMap Container.args).foldr (fun arg text => arg ++ "\n" ++ text) ""

theorem exists_hands {σ : Type} (lessThan120 : LessThan120) {outside : Outside σ} {name : String}
    {world : World σ} (h : Returns (podInputs outside name) world) :
    ∃ pod, Hands lessThan120 outside name world pod
      (finalState ((ControlPlane.reconcile outside name).run world)) := by
  obtain ⟨inputs, between, hrun⟩ := h
  obtain ⟨apiserver, hapiserver⟩ := (inputs.apiserverArgs lessThan120).exists_isIteration
  obtain ⟨manager, hmanager⟩ := inputs.kubeControllerManagerArguments.exists_isIteration
  obtain ⟨scheduler, hsched⟩ := inputs.schedulerArgs.exists_isIteration
  refine ⟨_, inputs, between, hrun,
    ⟨apiserver, manager, scheduler, hapiserver, hmanager, hsched, rfl⟩, ?_⟩
  rw [reconcile_eq, run_bind_of_ok hrun]

/-- The entries and their reverse begin with other keys. -/
theorem lines_ne (inputs inputs' : PodInputs)
    (manager scheduler manager' scheduler' : List (String × String)) :
    lines (inputs.controlPlanePod (inputs.apiserverEntries fun _ => false) manager scheduler) ≠
      lines (inputs'.controlPlanePod (inputs'.apiserverEntries fun _ => false).reverse manager'
        scheduler') := by
  intro h
  have hchar := congrArg (fun text => text.toList[2]?) h
  have hfirst : ∀ rest : String, ("--" ++ "advertise-address" ++ "=" ++
      inputs.advertiseAddressHost ++ "\n" ++ rest).toList[2]? = some 'a' := by
    intro rest
    simp
  have hsnd : ∀ rest : String, ("--" ++ "service-account-api-audiences" ++ "=" ++
      "api" ++ "\n" ++ rest).toList[2]? = some 's' := by
    intro rest
    simp
  have hne := (hfirst _).symm.trans (hchar.trans (hsnd _))
  cases hne

/-- Two reconciles of an unchanged control plane, with the arguments of the API server in
the order of the source and then the other way round.  The pod of the first runs, and the
second one replaces it. -/
theorem not_stable_readyWorld :
    ∃ pod pod' world'',
      Hands (fun _ => false) Outside.succeeding "cp" readyWorld pod reconciledWorld ∧
      Hands (fun _ => false) Outside.succeeding "cp" reconciledWorld pod' world'' ∧
      lines pod ≠ lines pod' ∧
      let rt := finalState ((ensurePod lines longerID "ns" "c" "cp" pod).run .empty)
      ∃ s ∈ rt.sandboxes, IsReadyPod lines "ns" "c" "cp" pod s ∧ RunsAll rt pod s ∧
        s ∉ (finalState ((ensurePod lines longerID "ns" "c" "cp" pod').run rt)).sandboxes := by
  obtain ⟨⟨inputs, between, hrun⟩, ⟨inputs', between', hrun'⟩⟩ := returns_podInputs_readyWorld
  obtain ⟨manager, hmanager⟩ := inputs.kubeControllerManagerArguments.exists_isIteration
  obtain ⟨scheduler, hsched⟩ := inputs.schedulerArgs.exists_isIteration
  obtain ⟨manager', hmanager'⟩ := inputs'.kubeControllerManagerArguments.exists_isIteration
  obtain ⟨scheduler', hsched'⟩ := inputs'.schedulerArgs.exists_isIteration
  have hentries := isIteration_apiserverEntries inputs fun _ => false
  have hreverse := (isIteration_apiserverEntries inputs' fun _ => false).of_perm
    (List.reverse_perm _).symm
  have hends : reconciledWorld = finalState ((ensureControlPlanePod Outside.succeeding "cp"
      inputs).run between) := by
    rw [reconciledWorld, reconcile_eq, run_bind_of_ok hrun]
  have hfirst : Hands (fun _ => false) Outside.succeeding "cp" readyWorld _ reconciledWorld :=
    ⟨inputs, between, hrun, ⟨_, manager, scheduler, hentries, hmanager, hsched, rfl⟩, hends⟩
  have hsnd : Hands (fun _ => false) Outside.succeeding "cp" reconciledWorld _ _ :=
    ⟨inputs', between', hrun',
      ⟨_, manager', scheduler', hreverse, hmanager', hsched', rfl⟩, rfl⟩
  have hne := lines_ne inputs inputs' manager scheduler manager' scheduler'
  refine ⟨_, _, _, hfirst, hsnd, hne, ?_⟩
  have hensures : EnsuresPod lines "ns" "c" "cp" _ .empty
      ((ensurePod lines longerID "ns" "c" "cp"
        (inputs.controlPlanePod (inputs.apiserverEntries fun _ => false) manager
          scheduler)).run .empty) :=
    ensuresPod_of_none (by simp [Runtime.empty])
  obtain ⟨s, rt', hrt, hs, hready, hruns, honly⟩ := hensures.running
  dsimp only
  rw [hrt]
  exact ⟨s, hs, hready, hruns,
    ensurePod_replaces longerID (hfirst.name_eq hsnd) hready honly hne⟩

/-- There is a sum without collisions. -/
theorem exists_determines : ∃ sha1Sum : Pod → String, Determines sha1Sum := by
  have hchar : Function.Injective Char.toNat := fun a b h => Char.toNat_inj.mp h
  have htoList : Function.Injective String.toList := fun a b h => String.toList_inj.mp h
  have : Countable Char := hchar.countable
  have : Countable String := htoList.countable
  obtain ⟨encode, hencode⟩ := exists_injective_nat (List (List String))
  refine ⟨fun pod =>
    String.ofList (List.replicate (encode (pod.containers.map Container.args)) 'x'),
    fun pod pod' h => hencode ?_⟩
  have hlen := congrArg String.length h
  simpa using hlen

theorem stable_iff_readyWorld :
    ∃ sha1Sum : Pod → String, Determines sha1Sum ∧
      ¬ Stable (fun _ => false) Outside.succeeding "cp" sha1Sum readyWorld := by
  obtain ⟨sha1Sum, hsum⟩ := exists_determines
  refine ⟨sha1Sum, hsum, fun hstable => ?_⟩
  obtain ⟨hfirst, hsnd⟩ := returns_podInputs_readyWorld
  obtain ⟨pod, hpod⟩ := exists_hands (fun _ => false) hfirst
  obtain ⟨pod', hpod'⟩ := exists_hands (fun _ => false) hsnd
  exact (stable_iff hsum (fun _ => false) Outside.succeeding "cp" readyWorld).1.mp hstable
    ⟨pod, _, pod', _, hpod, hpod'⟩

end OneInfra.Components.ControlPlane
