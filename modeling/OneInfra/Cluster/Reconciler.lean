import OneInfra.Component.Etcd

/-!
# The cluster reconciler

`internal/pkg/cluster/reconciler/reconciler.go`, with the errors of
`internal/pkg/reconciler/reconcile_errors.go`.  The reconciler goes over clusters.  For each
it publishes the endpoints of the components and then makes calls to the API of the managed
cluster.  The errors of all clusters are in one map, by the full names of the clusters, and
the reconciler asks this map whether it can go on and which condition it sets.

What the APIs answer is given for each cluster by `Answers`, because every call is made at
most once for a cluster.  The clock is a sequence of readings, which goes on from cluster
to cluster.

The result is `reconcile_independent`: whatever the order of the clusters, each ends as if it
had been reconciled alone.
-/

namespace OneInfra.Clusters

open Lib Infra Components Conditions

/-! ## The errors -/

/-- `fullClusterName`. -/
def fullClusterName (clusterNamespace clusterName : String) : String :=
  clusterNamespace ++ "/" ++ clusterName

/-- Names without a slash can be read off the full name. -/
theorem fullClusterName_injective {ns name ns' name' : String} (hns : '/' ∉ ns.toList)
    (hns' : '/' ∉ ns'.toList) (h : fullClusterName ns name = fullClusterName ns' name') :
    ns = ns' ∧ name = name' := by
  have hchars : ns.toList ++ '/' :: name.toList = ns'.toList ++ '/' :: name'.toList := by
    have htext := congrArg String.toList h
    simpa [fullClusterName] using htext
  have hfirst : ∀ l rest : List Char, '/' ∉ l → (l ++ '/' :: rest).takeWhile (· ≠ '/') = l := by
    intro l rest hl
    rw [List.takeWhile_append_of_pos fun char hchar => by
      simpa using fun heq : char = '/' => hl (heq ▸ hchar)]
    simp
  have hsame : ns.toList = ns'.toList := by
    rw [← hfirst ns.toList name.toList hns, hchars, hfirst _ _ hns']
  rw [hsame] at hchars
  have hrest := List.append_cancel_left hchars
  exact ⟨String.toList_inj.mp hsame, String.toList_inj.mp (List.cons.inj hrest).2⟩

/-- `ReconcileErrors`. -/
abbrev ReconcileErrors := GoMap String (List String)

namespace ReconcileErrors

/-- The errors of a cluster. -/
def clusterErrors (reconcileErrors : ReconcileErrors) (clusterNamespace clusterName : String) :
    List String :=
  (reconcileErrors.lookup (fullClusterName clusterNamespace clusterName)).getD []

/-- `IsClusterErrorFree`. -/
def isClusterErrorFree (reconcileErrors : ReconcileErrors)
    (clusterNamespace clusterName : String) : Bool :=
  match reconcileErrors.lookup (fullClusterName clusterNamespace clusterName) with
  | none => true
  | some clusterErrors => clusterErrors.length = 0

/-- `AddClusterError`. -/
def addClusterError (reconcileErrors : ReconcileErrors) (clusterNamespace clusterName : String)
    (err : String) : ReconcileErrors :=
  let fullClusterName := fullClusterName clusterNamespace clusterName
  reconcileErrors.insert fullClusterName ((reconcileErrors.lookup fullClusterName).getD [] ++ [err])

end ReconcileErrors

/-! ## The reconciler -/

/-- `ReconcileStarted`. -/
def reconcileStarted : String := "ReconcileStarted"

/-- `ReconcileSucceeded`. -/
def reconcileSucceeded : String := "ReconcileSucceeded"

/-- The methods of a cluster that call its API. -/
inductive Method
  | reconcileCustomResourceDefinitions
  | reconcileNamespaces
  | reconcilePermissions
  | reconcileJoinTokens
  | reconcileKubeProxy
  | reconcileCoreDNS
  | reconcileNodeJoinRequests
  | reconcileJoinPublicKeyConfigMap
deriving DecidableEq, Repr

/-- What the reconciler says of an error of a method. -/
def Method.failure : Method → String
  | reconcileCustomResourceDefinitions => "failed to reconcile custom resource definitions"
  | reconcileNamespaces => "failed to reconcile namespaces"
  | reconcilePermissions => "failed to reconcile permissions"
  | reconcileJoinTokens => "failed to reconcile join tokens"
  | reconcileKubeProxy => "failed to reconcile kube-proxy"
  | reconcileCoreDNS => "failed to reconcile CoreDNS"
  | reconcileNodeJoinRequests => "failed to reconcile node join requests"
  | reconcileJoinPublicKeyConfigMap => "failed to reconcile join public key ConfigMap"

/-- What becomes of the calls for one cluster.  A method may create client certificates for
its calls.  The join tokens and the VPN peers are changed by one method each. -/
structure Answers where
  error : Method → Option String
  clientCertificates : Method → GoMap String Certificate
  currentJoinTokens : List String
  vpnPeers : VPNPeerMap

/-- `ClusterReconciler`, without the clusters. -/
structure ClusterReconciler where
  hypervisorMap : List Hypervisor
  componentList : List Component

/-- A cluster that is being reconciled, the errors so far, and the number of readings of the
clock. -/
structure Progress where
  cluster : Cluster
  reconcileErrors : ReconcileErrors
  readings : Nat

namespace Progress

/-- An error of the cluster. -/
def addClusterError (err : String) (progress : Progress) : Progress :=
  { progress with
    reconcileErrors := progress.reconcileErrors.addClusterError progress.cluster.namespace
      progress.cluster.name err }

/-- The cluster as it was published, or the error. -/
def publish (outcome : Except String Cluster) (progress : Progress) : Progress :=
  match outcome with
  | .error err => progress.addClusterError err
  | .ok cluster => { progress with cluster := cluster }

/-- The cluster has no error. -/
def isClusterErrorFree (progress : Progress) : Bool :=
  progress.reconcileErrors.isClusterErrorFree progress.cluster.namespace progress.cluster.name

/-- `SetCondition` of the cluster. -/
def setCondition (clock : Nat → Nat) (conditionType : String)
    (conditionStatus : ConditionStatus) (progress : Progress) : Progress :=
  { progress with
    cluster.conditions := Conditions.setCondition progress.cluster.conditions
      (clock progress.readings) conditionType conditionStatus
    readings := progress.readings + 1 }

end Progress

namespace ClusterReconciler

variable (clusterReconciler : ClusterReconciler)

/-- `IsComponentScheduled`. -/
def isComponentScheduled (component : Component) : Bool :=
  if component.hypervisorName = "" then false
  else (lookupKey Hypervisor.name component.hypervisorName clusterReconciler.hypervisorMap).isSome

/-- `IsClusterFullyScheduled`. -/
def isClusterFullyScheduled (clusterNamespace clusterName : String) : Bool :=
  let components := Component.withCluster clusterReconciler.componentList clusterNamespace
    clusterName
  components ≠ [] ∧ components.all clusterReconciler.isComponentScheduled

/-- What `reconcileAPIServerEndpoint` and `reconcileVPNServerEndpoint` do first: the address
of the ingress of the cluster, and its port of that name. -/
def ingressEndpoint (cluster : Cluster) (hostPortName : String) : Except String (String × Int64) :=
  match Component.withRole (Component.withCluster clusterReconciler.componentList
    cluster.namespace cluster.name) .controlPlaneIngress with
  | [] => .error "could not find any control plane ingress component"
  | _ :: _ :: _ => .error "more than one control plane ingress component was found"
  | [controlPlaneIngress] =>
    match lookupKey Hypervisor.name controlPlaneIngress.hypervisorName
      clusterReconciler.hypervisorMap with
    | none => .error ("found one control plane ingress component, but it is assigned to an " ++
        "unknown hypervisor")
    | some hypervisor =>
      match controlPlaneIngress.allocatedHostPorts.lookup hostPortName with
      | none => .error ("found one control plane ingress component, but it does not have a " ++
          "named host port \"" ++ hostPortName ++ "\" yet")
      | some hostPort => .ok (hypervisor.ipAddress, hostPort)

/-- `reconcileAPIServerEndpoint`. -/
def reconcileAPIServerEndpoint (progress : Progress) : Progress :=
  progress.publish <|
    (clusterReconciler.ingressEndpoint progress.cluster apiServerHostPortName).map fun endpoint =>
      { progress.cluster with apiServerEndpoint := httpsURL endpoint.1 endpoint.2 }

/-- `reconcileVPNServerEndpoint`. -/
def reconcileVPNServerEndpoint (progress : Progress) : Progress :=
  progress.publish <|
    (clusterReconciler.ingressEndpoint progress.cluster wireguardHostPortName).map fun endpoint =>
      { progress.cluster with vpnServerEndpoint := joinHostPort endpoint.1 endpoint.2 }

/-- The loop of `reconcileStorageEndpoints`, with the peers and the clients. -/
def storageEndpoints (endpoints : GoMap String String × GoMap String String) :
    List Component → Except String (GoMap String String × GoMap String String)
  | [] => .ok endpoints
  | controlPlane :: controlPlaneList =>
    if controlPlane.deletionTimestamp.isSome then storageEndpoints endpoints controlPlaneList
    else
      match lookupKey Hypervisor.name controlPlane.hypervisorName
        clusterReconciler.hypervisorMap with
      | none => .error ("could not find hypervisor for component " ++ controlPlane.namespace ++
          "/" ++ controlPlane.name)
      | some hypervisor =>
        match controlPlane.allocatedHostPorts.lookup etcdPeerHostPortName with
        | none => .error ("could not find etcd peer host port for component " ++
            controlPlane.namespace ++ "/" ++ controlPlane.name)
        | some etcdPeerHostPort =>
          match controlPlane.allocatedHostPorts.lookup etcdClientHostPortName with
          | none => .error ("could not find etcd client host port for component " ++
              controlPlane.namespace ++ "/" ++ controlPlane.name)
          | some etcdClientHostPort =>
            storageEndpoints
              (endpoints.1.insert controlPlane.name
                  (httpsURL hypervisor.ipAddress etcdPeerHostPort),
                endpoints.2.insert controlPlane.name
                  (httpsURL hypervisor.ipAddress etcdClientHostPort))
              controlPlaneList

/-- The endpoints that `reconcileStorageEndpoints` publishes. -/
def storageEndpointsOf (cluster : Cluster) :
    Except String (GoMap String String × GoMap String String) :=
  let controlPlaneList := Component.withRole (Component.withCluster
    clusterReconciler.componentList cluster.namespace cluster.name) .controlPlane
  if cluster.controlPlaneReplicas.toInt ≠ controlPlaneList.length then
    .error "the number of control plane components does not match the number of desired replicas"
  else clusterReconciler.storageEndpoints (∅, ∅) controlPlaneList

/-- `reconcileStorageEndpoints`. -/
def reconcileStorageEndpoints (progress : Progress) : Progress :=
  progress.publish <| (clusterReconciler.storageEndpointsOf progress.cluster).map fun endpoints =>
    { progress.cluster with
      storagePeerEndpoints := endpoints.1
      storageClientEndpoints := endpoints.2 }

end ClusterReconciler

/-- The cluster after a method was called. -/
def Answers.effect (answers : Answers) (method : Method) (cluster : Cluster) : Cluster :=
  { cluster with
    clientCertificates := answers.clientCertificates method
    currentJoinTokens := if method = .reconcileJoinTokens then answers.currentJoinTokens
      else cluster.currentJoinTokens
    vpnPeers := if method = .reconcileNodeJoinRequests then answers.vpnPeers
      else cluster.vpnPeers }

/-- A method is called, and its error is recorded. -/
def Answers.call (answers : Answers) (method : Method) (progress : Progress) : Progress :=
  let progress := { progress with cluster := answers.effect method progress.cluster }
  match answers.error method with
  | none => progress
  | some err => progress.addClusterError (method.failure ++ ": " ++ err)

namespace ClusterReconciler

variable (clusterReconciler : ClusterReconciler) (reconcileNodeJoinRequests : Bool)
  (clock : Nat → Nat)

/-- The calls of a turn, from the VPN server on. -/
def reconcileManaged (answers : Answers) (progress : Progress) : Progress :=
  let progress := if progress.cluster.vpn.enabled then
    clusterReconciler.reconcileVPNServerEndpoint progress else progress
  let progress := answers.call .reconcileCustomResourceDefinitions progress
  let progress := answers.call .reconcileNamespaces progress
  let progress := answers.call .reconcilePermissions progress
  let progress := answers.call .reconcileJoinTokens progress
  let progress := clusterReconciler.reconcileStorageEndpoints progress
  let progress := answers.call .reconcileKubeProxy progress
  let progress := answers.call .reconcileCoreDNS progress
  let progress := if reconcileNodeJoinRequests then
    answers.call .reconcileNodeJoinRequests progress else progress
  answers.call .reconcileJoinPublicKeyConfigMap progress

/-- One turn of the loop of `Reconcile`. -/
def reconcileCluster (answers : Answers) (progress : Progress) : Progress :=
  if !clusterReconciler.isClusterFullyScheduled progress.cluster.namespace
      progress.cluster.name then
    progress.addClusterError "cluster is not fully scheduled"
  else
    let progress := clusterReconciler.reconcileAPIServerEndpoint progress
    if !progress.isClusterErrorFree then progress
    else
      let progress := progress.setCondition clock reconcileStarted .true
      let progress := clusterReconciler.reconcileManaged reconcileNodeJoinRequests answers progress
      if progress.isClusterErrorFree then progress.setCondition clock reconcileSucceeded .true
      else progress.setCondition clock reconcileSucceeded .false

/-- The loop of `Reconcile`: the clusters after it, and the errors. -/
def reconcileLoop (reconcileErrors : ReconcileErrors) (readings : Nat) :
    List (Cluster × Answers) → List Cluster × ReconcileErrors
  | [] => ([], reconcileErrors)
  | (cluster, answers) :: clustersToReconcile =>
    let progress := clusterReconciler.reconcileCluster reconcileNodeJoinRequests clock answers
      ⟨cluster, reconcileErrors, readings⟩
    let (clusters, reconcileErrors) :=
      reconcileLoop progress.reconcileErrors progress.readings clustersToReconcile
    (progress.cluster :: clusters, reconcileErrors)

/-- `Reconcile`.  The clusters of the map, in the order of an iteration, stand in for an empty
list.  The errors are nil if there are none. -/
def reconcile (clusterMap clustersToReconcile : List (Cluster × Answers)) :
    List Cluster × Option ReconcileErrors :=
  let clustersToReconcile := if clustersToReconcile.length = 0 then clusterMap
    else clustersToReconcile
  let (clusters, reconcileErrors) :=
    clusterReconciler.reconcileLoop reconcileNodeJoinRequests clock ∅ 0 clustersToReconcile
  (clusters, if reconcileErrors.keys.card = 0 then none else some reconcileErrors)

/-- One turn of the loop of `ReconcileDeletion`. -/
def reconcileClusterDeletion (progress : Progress) : Progress :=
  if (Component.withCluster clusterReconciler.componentList progress.cluster.namespace
      progress.cluster.name).length > 0 then
    progress.addClusterError "not all components are deleted yet"
  else
    { progress with
      cluster.finalizers := progress.cluster.finalizers.filter (· ≠ oneInfraCleanupFinalizer) }

/-- `ReconcileDeletion` of one cluster. -/
def reconcileDeletion (clusterToDelete : Cluster) : Cluster × Option ReconcileErrors :=
  let progress := clusterReconciler.reconcileClusterDeletion ⟨clusterToDelete, ∅, 0⟩
  (progress.cluster,
    if progress.reconcileErrors.keys.card = 0 then none else some progress.reconcileErrors)

end ClusterReconciler

/-! ## What a turn does

A turn changes the cluster, and adds errors under its name. -/

/-- The full name of the cluster that is being reconciled. -/
def Progress.fullName (progress : Progress) : String :=
  fullClusterName progress.cluster.namespace progress.cluster.name

/-- The errors under that name. -/
def Progress.entry (progress : Progress) : Option (List String) :=
  progress.reconcileErrors.lookup progress.fullName

theorem Progress.isClusterErrorFree_eq (progress : Progress) :
    progress.isClusterErrorFree = (progress.entry.getD []).isEmpty := by
  unfold isClusterErrorFree ReconcileErrors.isClusterErrorFree
  show (match progress.entry with
    | none => true
    | some clusterErrors => decide (clusterErrors.length = 0)) = _
  cases progress.entry with
  | none => rfl
  | some clusterErrors => cases clusterErrors <;> rfl

theorem Progress.isClusterErrorFree_iff {progress : Progress} :
    progress.isClusterErrorFree = true ↔ progress.entry.getD [] = [] := by
  rw [progress.isClusterErrorFree_eq, List.isEmpty_iff]

/-- A change of the cluster, or one more error. -/
inductive Moves : Progress → Progress → Prop
  | change {progress : Progress} {cluster : Cluster} {readings : Nat}
      (hns : cluster.namespace = progress.cluster.namespace)
      (hname : cluster.name = progress.cluster.name) :
      Moves progress { progress with cluster := cluster, readings := readings }
  | error (progress : Progress) (err : String) : Moves progress (progress.addClusterError err)

/-- Moves in a row. -/
abbrev MovesTo : Progress → Progress → Prop := Relation.ReflTransGen Moves

/-- Every cluster with an entry has an error. -/
def ReconcileErrors.Sound (reconcileErrors : ReconcileErrors) : Prop :=
  ∀ name, reconcileErrors.lookup name ≠ some []

/-- What moves keep. -/
structure Local (progress progress' : Progress) : Prop where
  fullName : progress'.fullName = progress.fullName
  others : ∀ name, name ≠ progress.fullName →
    progress'.reconcileErrors.lookup name = progress.reconcileErrors.lookup name
  sound : progress.reconcileErrors.Sound → progress'.reconcileErrors.Sound

theorem Moves.local {progress progress' : Progress} (h : Moves progress progress') :
    Local progress progress' := by
  cases h with
  | change hns hname =>
    refine ⟨?_, fun _ _ => rfl, id⟩
    unfold Progress.fullName
    rw [hns, hname]
  | error err =>
    refine ⟨rfl, fun name hname => Finmap.lookup_insert_of_ne _ hname, fun hsound name => ?_⟩
    show Finmap.lookup name (Finmap.insert _ _ _) ≠ _
    rw [GoMap.lookup_insert_eq]
    split
    · simp
    · exact hsound name

theorem MovesTo.local {progress progress' : Progress} (h : MovesTo progress progress') :
    Local progress progress' := by
  induction h with
  | refl => exact ⟨rfl, fun _ _ => rfl, id⟩
  | tail _ hstep ih =>
    have hlast := hstep.local
    refine ⟨hlast.fullName.trans ih.fullName, fun name hname => ?_,
      fun h => hlast.sound (ih.sound h)⟩
    rw [hlast.others name (ih.fullName ▸ hname), ih.others name hname]

/-! ### Two turns of one cluster

The other clusters leave their errors in the map and take time.  A turn sees neither. -/

/-- A cluster without the times of its conditions. -/
def timeless (cluster : Cluster) : Cluster :=
  { cluster with conditions := cluster.conditions.map Condition.timeless }

/-- The same cluster with the same errors, up to times. -/
structure Alike (progress other : Progress) : Prop where
  cluster : timeless progress.cluster = timeless other.cluster
  entry : progress.entry = other.entry

namespace Alike

variable {progress other : Progress}

theorem refl (progress : Progress) : Alike progress progress := ⟨rfl, rfl⟩

theorem isClusterErrorFree (h : Alike progress other) :
    progress.isClusterErrorFree = other.isClusterErrorFree := by
  rw [progress.isClusterErrorFree_eq, other.isClusterErrorFree_eq, h.entry]

/-- A change that does not look at times. -/
theorem change (h : Alike progress other) {f : Cluster → Cluster}
    (hf : ∀ cluster, timeless (f cluster) = f (timeless cluster))
    (hns : ∀ cluster, (f cluster).namespace = cluster.namespace)
    (hname : ∀ cluster, (f cluster).name = cluster.name) :
    Alike { progress with cluster := f progress.cluster }
      { other with cluster := f other.cluster } where
  cluster := by
    show timeless (f progress.cluster) = timeless (f other.cluster)
    rw [hf, hf, h.cluster]
  entry := by
    have hentry := h.entry
    unfold Progress.entry Progress.fullName at hentry ⊢
    dsimp only
    rw [hns, hname, hns, hname]
    exact hentry

theorem addClusterError (h : Alike progress other) (err : String) :
    Alike (progress.addClusterError err) (other.addClusterError err) where
  cluster := h.cluster
  entry := by
    have hadded : ∀ progress : Progress,
        (progress.addClusterError err).entry = some (progress.entry.getD [] ++ [err]) :=
      fun progress => Finmap.lookup_insert _
    rw [hadded, hadded, h.entry]

theorem setCondition (h : Alike progress other) (clock clock' : Nat → Nat)
    (conditionType : String) (conditionStatus : ConditionStatus) :
    Alike (progress.setCondition clock conditionType conditionStatus)
      (other.setCondition clock' conditionType conditionStatus) where
  cluster := by
    have htimeless : ∀ (cluster : Cluster) now, timeless { cluster with
        conditions := Conditions.setCondition cluster.conditions now conditionType
          conditionStatus } = { timeless cluster with
        conditions := Conditions.setCondition (timeless cluster).conditions 0 conditionType
          conditionStatus } := by
      intro cluster now
      unfold timeless
      dsimp only
      rw [map_timeless_setCondition]
    show timeless { progress.cluster with conditions := _ } =
      timeless { other.cluster with conditions := _ }
    rw [htimeless, htimeless, h.cluster]
  entry := h.entry

end Alike

/-- Two turns are at like points, and the first got there by moves from `start`. -/
structure Meet (start progress other : Progress) : Prop where
  alike : Alike progress other
  movesTo : MovesTo start progress

namespace Meet

variable {start progress other : Progress}

theorem addClusterError (h : Meet start progress other) (err : String) :
    Meet start (progress.addClusterError err) (other.addClusterError err) :=
  ⟨h.alike.addClusterError err, h.movesTo.tail (.error _ _)⟩

theorem change (h : Meet start progress other) {f : Cluster → Cluster}
    (hf : ∀ cluster, timeless (f cluster) = f (timeless cluster))
    (hns : ∀ cluster, (f cluster).namespace = cluster.namespace)
    (hname : ∀ cluster, (f cluster).name = cluster.name) :
    Meet start { progress with cluster := f progress.cluster }
      { other with cluster := f other.cluster } :=
  ⟨h.alike.change hf hns hname,
    h.movesTo.tail (.change (hns progress.cluster) (hname progress.cluster))⟩

theorem setCondition (h : Meet start progress other) (clock clock' : Nat → Nat)
    (conditionType : String) (conditionStatus : ConditionStatus) :
    Meet start (progress.setCondition clock conditionType conditionStatus)
      (other.setCondition clock' conditionType conditionStatus) :=
  ⟨h.alike.setCondition clock clock' _ _, h.movesTo.tail (.change rfl rfl)⟩

/-- What is published does not depend on times. -/
theorem publish {α : Type} (h : Meet start progress other) (outcome : Cluster → Except String α)
    (f : α → Cluster → Cluster)
    (hout : ∀ cluster, outcome (timeless cluster) = outcome cluster)
    (hf : ∀ a cluster, timeless (f a cluster) = f a (timeless cluster))
    (hns : ∀ a cluster, (f a cluster).namespace = cluster.namespace)
    (hname : ∀ a cluster, (f a cluster).name = cluster.name) :
    Meet start
      (progress.publish ((outcome progress.cluster).map fun a => f a progress.cluster))
      (other.publish ((outcome other.cluster).map fun a => f a other.cluster)) := by
  have hsame : outcome progress.cluster = outcome other.cluster := by
    rw [← hout, h.alike.cluster, hout]
  rw [hsame]
  cases outcome other.cluster with
  | error err => exact h.addClusterError err
  | ok a => exact h.change (hf a) (hns a) (hname a)

theorem call (h : Meet start progress other) (answers : Answers) (method : Method) :
    Meet start (answers.call method progress) (answers.call method other) := by
  have heffect := h.change (f := answers.effect method) (fun _ => rfl) (fun _ => rfl) fun _ => rfl
  unfold Answers.call
  cases answers.error method with
  | none => exact heffect
  | some err => exact heffect.addClusterError _

/-- A step that is made under a condition. -/
theorem ite {progress' other' : Progress} (h : Meet start progress other)
    (h' : Meet start progress' other') (condition : Bool) :
    Meet start (if condition then progress' else progress)
      (if condition then other' else other) := by
  split
  · exact h'
  · exact h

variable (rec : ClusterReconciler) (answers : Answers)
  (joins : Bool)

theorem reconcileAPIServerEndpoint (h : Meet start progress other) :
    Meet start (rec.reconcileAPIServerEndpoint progress)
      (rec.reconcileAPIServerEndpoint other) :=
  h.publish (rec.ingressEndpoint · apiServerHostPortName)
    (fun endpoint cluster =>
      { cluster with apiServerEndpoint := httpsURL endpoint.1 endpoint.2 })
    (fun _ => rfl) (fun _ _ => rfl) (fun _ _ => rfl) fun _ _ => rfl

theorem reconcileVPNServerEndpoint (h : Meet start progress other) :
    Meet start (rec.reconcileVPNServerEndpoint progress)
      (rec.reconcileVPNServerEndpoint other) :=
  h.publish (rec.ingressEndpoint · wireguardHostPortName)
    (fun endpoint cluster =>
      { cluster with vpnServerEndpoint := joinHostPort endpoint.1 endpoint.2 })
    (fun _ => rfl) (fun _ _ => rfl) (fun _ _ => rfl) fun _ _ => rfl

theorem reconcileStorageEndpoints (h : Meet start progress other) :
    Meet start (rec.reconcileStorageEndpoints progress)
      (rec.reconcileStorageEndpoints other) :=
  h.publish rec.storageEndpointsOf
    (fun endpoints cluster =>
      { cluster with
        storagePeerEndpoints := endpoints.1
        storageClientEndpoints := endpoints.2 })
    (fun _ => rfl) (fun _ _ => rfl) (fun _ _ => rfl) fun _ _ => rfl

theorem reconcileManaged (h : Meet start progress other) :
    Meet start
      (rec.reconcileManaged joins answers progress)
      (rec.reconcileManaged joins answers other) := by
  have hvpn : progress.cluster.vpn.enabled = other.cluster.vpn.enabled :=
    congrArg (fun cluster => cluster.vpn.enabled) h.alike.cluster
  have hep := h.ite (h.reconcileVPNServerEndpoint rec) other.cluster.vpn.enabled
  have htokens := (((hep.call answers .reconcileCustomResourceDefinitions).call answers
    .reconcileNamespaces).call answers .reconcilePermissions).call answers .reconcileJoinTokens
  have hstor := htokens.reconcileStorageEndpoints rec
  have hdns := (hstor.call answers .reconcileKubeProxy).call answers .reconcileCoreDNS
  have hnodes := hdns.ite (hdns.call answers .reconcileNodeJoinRequests) joins
  unfold ClusterReconciler.reconcileManaged
  dsimp only
  rw [hvpn]
  exact hnodes.call answers .reconcileJoinPublicKeyConfigMap

/-- A turn, with one clock and with another. -/
theorem reconcileCluster (h : Meet start progress other) (clock clock' : Nat → Nat) :
    Meet start
      (rec.reconcileCluster joins clock answers progress)
      (rec.reconcileCluster joins clock' answers other) := by
  have hsched : rec.isClusterFullyScheduled progress.cluster.namespace
      progress.cluster.name = rec.isClusterFullyScheduled other.cluster.namespace
        other.cluster.name :=
    congrArg (fun cluster => rec.isClusterFullyScheduled cluster.namespace
      cluster.name) h.alike.cluster
  have hep := h.reconcileAPIServerEndpoint rec
  have hmanaged := (hep.setCondition clock clock' reconcileStarted .true).reconcileManaged
    rec answers joins
  unfold ClusterReconciler.reconcileCluster
  dsimp only
  rw [hsched, hep.alike.isClusterErrorFree, hmanaged.alike.isClusterErrorFree]
  split
  · exact h.addClusterError _
  split
  · exact hep
  split
  · exact hmanaged.setCondition clock clock' _ _
  · exact hmanaged.setCondition clock clock' _ _

end Meet

/-! ### The condition after a turn -/

theorem entry_addClusterError (progress : Progress) (err : String) :
    (progress.addClusterError err).entry = some (progress.entry.getD [] ++ [err]) :=
  Finmap.lookup_insert _

/-- What a turn does to the condition: it sets it to true without errors.  With errors, it does
not touch the conditions, or sets it to false. -/
structure Reports (before after : Cluster) (clusterErrors : List String) : Prop where
  succeeded : clusterErrors = [] → isCondition after.conditions reconcileSucceeded .true = true
  failed : clusterErrors ≠ [] → after.conditions = before.conditions ∨
    isCondition after.conditions reconcileSucceeded .false = true

theorem conditions_reconcileAPIServerEndpoint (rec : ClusterReconciler)
    (progress : Progress) :
    (rec.reconcileAPIServerEndpoint progress).cluster.conditions =
      progress.cluster.conditions := by
  unfold ClusterReconciler.reconcileAPIServerEndpoint
  cases rec.ingressEndpoint progress.cluster apiServerHostPortName with
  | error err => rfl
  | ok endpoint => rfl

/-! ### How a turn ends -/

/-- The cluster gets past the checks at the start of its turn. -/
structure Admitted (rec : ClusterReconciler) (cluster : Cluster) : Prop where
  scheduled : rec.isClusterFullyScheduled cluster.namespace cluster.name = true
  apiServer : (rec.ingressEndpoint cluster apiServerHostPortName).isOk = true

/-- Nothing goes wrong in the turn of the cluster. -/
structure Unobstructed (rec : ClusterReconciler) (joins : Bool)
    (answers : Answers) (cluster : Cluster) : Prop
    extends Admitted rec cluster where
  vpn : cluster.vpn.enabled = true →
    (rec.ingressEndpoint cluster wireguardHostPortName).isOk = true
  storage : (rec.storageEndpointsOf cluster).isOk = true
  calls : ∀ method, (method = .reconcileNodeJoinRequests → joins = true) →
    answers.error method = none

/-- A cluster without what a turn writes. -/
def kept (joins : Bool) (cluster : Cluster) : Cluster :=
  { cluster with
    clientCertificates := ∅
    storageClientEndpoints := ∅
    storagePeerEndpoints := ∅
    vpnPeers := if joins then ∅ else cluster.vpnPeers
    apiServerEndpoint := ""
    vpnServerEndpoint := ""
    currentJoinTokens := []
    conditions := [] }

/-- The rest of the cluster is still what it was, and there is no error as long as `Clear` is
true. -/
structure Follows (joins : Bool) (cluster : Cluster) (Clear : Prop)
    (progress : Progress) : Prop where
  kept_eq : kept joins progress.cluster = kept joins cluster
  entry : progress.entry.getD [] = [] ↔ Clear

namespace Follows

variable {joins : Bool} {cluster : Cluster} {Clear : Prop} {progress : Progress}

theorem namespace_eq (h : Follows joins cluster Clear progress) :
    progress.cluster.namespace = cluster.namespace := by
  have hns := congrArg Cluster.namespace h.kept_eq
  exact hns

theorem name_eq (h : Follows joins cluster Clear progress) :
    progress.cluster.name = cluster.name := by
  have hname := congrArg Cluster.name h.kept_eq
  exact hname

theorem addClusterError (h : Follows joins cluster Clear progress)
    (err : String) :
    Follows joins cluster False (progress.addClusterError err) :=
  ⟨h.kept_eq, by simp [entry_addClusterError]⟩

theorem change (h : Follows joins cluster Clear progress) (f : Cluster → Cluster)
    (hf : ∀ cluster, kept joins (f cluster) = kept joins cluster) :
    Follows joins cluster Clear
      { progress with cluster := f progress.cluster } := by
  refine ⟨(hf _).trans h.kept_eq, ?_⟩
  have hname := congrArg Cluster.name (hf progress.cluster)
  have hns := congrArg Cluster.namespace (hf progress.cluster)
  have hentry : Progress.entry { progress with cluster := f progress.cluster } = progress.entry :=
    congrArg₂ (fun ns cl => progress.reconcileErrors.lookup
      (fullClusterName ns cl)) hns hname
  rw [hentry]
  exact h.entry

theorem setCondition (h : Follows joins cluster Clear progress)
    (clock : Nat → Nat) (conditionType : String) (conditionStatus : ConditionStatus) :
    Follows joins cluster Clear
      (progress.setCondition clock conditionType conditionStatus) :=
  ⟨h.kept_eq, h.entry⟩

theorem congr {Clear' : Prop} (h : Follows joins cluster Clear progress)
    (hiff : Clear ↔ Clear') : Follows joins cluster Clear' progress :=
  ⟨h.kept_eq, h.entry.trans hiff⟩

theorem publish {α : Type} (h : Follows joins cluster Clear progress)
    (outcome : Except String α) (f : α → Cluster → Cluster)
    (hf : ∀ a cluster, kept joins (f a cluster) = kept joins cluster) :
    Follows joins cluster (Clear ∧ outcome.isOk = true)
      (progress.publish (outcome.map fun a => f a progress.cluster)) := by
  cases outcome with
  | error err => exact (h.addClusterError err).congr (by simp [Except.isOk, Except.toBool])
  | ok a => exact (h.change (f a) (hf a)).congr (by simp [Except.isOk, Except.toBool])

theorem call (h : Follows joins cluster Clear progress) (answers : Answers)
    (method : Method)
    (hmethod : method = .reconcileNodeJoinRequests → joins = true) :
    Follows joins cluster (Clear ∧ answers.error method = none)
      (answers.call method progress) := by
  have heffect := h.change (answers.effect method) fun cluster => by
    unfold kept Answers.effect
    by_cases heq : method = .reconcileNodeJoinRequests
    · simp [hmethod heq]
    · simp [heq]
  unfold Answers.call
  cases answers.error method with
  | none => exact heffect.congr (by simp)
  | some err => exact (heffect.addClusterError _).congr (by simp)

theorem ite {Clear' : Prop} {progress' : Progress} {c : Bool}
    (h : Follows joins cluster Clear progress)
    (h' : c = true →
      Follows joins cluster (Clear ∧ Clear') progress') :
    Follows joins cluster (Clear ∧ (c = true → Clear'))
      (if c then progress' else progress) := by
  split
  · next hcond => exact (h' hcond).congr (by simp [hcond])
  · next hcond => exact h.congr (by simp [hcond])

variable (rec : ClusterReconciler)

theorem ingressEndpoint_eq (h : Follows joins cluster Clear progress)
    (hostPortName : String) :
    rec.ingressEndpoint progress.cluster hostPortName =
      rec.ingressEndpoint cluster hostPortName := by
  unfold ClusterReconciler.ingressEndpoint
  rw [h.namespace_eq, h.name_eq]

theorem reconcileAPIServerEndpoint (h : Follows joins cluster Clear progress) :
    Follows joins cluster
      (Clear ∧ (rec.ingressEndpoint cluster apiServerHostPortName).isOk = true)
      (rec.reconcileAPIServerEndpoint progress) := by
  have hpublished := h.publish
    (rec.ingressEndpoint progress.cluster apiServerHostPortName)
    (fun endpoint cluster =>
      { cluster with apiServerEndpoint := httpsURL endpoint.1 endpoint.2 }) fun _ _ => rfl
  exact hpublished.congr (by rw [h.ingressEndpoint_eq])

theorem reconcileVPNServerEndpoint (h : Follows joins cluster Clear progress) :
    Follows joins cluster
      (Clear ∧ (rec.ingressEndpoint cluster wireguardHostPortName).isOk = true)
      (rec.reconcileVPNServerEndpoint progress) := by
  have hpublished := h.publish
    (rec.ingressEndpoint progress.cluster wireguardHostPortName)
    (fun endpoint cluster =>
      { cluster with vpnServerEndpoint := joinHostPort endpoint.1 endpoint.2 }) fun _ _ => rfl
  exact hpublished.congr (by rw [h.ingressEndpoint_eq])

theorem reconcileStorageEndpoints (h : Follows joins cluster Clear progress) :
    Follows joins cluster
      (Clear ∧ (rec.storageEndpointsOf cluster).isOk = true)
      (rec.reconcileStorageEndpoints progress) := by
  have hreps : progress.cluster.controlPlaneReplicas = cluster.controlPlaneReplicas := by
    have hkept := congrArg Cluster.controlPlaneReplicas h.kept_eq
    exact hkept
  have hsame : rec.storageEndpointsOf progress.cluster = rec.storageEndpointsOf cluster := by
    unfold ClusterReconciler.storageEndpointsOf
    rw [h.namespace_eq, h.name_eq, hreps]
  have hpublished := h.publish (rec.storageEndpointsOf progress.cluster)
    (fun endpoints cluster =>
      { cluster with
        storagePeerEndpoints := endpoints.1
        storageClientEndpoints := endpoints.2 }) fun _ _ => rfl
  exact hpublished.congr (by rw [hsame])

theorem reconcileManaged (h : Follows joins cluster Clear progress)
    (answers : Answers) :
    Follows joins cluster
      (Clear ∧ (cluster.vpn.enabled = true →
          (rec.ingressEndpoint cluster wireguardHostPortName).isOk = true) ∧
        (rec.storageEndpointsOf cluster).isOk = true ∧
        ∀ method, (method = .reconcileNodeJoinRequests → joins = true) →
          answers.error method = none)
      (rec.reconcileManaged joins answers progress) := by
  have hvpn : progress.cluster.vpn = cluster.vpn := by
    have hkept := congrArg Cluster.vpn h.kept_eq
    exact hkept
  have hep := h.ite (c := cluster.vpn.enabled)
    fun _ => h.reconcileVPNServerEndpoint rec
  have htokens := (((hep.call answers .reconcileCustomResourceDefinitions nofun).call answers
    .reconcileNamespaces nofun).call answers .reconcilePermissions nofun).call answers
      .reconcileJoinTokens nofun
  have hstor := htokens.reconcileStorageEndpoints rec
  have hdns := (hstor.call answers .reconcileKubeProxy nofun).call answers
    .reconcileCoreDNS nofun
  have hnodes := hdns.ite fun hreqs =>
    hdns.call answers .reconcileNodeJoinRequests fun _ => hreqs
  have hkey := hnodes.call answers .reconcileJoinPublicKeyConfigMap nofun
  unfold ClusterReconciler.reconcileManaged
  dsimp only
  rw [hvpn]
  refine hkey.congr ?_
  constructor
  · rintro ⟨⟨⟨⟨⟨⟨⟨⟨⟨⟨hclear, hv⟩, h₁⟩, h₂⟩, h₃⟩, h₄⟩, hs⟩, h₅⟩, h₆⟩, h₇⟩, h₈⟩
    refine ⟨hclear, hv, hs, fun method hmethod => ?_⟩
    cases method with
    | reconcileCustomResourceDefinitions => exact h₁
    | reconcileNamespaces => exact h₂
    | reconcilePermissions => exact h₃
    | reconcileJoinTokens => exact h₄
    | reconcileKubeProxy => exact h₅
    | reconcileCoreDNS => exact h₆
    | reconcileNodeJoinRequests => exact h₇ (hmethod rfl)
    | reconcileJoinPublicKeyConfigMap => exact h₈
  · rintro ⟨hclear, hv, hs, hcalls⟩
    exact ⟨⟨⟨⟨⟨⟨⟨⟨⟨⟨hclear, hv⟩, hcalls _ nofun⟩, hcalls _ nofun⟩, hcalls _ nofun⟩, hcalls _ nofun⟩,
      hs⟩, hcalls _ nofun⟩, hcalls _ nofun⟩, fun h => hcalls _ fun _ => h⟩, hcalls _ nofun⟩

end Follows

section Unobstructed

variable (rec : ClusterReconciler) (joins : Bool)
  (clock : Nat → Nat) (answers : Answers) (cluster : Cluster)

/-- How a turn ends. -/
inductive Ends (after : Cluster) (clusterErrors : List String) : Prop
  | refused (hrefused : ¬ Admitted rec cluster)
      (hconds : after.conditions = cluster.conditions) (herrs : clusterErrors ≠ [])
  | failed (hadmitted : Admitted rec cluster)
      (hobstructed :
        ¬ Unobstructed rec joins answers cluster)
      (hconds : isCondition after.conditions reconcileSucceeded .false = true)
      (herrs : clusterErrors ≠ [])
  | succeeded
      (hunobstructed : Unobstructed rec joins answers cluster)
      (hconds : isCondition after.conditions reconcileSucceeded .true = true)
      (herrs : clusterErrors = [])

/-- A turn of a cluster without errors so far. -/
theorem ends_reconcileCluster {progress : Progress} (hfresh : progress.entry = none) :
    let after := rec.reconcileCluster joins clock answers progress
    Ends rec joins answers progress.cluster after.cluster
      (after.entry.getD []) := by
  have hstart : Follows joins progress.cluster True progress :=
    ⟨rfl, by simp [hfresh]⟩
  have hep := hstart.reconcileAPIServerEndpoint rec
  have hmanaged := (hep.setCondition clock reconcileStarted .true).reconcileManaged
    rec answers
  unfold ClusterReconciler.reconcileCluster
  dsimp only
  split
  · next hsched =>
    refine .refused (fun h => ?_) rfl (by simp [entry_addClusterError])
    rw [h.scheduled] at hsched
    cases hsched
  next hsched =>
  rw [Bool.not_eq_true, Bool.not_eq_false'] at hsched
  split
  · next herr =>
    rw [Bool.not_eq_true', ← Bool.not_eq_true, Progress.isClusterErrorFree_iff] at herr
    exact .refused (fun h => herr (hep.entry.mpr ⟨trivial, h.apiServer⟩))
      (conditions_reconcileAPIServerEndpoint _ _) herr
  next hfree =>
  rw [Bool.not_eq_true, Bool.not_eq_false', Progress.isClusterErrorFree_iff] at hfree
  have hadmitted : Admitted rec progress.cluster :=
    ⟨hsched, (hep.entry.mp hfree).2⟩
  split
  · next hclear =>
    rw [Progress.isClusterErrorFree_iff] at hclear
    obtain ⟨-, hvpn, hstor, hcalls⟩ := hmanaged.entry.mp hclear
    exact .succeeded ⟨hadmitted, hvpn, hstor, hcalls⟩ isCondition_setCondition hclear
  · next herr =>
    rw [Progress.isClusterErrorFree_iff] at herr
    refine .failed hadmitted (fun h => herr (hmanaged.entry.mpr ?_)) isCondition_setCondition
      herr
    exact ⟨⟨trivial, h.apiServer⟩, h.vpn, h.storage, h.calls⟩

theorem kept_reconcileCluster (progress : Progress) :
    kept joins (rec.reconcileCluster joins
      clock answers progress).cluster = kept joins progress.cluster := by
  have hstart : Follows joins progress.cluster (progress.entry.getD [] = [])
      progress := ⟨rfl, .rfl⟩
  have hep := hstart.reconcileAPIServerEndpoint rec
  have hmanaged := (hep.setCondition clock reconcileStarted .true).reconcileManaged
    rec answers
  unfold ClusterReconciler.reconcileCluster
  dsimp only
  split
  · rfl
  split
  · exact hep.kept_eq
  split
  · exact (hmanaged.setCondition clock _ _).kept_eq
  · exact (hmanaged.setCondition clock _ _).kept_eq

variable {rec joins answers cluster}

theorem Ends.reports {after : Cluster} {clusterErrors : List String}
    (h : Ends rec joins answers cluster after clusterErrors) :
    Reports cluster after clusterErrors := by
  cases h with
  | refused _ hconds herrs =>
    exact ⟨fun h => absurd h herrs, fun _ => .inl hconds⟩
  | failed _ _ hconds herrs =>
    exact ⟨fun h => absurd h herrs, fun _ => .inr hconds⟩
  | succeeded _ hconds herrs =>
    exact ⟨fun _ => hconds, fun h => absurd herrs h⟩

end Unobstructed

/-! ## Many clusters -/

/-- The full name of a cluster in the list. -/
def fullNameOf (cluster : Cluster × Answers) : String :=
  fullClusterName cluster.1.namespace cluster.1.name

section Loop

variable (rec : ClusterReconciler) (joins : Bool)
  (clock clock' : Nat → Nat)

/-- The turn of a cluster that is reconciled alone. -/
def alone (cluster : Cluster × Answers) : Progress :=
  rec.reconcileCluster joins clock' cluster.2 ⟨cluster.1, ∅, 0⟩

theorem alone_entry (cluster : Cluster × Answers) :
    (alone rec joins clock' cluster).entry =
      (alone rec joins clock' cluster).reconcileErrors.lookup
        (fullNameOf cluster) := by
  have hstart : Meet ⟨cluster.1, ∅, 0⟩ ⟨cluster.1, ∅, 0⟩ ⟨cluster.1, ∅, 0⟩ := ⟨.refl _, .refl⟩
  have hturn := hstart.reconcileCluster rec cluster.2 joins
    clock' clock'
  exact congrArg (Finmap.lookup · _) hturn.movesTo.local.fullName

/-- What the loop leaves of a cluster, and what it records. -/
structure AsAlone (reconcileErrors : ReconcileErrors) (cluster : Cluster × Answers)
    (after : Cluster) : Prop where
  state : timeless after = timeless (alone rec joins clock' cluster).cluster
  errors : reconcileErrors.lookup (fullNameOf cluster) = (alone rec joins clock' cluster).entry
  reports : Reports cluster.1 after ((reconcileErrors.lookup (fullNameOf cluster)).getD [])

theorem reconcileLoop_asAlone {clusters : List (Cluster × Answers)}
    {reconcileErrors : ReconcileErrors} {readings : Nat}
    (hnd : (clusters.map fullNameOf).Nodup)
    (hfresh : ∀ cluster ∈ clusters, reconcileErrors.lookup (fullNameOf cluster) = none) :
    let result := rec.reconcileLoop joins clock reconcileErrors
      readings clusters
    List.Forall₂ (AsAlone rec joins clock' result.2) clusters
        result.1 ∧
      (∀ name ∉ clusters.map fullNameOf, result.2.lookup name = reconcileErrors.lookup name) ∧
      (reconcileErrors.Sound → result.2.Sound) := by
  induction clusters generalizing reconcileErrors readings with
  | nil => exact ⟨.nil, fun _ _ => rfl, id⟩
  | cons cluster clusters ih =>
    rw [List.map_cons, List.nodup_cons] at hnd
    -- the turn of the first cluster
    have hstart : Meet ⟨cluster.1, reconcileErrors, readings⟩ ⟨cluster.1, reconcileErrors, readings⟩
        ⟨cluster.1, ∅, 0⟩ :=
      ⟨⟨rfl, hfresh cluster List.mem_cons_self⟩, .refl⟩
    have hturn := hstart.reconcileCluster rec cluster.2 joins
      clock clock'
    have hreports := (@ends_reconcileCluster rec joins clock
      cluster.2 ⟨cluster.1, reconcileErrors, readings⟩
      (hfresh cluster List.mem_cons_self)).reports
    have hlocal := hturn.movesTo.local
    generalize hprogress : rec.reconcileCluster joins clock
      cluster.2 ⟨cluster.1, reconcileErrors, readings⟩ = progress at hturn hreports hlocal
    -- the others have no entry yet
    have hfresh' : ∀ other ∈ clusters,
        progress.reconcileErrors.lookup (fullNameOf other) = none := by
      intro other hother
      have hne : fullNameOf other ≠ fullNameOf cluster :=
        fun h => hnd.1 (h ▸ List.mem_map_of_mem hother)
      exact (hlocal.others _ hne).trans (hfresh other (List.mem_cons_of_mem _ hother))
    obtain ⟨hall, hothers, hsound⟩ := @ih _ progress.readings hnd.2 hfresh'
    have hentry : ((rec.reconcileLoop joins clock
        progress.reconcileErrors progress.readings clusters).2).lookup (fullNameOf cluster) =
          progress.entry := by
      rw [hothers _ hnd.1]
      exact congrArg (Finmap.lookup · progress.reconcileErrors) hlocal.fullName.symm
    obtain ⟨first, answers⟩ := cluster
    simp only [ClusterReconciler.reconcileLoop, hprogress]
    refine ⟨.cons ⟨hturn.alike.cluster, hentry.trans hturn.alike.entry, ?_⟩ hall, ?_,
      fun h => hsound (hlocal.sound h)⟩
    · rw [hentry]
      exact hreports
    · intro name hname
      rw [List.map_cons, List.mem_cons, not_or] at hname
      rw [hothers name hname.2]
      exact hlocal.others name hname.1

end Loop

/-- The errors of a cluster in what `Reconcile` returns. -/
def errorsOf (reconcileErrors : Option ReconcileErrors) (cluster : Cluster) : List String :=
  (reconcileErrors.getD ∅).clusterErrors cluster.namespace cluster.name

theorem keys_card_eq_zero_iff (reconcileErrors : ReconcileErrors) :
    reconcileErrors.keys.card = 0 ↔ ∀ name, reconcileErrors.lookup name = none := by
  rw [Finset.card_eq_zero, Finset.eq_empty_iff_forall_notMem]
  simp only [Finmap.mem_keys, Finmap.lookup_eq_none]

theorem errorsOf_ite (reconcileErrors : ReconcileErrors) (cluster : Cluster) :
    errorsOf (if reconcileErrors.keys.card = 0 then none else some reconcileErrors) cluster =
      (reconcileErrors.lookup (fullClusterName cluster.namespace cluster.name)).getD [] := by
  split
  · next hnone =>
    rw [(keys_card_eq_zero_iff _).mp hnone]
    rfl
  · rfl

theorem ite_eq_none_iff {reconcileErrors : ReconcileErrors} {clusters : List (Cluster × Answers)}
    (hsound : reconcileErrors.Sound)
    (hothers : ∀ name ∉ clusters.map fullNameOf, reconcileErrors.lookup name = none) :
    (if reconcileErrors.keys.card = 0 then none else some reconcileErrors) = none ↔
      ∀ cluster ∈ clusters, (reconcileErrors.lookup
        (fullClusterName cluster.1.namespace cluster.1.name)).getD [] = [] := by
  have hnone : (if reconcileErrors.keys.card = 0 then none else some reconcileErrors) = none ↔
      reconcileErrors.keys.card = 0 := by
    split <;> simp_all
  rw [hnone, keys_card_eq_zero_iff]
  refine ⟨fun h cluster _ => by rw [h]; rfl, fun h name => ?_⟩
  by_cases hname : name ∈ clusters.map fullNameOf
  · obtain ⟨cluster, hcl, rfl⟩ := List.mem_map.mp hname
    have hempty := h cluster hcl
    have hentry := hsound (fullNameOf cluster)
    change (reconcileErrors.lookup (fullNameOf cluster)).getD [] = [] at hempty
    cases hlk : reconcileErrors.lookup (fullNameOf cluster) with
    | none => rfl
    | some clusterErrors =>
      rw [hlk] at hempty hentry
      exact absurd (congrArg some hempty) hentry
  · exact hothers name hname

theorem ClusterReconciler.reconcile_eq (rec : ClusterReconciler)
    (joins : Bool) (clock : Nat → Nat)
    (clusterMap : List (Cluster × Answers)) {clusters : List (Cluster × Answers)}
    (hne : clusters ≠ []) :
    let loop := rec.reconcileLoop joins clock ∅ 0 clusters
    rec.reconcile joins clock clusterMap clusters =
      (loop.1, if loop.2.keys.card = 0 then none else some loop.2) := by
  unfold reconcile
  rw [if_neg fun h => hne (List.length_eq_zero_iff.mp h)]

/-- A cluster is reconciled as if it were the only one: with any other clock, and whatever
clusters the reconciler knows of. -/
def LikeAlone (rec : ClusterReconciler) (joins : Bool)
    (cluster : Cluster × Answers) (after : Cluster) (clusterErrors : List String) : Prop :=
  ∀ clock clusterMap, ∃ after' reconcileErrors,
    rec.reconcile joins clock clusterMap [cluster] = ([after'], reconcileErrors) ∧
      timeless after = timeless after' ∧ clusterErrors = errorsOf reconcileErrors cluster.1

/-- **Clusters are reconciled independently.**  In a list of different clusters, each of them
ends as if it had been reconciled alone, with the same errors.  Nil is returned if there are
none, and a cluster whose condition the call sets to true has none. -/
theorem reconcile_independent (rec : ClusterReconciler)
    (joins : Bool) (clock : Nat → Nat)
    (clusterMap : List (Cluster × Answers)) {clusters : List (Cluster × Answers)}
    (hne : clusters ≠ [])
    (hkeys : (clusters.map fun cluster => (cluster.1.namespace, cluster.1.name)).Nodup)
    (hvalid : ∀ cluster ∈ clusters, DNSName.isDNS1123Subdomain cluster.1.namespace = true ∧
      DNSName.isDNS1123Subdomain cluster.1.name = true) :
    let result := rec.reconcile joins clock clusterMap clusters
    List.Forall₂ (fun cluster after =>
        LikeAlone rec joins cluster after
          (errorsOf result.2 cluster.1) ∧
        Reports cluster.1 after (errorsOf result.2 cluster.1)) clusters result.1 ∧
      (result.2 = none ↔ ∀ cluster ∈ clusters, errorsOf result.2 cluster.1 = []) := by
  have hnd : (clusters.map fullNameOf).Nodup := by
    refine (List.Nodup.of_map _ hkeys).map_on fun cluster hcl other hother hname => ?_
    obtain ⟨hns, hname⟩ := fullClusterName_injective
      (DNSName.no_slash (hvalid cluster hcl).1)
      (DNSName.no_slash (hvalid other hother).1) hname
    exact List.inj_on_of_nodup_map hkeys hcl hother (Prod.ext hns hname)
  have hres := rec.reconcile_eq joins clock clusterMap hne
  intro result
  rw [show result = _ from hres]
  have hloop := fun clock' => @reconcileLoop_asAlone rec joins
    clock clock' clusters ∅ 0 hnd fun _ _ => rfl
  generalize rec.reconcileLoop joins clock ∅ 0 clusters = loop
    at hloop
  obtain ⟨hall, hothers, hsound⟩ := hloop clock
  dsimp only
  simp only [errorsOf_ite]
  refine ⟨List.forall₂_iff_zip.mpr ⟨hall.length_eq, fun {cluster after} hmem => ?_⟩, ?_⟩
  · -- a single cluster is a loop of one turn
    have hasAlone := fun clock' => (List.forall₂_iff_zip.mp (hloop clock').1).2 hmem
    refine ⟨fun clock' clusterMap' => ?_, (hasAlone clock).reports⟩
    refine ⟨_, _, rec.reconcile_eq joins clock' clusterMap'
      (List.cons_ne_nil cluster []), (hasAlone clock').state, ?_⟩
    rw [errorsOf_ite]
    have herrs := (hasAlone clock').errors
    rw [alone_entry] at herrs
    exact congrArg (Option.getD · []) herrs
  · exact ite_eq_none_iff (hsound fun _ => nofun) hothers

/-- The call for one cluster. -/
theorem reconcile_one (rec : ClusterReconciler) (joins : Bool)
    (clock : Nat → Nat) (clusterMap : List (Cluster × Answers)) (cluster : Cluster)
    (answers : Answers) :
    ∃ after reconcileErrors,
      rec.reconcile joins clock clusterMap [(cluster, answers)] = ([after], reconcileErrors) ∧
        kept joins after = kept joins cluster ∧
        Ends rec joins answers cluster after
          (errorsOf reconcileErrors cluster) ∧
        (reconcileErrors = none ↔ errorsOf reconcileErrors cluster = []) := by
  have hloop := @reconcileLoop_asAlone rec joins clock clock
    [(cluster, answers)] ∅ 0 (List.nodup_singleton _) fun _ _ => rfl
  have hends := @ends_reconcileCluster rec joins clock answers
    ⟨cluster, ∅, 0⟩ rfl
  refine ⟨_, _, rec.reconcile_eq joins clock clusterMap
    (List.cons_ne_nil _ _), kept_reconcileCluster _ _ _ _ _, ?_, ?_⟩
  · rw [errorsOf_ite]
    have hentry := alone_entry rec joins clock (cluster, answers)
    exact (congrArg (Option.getD · []) hentry) ▸ hends
  · rw [errorsOf_ite, ite_eq_none_iff (hloop.2.2 fun _ => nofun) hloop.2.1]
    exact List.forall_mem_singleton

/-! ### Two clusters -/

/-- The calls for a cluster succeed. -/
def noFailures : Answers where
  error _ := none
  clientCertificates _ := ∅
  currentJoinTokens := []
  vpnPeers := ∅

/-- A hypervisor with an ingress and a control plane of a cluster. -/
def oneScheduled : ClusterReconciler where
  hypervisorMap :=
    [ { name := "h", resourceVersion := 1, ipAddress := "10.0.0.1", portRangeLow := 30000
        portRangeHigh := 60000, files := ∅, freedPorts := [], allocatedPorts := [] } ]
  componentList :=
    [ { name := "lb", «namespace» := "ns", clusterName := "ready", role := .controlPlaneIngress
        hypervisorName := "h"
        allocatedHostPorts := (∅ : GoMap String Int64).insert apiServerHostPortName 30000 },
      { name := "cp", «namespace» := "ns", clusterName := "ready", role := .controlPlane
        hypervisorName := "h"
        allocatedHostPorts := ((∅ : GoMap String Int64).insert etcdPeerHostPortName 30001).insert
          etcdClientHostPortName 30002 } ]

/-- That cluster, and one without components. -/
def twoClusters : List (Cluster × Answers) :=
  [({ name := "unready", «namespace» := "ns" }, noFailures),
    ({ name := "ready", «namespace» := "ns", controlPlaneReplicas := 1 }, noFailures)]

/-- The first cluster fails, and the second one does not notice. -/
theorem reconcile_independent_two : ∃ unready ready,
    let result := oneScheduled.reconcile false id [] twoClusters
    twoClusters = [unready, ready] ∧
      errorsOf result.2 unready.1 = ["cluster is not fully scheduled"] ∧
      ∃ after ∈ result.1, LikeAlone oneScheduled false ready after [] ∧
        isCondition after.conditions reconcileSucceeded .true = true := by
  have hindependent := reconcile_independent oneScheduled false id []
    (by decide : twoClusters ≠ []) (by decide) (by decide +kernel)
  refine ⟨_, _, rfl, by decide +kernel, ?_⟩
  have hready : errorsOf (oneScheduled.reconcile false id [] twoClusters).2
      { name := "ready", «namespace» := "ns", controlPlaneReplicas := 1 } = [] := by
    decide +kernel
  obtain ⟨hall, -⟩ := hindependent
  obtain ⟨_, _, -, hrest, hfirst⟩ := List.forall₂_cons_left_iff.mp hall
  obtain ⟨after, _, ⟨halone, hreports⟩, -, hsnd⟩ := List.forall₂_cons_left_iff.mp hrest
  dsimp only at halone hreports
  rw [hready] at halone hreports
  refine ⟨after, ?_, halone, hreports.succeeded rfl⟩
  rw [hfirst, hsnd]
  exact List.mem_cons_of_mem _ List.mem_cons_self

end OneInfra.Clusters
