import OneInfra.Cluster.Reconciler
import OneInfra.Component.Steps

/-!
# The storage endpoints of a cluster

`reconcileStorageEndpoints` of `internal/pkg/cluster/reconciler/reconciler.go` publishes the
peer and the client URL of each control plane.  The control planes build the same URLs
themselves, in `etcdClientEndpoints` and `etcdPeerURL` of
`internal/pkg/component/components/etcd.go`, and find their etcd member by the peer URL.

`Serves` is the common part: the hypervisor of a control plane, its two host ports, and the
URLs that they make.  The loop of the cluster reconciler fails on the first control plane
without these, and else all of them are there when the components look for them.
-/

namespace OneInfra.Clusters.ClusterReconciler

open Lib Infra Components

variable (clusterReconciler : ClusterReconciler)

/-- The control planes of a cluster that are not being deleted. -/
def Lives (cluster : Cluster) (component : Component) : Prop :=
  component ∈ clusterReconciler.componentList ∧ component.namespace = cluster.namespace ∧
    component.clusterName = cluster.name ∧ component.role = .controlPlane ∧
    component.deletionTimestamp = none

/-- The URLs of a control plane, with the hypervisor and the ports they are built from. -/
def Serves (component : Component) (peerURL clientURL : String) : Prop :=
  ∃ hypervisor etcdPeerHostPort etcdClientHostPort,
    lookupKey Hypervisor.name component.hypervisorName clusterReconciler.hypervisorMap =
        some hypervisor ∧
      component.allocatedHostPorts.lookup etcdPeerHostPortName = some etcdPeerHostPort ∧
      component.allocatedHostPorts.lookup etcdClientHostPortName = some etcdClientHostPort ∧
      peerURL = httpsURL hypervisor.ipAddress etcdPeerHostPort ∧
      clientURL = httpsURL hypervisor.ipAddress etcdClientHostPort

/-- What the reconcilers of the components of the cluster work on. -/
def world {σ : Type} (cluster : Cluster) (outside : σ) : World σ where
  hypervisors := clusterReconciler.hypervisorMap
  cluster := cluster
  components := Component.withCluster clusterReconciler.componentList cluster.namespace cluster.name
  outside := outside

/-! ## The loop of the cluster reconciler -/

variable {clusterReconciler} {endpoints endpoints' : GoMap String String × GoMap String String}
  {components : List Component}

/-- The entries that the loop leaves: those of the control planes that are not being deleted,
and the entries from before under other names. -/
theorem storageEndpoints_eq_ok (hnd : (components.map Component.name).Nodup)
    (h : clusterReconciler.storageEndpoints endpoints components = .ok endpoints') :
    (∀ component ∈ components, component.deletionTimestamp = none →
        ∃ peerURL clientURL, clusterReconciler.Serves component peerURL clientURL ∧
          endpoints'.1.lookup component.name = some peerURL ∧
          endpoints'.2.lookup component.name = some clientURL) ∧
      ∀ name, (∀ component ∈ components, component.deletionTimestamp = none →
          component.name ≠ name) →
        endpoints'.1.lookup name = endpoints.1.lookup name ∧
          endpoints'.2.lookup name = endpoints.2.lookup name := by
  induction components generalizing endpoints with
  | nil =>
    cases h
    refine ⟨?_, ?_⟩
    · intro component hmem
      cases hmem
    · intro name _
      exact ⟨rfl, rfl⟩
  | cons controlPlane components ih =>
    rw [List.map_cons, List.nodup_cons] at hnd
    unfold storageEndpoints at h
    by_cases hdel : controlPlane.deletionTimestamp.isSome
    · rw [if_pos hdel] at h
      obtain ⟨hentries, hothers⟩ := ih hnd.2 h
      refine ⟨?_, ?_⟩
      · intro component hmem hlive
        rcases List.mem_cons.mp hmem with heq | hmem
        · rw [← heq, hlive] at hdel
          cases hdel
        · exact hentries component hmem hlive
      · intro name hname
        exact hothers name fun component hmem => hname component (List.mem_cons_of_mem _ hmem)
    · rw [if_neg hdel] at h
      split at h
      · cases h
      next hypervisor hhyp =>
      split at h
      · cases h
      next etcdPeerHostPort hpeer =>
      split at h
      · cases h
      next etcdClientHostPort hclient =>
      obtain ⟨hentries, hothers⟩ := ih hnd.2 h
      refine ⟨?_, ?_⟩
      · intro component hmem hlive
        rcases List.mem_cons.mp hmem with heq | hmem
        · -- no later control plane has the name
          have hown := hothers controlPlane.name fun other hother _ heq' =>
            hnd.1 (heq' ▸ List.mem_map_of_mem hother)
          dsimp only at hown
          rw [Finmap.lookup_insert, Finmap.lookup_insert] at hown
          rw [heq]
          exact ⟨_, _, ⟨hypervisor, etcdPeerHostPort, etcdClientHostPort, hhyp, hpeer,
            hclient, rfl, rfl⟩, hown⟩
        · exact hentries component hmem hlive
      · intro name hname
        have hne : name ≠ controlPlane.name := by
          intro heq
          have hlive : controlPlane.deletionTimestamp = none := by simpa using hdel
          exact hname controlPlane List.mem_cons_self hlive heq.symm
        have hrest := hothers name fun component hmem =>
          hname component (List.mem_cons_of_mem _ hmem)
        dsimp only at hrest
        rw [Finmap.lookup_insert_of_ne _ hne, Finmap.lookup_insert_of_ne _ hne] at hrest
        exact hrest

/-! ## The loop of the control planes -/

section Components

variable {σ : Type} {world : World σ}

/-- The client URLs that the components find, if each of them has a hypervisor and its port. -/
theorem run_clientEndpointsOf (hkeyed : Keyed world)
    (hmem : ∀ component ∈ components, component ∈ world.components)
    (hports : ∀ component ∈ components, component.deletionTimestamp = none →
      (world.componentHypervisor component).isSome ∧
        (component.allocatedHostPorts.lookup etcdClientHostPortName).isSome) :
    ∃ urls, (ControlPlane.clientEndpointsOf components).run world = .ok urls world ∧
      ∀ url, url ∈ urls ↔ ∃ component ∈ components, component.deletionTimestamp = none ∧
        ∃ hypervisor port, world.componentHypervisor component = some hypervisor ∧
          component.allocatedHostPorts.lookup etcdClientHostPortName = some port ∧
          url = httpsURL hypervisor.ipAddress port := by
  induction components with
  | nil => exact ⟨[], rfl, by simp⟩
  | cons component components ih =>
    obtain ⟨urls, hrun, hurls⟩ := ih (fun c hc => hmem c (List.mem_cons_of_mem _ hc))
      (fun c hc => hports c (List.mem_cons_of_mem _ hc))
    by_cases hdel : component.deletionTimestamp.isSome
    · refine ⟨urls, ?_, ?_⟩
      · rw [ControlPlane.clientEndpointsOf, if_pos hdel]
        exact hrun
      · intro url
        rw [hurls, List.exists_mem_cons_iff]
        refine (or_iff_right ?_).symm
        intro ⟨hlive, _⟩
        rw [hlive] at hdel
        cases hdel
    · have hlive : component.deletionTimestamp = none := by simpa using hdel
      obtain ⟨hknown, hheld⟩ := hports component List.mem_cons_self hlive
      obtain ⟨hypervisor, hhyp⟩ := Option.isSome_iff_exists.mp hknown
      obtain ⟨port, hport⟩ := Option.isSome_iff_exists.mp hheld
      have hfound : lookupKey Component.name component.name world.components = some component :=
        (lookupKey_eq_some_iff hkeyed.components).mpr ⟨hmem component List.mem_cons_self, rfl⟩
      have hreq := run_requestPort_of_lookup hkeyed hfound hport
      refine ⟨httpsURL hypervisor.ipAddress port :: urls, ?_, ?_⟩
      · rw [ControlPlane.clientEndpointsOf, if_neg hdel]
        have hattempt : (attempt (requestPort component.name etcdClientHostPortName)).run world =
            .ok (.ok port) world := by
          show attempt _ world = _
          unfold attempt
          rw [show requestPort component.name etcdClientHostPortName world = _ from hreq]
        refine (run_bind_of_ok rfl).trans ?_
        rw [hhyp]
        refine (run_bind_of_ok hattempt).trans ?_
        exact run_bind_of_ok hrun
      · intro url
        rw [List.mem_cons, hurls, List.exists_mem_cons_iff]
        refine or_congr_left ?_
        constructor
        · intro hurl
          exact ⟨hlive, hypervisor, port, hhyp, hport, hurl⟩
        · intro ⟨_, hyp', port', hhyp', hport', hurl⟩
          rw [hhyp, Option.some_inj] at hhyp'
          rw [hport, Option.some_inj] at hport'
          rw [hurl, hhyp', hport']

end Components

/-! ## The published endpoints -/

section Published

variable {progress : Progress}

/-- The control planes of the cluster in the list that both loops traverse. -/
theorem mem_controlPlanes_iff {cluster : Cluster} {component : Component} :
    component ∈ Component.withRole (Component.withCluster clusterReconciler.componentList
        cluster.namespace cluster.name) .controlPlane ∧ component.deletionTimestamp = none ↔
      clusterReconciler.Lives cluster component := by
  unfold Component.withRole Component.withCluster Lives
  simp only [List.mem_filter, decide_eq_true_iff]
  tauto

theorem clusterComponents_world {σ : Type} (cluster : Cluster) (outside : σ) (role : Role) :
    (clusterReconciler.world cluster outside).clusterComponents role =
      Component.withRole (Component.withCluster clusterReconciler.componentList
        cluster.namespace cluster.name) role := by
  unfold World.clusterComponents world Component.withCluster
  rw [List.filter_filter]
  simp

/-- The names of the components of one cluster are distinct. -/
theorem keyed_world {σ : Type} (cluster : Cluster) (outside : σ)
    (hcomps : (clusterReconciler.componentList.map fun component =>
      (component.namespace, component.name)).Nodup)
    (hhyps : (clusterReconciler.hypervisorMap.map Hypervisor.name).Nodup) :
    Keyed (clusterReconciler.world cluster outside) where
  hypervisors := hhyps
  components := by
    have hsub := hcomps.sublist ((List.filter_sublist (p := fun component : Component =>
      component.namespace = cluster.namespace ∧ component.clusterName = cluster.name)).map
        fun component => (component.namespace, component.name))
    apply List.Nodup.of_map (fun name => (cluster.namespace, name))
    rw [List.map_map]
    convert hsub using 1
    apply List.map_congr_left
    intro component hmem
    have hns : component.namespace = cluster.namespace := by
      have hfilter := (List.mem_filter.mp hmem).2
      rw [decide_eq_true_iff] at hfilter
      exact hfilter.1
    rw [Function.comp_apply, hns]

/-- The published endpoints agree with the control planes and with what they compute. -/
structure Agree (clusterReconciler : ClusterReconciler) (cluster published : Cluster) : Prop where
  clientKeys : ∀ name, name ∈ published.storageClientEndpoints ↔
    ∃ component, clusterReconciler.Lives cluster component ∧ component.name = name
  peerKeys : ∀ name, name ∈ published.storagePeerEndpoints ↔
    ∃ component, clusterReconciler.Lives cluster component ∧ component.name = name
  clients : ∀ {σ : Type} (outside : σ), ∃ urls,
    ControlPlane.etcdClientEndpoints.run (clusterReconciler.world cluster outside) =
        .ok urls (clusterReconciler.world cluster outside) ∧
      ∀ url, url ∈ urls ↔ ∃ name, published.storageClientEndpoints.lookup name = some url
  peers : ∀ {σ : Type} (outside : σ) component, clusterReconciler.Lives cluster component →
    ∃ url, (ControlPlane.etcdPeerURL component.name).run
        (clusterReconciler.world cluster outside) =
          .ok url (clusterReconciler.world cluster outside) ∧
      published.storagePeerEndpoints.lookup component.name = some url

/-- Entries that are exactly those of the control planes, each with its URLs. -/
structure Entries (clusterReconciler : ClusterReconciler) (cluster : Cluster)
    (endpoints : GoMap String String × GoMap String String) : Prop where
  own : ∀ component, clusterReconciler.Lives cluster component →
    ∃ peerURL clientURL, clusterReconciler.Serves component peerURL clientURL ∧
      endpoints.1.lookup component.name = some peerURL ∧
      endpoints.2.lookup component.name = some clientURL
  others : ∀ name, (∀ component, clusterReconciler.Lives cluster component →
      component.name ≠ name) →
    endpoints.1.lookup name = none ∧ endpoints.2.lookup name = none

theorem entries_of_storageEndpointsOf {cluster : Cluster}
    (hcomps : (clusterReconciler.componentList.map fun component =>
      (component.namespace, component.name)).Nodup)
    (hhyps : (clusterReconciler.hypervisorMap.map Hypervisor.name).Nodup)
    (h : clusterReconciler.storageEndpointsOf cluster = .ok endpoints) :
    clusterReconciler.Entries cluster endpoints := by
  have hkeyed := keyed_world cluster () hcomps hhyps
  have hnd : ((Component.withRole (Component.withCluster clusterReconciler.componentList
      cluster.namespace cluster.name) .controlPlane).map Component.name).Nodup :=
    hkeyed.components.sublist (List.filter_sublist.map _)
  unfold storageEndpointsOf at h
  dsimp only at h
  split at h
  · cases h
  · obtain ⟨hown, hothers⟩ := storageEndpoints_eq_ok hnd h
    refine ⟨?_, ?_⟩
    · intro component hlives
      obtain ⟨hmem, hlive⟩ := mem_controlPlanes_iff.mpr hlives
      exact hown component hmem hlive
    · intro name hname
      obtain ⟨hpeer, hclient⟩ := hothers name fun component hmem hlive =>
        hname component (mem_controlPlanes_iff.mp ⟨hmem, hlive⟩)
      rw [Finmap.lookup_empty] at hpeer hclient
      exact ⟨hpeer, hclient⟩

/-- A name has an entry exactly if it is that of a control plane. -/
theorem Entries.mem_iff {cluster : Cluster} (h : clusterReconciler.Entries cluster endpoints)
    (name : String) :
    (name ∈ endpoints.1 ↔ ∃ component, clusterReconciler.Lives cluster component ∧
        component.name = name) ∧
      (name ∈ endpoints.2 ↔ ∃ component, clusterReconciler.Lives cluster component ∧
        component.name = name) := by
  by_cases hname : ∃ component, clusterReconciler.Lives cluster component ∧ component.name = name
  · obtain ⟨component, hlives, heq⟩ := hname
    obtain ⟨peerURL, clientURL, -, hpeer, hclient⟩ := h.own component hlives
    rw [heq] at hpeer hclient
    have hexists : ∃ component, clusterReconciler.Lives cluster component ∧
        component.name = name := ⟨component, hlives, heq⟩
    exact ⟨iff_of_true (Finmap.mem_of_lookup_eq_some hpeer) hexists,
      iff_of_true (Finmap.mem_of_lookup_eq_some hclient) hexists⟩
  · obtain ⟨hpeer, hclient⟩ := h.others name fun component hlives heq =>
      hname ⟨component, hlives, heq⟩
    rw [Finmap.lookup_eq_none] at hpeer hclient
    exact ⟨iff_of_false hpeer hname, iff_of_false hclient hname⟩

section Computed

variable {σ : Type} {cluster : Cluster} (outside : σ)
  (hkeyed : Keyed (clusterReconciler.world cluster outside))
  (h : clusterReconciler.Entries cluster endpoints)

include hkeyed h

/-- The control planes find the client URLs that are published. -/
theorem Entries.run_etcdClientEndpoints :
    ∃ urls, ControlPlane.etcdClientEndpoints.run (clusterReconciler.world cluster outside) =
        .ok urls (clusterReconciler.world cluster outside) ∧
      ∀ url, url ∈ urls ↔ ∃ name, endpoints.2.lookup name = some url := by
  have hlist := @clusterComponents_world clusterReconciler σ cluster outside .controlPlane
  obtain ⟨urls, hrun, hurls⟩ := @run_clientEndpointsOf
    ((clusterReconciler.world cluster outside).clusterComponents .controlPlane) σ
    (clusterReconciler.world cluster outside) hkeyed
    (by
      intro component hmem
      rw [hlist] at hmem
      exact List.mem_of_mem_filter hmem)
    (by
      intro component hmem hlive
      rw [hlist] at hmem
      obtain ⟨_, _, ⟨hypervisor, _, clientPort, hhyp, _, hclient, _, _⟩, _⟩ :=
        h.own component (mem_controlPlanes_iff.mp ⟨hmem, hlive⟩)
      exact ⟨Option.isSome_iff_exists.mpr ⟨hypervisor, hhyp⟩,
        Option.isSome_iff_exists.mpr ⟨clientPort, hclient⟩⟩)
  refine ⟨urls, hrun, ?_⟩
  intro url
  rw [hurls, hlist]
  constructor
  · intro ⟨component, hmem, hlive, hypervisor, port, hhyp, hport, hurl⟩
    obtain ⟨_, clientURL, ⟨hyp', _, clientPort, hhyp', _, hclient, _, hbuilt⟩, _,
      hlk⟩ := h.own component (mem_controlPlanes_iff.mp ⟨hmem, hlive⟩)
    rw [show lookupKey Hypervisor.name component.hypervisorName clusterReconciler.hypervisorMap =
      some hypervisor from hhyp, Option.some_inj] at hhyp'
    rw [hport, Option.some_inj] at hclient
    refine ⟨component.name, ?_⟩
    rw [hlk, hbuilt, hurl, hhyp', hclient]
  · intro ⟨name, hlk⟩
    obtain ⟨component, hlives, heq⟩ :=
      ((h.mem_iff name).2).mp (Finmap.mem_of_lookup_eq_some hlk)
    obtain ⟨_, clientURL, ⟨hypervisor, _, clientPort, hhyp, _, hclient, _, hbuilt⟩, _,
      hown⟩ := h.own component hlives
    rw [heq, hlk, Option.some_inj] at hown
    obtain ⟨hmem, hlive⟩ := mem_controlPlanes_iff.mpr hlives
    exact ⟨component, hmem, hlive, hypervisor, clientPort, hhyp, hclient,
      hown.trans hbuilt⟩

/-- A control plane finds its own peer URL as it is published. -/
theorem Entries.run_etcdPeerURL {component : Component}
    (hlives : clusterReconciler.Lives cluster component) :
    ∃ url, (ControlPlane.etcdPeerURL component.name).run
        (clusterReconciler.world cluster outside) =
          .ok url (clusterReconciler.world cluster outside) ∧
      endpoints.1.lookup component.name = some url := by
  obtain ⟨peerURL, _, ⟨hypervisor, peerPort, _, hhyp, hpeer, _, hbuilt, _⟩, hlk, _⟩ :=
    h.own component hlives
  have hmem : component ∈ (clusterReconciler.world cluster outside).components :=
    List.mem_of_mem_filter (mem_controlPlanes_iff.mpr hlives).1
  have hfound := (lookupKey_eq_some_iff hkeyed.components).mpr ⟨hmem, rfl⟩
  have hreq := run_requestPort_of_lookup hkeyed hfound hpeer
  have hknown : (clusterReconciler.world cluster outside).componentHypervisor component =
      some hypervisor := hhyp
  refine ⟨peerURL, ?_, hlk⟩
  refine (run_bind_of_ok hreq).trans ?_
  simp only [derefHypervisor, Components.hypervisor, EStateM.run_bind, run_component, hfound,
    EStateM.run_get, EStateM.run_pure, hknown, hbuilt]

end Computed

/-- `reconcileStorageEndpoints` records an error of the cluster and leaves the cluster as it
is, or it records none and publishes the endpoints of the control planes, which agree with
those that the control planes compute. -/
theorem reconcileStorageEndpoints_agrees (clusterReconciler : ClusterReconciler)
    (hcomps : (clusterReconciler.componentList.map fun component =>
      (component.namespace, component.name)).Nodup)
    (hhyps : (clusterReconciler.hypervisorMap.map Hypervisor.name).Nodup)
    (progress : Progress) :
    let after := clusterReconciler.reconcileStorageEndpoints progress
    (after.cluster = progress.cluster ∧ ∃ err, after.reconcileErrors =
        progress.reconcileErrors.addClusterError progress.cluster.namespace
          progress.cluster.name err) ∨
      (after.reconcileErrors = progress.reconcileErrors ∧
        clusterReconciler.Agree progress.cluster after.cluster) := by
  intro after
  cases heps : clusterReconciler.storageEndpointsOf progress.cluster with
  | error err =>
    have hafter : after = progress.addClusterError err := by
      show progress.publish _ = _
      rw [heps]
      rfl
    rw [hafter]
    exact .inl ⟨rfl, err, rfl⟩
  | ok endpoints =>
    have hafter : after = { progress with cluster := { progress.cluster with
        storagePeerEndpoints := endpoints.1
        storageClientEndpoints := endpoints.2 } } := by
      show progress.publish _ = _
      rw [heps]
      rfl
    have hentries := entries_of_storageEndpointsOf hcomps hhyps heps
    rw [hafter]
    refine .inr ⟨rfl, ?_, ?_, ?_, ?_⟩
    · intro name
      exact (hentries.mem_iff name).2
    · intro name
      exact (hentries.mem_iff name).1
    · intro σ outside
      exact hentries.run_etcdClientEndpoints outside
        (keyed_world progress.cluster outside hcomps hhyps)
    · intro σ outside component hlives
      exact hentries.run_etcdPeerURL outside
        (keyed_world progress.cluster outside hcomps hhyps) hlives

end Published

/-- A control plane with its ports, and one that is being deleted.  A component of another
namespace has the same name. -/
def storageReconciler : ClusterReconciler where
  hypervisorMap := [⟨"private-1", 0, "10.0.0.1", ∅, 30000, 60000, [], []⟩]
  componentList :=
    [{ name := "control-plane-a"
       «namespace» := "default"
       clusterName := "cluster"
       role := .controlPlane
       hypervisorName := "private-1"
       allocatedHostPorts := ((∅ : GoMap String Int64).insert etcdPeerHostPortName 30000).insert
         etcdClientHostPortName 30001 },
      { name := "control-plane-b"
        «namespace» := "default"
        clusterName := "cluster"
        role := .controlPlane
        deletionTimestamp := some 1 },
      { name := "control-plane-a", «namespace» := "other", clusterName := "cluster"
        role := .controlPlane }]

/-- The cluster of these control planes, without endpoints. -/
def storageProgress : Progress :=
  ⟨{ name := "cluster", «namespace» := "default", controlPlaneReplicas := 2 }, ∅, 0⟩

theorem reconcileStorageEndpoints_agrees_replacing :
    let after := storageReconciler.reconcileStorageEndpoints storageProgress
    after.reconcileErrors = storageProgress.reconcileErrors ∧
      storageReconciler.Agree storageProgress.cluster after.cluster := by
  intro after
  refine (reconcileStorageEndpoints_agrees storageReconciler (by decide) (by decide)
    storageProgress).resolve_left ?_
  intro ⟨hcl, _⟩
  have heps := congrArg Cluster.storageClientEndpoints hcl
  have hpublished : after.cluster.storageClientEndpoints.lookup "control-plane-a" =
      some "https://10.0.0.1:30001" := by decide +kernel
  rw [show after.cluster.storageClientEndpoints = ∅ from heps] at hpublished
  cases hpublished

end OneInfra.Clusters.ClusterReconciler
