import OneInfra.Cluster.Export
import OneInfra.Component.V1alpha1
import OneInfra.Infra.V1alpha1

/-!
# Dirty tracking

`RefreshCachedSpecs` and `IsDirty` of hypervisors, clusters and components.  An
object that is imported keeps the SHA1 sum of its encoded export, and it is dirty
when the sum of its export is another one.  The conditions of clusters and
components are left out of the sum.

`Digests` stands for the encoders together with SHA1.  They are injective: the
encoders sort the keys of maps and keep the order of lists.

An export turns two maps into lists, the host ports of a component and the VPN
peers of a cluster.  `SameUpToOrder` compares exports with those lists taken as
sets.  The host ports are sorted, and the VPN peers are not.  So `IsDirty` is exact
for hypervisors and components.  For a cluster it is exact if the cluster changed or
has at most one VPN peer, and otherwise two traversals of the same peers give two
sums.
-/

namespace OneInfra.Controllers

open OneInfra.Lib OneInfra.Infra Conditions

/-! ## Sums -/

/-- The sums of exported objects. -/
structure Digests (H : Type) where
  hypervisor : V1alpha1.Hypervisor → H
  cluster : V1alpha1.Cluster → H
  component : V1alpha1.Component → H
  /-- An absent file map and an empty one have one encoding, and exports have the
  second. -/
  hypervisor_injOn : Set.InjOn hypervisor (Set.range ImportedHypervisor.export)
  cluster_injective : Function.Injective cluster
  component_injective : Function.Injective component

/-- The objects themselves, in place of their sums. -/
def Digests.objects :
    Digests (V1alpha1.Hypervisor ⊕ V1alpha1.Cluster ⊕ V1alpha1.Component) where
  hypervisor := .inl
  cluster := .inr ∘ .inl
  component := .inr ∘ .inr
  hypervisor_injOn := Sum.inl_injective.injOn
  cluster_injective := Sum.inr_injective.comp Sum.inl_injective
  component_injective := Sum.inr_injective.comp Sum.inr_injective

/-- `JSONSpecs` of a cluster, before the encoding. -/
def clusterSpecs (net : NetText) (vpnPeerMap : List (String × VPNPeer)) (cluster : Cluster) :
    V1alpha1.Cluster :=
  { cluster.export net vpnPeerMap with status.conditions := [] }

/-- `JSONSpecs` of a component, before the encoding. -/
def componentSpecs (hostPorts : List (String × Int64)) (component : Component) :
    V1alpha1.Component :=
  { component.export hostPorts with status.conditions := [] }

/-- `IsDirty`: the sum of the specifications is not the loaded one. -/
def IsDirty {H : Type} (loadedContentsHash currentContentsHash : H) : Prop :=
  loadedContentsHash ≠ currentContentsHash

instance {H : Type} [DecidableEq H] (a b : H) : Decidable (IsDirty a b) :=
  inferInstanceAs (Decidable (a ≠ b))

/-! ## Objects up to the order of their lists -/

/-- Two clusters that differ at most in the order of their VPN peers. -/
structure ClusterSameUpToOrder (a b : V1alpha1.Cluster) : Prop where
  rest : { a with status.vpnPeers := [] } = { b with status.vpnPeers := [] }
  vpnPeers : a.status.vpnPeers.Perm b.status.vpnPeers

/-- Two components that differ at most in the order of their host ports. -/
structure ComponentSameUpToOrder (a b : V1alpha1.Component) : Prop where
  rest : { a with status.allocatedHostPorts := [] } = { b with status.allocatedHostPorts := [] }
  hostPorts : a.status.allocatedHostPorts.Perm b.status.allocatedHostPorts

theorem ClusterSameUpToOrder.refl (a : V1alpha1.Cluster) : ClusterSameUpToOrder a a :=
  ⟨rfl, .refl _⟩

theorem ComponentSameUpToOrder.refl (a : V1alpha1.Component) : ComponentSameUpToOrder a a :=
  ⟨rfl, .refl _⟩

theorem ClusterSameUpToOrder.eq_of_vpnPeers_eq {a b : V1alpha1.Cluster}
    (h : ClusterSameUpToOrder a b) (hpeers : a.status.vpnPeers = b.status.vpnPeers) : a = b := by
  obtain ⟨name, ns, version, labels, annotations, finalizers, deletion, spec, status⟩ := a
  obtain ⟨name', ns', version', labels', annotations', finalizers', deletion', spec', status'⟩ := b
  have hrest := h.rest
  cases status
  cases status'
  cases hpeers
  cases hrest
  rfl

theorem ComponentSameUpToOrder.eq_of_hostPorts_eq {a b : V1alpha1.Component}
    (h : ComponentSameUpToOrder a b)
    (hports : a.status.allocatedHostPorts = b.status.allocatedHostPorts) : a = b := by
  obtain ⟨name, generate, ns, version, labels, annotations, finalizers, deletion, spec, status⟩ := a
  obtain ⟨name', generate', ns', version', labels', annotations', finalizers', deletion', spec',
    status'⟩ := b
  have hrest := h.rest
  cases status
  cases status'
  cases hports
  cases hrest
  rfl

/-! ## Components -/

/-- Two sorted lists of host ports with the same entries are equal. -/
theorem allocatedHostPortList_eq_of_perm {a b : Component}
    {hostPorts hostPorts' : List (String × Int64)}
    (hperm : (a.allocatedHostPortList hostPorts).Perm (b.allocatedHostPortList hostPorts')) :
    a.allocatedHostPortList hostPorts = b.allocatedHostPortList hostPorts' := by
  unfold Component.allocatedHostPortList at hperm ⊢
  have hnames := hperm.map V1alpha1.ComponentHostPortAllocation.name
  simp only [List.map_map, Function.comp_def, List.map_id'] at hnames
  have hsorted := List.Perm.eq_of_sortedLE List.sortedLE_insertionSort
    List.sortedLE_insertionSort hnames
  rw [hsorted] at hperm ⊢
  apply List.map_congr_left
  intro name hname
  -- the entry of a name on one side is that of the name on the other
  obtain ⟨name', -, heq⟩ := List.mem_map.mp (hperm.mem_iff.mp (List.mem_map_of_mem hname))
  rw [← heq]
  cases congrArg V1alpha1.ComponentHostPortAllocation.name heq
  rfl

/-- `IsDirty` of a component is exact. -/
theorem isDirty_component_iff {H : Type} (digests : Digests H) (loaded component : Component)
    (hostPorts hostPorts' : List (String × Int64)) :
    IsDirty (digests.component (componentSpecs hostPorts loaded))
        (digests.component (componentSpecs hostPorts' component)) ↔
      ¬ ComponentSameUpToOrder (componentSpecs hostPorts loaded)
        (componentSpecs hostPorts' component) := by
  refine not_congr ⟨fun hsum => ?_, fun hsame => ?_⟩
  · rw [digests.component_injective hsum]
    exact .refl _
  · rw [hsame.eq_of_hostPorts_eq (allocatedHostPortList_eq_of_perm hsame.hostPorts)]

/-! ## Hypervisors -/

/-- `IsDirty` of a hypervisor is exact. -/
theorem isDirty_hypervisor_iff {H : Type} (digests : Digests H)
    (loaded hypervisor : ImportedHypervisor) :
    IsDirty (digests.hypervisor loaded.export) (digests.hypervisor hypervisor.export) ↔
      hypervisor.export ≠ loaded.export := by
  refine not_congr ⟨fun hsum => ?_, fun hsame => by rw [hsame]⟩
  exact (digests.hypervisor_injOn ⟨loaded, rfl⟩ ⟨hypervisor, rfl⟩ hsum).symm

/-! ## Clusters -/

section Cluster

variable {H : Type} (digests : Digests H) (net : NetText) {loaded cluster : Cluster}

/-- Another traversal of a map with two entries. -/
theorem exists_other_iteration {vpnPeers : VPNPeerMap} (hnamed : vpnPeers.Named)
    (htwo : 2 ≤ vpnPeers.keys.card) : ∃ l l', vpnPeers.IsIteration l ∧ vpnPeers.IsIteration l' ∧
      VPNPeerMap.export l ≠ VPNPeerMap.export l' := by
  obtain ⟨l, hl⟩ := vpnPeers.exists_isIteration
  have hlen := hl.length_eq
  match l, hlen with
  | [], hlen => simp at hlen; omega
  | [_], hlen => simp at hlen; omega
  | first :: second :: rest, _ =>
    refine ⟨_, second :: first :: rest, hl, hl.of_perm (.swap _ _ _), ?_⟩
    intro heq
    have hvalue : first.2 = second.2 := (List.cons.inj heq).1
    have hfirst : first.2.name = first.1 := hnamed _ _ (hl.mem_iff.mp List.mem_cons_self)
    have hsnd : second.2.name = second.1 := hnamed _ _ (hl.mem_iff.mp (by simp))
    have hkeys := hl.nodup_keys
    simp only [List.map_cons, List.nodup_cons, List.mem_cons, not_or] at hkeys
    exact hkeys.1.1 (by rw [← hfirst, ← hsnd, hvalue])

/-- The traversals do not matter for the comparison. -/
theorem clusterSameUpToOrder_congr {l l' m m' : List (String × VPNPeer)} (hl : l.Perm l')
    (hm : m.Perm m')
    (h : ClusterSameUpToOrder (clusterSpecs net l loaded) (clusterSpecs net m cluster)) :
    ClusterSameUpToOrder (clusterSpecs net l' loaded) (clusterSpecs net m' cluster) :=
  ⟨h.rest, ((hl.map Prod.snd).symm.trans h.vpnPeers).trans (hm.map Prod.snd)⟩

/-- `IsDirty` of a cluster is exact for the given traversals. -/
def ClusterDirtyExact (loaded cluster : Cluster) : Prop :=
  ∀ l m, loaded.vpnPeers.IsIteration l → cluster.vpnPeers.IsIteration m →
    (IsDirty (digests.cluster (clusterSpecs net l loaded))
        (digests.cluster (clusterSpecs net m cluster)) ↔
      ¬ ClusterSameUpToOrder (clusterSpecs net l loaded) (clusterSpecs net m cluster))

/-- The export of the cluster is not that of the loaded one. -/
def ClusterChanged (loaded cluster : Cluster) : Prop :=
  ∀ l m, loaded.vpnPeers.IsIteration l → cluster.vpnPeers.IsIteration m →
    ¬ ClusterSameUpToOrder (clusterSpecs net l loaded) (clusterSpecs net m cluster)

theorem clusterDirtyExact_iff (hnamed : loaded.vpnPeers.Named) :
    ClusterDirtyExact digests net loaded cluster ↔
      ClusterChanged net loaded cluster ∨ loaded.vpnPeers.keys.card ≤ 1 := by
  constructor
  · intro hexact
    by_contra hcond
    push Not at hcond
    obtain ⟨hunchanged, htwo⟩ := hcond
    simp only [ClusterChanged, not_forall, not_not] at hunchanged
    obtain ⟨l, m, hl, hm, hsame⟩ := hunchanged
    obtain ⟨l₁, l₂, h₁, h₂, hne⟩ := exists_other_iteration hnamed htwo
    -- neither traversal of the loaded peers makes the cluster dirty, so their sums are one
    have hclean : ∀ l', loaded.vpnPeers.IsIteration l' →
        clusterSpecs net l' loaded = clusterSpecs net m cluster := by
      intro l' hl'
      have hsame' := clusterSameUpToOrder_congr net (hl.perm hl') (.refl m) hsame
      have hnot := (not_congr (hexact l' m hl' hm)).mpr (not_not.mpr hsame')
      exact digests.cluster_injective (not_not.mp hnot)
    have heq := (hclean l₁ h₁).trans (hclean l₂ h₂).symm
    exact hne (congrArg (fun obj : V1alpha1.Cluster => obj.status.vpnPeers) heq)
  · intro hcond l m hl hm
    refine not_congr ⟨fun hsum => ?_, fun hsame => ?_⟩
    · rw [digests.cluster_injective hsum]
      exact .refl _
    · rcases hcond with hchanged | hone
      · exact absurd hsame (hchanged l m hl hm)
      · congr 1
        exact hsame.eq_of_vpnPeers_eq (hl.map_eq_of_perm hone hsame.vpnPeers)

end Cluster

/-! ## All three -/

/-- Dirty tracking of imported objects, for any traversals of their maps.  It is exact
for hypervisors and components, and for a cluster if and only if the cluster changed or
has at most one VPN peer. -/
theorem isDirty_exact {H : Type} (digests : Digests H) (env : Environment) :
    (∀ obj connectionPool loaded connectionPool' (hypervisor : ImportedHypervisor),
      newHypervisorFromv1alpha1 obj connectionPool = (.ok loaded, connectionPool') →
      (IsDirty (digests.hypervisor loaded.export) (digests.hypervisor hypervisor.export) ↔
        hypervisor.export ≠ loaded.export)) ∧
    (∀ obj (component : Component) hostPorts hostPorts',
      (newComponentFromv1alpha1 obj).allocatedHostPorts.IsIteration hostPorts →
      component.allocatedHostPorts.IsIteration hostPorts' →
      (IsDirty (digests.component (componentSpecs hostPorts (newComponentFromv1alpha1 obj)))
          (digests.component (componentSpecs hostPorts' component)) ↔
        ¬ ComponentSameUpToOrder (componentSpecs hostPorts (newComponentFromv1alpha1 obj))
          (componentSpecs hostPorts' component))) ∧
    ∀ obj loaded cluster, newClusterFromv1alpha1 env obj = .ok loaded →
      (ClusterDirtyExact digests env.net loaded cluster ↔
        ClusterChanged env.net loaded cluster ∨ loaded.vpnPeers.keys.card ≤ 1) := by
  refine ⟨?_, ?_, ?_⟩
  · intro obj connectionPool loaded connectionPool' hypervisor _
    exact isDirty_hypervisor_iff digests loaded hypervisor
  · intro obj component hostPorts hostPorts' _ _
    exact isDirty_component_iff digests _ component hostPorts hostPorts'
  · intro obj loaded cluster himp
    have hnamed : loaded.vpnPeers.Named := by
      rw [(newClusterFromv1alpha1_ok himp).2]
      exact named_newVPNPeersFromv1alpha1 _
    exact clusterDirtyExact_iff digests env.net hnamed

/-- A cluster with the given VPN peers. -/
def clusterWithPeers (peers : List VPNPeer) : V1alpha1.Cluster :=
  { name := "c", «namespace» := "default", status.vpnPeers := peers }

theorem isDirty_exact_onePeer : ∃ loaded,
    newClusterFromv1alpha1 keylessEnvironment (clusterWithPeers [⟨"worker-a", "", "", ""⟩]) =
        .ok loaded ∧
      ClusterDirtyExact Digests.objects .ipv4 loaded loaded := by
  refine ⟨_, rfl, ?_⟩
  have hexact := (isDirty_exact Digests.objects keylessEnvironment).2.2
    (clusterWithPeers [⟨"worker-a", "", "", ""⟩])
  exact (hexact _ _ rfl).mpr (.inr (by decide))

/-- A cluster with two VPN peers that was just imported is dirty if the second export
traverses the peers the other way round. -/
theorem isDirty_twoPeers :
    let a : VPNPeer := ⟨"worker-a", "10.0.0.1/16", "", ""⟩
    let b : VPNPeer := ⟨"worker-b", "10.0.0.2/16", "", ""⟩
    ∃ loaded, newClusterFromv1alpha1 keylessEnvironment (clusterWithPeers [a, b]) = .ok loaded ∧
      loaded.vpnPeers.IsIteration [(a.name, a), (b.name, b)] ∧
      loaded.vpnPeers.IsIteration [(b.name, b), (a.name, a)] ∧
      IsDirty (Digests.objects.cluster (clusterSpecs .ipv4 [(a.name, a), (b.name, b)] loaded))
        (Digests.objects.cluster (clusterSpecs .ipv4 [(b.name, b), (a.name, a)] loaded)) := by
  intro a b
  refine ⟨_, rfl, by decide, by decide, ?_⟩
  intro hsum
  have hspecs := Digests.objects.cluster_injective hsum
  have hpeers : [a, b] = [b, a] :=
    congrArg (fun obj : V1alpha1.Cluster => obj.status.vpnPeers) hspecs
  exact absurd hpeers (by decide)

end OneInfra.Controllers
