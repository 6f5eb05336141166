import OneInfra.Component.Reconciler
import OneInfra.Infra.Ports
import Mathlib.Logic.Relation

/-!
# What the operations on components can do

Every operation on a component is a sequence of a few kinds of steps.
`WorldStep` lists them: a component gets or frees a port on its own hypervisor,
other data of a component change, files are recorded or forgotten, and the outside
changes.  `Permissions` says which ports may be requested and freed, by the name of
the component and the name of the port.

`Performs` says that a program makes such steps only, however it ends.  This file
proves it for the functions that all components share, and
`OneInfra.Component.Performs` for the components.  Later files reason about the
steps.
-/

namespace OneInfra

open Lib Infra

/-! ## What never changes -/

/-- The part of a component that no operation changes. -/
def Component.frozen (component : Component) : Component :=
  { component with
    finalizers := []
    allocatedHostPorts := ∅
    clientCertificates := ∅
    serverCertificates := ∅
    inputEndpoints := ∅
    outputEndpoints := ∅
    conditions := [] }

/-- The part of a hypervisor that no operation changes. -/
def Infra.Hypervisor.frozen (hypervisor : Hypervisor) : Hypervisor :=
  { hypervisor with files := ∅, freedPorts := [], allocatedPorts := [] }

section Frozen

namespace Component

variable {component component' : Component} (hfrz : component'.frozen = component.frozen)

include hfrz

theorem name_eq_of_frozen : component'.name = component.name :=
  (congrArg name hfrz : component'.frozen.name = component.frozen.name)

theorem hypervisorName_eq_of_frozen : component'.hypervisorName = component.hypervisorName :=
  (congrArg hypervisorName hfrz :
    component'.frozen.hypervisorName = component.frozen.hypervisorName)

theorem role_eq_of_frozen : component'.role = component.role :=
  (congrArg role hfrz : component'.frozen.role = component.frozen.role)

theorem deletionTimestamp_eq_of_frozen :
    component'.deletionTimestamp = component.deletionTimestamp :=
  (congrArg deletionTimestamp hfrz :
    component'.frozen.deletionTimestamp = component.frozen.deletionTimestamp)

end Component

theorem Infra.Hypervisor.name_eq_of_frozen {hypervisor hypervisor' : Hypervisor}
    (hfrz : hypervisor'.frozen = hypervisor.frozen) : hypervisor'.name = hypervisor.name :=
  (congrArg Hypervisor.name hfrz : hypervisor'.frozen.name = hypervisor.frozen.name)

end Frozen

namespace Component

variable {component component' : Component} {hypervisor hypervisor' : Hypervisor}
  {portName : String} {port : Int64}

/-- What a request that succeeds does: the component has the port, or it gets the
port of the hypervisor. -/
theorem requestPort_cases
    (h : component.requestPort hypervisor portName = (.ok port, component', hypervisor')) :
    (component.allocatedHostPorts.lookup portName = some port ∧ component' = component ∧
        hypervisor' = hypervisor) ∨
      (component.allocatedHostPorts.lookup portName = none ∧
        component' = { component with
          allocatedHostPorts := component.allocatedHostPorts.insert portName port } ∧
        hypervisor.requestPort component.namespace component.clusterName
          (component.withSubcomponentName portName) = (.ok port, hypervisor')) := by
  unfold requestPort at h
  cases hlk : component.allocatedHostPorts.lookup portName with
  | some held =>
    rw [hlk] at h
    simp only [Prod.mk.injEq, Except.ok.injEq] at h
    exact .inl ⟨congrArg some h.1, h.2.1.symm, h.2.2.symm⟩
  | none =>
    rw [hlk] at h
    dsimp only at h
    rcases hreq : hypervisor.requestPort component.namespace component.clusterName
      (component.withSubcomponentName portName) with ⟨message | allocated, hypervisor''⟩
    · rw [hreq] at h
      cases h
    · rw [hreq] at h
      simp only [Prod.mk.injEq, Except.ok.injEq] at h
      obtain ⟨rfl, rfl, rfl⟩ := h
      exact .inr ⟨rfl, rfl, rfl⟩

/-- Requesting a port changes the ports of the hypervisor only. -/
theorem requestPort_hypervisor_eq
    (h : component.requestPort hypervisor portName = (.ok port, component', hypervisor')) :
    ∃ freedPorts allocatedPorts, hypervisor' =
      { hypervisor with freedPorts := freedPorts, allocatedPorts := allocatedPorts } := by
  rcases requestPort_cases h with ⟨-, -, rfl⟩ | ⟨-, -, hreq⟩
  · exact ⟨_, _, rfl⟩
  · rcases hypervisor.requestPort_cases component.namespace component.clusterName
        (component.withSubcomponentName portName) with
      ⟨p, -, heq⟩ | ⟨-, p, heq⟩ | ⟨-, message, heq⟩ <;> rw [heq] at hreq <;> cases hreq <;>
      exact ⟨_, _, rfl⟩

theorem frozen_requestPort
    (h : component.requestPort hypervisor portName = (.ok port, component', hypervisor')) :
    component'.frozen = component.frozen ∧ hypervisor'.frozen = hypervisor.frozen := by
  obtain ⟨freedPorts, allocatedPorts, heq⟩ := requestPort_hypervisor_eq h
  refine ⟨?_, by rw [heq, Hypervisor.frozen, Hypervisor.frozen]⟩
  rcases requestPort_cases h with ⟨-, rfl, -⟩ | ⟨-, rfl, -⟩ <;> rfl

theorem frozen_freePort (component : Component) (hypervisor : Hypervisor) (portName : String) :
    (component.freePort hypervisor portName).1.frozen = component.frozen ∧
      (component.freePort hypervisor portName).2.frozen = hypervisor.frozen := by
  unfold freePort
  split
  · exact ⟨rfl, rfl⟩
  · refine ⟨rfl, ?_⟩
    dsimp only [Hypervisor.freePort]
    split <;> rfl

end Component

theorem Infra.Hypervisor.frozen_cleanupHypervisorFileMap (hypervisor : Hypervisor)
    (ns cluster comp : String) :
    (hypervisor.cleanupHypervisorFileMap ns cluster comp).frozen = hypervisor.frozen := by
  obtain ⟨files, heq⟩ :=
    hypervisor.cleanupHypervisorFileMap_eq ns cluster comp
  rw [heq]
  rfl

namespace Components

variable {σ : Type}

/-- Which ports may be requested and which may be freed. -/
structure Permissions where
  requests : (name portName : String) → Prop
  frees : (name portName : String) → Prop

/-- A step of an operation. -/
inductive WorldStep (permissions : Permissions) : World σ → World σ → Prop
  | requestPort {world : World σ} {component component' : Component}
      {hypervisor hypervisor' : Hypervisor} {portName : String} {port : Int64}
      (hcomp : lookupKey Component.name component.name world.components = some component)
      (hhyp : world.componentHypervisor component = some hypervisor)
      (hallowed : permissions.requests component.name portName)
      (hreq : component.requestPort hypervisor portName = (.ok port, component', hypervisor')) :
      WorldStep permissions world ((world.setComponent component').setHypervisor hypervisor')
  | freePort {world : World σ} {component : Component} {hypervisor : Hypervisor}
      {portName : String}
      (hcomp : lookupKey Component.name component.name world.components = some component)
      (hhyp : world.componentHypervisor component = some hypervisor)
      (hallowed : permissions.frees component.name portName) :
      WorldStep permissions world
        ((world.setComponent (component.freePort hypervisor portName).1).setHypervisor
          (component.freePort hypervisor portName).2)
  | data {world : World σ} {component component' : Component}
      (hcomp : lookupKey Component.name component.name world.components = some component)
      (hfrz : component'.frozen = component.frozen)
      (hports : component'.allocatedHostPorts = component.allocatedHostPorts) :
      WorldStep permissions world (world.setComponent component')
  | recordFiles {world : World σ} {component : Component} {hypervisor : Hypervisor}
      (sums : List (String × String))
      (hcomp : lookupKey Component.name component.name world.components = some component)
      (hhyp : world.componentHypervisor component = some hypervisor) :
      WorldStep permissions world (world.setHypervisor (hypervisor.recordFiles
        world.cluster.namespace world.cluster.name component.name sums))
  | cleanup {world : World σ} {component : Component} {hypervisor : Hypervisor}
      (hcomp : lookupKey Component.name component.name world.components = some component)
      (hhyp : world.componentHypervisor component = some hypervisor) :
      WorldStep permissions world (world.setHypervisor (hypervisor.cleanupHypervisorFileMap
        world.cluster.namespace world.cluster.name component.name))
  | outside {world : World σ} (outside : σ) (etcdContainers : List EtcdContainer) :
      WorldStep permissions world
        { world with outside := outside, etcdContainers := etcdContainers }

/-- A sequence of steps. -/
abbrev Steps (permissions : Permissions) : World σ → World σ → Prop :=
  Relation.ReflTransGen (WorldStep permissions)

/-! ### What the steps keep -/

/-- The objects of a world have distinct names. -/
structure Keyed (world : World σ) : Prop where
  hypervisors : (world.hypervisors.map Hypervisor.name).Nodup
  components : (world.components.map Component.name).Nodup

/-- Two worlds agree in what no step changes. -/
structure SameFrozen (world world' : World σ) : Prop where
  cluster : world'.cluster = world.cluster
  hypervisors : world'.hypervisors.map Hypervisor.frozen = world.hypervisors.map Hypervisor.frozen
  components : world'.components.map Component.frozen = world.components.map Component.frozen

namespace SameFrozen

variable {world world' world'' : World σ}

theorem refl (world : World σ) : SameFrozen world world := ⟨rfl, rfl, rfl⟩

theorem trans (h : SameFrozen world world') (h' : SameFrozen world' world'') :
    SameFrozen world world'' :=
  ⟨h'.cluster.trans h.cluster, h'.hypervisors.trans h.hypervisors,
    h'.components.trans h.components⟩

/-- A value that only depends on the frozen part is the same for all components. -/
theorem map_components (h : SameFrozen world world') {β : Type} (g : Component → β)
    (hg : ∀ component, g component.frozen = g component) :
    world'.components.map g = world.components.map g := by
  have hcomp : g ∘ Component.frozen = g := funext hg
  rw [← hcomp, ← List.map_map, ← List.map_map, h.components]

theorem map_clusterComponents (h : SameFrozen world world') (role : Role) {β : Type}
    (g : Component → β) (hg : ∀ component, g component.frozen = g component) :
    (world'.clusterComponents role).map g = (world.clusterComponents role).map g := by
  have hfrz : ∀ l : List Component, ∀ q : Component → Bool,
      (∀ component, q component.frozen = q component) →
      (l.filter q).map Component.frozen = (l.map Component.frozen).filter q := by
    intro l q hq
    rw [List.filter_map]
    congr 1
    exact List.filter_congr fun component _ => (hq component).symm
  have hcomp : g ∘ Component.frozen = g := funext hg
  have hsame : (world'.clusterComponents role).map Component.frozen =
      (world.clusterComponents role).map Component.frozen := by
    unfold World.clusterComponents Component.withRole Component.withCluster
    rw [hfrz _ _ fun _ => rfl, hfrz _ _ fun _ => rfl, hfrz _ _ fun _ => rfl,
      hfrz _ _ fun _ => rfl, h.components, h.cluster]
  rw [← hcomp, ← List.map_map, ← List.map_map, hsame]

theorem map_hypervisors (h : SameFrozen world world') {β : Type} (g : Hypervisor → β)
    (hg : ∀ hypervisor, g hypervisor.frozen = g hypervisor) :
    world'.hypervisors.map g = world.hypervisors.map g := by
  have hcomp : g ∘ Hypervisor.frozen = g := funext hg
  rw [← hcomp, ← List.map_map, ← List.map_map, h.hypervisors]

theorem isSome_componentHypervisor (h : SameFrozen world world')
    {component component' : Component}
    (hname : component'.hypervisorName = component.hypervisorName) :
    (world'.componentHypervisor component').isSome =
      (world.componentHypervisor component).isSome := by
  have hnames := h.map_hypervisors Hypervisor.name fun _ => rfl
  have hnone : world'.componentHypervisor component' = none ↔
      world.componentHypervisor component = none := by
    unfold World.componentHypervisor
    rw [lookupKey_eq_none_iff, lookupKey_eq_none_iff, hnames, hname]
  rw [Bool.eq_iff_iff, Option.isSome_iff_ne_none, Option.isSome_iff_ne_none]
  exact not_congr hnone

/-- The address of a hypervisor is frozen. -/
theorem map_ipAddress (h : SameFrozen world world') (hyp : String) :
    (lookupKey Hypervisor.name hyp world'.hypervisors).map Hypervisor.ipAddress =
      (lookupKey Hypervisor.name hyp world.hypervisors).map Hypervisor.ipAddress :=
  map_lookupKey_congr (h.map_hypervisors _ fun _ => rfl)

theorem map_componentHypervisor (h : SameFrozen world world') {component component' : Component}
    (hfrz : component'.frozen = component.frozen) :
    (world'.componentHypervisor component').map Hypervisor.ipAddress =
      (world.componentHypervisor component).map Hypervisor.ipAddress := by
  unfold World.componentHypervisor
  rw [Component.hypervisorName_eq_of_frozen hfrz]
  exact h.map_ipAddress _

theorem exists_lookup (h : SameFrozen world world') {name : String} {component : Component}
    (hfound : lookupKey Component.name name world.components = some component) :
    ∃ component', lookupKey Component.name name world'.components = some component' ∧
      component'.frozen = component.frozen := by
  have hviews := h.map_components (fun component => (component.name, component.frozen)) fun _ => rfl
  have hlk := map_lookupKey_congr (k := name) hviews
  rw [hfound] at hlk
  exact Option.map_eq_some_iff.mp hlk

theorem keyed (h : SameFrozen world world') (hkeyed : Keyed world) : Keyed world' :=
  ⟨h.map_hypervisors Hypervisor.name (fun _ => rfl) ▸ hkeyed.hypervisors,
    h.map_components Component.name (fun _ => rfl) ▸ hkeyed.components⟩

theorem setComponent (hkeyed : Keyed world) {component component' : Component}
    (hcomp : lookupKey Component.name component.name world.components = some component)
    (hfrz : component'.frozen = component.frozen) :
    SameFrozen world (world.setComponent component') := by
  have hname := Component.name_eq_of_frozen hfrz
  refine ⟨rfl, rfl, ?_⟩
  exact map_modifyKey_const hkeyed.components (hname ▸ hcomp) hfrz

theorem setHypervisor (hkeyed : Keyed world) {hypervisor hypervisor' : Hypervisor}
    (hhyp : lookupKey Hypervisor.name hypervisor.name world.hypervisors = some hypervisor)
    (hfrz : hypervisor'.frozen = hypervisor.frozen) :
    SameFrozen world (world.setHypervisor hypervisor') := by
  have hname := Hypervisor.name_eq_of_frozen hfrz
  refine ⟨rfl, ?_, rfl⟩
  exact map_modifyKey_const hkeyed.hypervisors (hname ▸ hhyp) hfrz

end SameFrozen

theorem mem_clusterComponents_iff {world : World σ} {role : Role} {component : Component} :
    component ∈ world.clusterComponents role ↔ component ∈ world.components ∧
      component.namespace = world.cluster.namespace ∧ component.clusterName = world.cluster.name ∧
      component.role = role := by
  unfold World.clusterComponents Component.withRole Component.withCluster
  simp only [List.mem_filter, decide_eq_true_iff]
  tauto

/-- A component of the cluster in later steps. -/
theorem mem_clusterComponents_of_frozen {world world' : World σ} {role : Role}
    (hcl : world'.cluster = world.cluster)
    {component component' : Component} (hmem : component ∈ world.clusterComponents role)
    (hmem' : component' ∈ world'.components) (hfrz : component'.frozen = component.frozen) :
    component' ∈ world'.clusterComponents role := by
  rw [mem_clusterComponents_iff] at hmem ⊢
  have hns : component'.frozen.namespace = component.frozen.namespace :=
    congrArg Component.namespace hfrz
  have hname : component'.frozen.clusterName = component.frozen.clusterName :=
    congrArg Component.clusterName hfrz
  have hrole := Component.role_eq_of_frozen hfrz
  refine ⟨hmem', ?_, ?_, ?_⟩
  · exact hns.trans (hmem.2.1.trans (congrArg Cluster.namespace hcl.symm))
  · exact hname.trans (hmem.2.2.1.trans (congrArg Cluster.name hcl.symm))
  · exact hrole.trans hmem.2.2.2

/-- The hypervisor of a component is found under its own name. -/
theorem lookup_of_componentHypervisor {world : World σ} {component : Component}
    {hypervisor : Hypervisor} (h : world.componentHypervisor component = some hypervisor) :
    lookupKey Hypervisor.name hypervisor.name world.hypervisors = some hypervisor ∧
      hypervisor.name = component.hypervisorName := by
  have hname : hypervisor.name = component.hypervisorName := (lookupKey_some_mem h).2
  exact ⟨hname ▸ h, hname⟩

variable {p : Permissions} {world world' : World σ}

theorem WorldStep.sameFrozen (hkeyed : Keyed world) (hstep : WorldStep p world world') :
    SameFrozen world world' := by
  cases hstep with
  | requestPort hcomponent hhypervisor hallowed hreq =>
    obtain ⟨hcomp, hhyp⟩ := Component.frozen_requestPort hreq
    have hfirst := SameFrozen.setComponent hkeyed hcomponent hcomp
    exact hfirst.trans (.setHypervisor (hfirst.keyed hkeyed)
      (lookup_of_componentHypervisor hhypervisor).1 hhyp)
  | @freePort component hypervisor portName hcomponent hhypervisor hallowed =>
    have hfrz := Component.frozen_freePort component hypervisor portName
    have hfirst := SameFrozen.setComponent hkeyed hcomponent hfrz.1
    exact hfirst.trans (.setHypervisor (hfirst.keyed hkeyed)
      (lookup_of_componentHypervisor hhypervisor).1 hfrz.2)
  | data hcomponent hfrz hports => exact .setComponent hkeyed hcomponent hfrz
  | recordFiles sums hcomponent hhypervisor =>
    exact .setHypervisor hkeyed (lookup_of_componentHypervisor hhypervisor).1 rfl
  | cleanup hcomponent hhypervisor =>
    exact .setHypervisor hkeyed (lookup_of_componentHypervisor hhypervisor).1
      (Hypervisor.frozen_cleanupHypervisorFileMap _ _ _ _)
  | outside outside etcdContainers => exact ⟨rfl, rfl, rfl⟩

theorem Steps.sameFrozen (hkeyed : Keyed world) (hsteps : Steps p world world') :
    SameFrozen world world' := by
  induction hsteps with
  | refl => exact .refl _
  | tail _ hstep ih => exact ih.trans (hstep.sameFrozen (ih.keyed hkeyed))

theorem WorldStep.cluster_eq (hstep : WorldStep p world world') :
    world'.cluster = world.cluster := by
  cases hstep <;> rfl

theorem Steps.cluster_eq (hsteps : Steps p world world') : world'.cluster = world.cluster := by
  induction hsteps with
  | refl => rfl
  | tail _ hstep ih => rw [hstep.cluster_eq, ih]

/-! ### Permissions -/

/-- The permissions of `p` are among those of `q`. -/
structure Permissions.Le (p q : Permissions) : Prop where
  requests : ∀ name portName, p.requests name portName → q.requests name portName
  frees : ∀ name portName, p.frees name portName → q.frees name portName

theorem WorldStep.mono {p q : Permissions} (hle : p.Le q) {world world' : World σ}
    (hstep : WorldStep p world world') : WorldStep q world world' := by
  cases hstep with
  | requestPort hcomp hhyp hallowed hreq =>
    exact .requestPort hcomp hhyp (hle.requests _ _ hallowed) hreq
  | freePort hcomp hhyp hallowed =>
    exact .freePort hcomp hhyp (hle.frees _ _ hallowed)
  | data hcomp hfrz hports => exact .data hcomp hfrz hports
  | recordFiles sums hcomp hhyp => exact .recordFiles sums hcomp hhyp
  | cleanup hcomp hhyp => exact .cleanup hcomp hhyp
  | outside outside etcdContainers => exact .outside outside etcdContainers

/-! ## Programs that make permitted steps -/

/-- However a run of `x` ends, it made permitted steps only. -/
abbrev Performs {α : Type} (permissions : Permissions) (x : ReconcileM σ α) : Prop :=
  Guarantees (Steps permissions) x

namespace Performs

variable {p q : Permissions} {α β : Type} {x : ReconcileM σ α} {f : α → ReconcileM σ β}

theorem mono (hle : p.Le q) (hx : Performs p x) : Performs q x := by
  have hsteps : (Steps p : World σ → World σ → Prop) ≤ Steps q :=
    Relation.ReflTransGen.mono fun _ _ hstep => WorldStep.mono hle hstep
  exact Guarantees.mono hsteps hx

theorem bind (hx : Performs p x) (hf : ∀ a, Performs p (f a)) : Performs p (x >>= f) :=
  Guarantees.bind (fun _ _ _ => .trans) hx hf

theorem pure (a : α) : Performs p (pure a : ReconcileM σ α) :=
  Guarantees.of_pure (fun _ => .refl) a

theorem throw (fault : Fault) : Performs p (throw fault : ReconcileM σ α) :=
  fun _ => .refl

theorem get : Performs p (get : ReconcileM σ (World σ)) :=
  fun _ => .refl

theorem attempt (hx : Performs p x) : Performs p (attempt x) :=
  Guarantees.of_attempt hx

theorem forM {l : List β} {g : β → ReconcileM σ Unit} (hg : ∀ b ∈ l, Performs p (g b)) :
    Performs p (l.forM g) :=
  Guarantees.forM (fun _ => .refl) (fun _ _ _ => .trans) hg

end Performs

section Primitives

variable {p : Permissions} (name : String)

theorem performs_component : Performs p (component name : ReconcileM σ Component) := by
  refine .bind .get fun world => ?_
  split
  · exact .pure _
  · exact .throw _

theorem performs_cluster : Performs p (cluster : ReconcileM σ Cluster) :=
  .bind .get fun _ => .pure _

theorem run_component (world : World σ) :
    (component name).run world =
      match lookupKey Component.name name world.components with
      | some found => .ok found world
      | none => .error nilDereference world := by
  simp only [component, EStateM.run_bind, EStateM.run_get]
  cases lookupKey Component.name name world.components <;> rfl

theorem run_derefHypervisor (world : World σ) :
    (derefHypervisor name).run world =
      match lookupKey Component.name name world.components with
      | none => .error nilDereference world
      | some found =>
        match world.componentHypervisor found with
        | some hypervisor => .ok hypervisor world
        | none => .error nilHypervisor world := by
  simp only [derefHypervisor, hypervisor, EStateM.run_bind, run_component]
  cases lookupKey Component.name name world.components with
  | none => rfl
  | some found =>
    simp only [EStateM.run_get, EStateM.run_pure]
    cases world.componentHypervisor found <;> rfl

variable (portName : String)

theorem run_requestPort (world : World σ) :
    (requestPort name portName).run world =
      match lookupKey Component.name name world.components with
      | none => .error nilDereference world
      | some found =>
        match world.componentHypervisor found with
        | some hypervisor =>
          match found.requestPort hypervisor portName with
          | (.ok port, component', hypervisor') =>
            .ok port ((world.setComponent component').setHypervisor hypervisor')
          | (.error message, _, _) => .error (.error message) world
        | none =>
          match found.allocatedHostPorts.lookup portName with
          | some port => .ok port world
          | none => .error nilHypervisor world := by
  simp only [requestPort, EStateM.run_bind, run_component]
  cases lookupKey Component.name name world.components with
  | none => rfl
  | some found =>
    simp only [EStateM.run_get]
    cases world.componentHypervisor found with
    | some hypervisor =>
      dsimp only
      rcases found.requestPort hypervisor portName with
        ⟨message | port, component', hypervisor'⟩ <;>
        rfl
    | none =>
      dsimp only
      cases found.allocatedHostPorts.lookup portName <;> rfl

/-- A request changes nothing of the components but ports. -/
theorem map_lookupKey_requestPort {β : Type} (g : Component → β)
    (hg : ∀ component ports, g { component with allocatedHostPorts := ports } = g component)
    (world : World σ) (other : String) :
    (lookupKey Component.name other
        (finalState ((requestPort name portName).run world)).components).map g =
      (lookupKey Component.name other world.components).map g := by
  rw [run_requestPort]
  split
  · rfl
  next found hfound =>
  split
  · next hypervisor hhyp =>
    split
    · next component' hypervisor' hreq =>
      have hsame : component'.name = found.name ∧ g component' = g found := by
        rcases Component.requestPort_cases hreq with ⟨-, rfl, -⟩ | ⟨-, rfl, -⟩
        · exact ⟨rfl, rfl⟩
        · exact ⟨rfl, hg _ _⟩
      show (lookupKey Component.name other (modifyKey _ _ _ _)).map g = _
      rw [lookupKey_modifyKey fun _ _ => rfl]
      split_ifs with hother
      · rw [hother, hsame.1, (lookupKey_some_mem hfound).2, hfound]
        exact congrArg some hsame.2
      · rfl
    · rfl
  · split <;> rfl

theorem World.setComponent_self {world : World σ} (hkeyed : Keyed world) {component : Component}
    (hfound : lookupKey Component.name component.name world.components = some component) :
    world.setComponent component = world := by
  have hcomps := map_modifyKey_const (g := id) hkeyed.components hfound rfl
  rw [List.map_id, List.map_id] at hcomps
  rw [World.setComponent, hcomps]

theorem World.setHypervisor_self {world : World σ} (hkeyed : Keyed world) {hypervisor : Hypervisor}
    (hfound : lookupKey Hypervisor.name hypervisor.name world.hypervisors = some hypervisor) :
    world.setHypervisor hypervisor = world := by
  have hhyps := map_modifyKey_const (g := id) hkeyed.hypervisors hfound rfl
  rw [List.map_id, List.map_id] at hhyps
  rw [World.setHypervisor, hhyps]

/-- A request for a port that the component has changes nothing. -/
theorem run_requestPort_of_lookup {world : World σ} (hkeyed : Keyed world) {name portName : String}
    {found : Component} {port : Int64}
    (hfound : lookupKey Component.name name world.components = some found)
    (hport : found.allocatedHostPorts.lookup portName = some port) :
    (requestPort name portName).run world = .ok port world := by
  obtain ⟨hmem, hname⟩ := lookupKey_some_mem hfound
  rw [run_requestPort, hfound]
  dsimp only
  cases hhyp : world.componentHypervisor found with
  | none =>
    dsimp only
    rw [hport]
  | some hypervisor =>
    -- the component and the hypervisor are set to what they are
    have hreq : found.requestPort hypervisor portName = (.ok port, found, hypervisor) := by
      unfold Component.requestPort
      rw [hport]
    dsimp only
    rw [hreq]
    dsimp only
    rw [World.setComponent_self hkeyed (hname ▸ hfound), World.setHypervisor_self hkeyed
      (lookup_of_componentHypervisor hhyp).1]

theorem run_freePort (world : World σ) :
    (freePort name portName).run world =
      match lookupKey Component.name name world.components with
      | none => .error nilDereference world
      | some found =>
        match world.componentHypervisor found with
        | some hypervisor =>
          .ok () ((world.setComponent (found.freePort hypervisor portName).1).setHypervisor
            (found.freePort hypervisor portName).2)
        | none =>
          match found.allocatedHostPorts.lookup portName with
          | some _ => .error nilHypervisor world
          | none => .ok () world := by
  simp only [freePort, EStateM.run_bind, run_component]
  cases lookupKey Component.name name world.components with
  | none => rfl
  | some found =>
    simp only [EStateM.run_get]
    cases world.componentHypervisor found with
    | some hypervisor => rfl
    | none =>
      dsimp only
      cases found.allocatedHostPorts.lookup portName <;> rfl

theorem performs_requestPort (hallowed : p.requests name portName) :
    Performs p (requestPort name portName : ReconcileM σ Int64) := by
  intro world
  rw [run_requestPort]
  cases hcomp : lookupKey Component.name name world.components with
  | none => exact .refl
  | some found =>
    have hname : found.name = name := (lookupKey_some_mem hcomp).2
    subst hname
    dsimp only
    cases hhyp : world.componentHypervisor found with
    | none =>
      dsimp only
      cases found.allocatedHostPorts.lookup portName <;> exact .refl
    | some hypervisor =>
      dsimp only
      rcases hreq : found.requestPort hypervisor portName with
        ⟨message | port, component', hypervisor'⟩
      · exact .refl
      · exact .single (.requestPort hcomp hhyp hallowed hreq)

theorem performs_freePort (hallowed : p.frees name portName) :
    Performs p (freePort name portName : ReconcileM σ Unit) := by
  intro world
  rw [run_freePort]
  cases hcomp : lookupKey Component.name name world.components with
  | none => exact .refl
  | some found =>
    have hname : found.name = name := (lookupKey_some_mem hcomp).2
    subst hname
    dsimp only
    cases hhyp : world.componentHypervisor found with
    | none =>
      dsimp only
      cases found.allocatedHostPorts.lookup portName <;> exact .refl
    | some hypervisor => exact .single (.freePort hcomp hhyp hallowed)

end Primitives

section Going

variable {α : Type} {R : World σ → World σ → Prop} (hrefl : ∀ world, R world world) (name : String)

include hrefl

/-- A program that goes on with the component of that name. -/
theorem guarantees_bind_component {f : Component → ReconcileM σ α}
    (hf : ∀ found world, lookupKey Component.name found.name world.components = some found →
      found.name = name → R world (finalState ((f found).run world))) :
    Guarantees R (component name >>= f) := by
  intro world
  rw [EStateM.run_bind, run_component]
  cases hcomp : lookupKey Component.name name world.components with
  | none => exact hrefl world
  | some found =>
    have hname : found.name = name := (lookupKey_some_mem hcomp).2
    exact hf found world (hname ▸ hcomp) hname

/-- A program that goes on with the hypervisor of the component of that name. -/
theorem guarantees_bind_derefHypervisor {f : Hypervisor → ReconcileM σ α}
    (hf : ∀ found hypervisor world,
      lookupKey Component.name found.name world.components = some found → found.name = name →
      world.componentHypervisor found = some hypervisor →
      R world (finalState ((f hypervisor).run world))) :
    Guarantees R (derefHypervisor name >>= f) := by
  intro world
  rw [EStateM.run_bind, run_derefHypervisor]
  cases hcomp : lookupKey Component.name name world.components with
  | none => exact hrefl world
  | some found =>
    have hname : found.name = name := (lookupKey_some_mem hcomp).2
    dsimp only
    cases hhyp : world.componentHypervisor found with
    | none => exact hrefl world
    | some hypervisor => exact hf found hypervisor world (hname ▸ hcomp) hname hhyp

end Going

end Components

end OneInfra
