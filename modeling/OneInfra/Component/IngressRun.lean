import OneInfra.Component.Requests

/-!
# The start of the reconcile of an ingress

Up to the configuration of HAProxy, a reconcile of an ingress requests the port for the
API server for itself and for the control planes, and pulls an image.  How this part of the
run ends is decided by the objects at its start and by the answer about the image:
there is room for the ports or not, and the first control plane without an address
lacks its port or is on an unknown hypervisor.
-/

namespace OneInfra.Components.ControlPlaneIngress

open OneInfra.Lib OneInfra.Infra

variable {σ : Type} {world world' : World σ} {name : String}

/-! ## The loop over the control planes -/

/-- The loop requests a port for the control plane. -/
def isAsked (world : World σ) (component : Component) : Bool :=
  component.deletionTimestamp.isNone && (world.componentHypervisor component).isSome

theorem isAsked_congr (h : SameFrozen world world') : isAsked world' = isAsked world := by
  funext component
  rw [isAsked, isAsked, h.isSome_componentHypervisor rfl]

theorem run_addInputEndpoint_of_not_isAsked {component : Component}
    (hskipped : isAsked world component = false) :
    (addInputEndpoint name component).run world = .ok () world := by
  unfold addInputEndpoint
  split
  · rfl
  next hlive =>
  have hnone : world.componentHypervisor component = none := by
    simpa [isAsked, Option.not_isSome_iff_eq_none.mp hlive] using hskipped
  rw [EStateM.run_bind, EStateM.run_get]
  dsimp only
  rw [hnone]
  rfl

/-- A control plane that is asked for its port has a hypervisor, and the body goes on. -/
theorem run_addInputEndpoint_of_isAsked {component : Component}
    (hasked : isAsked world component = true) :
    ∃ hypervisor, world.componentHypervisor component = some hypervisor ∧
      (addInputEndpoint name component).run world = EStateM.run (do
        let apiserverHostPort ← requestPort component.name apiServerHostPortName
        let own ← Components.component name
        setEndpoints name (own.inputEndpoints.insert component.name
          (httpsURL hypervisor.ipAddress apiserverHostPort)) own.outputEndpoints) world := by
  obtain ⟨hlive, hknown⟩ := Bool.and_eq_true_iff.mp hasked
  obtain ⟨hypervisor, hhyp⟩ := Option.isSome_iff_exists.mp hknown
  refine ⟨hypervisor, hhyp, ?_⟩
  unfold addInputEndpoint
  rw [if_neg (by simpa using hlive), EStateM.run_bind, EStateM.run_get]
  dsimp only
  rw [hhyp]

theorem run_setEndpoints (hkeyed : Keyed world) {own : Component}
    (hown : lookupKey Component.name name world.components = some own)
    (inputEndpoints outputEndpoints : GoMap String String) (portName : String) :
    ∃ world', (setEndpoints name inputEndpoints outputEndpoints).run world = .ok () world' ∧
      Granted name portName [] world world' := by
  obtain ⟨-, rfl⟩ := lookupKey_some_mem hown
  exact ⟨_, run_bind_of_ok (by rw [run_component, hown]),
    .of_data hkeyed hown { own with
      inputEndpoints := inputEndpoints, outputEndpoints := outputEndpoints } rfl rfl portName⟩

/-- A known hypervisor is found again. -/
theorem run_derefHypervisor_of_known (h : SameFrozen world world') {own : Component}
    (hown : lookupKey Component.name own.name world.components = some own)
    (hknown : Known world own) :
    ∃ hypervisor, (derefHypervisor own.name).run world' = .ok hypervisor world' ∧
      hypervisor.name = own.hypervisorName := by
  obtain ⟨own', hown', hfrz⟩ := h.exists_lookup hown
  have hon := Component.hypervisorName_eq_of_frozen hfrz
  rw [Known, ← h.isSome_componentHypervisor hon] at hknown
  obtain ⟨hypervisor, hhyp⟩ := Option.isSome_iff_exists.mp hknown
  exact ⟨hypervisor, by simp only [run_derefHypervisor, hown', hhyp],
    (lookup_of_componentHypervisor hhyp).2.trans hon⟩

/-- One control plane: the port is granted, or the loop ends. -/
theorem run_addInputEndpoint_cases (hkeyed : Keyed world) {own component : Component}
    (hown : lookupKey Component.name own.name world.components = some own)
    (hfound : lookupKey Component.name component.name world.components = some component)
    (hne : own.name ≠ component.name) (hasked : isAsked world component = true) :
    (∃ message, (addInputEndpoint own.name component).run world = .error (.error message) world ∧
        ∀ rest, ¬ Available world apiServerHostPortName (component :: rest)) ∨
      ∃ world', (addInputEndpoint own.name component).run world = .ok () world' ∧
        Granted own.name apiServerHostPortName [component] world world' := by
  obtain ⟨hypervisor, hhyp, hbody⟩ :=
    @run_addInputEndpoint_of_isAsked σ world own.name component hasked
  rw [hbody]
  rcases run_requestPort_cases hkeyed hfound hhyp apiServerHostPortName with
    ⟨message, hrun, hnot⟩ | ⟨port, world₁, hrun, hgranted⟩
  · exact .inl ⟨message, run_bind_of_error hrun, hnot⟩
  · have hown₁ := ((hgranted component.name).lookup hne (by simpa using hne)).trans hown
    have hcomp : (Components.component own.name).run world₁ = .ok own world₁ := by
      rw [run_component, hown₁]
    obtain ⟨world₂, hset, hgranted₂⟩ := run_setEndpoints ((hgranted own.name).same.keyed hkeyed)
      hown₁ (own.inputEndpoints.insert component.name (httpsURL hypervisor.ipAddress port))
      own.outputEndpoints apiServerHostPortName
    rw [run_bind_of_ok hrun, run_bind_of_ok hcomp]
    exact .inr ⟨world₂, hset, (hgranted own.name).trans hgranted₂⟩

/-- The loop gets all its ports, or it ends with an error. -/
theorem run_addInputEndpoints_cases {components : List Component} (hkeyed : Keyed world)
    (hown : name ∈ world.components.map Component.name)
    (hcur : ∀ component ∈ components,
      lookupKey Component.name component.name world.components = some component)
    (hnd : (components.map Component.name).Nodup)
    (hnotMem : name ∉ components.map Component.name) :
    (∃ world', (addInputEndpoints name components).run world = .ok () world' ∧
        Granted name apiServerHostPortName (components.filter (isAsked world)) world world') ∨
      (∃ message world', (addInputEndpoints name components).run world =
          .error (.error message) world') ∧
        ¬ Available world apiServerHostPortName (components.filter (isAsked world)) := by
  unfold addInputEndpoints
  induction components generalizing world with
  | nil => exact .inl ⟨world, rfl, .refl name apiServerHostPortName world⟩
  | cons component components ih =>
    obtain ⟨hfound, hcur⟩ := List.forall_mem_cons.mp hcur
    rw [List.map_cons, List.nodup_cons] at hnd
    rw [List.map_cons, List.mem_cons, not_or] at hnotMem
    rw [forM_cons_eq]
    cases hasked : isAsked world component with
    | false =>
      rw [run_bind_of_ok (run_addInputEndpoint_of_not_isAsked hasked),
        List.filter_cons_of_neg (by simp [hasked])]
      exact ih hkeyed hown hcur hnd.2 hnotMem.2
    | true =>
      rw [List.filter_cons_of_pos hasked]
      obtain ⟨own, hlk⟩ : ∃ own, lookupKey Component.name name world.components = some own :=
        Option.ne_none_iff_exists'.mp fun hnone => lookupKey_eq_none_iff.mp hnone hown
      obtain ⟨-, rfl⟩ := lookupKey_some_mem hlk
      rcases run_addInputEndpoint_cases hkeyed hlk hfound hnotMem.1 hasked with
        ⟨message, hrun, hnot⟩ | ⟨world₁, hrun, hgranted⟩
      · exact .inr ⟨⟨message, world, run_bind_of_error hrun⟩, hnot _⟩
      -- the rest of the list is not touched
      have hcurrent₁ : ∀ other ∈ components,
          lookupKey Component.name other.name world₁.components = some other := by
        intro other hother
        rw [hgranted.lookup]
        · exact hcur other hother
        · exact fun heq => hnotMem.2 (heq ▸ List.mem_map_of_mem hother)
        · rw [List.map_singleton, List.mem_singleton]
          exact fun heq => hnd.1 (heq ▸ List.mem_map_of_mem hother)
      have hown₁ : own.name ∈ world₁.components.map Component.name := by
        rwa [hgranted.same.map_components Component.name fun _ => rfl]
      have hrest := ih (hgranted.same.keyed hkeyed) hown₁ hcurrent₁ hnd.2 hnotMem.2
      rw [isAsked_congr hgranted.same, hgranted.available] at hrest
      rw [run_bind_of_ok hrun]
      rcases hrest with ⟨world', hrun', hgranted'⟩ | hrest
      · exact .inl ⟨world', hrun', hgranted.trans hgranted'⟩
      · exact .inr hrest

/-! ## The endpoints -/

/-- The components for which a port is requested: the ingress and the control planes of the
loop. -/
def asking (world : World σ) (own : Component) : List Component :=
  own :: (world.clusterComponents .controlPlane).filter (isAsked world)

theorem nodup_clusterComponents (hkeyed : Keyed world) (role : Role) :
    ((world.clusterComponents role).map Component.name).Nodup :=
  hkeyed.components.sublist ((List.filter_sublist.trans List.filter_sublist).map _)

section Own

variable (hkeyed : Keyed world) {own : Component}
  (hown : lookupKey Component.name own.name world.components = some own)
  (hrole : own.role ≠ .controlPlane)

include hkeyed hown hrole

/-- The ingress is not one of the control planes, also later. -/
theorem ne_of_role_eq (h : SameFrozen world world') {component : Component}
    (hmem : component ∈ world'.components) (hctlPlane : component.role = .controlPlane) :
    component.name ≠ own.name := by
  intro hname
  have hroles := h.map_components (fun component => (component.name, component.role)) fun _ => rfl
  obtain ⟨source, hsource, heq⟩ := List.mem_map.mp (hroles ▸ List.mem_map_of_mem hmem)
  simp only [Prod.mk.injEq] at heq
  have hsame := List.inj_on_of_nodup_map hkeyed.components hsource (lookupKey_some_mem hown).1
    (heq.1.trans hname)
  exact hrole (hsame ▸ heq.2.trans hctlPlane)

/-- The control planes are as before while only the ingress has changed. -/
theorem clusterComponents_of_granted {portName : String} {granted : List Component}
    (h : Granted own.name portName granted world world')
    (hgranted : ∀ component ∈ granted, component.name = own.name) :
    world'.clusterComponents .controlPlane = world.clusterComponents .controlPlane := by
  have hfilter : ∀ between : World σ, SameFrozen world between →
      between.clusterComponents .controlPlane = between.components.filter fun component =>
        decide (component.name ≠ own.name) && (decide (component.role = .controlPlane) &&
          decide (component.namespace = world.cluster.namespace ∧
            component.clusterName = world.cluster.name)) := by
    intro between hsame
    unfold World.clusterComponents Component.withRole Component.withCluster
    rw [List.filter_filter, hsame.cluster]
    refine List.filter_congr fun component hmem => ?_
    by_cases hctlPlane : component.role = .controlPlane
    · simp [ne_of_role_eq hkeyed hown hrole hsame hmem hctlPlane]
    · simp [hctlPlane]
  rw [hfilter world' h.same, hfilter world (.refl world)]
  refine h.untouched _ fun component hcomp => ?_
  have hne := of_decide_eq_true (Bool.and_eq_true_iff.mp hcomp).1
  refine ⟨hne, fun hmem => ?_⟩
  obtain ⟨other, hother, heq⟩ := List.mem_map.mp hmem
  exact hne (heq.symm.trans (hgranted other hother))

/-- The endpoints are set, or there is no room for a port. -/
theorem run_reconcileInputAndOutputEndpoints_cases {hypervisor : Hypervisor}
    (hhyp : world.componentHypervisor own = some hypervisor) :
    (∃ world', (reconcileInputAndOutputEndpoints own.name).run world = .ok () world' ∧
        Granted own.name apiServerHostPortName (asking world own) world world') ∨
      (∃ message world', (reconcileInputAndOutputEndpoints own.name).run world =
          .error (.error message) world') ∧
        ¬ Available world apiServerHostPortName (asking world own) := by
  unfold reconcileInputAndOutputEndpoints
  rcases run_requestPort_cases hkeyed hown hhyp apiServerHostPortName with
    ⟨message, hrun, hnot⟩ | ⟨port, world₁, hrun, hgranted⟩
  · exact .inr ⟨⟨message, world, run_bind_of_error hrun⟩, hnot _⟩
  have hgranted := hgranted own.name
  rw [run_bind_of_ok hrun]
  -- the loop starts after the endpoints were set, with the control planes of the start
  obtain ⟨own₁, hown₁, -⟩ := hgranted.same.exists_lookup hown
  obtain ⟨hypervisor₁, hderef, -⟩ :=
    run_derefHypervisor_of_known hgranted.same hown (by rw [Known, hhyp]; rfl)
  obtain ⟨world₂, hset, hgranted₂⟩ := run_setEndpoints (hgranted.same.keyed hkeyed) hown₁ ∅
    ((∅ : GoMap String String).insert own.name (httpsURL hypervisor₁.ipAddress port))
    apiServerHostPortName
  replace hgranted₂ : Granted own.name apiServerHostPortName [own] world world₂ :=
    hgranted.trans hgranted₂
  have hkeyed₂ := hgranted₂.same.keyed hkeyed
  have hmem : own.name ∈ world₂.components.map Component.name := by
    rw [hgranted₂.same.map_components Component.name fun _ => rfl]
    exact List.mem_map_of_mem (lookupKey_some_mem hown).1
  have hnotMem : own.name ∉ (world₂.clusterComponents .controlPlane).map Component.name := by
    intro hname
    obtain ⟨component, hcomp, heq⟩ := List.mem_map.mp hname
    obtain ⟨hlisted, -, -, hctlPlane⟩ := mem_clusterComponents_iff.mp hcomp
    exact ne_of_role_eq hkeyed hown hrole hgranted₂.same hlisted hctlPlane heq
  have hcases := run_addInputEndpoints_cases hkeyed₂ hmem
    (fun component hlisted => (lookupKey_eq_some_iff hkeyed₂.components).mpr
      ⟨(mem_clusterComponents_iff.mp hlisted).1, rfl⟩)
    (nodup_clusterComponents hkeyed₂ .controlPlane) hnotMem
  have hlist := clusterComponents_of_granted hkeyed hown hrole hgranted₂ (by simp)
  rw [isAsked_congr hgranted₂.same, hgranted₂.available, hlist] at hcases
  rw [run_bind_of_ok hderef, run_bind_of_ok hset, EStateM.run_bind, EStateM.run_get]
  dsimp only
  rw [hlist]
  rcases hcases with ⟨world', hrun', hgranted'⟩ | hcases
  · exact .inl ⟨world', hrun', hgranted₂.trans hgranted'⟩
  · exact .inr hcases

end Own

/-! ## The addresses -/

/-- The control plane gets an address in the configuration of HAProxy. -/
def hasAddress (world : World σ) (component : Component) : Bool :=
  (world.componentHypervisor component).isSome &&
    ((component.allocatedHostPorts.lookup apiServerHostPortName).isSome ||
      component.deletionTimestamp.isNone)

/-- The first control plane without an address. -/
def firstWithoutAddress (world : World σ) : Option Component :=
  (world.clusterComponents .controlPlane).find? (!hasAddress world ·)

/-- The first control plane without a port or without a hypervisor ends the loop. -/
theorem mapM_apiServerAddress {components : List Component} {component : Component}
    (h : components.find? (fun component =>
      !((component.allocatedHostPorts.lookup apiServerHostPortName).isSome &&
        (world.componentHypervisor component).isSome)) = some component) :
    components.mapM (apiServerAddress world) = .error
      (if Holds component apiServerHostPortName then nilHypervisor
        else .error "apiserver host port not found") := by
  obtain ⟨hbad, before, after, hlist, hbef⟩ := List.find?_eq_some_iff_append.mp h
  refine mapM_eq_error_iff.mpr ⟨before, component, after, hlist, fun other hother => ?_, ?_⟩
  · have hgood := hbef other hother
    simp only [Bool.not_not, Bool.and_eq_true] at hgood
    obtain ⟨port, hport⟩ := Option.isSome_iff_exists.mp hgood.1
    obtain ⟨hypervisor, hhyp⟩ := Option.isSome_iff_exists.mp hgood.2
    simp only [apiServerAddress, hport, hhyp]
    exact ⟨_, rfl⟩
  · cases hport : component.allocatedHostPorts.lookup apiServerHostPortName with
    | none => simp [apiServerAddress, hport, Holds, throw, throwThe, MonadExceptOf.throw]
    | some port =>
      have hnone : world.componentHypervisor component = none := by simpa [hport] using hbad
      simp [apiServerAddress, hport, Holds, hnone, throw, throwThe, MonadExceptOf.throw]

theorem map_clusterComponents_view (world : World σ) (role : Role) (portName : String) :
    (world.clusterComponents role).map (fun component =>
        (component.frozen, (component.allocatedHostPorts.lookup portName).isSome)) =
      (portsView portName world).filter fun entry => decide (entry.1.role = role) &&
        decide (entry.1.namespace = world.cluster.namespace ∧
          entry.1.clusterName = world.cluster.name) := by
  unfold World.clusterComponents Component.withRole Component.withCluster portsView
  rw [List.filter_filter, List.filter_map]
  rfl

/-- The control planes once all ports were granted. -/
theorem map_clusterComponents_of_granted (hkeyed : Keyed world) {own : Component}
    (hown : lookupKey Component.name own.name world.components = some own)
    (hrole : own.role ≠ .controlPlane)
    (h : Granted own.name apiServerHostPortName (asking world own) world world') :
    (world'.clusterComponents .controlPlane).map (fun component => (component.frozen,
        (component.allocatedHostPorts.lookup apiServerHostPortName).isSome)) =
      (world.clusterComponents .controlPlane).map fun component => (component.frozen,
        (component.allocatedHostPorts.lookup apiServerHostPortName).isSome ||
          isAsked world component) := by
  rw [map_clusterComponents_view, h.ports, h.same.cluster, List.filter_map]
  have hview := map_clusterComponents_view world .controlPlane apiServerHostPortName
  rw [show ((fun entry : Component × Bool => decide (entry.1.role = .controlPlane) &&
      decide (entry.1.namespace = world.cluster.namespace ∧
        entry.1.clusterName = world.cluster.name)) ∘
      mark ((asking world own).map Component.name)) = fun entry =>
        decide (entry.1.role = .controlPlane) &&
          decide (entry.1.namespace = world.cluster.namespace ∧
            entry.1.clusterName = world.cluster.name) from rfl, ← hview, List.map_map]
  refine List.map_congr_left fun component hmem => ?_
  -- a control plane is marked if it is asked
  obtain ⟨hlisted, -, -, hctlPlane⟩ := mem_clusterComponents_iff.mp hmem
  have hne := ne_of_role_eq hkeyed hown hrole (.refl world) hlisted hctlPlane
  have hmark : component.name ∈ (asking world own).map Component.name ↔
      isAsked world component = true := by
    rw [asking, List.map_cons, List.mem_cons, or_iff_right hne]
    constructor
    · intro hname
      obtain ⟨other, hother, heq⟩ := List.mem_map.mp hname
      obtain ⟨hlisted', hasked⟩ := List.mem_filter.mp hother
      rwa [← List.inj_on_of_nodup_map hkeyed.components
        (mem_clusterComponents_iff.mp hlisted').1 hlisted heq]
    · exact fun hasked => List.mem_map_of_mem (List.mem_filter.mpr ⟨hmem, hasked⟩)
  simp only [Function.comp_apply, mark, Prod.mk.injEq, true_and]
  congr 1
  rw [Bool.eq_iff_iff, decide_eq_true_eq]
  exact hmark

/-- How the configuration of HAProxy fails is decided by the first control plane without an
address at the start. -/
theorem run_haProxyConfiguration_of_granted (outside : Outside σ) (hkeyed : Keyed world)
    {own : Component} (hown : lookupKey Component.name own.name world.components = some own)
    (hrole : own.role ≠ .controlPlane)
    (h : Granted own.name apiServerHostPortName (asking world own) world world')
    {backend : Component} (hbackend : firstWithoutAddress world = some backend) (s : σ) :
    (haProxyConfiguration outside).run { world' with outside := s } = .error
      (if Holds backend apiServerHostPortName then nilHypervisor
        else .error "apiserver host port not found") { world' with outside := s } := by
  have hviews := map_clusterComponents_of_granted hkeyed hown hrole h
  let misses (entry : Component × Bool) : Bool :=
    !(entry.2 && (world.componentHypervisor entry.1).isSome)
  have hfind := congrArg (List.find? misses) hviews
  rw [List.find?_map, List.find?_map] at hfind
  have hsame : (misses ∘ fun component : Component => (component.frozen,
      (component.allocatedHostPorts.lookup apiServerHostPortName).isSome ||
        isAsked world component)) = fun component => !hasAddress world component := by
    funext component
    simp only [misses, Function.comp_apply, hasAddress, isAsked]
    rw [show world.componentHypervisor component.frozen = world.componentHypervisor component
      from rfl]
    cases (world.componentHypervisor component).isSome <;>
      cases (component.allocatedHostPorts.lookup apiServerHostPortName).isSome <;>
        cases component.deletionTimestamp.isNone <;> rfl
  have hfirst : (world.clusterComponents .controlPlane).find? (!hasAddress world ·) =
      some backend :=
    hbackend
  rw [hsame, hfirst] at hfind
  obtain ⟨backend', hfound, hview⟩ := Option.map_eq_some_iff.mp hfind
  -- the one found was not asked, so it has no other port than before
  have hskipped : isAsked world backend = false := by
    have hmisses := List.find?_some hfirst
    rw [Bool.not_eq_true', hasAddress, Bool.and_eq_false_iff] at hmisses
    rw [isAsked, Bool.and_eq_false_iff]
    rcases hmisses with hunknown | hnone
    · exact .inr hunknown
    · exact .inl (Bool.or_eq_false_iff.mp hnone).2
  have hport : (backend'.allocatedHostPorts.lookup apiServerHostPortName).isSome =
      (backend.allocatedHostPorts.lookup apiServerHostPortName).isSome := by
    have hsnd := congrArg Prod.snd hview
    dsimp only at hsnd
    rwa [hskipped, Bool.or_false] at hsnd
  have herr : (world'.clusterComponents .controlPlane).mapM
      (apiServerAddress { world' with outside := s }) = .error
        (if Holds backend apiServerHostPortName then nilHypervisor
          else .error "apiserver host port not found") := by
    have hholds : Holds backend' apiServerHostPortName ↔ Holds backend apiServerHostPortName := by
      rw [Holds, Holds, hport]
    rw [← if_congr hholds rfl rfl]
    refine mapM_apiServerAddress (Eq.trans (congrArg (List.find? · _) ?_) hfound)
    funext component
    have hknown := h.same.isSome_componentHypervisor (show component.frozen.hypervisorName =
      component.frozen.hypervisorName from rfl)
    simp only [misses, Function.comp_apply]
    rw [← hknown]
    rfl
  rw [haProxyConfiguration, EStateM.run_bind, EStateM.run_get]
  dsimp only
  rw [show World.clusterComponents { world' with outside := s } .controlPlane =
    world'.clusterComponents .controlPlane from rfl, herr]
  rfl

/-! ## The reconcile -/

/-- The checks at the start of `Reconcile` pass. -/
def IngressReady (world : World σ) : Prop :=
  Component.allWithHypervisorAssigned (world.clusterComponents .controlPlane) ∧
    ((world.clusterComponents .controlPlane).length : Int) =
      world.cluster.controlPlaneReplicas.toInt

/-- The image of HAProxy is pulled on the hypervisor of the ingress. -/
def PullsImage (outside : Outside σ) (world : World σ) (own : Component) : Prop :=
  (outside.host own.hypervisorName ⟨world.cluster.namespace, world.cluster.name, own.name⟩
    (.ensureImage haProxyImage) world.outside).1 = .ok ()

theorem run_reconcile_of_not_ready (outside : Outside σ) (name : String)
    (hready : ¬ IngressReady world) :
    ∃ message, (reconcile outside name).run world = .error (.error message) world := by
  simp only [reconcile, cluster, EStateM.run_bind, EStateM.run_get, EStateM.run_pure]
  split
  · exact ⟨_, rfl⟩
  next hasg =>
  split
  · exact ⟨_, rfl⟩
  next hlen => exact absurd ⟨by simpa using hasg, by simpa using hlen⟩ hready

theorem run_reconcile_of_ready (outside : Outside σ) (name : String) (hready : IngressReady world) :
    (reconcile outside name).run world = EStateM.run (do
      let _ ← derefHypervisor name
      reconcileInputAndOutputEndpoints name
      host outside name (.ensureImage haProxyImage)
      let apiserverHostPort ← requestPort name apiServerHostPortName
      let haProxyConfig ← haProxyConfiguration outside
      uploadFiles outside name
        [(componentSecretsPathFile world.cluster.namespace world.cluster.name name "haproxy.cfg",
          haProxyConfig)]
      host outside name (.ensurePod (ingressPodName world.cluster) [(apiserverHostPort, 6443)])
      if world.cluster.vpn.enabled then reconcileWireguard outside name) world := by
  simp only [reconcile, cluster, EStateM.run_bind, EStateM.run_get, EStateM.run_pure]
  rw [if_neg (by simp [hready.1]), if_neg (not_not.mpr hready.2)]
  rfl

theorem run_callOutside_ok {α : Type} {call : σ → Except String α × σ} {a : α}
    (h : (call world.outside).1 = .ok a) : (callOutside call).run world =
      .ok a { world with outside := (call world.outside).2 } := by
  have hrun : (onOutside call).run world =
    .ok (call world.outside).1 { world with outside := (call world.outside).2 } := rfl
  rw [callOutside, run_bind_of_ok hrun, h]
  rfl

theorem run_callOutside_error {α : Type} {call : σ → Except String α × σ} {message : String}
    (h : (call world.outside).1 = .error message) : (callOutside call).run world =
      .error (.error message) { world with outside := (call world.outside).2 } := by
  have hrun : (onOutside call).run world =
    .ok (call world.outside).1 { world with outside := (call world.outside).2 } := rfl
  rw [callOutside, run_bind_of_ok hrun, h]
  rfl

/-- What a reconcile does that finds a control plane without an address: it reads a nil
hypervisor if it comes that far and the control plane holds its port, and it ends with an error
otherwise. -/
theorem run_reconcile_cases (outside : Outside σ) (hkeyed : Keyed world) {own : Component}
    (hown : lookupKey Component.name own.name world.components = some own)
    (hrole : own.role ≠ .controlPlane) (hready : IngressReady world) (hknown : Known world own)
    {backend : Component} (hbackend : firstWithoutAddress world = some backend) :
    (Available world apiServerHostPortName (asking world own) ∧ PullsImage outside world own ∧
        Holds backend apiServerHostPortName) ∧
        (∃ world', (reconcile outside own.name).run world = .error nilHypervisor world') ∨
      ¬ (Available world apiServerHostPortName (asking world own) ∧ PullsImage outside world own ∧
        Holds backend apiServerHostPortName) ∧
        ∃ message world', (reconcile outside own.name).run world =
          .error (.error message) world' := by
  obtain ⟨hypervisor, hhyp⟩ := Option.isSome_iff_exists.mp hknown
  obtain ⟨_, hderef, -⟩ := run_derefHypervisor_of_known (.refl world) hown hknown
  rw [run_reconcile_of_ready outside own.name hready, run_bind_of_ok hderef]
  rcases run_reconcileInputAndOutputEndpoints_cases hkeyed hown hrole hhyp with
    ⟨world₁, hrun, hgranted⟩ | ⟨⟨message, world₁, hrun⟩, hnot⟩
  swap
  · exact .inr ⟨fun h => hnot h.1, message, world₁, run_bind_of_error hrun⟩
  rw [run_bind_of_ok hrun]
  have havail : Available world apiServerHostPortName (asking world own) := by
    rw [← List.append_nil (asking world own), ← hgranted.available]
    exact fun _ _ => trivial
  -- the image is pulled on the hypervisor of the same name, and nothing else has changed outside
  obtain ⟨hypervisor₁, hderef₁, hname⟩ := run_derefHypervisor_of_known hgranted.same hown hknown
  have hhost : (host outside own.name (.ensureImage haProxyImage)).run world₁ =
      (callOutside (outside.host own.hypervisorName
        ⟨world.cluster.namespace, world.cluster.name, own.name⟩
          (.ensureImage haProxyImage))).run world₁ := by
    rw [host, run_bind_of_ok hderef₁, hname, ← hgranted.same.cluster]
    rfl
  cases hpulled : (outside.host own.hypervisorName
      ⟨world.cluster.namespace, world.cluster.name, own.name⟩ (.ensureImage haProxyImage)
      world₁.outside).1 with
  | error message =>
    refine .inr ⟨fun h => ?_, message, _,
      run_bind_of_error (hhost.trans (run_callOutside_error hpulled))⟩
    have hpulls := h.2.1
    rw [PullsImage, ← hgranted.outside, hpulled] at hpulls
    cases hpulls
  | ok _ =>
    have hpulls : PullsImage outside world own := by
      rw [PullsImage, ← hgranted.outside]
      exact hpulled
    rw [run_bind_of_ok (hhost.trans (run_callOutside_ok hpulled))]
    -- the ingress holds its port now
    obtain ⟨own₁, hown₁, -⟩ := hgranted.same.exists_lookup hown
    obtain ⟨hmem₁, hname₁⟩ := lookupKey_some_mem hown₁
    obtain ⟨port, hport⟩ := Option.isSome_iff_exists.mp
      (hgranted.holds hmem₁ (hname₁ ▸ List.mem_cons_self))
    have hreq (s : σ) : (requestPort own.name apiServerHostPortName).run
        { world₁ with outside := s } = .ok port { world₁ with outside := s } := by
      have hkeyed₁ : Keyed { world₁ with outside := s } :=
        ⟨(hgranted.same.keyed hkeyed).hypervisors, (hgranted.same.keyed hkeyed).components⟩
      exact run_requestPort_of_lookup hkeyed₁ hown₁ hport
    rw [run_bind_of_ok (hreq _)]
    have hfails := run_haProxyConfiguration_of_granted outside hkeyed hown hrole hgranted hbackend
    by_cases hheld : Holds backend apiServerHostPortName
    · rw [if_pos hheld] at hfails
      exact .inl ⟨⟨havail, hpulls, hheld⟩, _, run_bind_of_error (hfails _)⟩
    · rw [if_neg hheld] at hfails
      exact .inr ⟨fun h => hheld h.2.2, _, _, run_bind_of_error (hfails _)⟩

end OneInfra.Components.ControlPlaneIngress
