import OneInfra.Component.Performs
import OneInfra.Infra.PortRoom

/-!
# Requests for ports

What becomes of a request for a port is known before it is made: a component that
holds the port keeps it, and otherwise its hypervisor needs room.  `Granted` says what
a sequence of requests has done once all of them were granted, and `Available` is the
condition for it, over all hypervisors.
-/

namespace OneInfra.Components

open OneInfra.Lib OneInfra.Infra

variable {σ : Type}

/-- The hypervisor of a component is known. -/
def Known (world : World σ) (component : Component) : Prop :=
  (world.componentHypervisor component).isSome

/-- The component holds the port. -/
def Holds (component : Component) (pname : String) : Prop :=
  (component.allocatedHostPorts.lookup pname).isSome

instance (component : Component) (pname : String) : Decidable (Holds component pname) :=
  inferInstanceAs (Decidable (_ = true))

/-- The key under which a component gets a port. -/
def portKey (component : Component) (pname : String) : PortKey :=
  (component.namespace, component.clusterName, component.withSubcomponentName pname)

/-- The keys of the ports that the component lacks. -/
def lackedKeys (component : Component) (portNames : List String) : List PortKey :=
  (portNames.filter fun pname => (component.allocatedHostPorts.lookup pname).isNone).map
    (portKey component)

/-- The keys under which the hypervisor of that name is asked for a port. -/
def keysOn (pname : String) (components : List Component) (hypervisorName : String) :
    List PortKey :=
  (components.filter fun component => decide (component.hypervisorName = hypervisorName) &&
    (component.allocatedHostPorts.lookup pname).isNone).map (portKey · pname)

/-- All the components can get the port, one after the other. -/
def Available (world : World σ) (pname : String) (components : List Component) : Prop :=
  ∀ hypervisor ∈ world.hypervisors, hypervisor.Serves (keysOn pname components hypervisor.name)

/-! ## Keys -/

theorem portKey_inj {component comp' : Component} {pname : String}
    (h : portKey component pname = portKey comp' pname) :
    component.name = comp'.name := by
  have htext := congrArg (fun key : PortKey => key.2.2.toList) h
  simp only [portKey, Component.withSubcomponentName, String.toList_append] at htext
  exact String.toList_inj.mp (List.append_cancel_right (List.append_cancel_right htext))

theorem nodup_keysOn {pname : String} {components : List Component}
    (hnd : (components.map Component.name).Nodup) (hyp : String) :
    (keysOn pname components hyp).Nodup := by
  have hnames := hnd.sublist (List.filter_sublist (p := fun component =>
    decide (component.hypervisorName = hyp) &&
      (component.allocatedHostPorts.lookup pname).isNone).map Component.name)
  rw [List.Nodup, List.pairwise_map] at hnames
  rw [keysOn, List.Nodup, List.pairwise_map]
  exact hnames.imp fun hne heq => hne (portKey_inj heq)

/-- Whether the ports are available is a matter of room. -/
theorem available_iff {world : World σ} {pname : String} {components : List Component}
    (hnd : (components.map Component.name).Nodup) :
    Available world pname components ↔ ∀ hypervisor ∈ world.hypervisors,
      hypervisor.HasRoom
        ((keysOn pname components hypervisor.name).countP hypervisor.isNew) :=
  forall₂_congr fun _ _ => Hypervisor.serves_iff (nodup_keysOn hnd _)

theorem keysOn_cons (pname : String) (component : Component) (components : List Component)
    (hyp : String) :
    keysOn pname (component :: components) hyp =
      if component.hypervisorName = hyp then
        lackedKeys component [pname] ++ keysOn pname components hyp
      else keysOn pname components hyp := by
  by_cases hasg : component.hypervisorName = hyp <;>
    cases hport : component.allocatedHostPorts.lookup pname <;>
      simp [keysOn, lackedKeys, hasg, hport]

/-! ## One request -/

/-- A component gets the port, or the keys it asks for are not served. -/
theorem requestPort_serves (component : Component) (hypervisor : Hypervisor) (pname : String) :
    (∃ message, component.requestPort hypervisor pname = (.error message, component, hypervisor) ∧
        ∀ rest, ¬ hypervisor.Serves (lackedKeys component [pname] ++ rest)) ∨
      ∃ port comp' hyp', component.requestPort hypervisor pname =
        (.ok port, comp', hyp') ∧ Holds comp' pname ∧
        ∀ rest, hypervisor.Serves (lackedKeys component [pname] ++ rest) ↔
          hyp'.Serves rest := by
  unfold Component.requestPort lackedKeys Holds
  cases hheld : component.allocatedHostPorts.lookup pname with
  | some port => exact .inr ⟨port, component, hypervisor, rfl, by simp [hheld], by simp [hheld]⟩
  | none =>
    dsimp only
    have hkey : hypervisor.requestKey (portKey component pname) = hypervisor.requestPort
        component.namespace component.clusterName (component.withSubcomponentName pname) := rfl
    rw [← hkey]
    rcases hypervisor.requestPort_cases component.namespace component.clusterName
        (component.withSubcomponentName pname) with
      ⟨port, -, heq⟩ | ⟨-, port, heq⟩ | ⟨-, message, heq⟩
    · rw [hkey, heq]
      refine .inr ⟨port, _, _, rfl, by simp, fun rest => ?_⟩
      simp [hheld, Hypervisor.Serves, hkey, heq]
    · rw [hkey, heq]
      refine .inr ⟨port, _, _, rfl, by simp, fun rest => ?_⟩
      simp [hheld, Hypervisor.Serves, hkey, heq]
    · rw [hkey, heq]
      refine .inl ⟨message, rfl, fun rest => ?_⟩
      simp [hheld, Hypervisor.Serves, hkey, heq]

/-! ## Several requests -/

/-- The components, each with whether it holds the port. -/
def portsView (pname : String) (world : World σ) : List (Component × Bool) :=
  world.components.map fun component =>
    (component.frozen, (component.allocatedHostPorts.lookup pname).isSome)

/-- A component of one of the names holds the port now. -/
def mark (names : List String) (entry : Component × Bool) : Component × Bool :=
  (entry.1, entry.2 || decide (entry.1.name ∈ names))

/-- The components were granted the port.  Besides them only the component of the name
`own` has changed. -/
structure Granted (own pname : String) (granted : List Component) (world world' : World σ) :
    Prop where
  same : SameFrozen world world'
  outside : world'.outside = world.outside
  ports : portsView pname world' = (portsView pname world).map (mark (granted.map Component.name))
  untouched : ∀ p : Component → Bool,
    (∀ component, p component = true →
      component.name ≠ own ∧ component.name ∉ granted.map Component.name) →
    world'.components.filter p = world.components.filter p
  available : ∀ rest, Available world' pname rest ↔ Available world pname (granted ++ rest)

namespace Granted

variable {own pname : String} {granted granted' : List Component}
  {world world' world'' : World σ}

theorem refl (own pname : String) (world : World σ) :
    Granted own pname [] world world where
  same := .refl world
  outside := rfl
  ports := by
    have hmark : mark ([].map Component.name) = id := by
      funext entry
      simp [mark]
    rw [hmark, List.map_id]
  untouched _ _ := rfl
  available _ := Iff.rfl

theorem trans (h : Granted own pname granted world world')
    (h' : Granted own pname granted' world' world'') :
    Granted own pname (granted ++ granted') world world'' where
  same := h.same.trans h'.same
  outside := h'.outside.trans h.outside
  ports := by
    rw [h'.ports, h.ports, List.map_map]
    refine List.map_congr_left fun entry _ => ?_
    simp [mark, Bool.or_assoc]
  untouched p hp := by
    simp only [List.map_append, List.mem_append, not_or] at hp
    rw [h'.untouched p fun component hcomp => ⟨(hp component hcomp).1,
      (hp component hcomp).2.2⟩]
    exact h.untouched p fun component hcomp => ⟨(hp component hcomp).1,
      (hp component hcomp).2.1⟩
  available rest := by rw [h'.available, h.available, List.append_assoc]

theorem lookup (h : Granted own pname granted world world') {name : String} (hown : name ≠ own)
    (hname : name ∉ granted.map Component.name) :
    lookupKey Component.name name world'.components =
      lookupKey Component.name name world.components := by
  unfold lookupKey
  rw [← List.head?_filter, ← List.head?_filter, h.untouched]
  intro component hcomp
  rw [of_decide_eq_true hcomp]
  exact ⟨hown, hname⟩

theorem holds (h : Granted own pname granted world world') {component : Component}
    (hmem : component ∈ world'.components) (hname : component.name ∈ granted.map Component.name) :
    Holds component pname := by
  have hview : (component.frozen, (component.allocatedHostPorts.lookup pname).isSome) ∈
      portsView pname world' := List.mem_map_of_mem hmem
  rw [h.ports] at hview
  obtain ⟨entry, -, heq⟩ := List.mem_map.mp hview
  have hfrz : entry.1 = component.frozen := congrArg Prod.fst heq
  have hmark : (entry.2 || decide (entry.1.name ∈ granted.map Component.name)) =
    (component.allocatedHostPorts.lookup pname).isSome := congrArg Prod.snd heq
  have hmarked : entry.1.name ∈ granted.map Component.name := by
    rw [hfrz]
    exact hname
  rw [Holds, ← hmark, decide_eq_true hmarked, Bool.or_true]

variable (hkeyed : Keyed world) {component : Component}
  (hfound : lookupKey Component.name component.name world.components = some component)

include hkeyed hfound

theorem of_data (comp' : Component) (hfrz : comp'.frozen = component.frozen)
    (hports : comp'.allocatedHostPorts = component.allocatedHostPorts) (pname : String) :
    Granted component.name pname [] world (world.setComponent comp') := by
  have hname := Component.name_eq_of_frozen hfrz
  refine ⟨.setComponent hkeyed hfound hfrz, rfl, ?_, fun p hp => ?_, fun rest => Iff.rfl⟩
  · rw [← (Granted.refl component.name pname world).ports]
    exact map_modifyKey_const hkeyed.components (hname ▸ hfound)
      (by rw [hfrz, hports])
  · exact filter_modifyKey (fun other hother => hname ▸ (hp other hother).1) fun _ _ => rfl

theorem of_requestPort {comp' : Component} {hypervisor hyp' : Hypervisor}
    {port : Int64}
    (hhyp : world.componentHypervisor component = some hypervisor)
    (hreq : component.requestPort hypervisor pname = (.ok port, comp', hyp'))
    (hheld : Holds comp' pname)
    (hserves : ∀ rest, hypervisor.Serves (lackedKeys component [pname] ++ rest) ↔
      hyp'.Serves rest) (own : String) :
    Granted own pname [component] world
      ((world.setComponent comp').setHypervisor hyp') := by
  obtain ⟨hfrz, hfrz'⟩ := Component.frozen_requestPort hreq
  have hname := Component.name_eq_of_frozen hfrz
  have hname' := Hypervisor.name_eq_of_frozen hfrz'
  obtain ⟨hlk, hasg⟩ := lookup_of_componentHypervisor hhyp
  have hfirst := SameFrozen.setComponent hkeyed hfound hfrz
  refine ⟨hfirst.trans (.setHypervisor (hfirst.keyed hkeyed) hlk hfrz'), rfl, ?_, ?_, ?_⟩
  · -- the component is the only one of its name
    show (modifyKey _ _ _ world.components).map _ = (world.components.map _).map _
    rw [modifyKey, List.map_map, List.map_map]
    refine List.map_congr_left fun other hother => ?_
    simp only [Function.comp_apply, mark, List.map_cons, List.map_nil, List.mem_singleton]
    by_cases hsame : other.name = comp'.name
    · have heq : other = component := List.inj_on_of_nodup_map hkeyed.components hother
        (lookupKey_some_mem hfound).1 (hsame.trans hname)
      rw [if_pos hsame, hfrz, heq]
      rw [show (comp'.allocatedHostPorts.lookup pname).isSome = true from hheld]
      simp [Component.frozen]
    · rw [if_neg hsame]
      rw [hname] at hsame
      simp [Component.frozen, hsame]
  · intro p hp
    refine filter_modifyKey (fun other hother => ?_) fun _ _ => rfl
    rw [hname]
    exact fun heq => (hp other hother).2 (List.mem_singleton.mpr heq)
  · -- the keys of the component are asked for on its own hypervisor
    intro rest
    have hthis : hyp'.Serves (keysOn pname rest hyp'.name) ↔
        hypervisor.Serves (keysOn pname ([component] ++ rest) hypervisor.name) := by
      rw [List.singleton_append, keysOn_cons, if_pos hasg.symm, hserves, hname']
    constructor
    · intro havail other hother
      by_cases hsame : other.name = hypervisor.name
      · rw [List.inj_on_of_nodup_map hkeyed.hypervisors hother (lookupKey_some_mem hlk).1 hsame]
        refine hthis.mp (havail hyp' (mem_modifyKey.mpr (.inr ?_)))
        exact ⟨hypervisor, (lookupKey_some_mem hlk).1, hname'.symm, rfl⟩
      · rw [List.singleton_append, keysOn_cons, if_neg fun h => hsame (h.symm.trans hasg.symm)]
        exact havail other (mem_modifyKey.mpr (.inl ⟨hother, hname' ▸ hsame⟩))
    · intro havail other hother
      rcases mem_modifyKey.mp hother with ⟨hother, hne⟩ | ⟨source, -, -, rfl⟩
      · have hserved := havail other hother
        rw [hname'] at hne
        rwa [List.singleton_append, keysOn_cons,
          if_neg fun h => hne (h.symm.trans hasg.symm)] at hserved
      · exact hthis.mpr (havail hypervisor (lookupKey_some_mem hlk).1)

end Granted

/-- A request is granted, or it ends with an error and the port was not available. -/
theorem run_requestPort_cases {world : World σ} (hkeyed : Keyed world) {component : Component}
    {hypervisor : Hypervisor}
    (hfound : lookupKey Component.name component.name world.components = some component)
    (hhyp : world.componentHypervisor component = some hypervisor)
    (pname : String) :
    (∃ message, (requestPort component.name pname).run world = .error (.error message) world ∧
        ∀ rest, ¬ Available world pname (component :: rest)) ∨
      ∃ port world', (requestPort component.name pname).run world = .ok port world' ∧
        ∀ own, Granted own pname [component] world world' := by
  rcases requestPort_serves component hypervisor pname with
    ⟨message, hreq, hnot⟩ | ⟨port, comp', hyp', hreq, hheld, hserves⟩
  · refine .inl ⟨message, by simp only [run_requestPort, hfound, hhyp, hreq], ?_⟩
    intro rest havail
    obtain ⟨hlk, hasg⟩ := lookup_of_componentHypervisor hhyp
    have hserved := havail hypervisor (lookupKey_some_mem hlk).1
    rw [keysOn_cons, if_pos hasg.symm] at hserved
    exact hnot _ hserved
  · exact .inr ⟨port, _, by simp only [run_requestPort, hfound, hhyp, hreq],
      .of_requestPort hkeyed hfound hhyp hreq hheld hserves⟩

/-! ## The ports of a component -/

/-- The ports that `PreReconcile` requests. -/
def requestedPorts (cluster : Cluster) : Role → List String
  | .controlPlane => [apiServerHostPortName, etcdPeerHostPortName, etcdClientHostPortName]
  | .controlPlaneIngress =>
    if cluster.vpn.enabled then [apiServerHostPortName, wireguardHostPortName]
    else [apiServerHostPortName]
  | .unknown => []

theorem nodup_requestedPorts (cluster : Cluster) (role : Role) :
    (requestedPorts cluster role).Nodup := by
  unfold requestedPorts
  split
  · decide
  · split <;> decide
  · exact List.nodup_nil

theorem lackedKeys_cons (component : Component) (pname : String) (portNames : List String) :
    lackedKeys component (pname :: portNames) =
      lackedKeys component [pname] ++ lackedKeys component portNames := by
  unfold lackedKeys
  rw [← List.singleton_append, List.filter_append, List.map_append]

/-- A request for another port does not change what is lacking. -/
theorem lackedKeys_requestPort {component comp' : Component}
    {hypervisor hyp' : Hypervisor} {pname : String} {port : Int64}
    (h : component.requestPort hypervisor pname = (.ok port, comp', hyp'))
    {portNames : List String} (hnotMem : pname ∉ portNames) :
    lackedKeys comp' portNames = lackedKeys component portNames := by
  have hkey : portKey comp' = portKey component := by
    obtain ⟨hfrz, -⟩ := Component.frozen_requestPort h
    have hkeys : portKey comp'.frozen = portKey component.frozen := congrArg portKey hfrz
    exact hkeys
  unfold lackedKeys
  rw [hkey]
  refine congrArg (List.map _) (List.filter_congr fun other hother => ?_)
  have hne : other ≠ pname := fun heq => hnotMem (heq ▸ hother)
  rcases Component.requestPort_cases h with ⟨-, rfl, -⟩ | ⟨-, rfl, -⟩
  · rfl
  · simp [Finmap.lookup_insert_of_ne _ hne]

/-- A component on a known hypervisor gets its ports if there is room for them. -/
theorem run_requestPorts_cases {world : World σ} (hkeyed : Keyed world) {component : Component}
    {hypervisor : Hypervisor}
    (hfound : lookupKey Component.name component.name world.components = some component)
    (hhyp : world.componentHypervisor component = some hypervisor)
    {portNames : List String} (hnd : portNames.Nodup) :
    (∃ world', (requestPorts component.name portNames).run world = .ok () world') ∨
      (∃ message world', (requestPorts component.name portNames).run world =
          .error (.error message) world') ∧
        ¬ hypervisor.Serves (lackedKeys component portNames) := by
  unfold requestPorts
  induction portNames generalizing world component hypervisor with
  | nil => exact .inl ⟨world, rfl⟩
  | cons pname portNames ih =>
    obtain ⟨hnotMem, hnd⟩ := List.nodup_cons.mp hnd
    rw [forM_cons_eq, bind_assoc, lackedKeys_cons]
    rcases requestPort_serves component hypervisor pname with
      ⟨message, hreq, hnot⟩ | ⟨port, comp', hyp', hreq, -, hserves⟩
    · have hrun : (requestPort component.name pname).run world = .error (.error message) world := by
        simp only [run_requestPort, hfound, hhyp, hreq]
      exact .inr ⟨⟨message, world, run_bind_of_error hrun⟩, hnot _⟩
    · have hrun : (requestPort component.name pname).run world =
          .ok port ((world.setComponent comp').setHypervisor hyp') := by
        simp only [run_requestPort, hfound, hhyp, hreq]
      obtain ⟨hfrz, hfrz'⟩ := Component.frozen_requestPort hreq
      have hname := Component.name_eq_of_frozen hfrz
      have hon := Component.hypervisorName_eq_of_frozen hfrz
      have hname' := Hypervisor.name_eq_of_frozen hfrz'
      obtain ⟨hlk, hasg⟩ := lookup_of_componentHypervisor hhyp
      have hfirst := SameFrozen.setComponent hkeyed hfound hfrz
      have hsame := hfirst.trans (.setHypervisor (hfirst.keyed hkeyed) hlk hfrz')
      -- the rest goes on with the component and the hypervisor after the request
      rw [run_bind_of_ok hrun, hserves, ← lackedKeys_requestPort hreq hnotMem, ← hname]
      refine ih (hsame.keyed hkeyed) ?_ ?_ hnd
      · show lookupKey Component.name comp'.name (modifyKey _ _ _ _) = _
        rw [lookupKey_modifyKey fun _ _ => rfl, if_pos rfl, hname, hfound]
        rfl
      · show lookupKey Hypervisor.name comp'.hypervisorName (modifyKey _ _ _ _) = _
        rw [lookupKey_modifyKey fun _ _ => rfl, hon, ← hasg, if_pos hname'.symm, hname']
        exact congrArg (Option.map _) hlk

/-- A nil hypervisor is read for the first port that the component lacks. -/
theorem run_requestPorts_of_unknown {world : World σ} {component : Component}
    (hfound : lookupKey Component.name component.name world.components = some component)
    (hunknown : world.componentHypervisor component = none) (portNames : List String) :
    ((requestPorts component.name portNames).run world = .ok () world ∧
        ∀ pname ∈ portNames, Holds component pname) ∨
      (requestPorts component.name portNames).run world = .error nilHypervisor world ∧
        ¬ ∀ pname ∈ portNames, Holds component pname := by
  unfold requestPorts
  induction portNames with
  | nil => exact .inl ⟨rfl, by simp⟩
  | cons pname portNames ih =>
    have hreq := run_requestPort component.name pname world
    simp only [hfound, hunknown] at hreq
    rw [forM_cons_eq, bind_assoc, List.forall_mem_cons]
    cases hport : component.allocatedHostPorts.lookup pname with
    | none =>
      rw [hport] at hreq
      exact .inr ⟨run_bind_of_error hreq, fun h => absurd h.1 (by simp [Holds, hport])⟩
    | some port =>
      rw [hport] at hreq
      rw [run_bind_of_ok hreq]
      have hheld : Holds component pname := by simp [Holds, hport]
      rcases ih with ⟨hrun, hall⟩ | ⟨hrun, hnot⟩
      · exact .inl ⟨hrun, hheld, hall⟩
      · exact .inr ⟨hrun, fun h => hnot h.2⟩

/-- `PreReconcile` of a component is a check of its hypervisor and a request for its ports. -/
theorem run_preReconcile (outside : Outside σ) {world : World σ} {component : Component}
    (hfound : lookupKey Component.name component.name world.components = some component)
    {operations : ComponentOperations σ}
    (hops : retrieveComponent outside component.role = some operations) :
    (operations.preReconcile component.name).run world =
      if component.hypervisorName = "" then .error (noHypervisorAssigned component.name) world
      else
        (requestPorts component.name (requestedPorts world.cluster component.role)).run world := by
  have hcomp : (Components.component component.name).run world = .ok component world := by
    rw [run_component, hfound]
  cases hrole : component.role with
  | unknown =>
    rw [hrole] at hops
    cases hops
  | controlPlane =>
    rw [hrole] at hops
    cases hops
    show (ControlPlane.preReconcile component.name).run world = _
    unfold ControlPlane.preReconcile
    rw [run_bind_of_ok hcomp]
    split <;> rfl
  | controlPlaneIngress =>
    rw [hrole] at hops
    cases hops
    show (ControlPlaneIngress.preReconcile component.name).run world = _
    unfold ControlPlaneIngress.preReconcile
    rw [run_bind_of_ok hcomp]
    split
    · rfl
    show EStateM.run (requestPorts component.name [apiServerHostPortName] >>= fun _ =>
      cluster >>= fun cluster => _) world = _
    -- the requests do not change whether there is a VPN
    have hsplit : requestPorts (σ := σ) component.name
        [apiServerHostPortName, wireguardHostPortName] =
          requestPorts component.name [apiServerHostPortName] >>= fun _ =>
            requestPorts component.name [wireguardHostPortName] := by
      simp [requestPorts]
    cases hrun : (requestPorts component.name [apiServerHostPortName]).run world with
    | error fault world' =>
      rw [run_bind_of_error hrun, requestedPorts]
      split
      · rw [hsplit, run_bind_of_error hrun]
      · exact hrun.symm
    | ok _ world' =>
      have hsteps : Steps anyPorts world world' :=
        (performs_requestPorts fun _ _ => trivial).of_run hrun
      have hcl : (cluster : ReconcileM σ Cluster).run world' = .ok world.cluster world' := by
        rw [← hsteps.cluster_eq]
        rfl
      rw [run_bind_of_ok hrun, run_bind_of_ok hcl, requestedPorts]
      split
      · rw [hsplit, run_bind_of_ok hrun]
      · exact hrun.symm

end OneInfra.Components
