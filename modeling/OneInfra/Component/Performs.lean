import OneInfra.Component.Logic

/-!
# The steps of the components

For every function of the control plane and of the ingress, this file says which
steps it makes.  A control plane requests the port of its own etcd member, and the
ports for the API server and for the clients of etcd also of others.  An ingress
requests the port for the VPN for itself.  Only a deletion frees ports, and only
those of the component that is deleted.
-/

namespace OneInfra.Components

open OneInfra.Lib OneInfra.Infra

variable {σ : Type}

/-! ## The logic of the steps -/

section Logic

variable (p : Permissions) (outside : Outside σ) (name : String)

/-- To make permitted steps only. -/
def Performs.logic : Logic σ where
  Holds x := Performs p x
  Reads _ := True
  Uploads _ _ _ := True
  onOutside _ _ := .single (.outside _ _)
  quiet hx world := by
    show Steps p world _
    rw [hx.same]
  bind_cluster hf := .bind (.bind .get fun _ => .pure _) fun cluster => hf cluster trivial
  bind := .bind
  attempt := .attempt

theorem Performs.tolerant : (Performs.logic p : Logic σ).Tolerant := ⟨.throw⟩

theorem Performs.hasData : (Performs.logic p : Logic σ).HasData name where
  bind_component hf := by
    refine guarantees_bind_component (fun _ => .refl) _ fun found world hcomp hname => ?_
    obtain ⟨a, comp', hrun, hfrz, hports⟩ := hf found world hcomp hname
    rw [hrun]
    exact .single (.data hcomp hfrz hports)

theorem Performs.bindsHypervisor : (Performs.logic p : Logic σ).BindsHypervisor name where
  derefHypervisor := (Performs.tolerant p).derefHypervisor name
  bind_derefHypervisor hf := by
    refine guarantees_bind_derefHypervisor (fun _ => .refl) name
      fun found hypervisor world hcomp hname hhyp => ?_
    obtain ⟨a, hyp', hrun, hsteps⟩ := hf found hypervisor world hcomp hname hhyp
    rw [hrun]
    exact hsteps.lift id fun _ _ => WorldStep.mono ⟨fun _ _ => False.elim, fun _ _ => False.elim⟩

theorem Performs.serves : (Performs.logic p).ServesCertificates outside name :=
  (Performs.tolerant p).serves (Performs.hasData p name) (fun _ _ _ _ => trivial)
    fun _ files _ _ => (Performs.bindsHypervisor p name).uploadFiles outside files

theorem performs_host (call : HostCall) : Performs p (host outside name call) :=
  (Performs.serves p outside name).host call

end Logic

/-! ## The control plane -/

namespace ControlPlane

/-- What reconciling a control plane may do. -/
def reconcilePermissions (name : String) : Permissions where
  requests other portName := portName = apiServerHostPortName ∨
    portName = etcdClientHostPortName ∨ (other = name ∧ portName = etcdPeerHostPortName)
  frees _ _ := False

/-- What deleting a control plane may do. -/
def deletionPermissions (name : String) : Permissions where
  requests other portName :=
    portName = etcdClientHostPortName ∨ (other = name ∧ portName = etcdPeerHostPortName)
  frees other portName := other = name ∧ portName ∈ hostPortNames

variable {p : Permissions} (outside : Outside σ) (name : String)

theorem servesEtcd (hclient : ∀ name, p.requests name etcdClientHostPortName)
    (hpeer : p.requests name etcdPeerHostPortName) :
    (Performs.logic p).ServesEtcd outside name :=
  (Performs.serves p outside name).toServesEtcd (fun _ => performs_requestPort _ _ (hclient _))
    (performs_requestPort _ _ hpeer)

theorem servesControlPlane :
    (Performs.logic (reconcilePermissions name)).ServesControlPlane outside name := by
  have hclient : ∀ other, (reconcilePermissions name).requests other etcdClientHostPortName :=
    fun _ => .inr (.inl rfl)
  have hpeer : (reconcilePermissions name).requests name etcdPeerHostPortName :=
    .inr (.inr ⟨rfl, rfl⟩)
  have hrecord (container : EtcdContainer) :
      Performs (reconcilePermissions name) (Logic.recordEtcdContainer container : ReconcileM σ _) :=
    fun _ => .single (.outside _ _)
  have hserves := servesEtcd outside name hclient hpeer
  exact hserves.toServesControlPlane (Performs.hasData _ _)
    (performs_requestPort _ _ (hclient name))
    (fun _ => performs_requestPort _ _ (.inl rfl)) (hserves.etcdContainer hrecord)

theorem performs_reconcile :
    Performs (reconcilePermissions name) (ControlPlane.reconcile outside name) :=
  (servesControlPlane outside name).reconcile

theorem performs_reconcileDeletion :
    Performs (deletionPermissions name) (ControlPlane.reconcileDeletion outside name) := by
  have hserves : (Performs.logic (deletionPermissions name)).ServesEtcd outside name :=
    servesEtcd outside name (fun _ => .inl rfl) (.inr ⟨rfl, rfl⟩)
  exact hserves.reconcileDeletion
    ((Performs.bindsHypervisor _ name).hostCleanup outside)
    (fun _ _ _ => hserves.removeEtcdMember)
    fun _ hportName => performs_freePort _ _ ⟨rfl, hportName⟩

end ControlPlane

/-! ## Ports before anything else -/

/-- The names of all host ports. -/
def hostPortNames : List String :=
  [apiServerHostPortName, etcdPeerHostPortName, etcdClientHostPortName, wireguardHostPortName]

/-- What pre-reconciling a component may do. -/
def preReconcilePermissions (name : String) : Permissions where
  requests other portName := other = name ∧ portName ∈ hostPortNames
  frees _ _ := False

theorem performs_requestPorts {p : Permissions} {name : String} {portNames : List String}
    (hallowed : ∀ portName ∈ portNames, p.requests name portName) :
    Performs p (requestPorts name portNames : ReconcileM σ Unit) :=
  .forM fun portName hportName => .bind (performs_requestPort _ _ (hallowed portName hportName))
    fun _ => .pure _

theorem ControlPlane.performs_preReconcile (name : String) :
    Performs (preReconcilePermissions name)
      (ControlPlane.preReconcile name : ReconcileM σ Unit) := by
  refine .bind (performs_component name) fun found => ?_
  split
  · exact .throw _
  exact performs_requestPorts fun portName hportName => ⟨rfl, by
    revert portName hportName
    decide⟩

/-! ## The ingress -/

namespace ControlPlaneIngress

/-- What reconciling an ingress may do. -/
def reconcilePermissions (name : String) : Permissions where
  requests other portName :=
    portName = apiServerHostPortName ∨ (other = name ∧ portName = wireguardHostPortName)
  frees _ _ := False

/-- What deleting an ingress may do. -/
def deletionPermissions (name : String) : Permissions where
  requests _ _ := False
  frees other _ := other = name

variable {p : Permissions} (outside : Outside σ) (name : String)

theorem performs_preReconcile :
    Performs (preReconcilePermissions name)
      (ControlPlaneIngress.preReconcile name : ReconcileM σ Unit) := by
  refine .bind (performs_component name) fun found => ?_
  split
  · exact .throw _
  refine .bind (performs_requestPorts fun portName hportName => ⟨rfl, ?_⟩) fun _ => ?_
  · revert portName hportName
    decide
  refine .bind performs_cluster fun cluster => ?_
  split
  · refine performs_requestPorts fun portName hportName => ⟨rfl, ?_⟩
    revert portName hportName
    decide
  · exact .pure _

theorem performs_reconcile :
    Performs (reconcilePermissions name) (ControlPlaneIngress.reconcile outside name) :=
  ((Performs.serves (reconcilePermissions name) outside name).toServesIngress (Performs.hasData _ _)
    (Performs.tolerant _)
    (fun _ => performs_requestPort _ _ (.inl rfl)) (performs_requestPort _ _ (.inr ⟨rfl, rfl⟩))
    fun _ _ _ _ _ => trivial).reconcile

theorem performs_reconcileDeletion :
    Performs (deletionPermissions name) (ControlPlaneIngress.reconcileDeletion outside name) :=
  (Performs.serves (deletionPermissions name) outside name).reconcileIngressDeletion
    ((Performs.bindsHypervisor _ name).hostCleanup outside)
    fun _ => performs_freePort _ _ rfl

end ControlPlaneIngress

/-! ## The reconciler -/

section Reconciler

variable {p : Permissions} (outside : Outside σ)

/-- The part of `forEachComponent` for one component. -/
def turn (operation : String → ComponentOperations σ → ReconcileM σ (Except String Unit))
    (name : String) : ReconcileM σ (Except String Unit) := do
  let component ← component name
  match retrieveComponent outside component.role with
  | none => pure (.error "could not retrieve a specific component instance")
  | some operations => operation name operations

variable {operation : String → ComponentOperations σ → ReconcileM σ (Except String Unit)}

theorem forEachComponent_cons (name : String) (names : List String) :
    forEachComponent outside operation (name :: names) =
      turn outside operation name >>=
        collectErrors name (forEachComponent outside operation names) := by
  rw [forEachComponent, turn, bind_assoc]
  refine congrArg _ (funext fun component => ?_)
  cases retrieveComponent outside component.role <;> rfl

/-- A call for one component is its turn. -/
theorem run_forEachComponent_singleton {world : World σ} {component : Component}
    (hfound : lookupKey Component.name component.name world.components = some component)
    {operations : ComponentOperations σ}
    (hops : retrieveComponent outside component.role = some operations) :
    (forEachComponent outside operation [component.name]).run world =
      (operation component.name operations >>= collectErrors component.name (pure [])).run
        world := by
  have hcomp : (Components.component component.name).run world = .ok component world := by
    rw [run_component, hfound]
  rw [forEachComponent, run_bind_of_ok hcomp, hops]
  rfl

section Guarantees

variable {R : World σ → World σ → Prop} (hrefl : ∀ world, R world world)

include hrefl

/-- The operation is run for the role that the component has when its turn comes. -/
theorem guarantees_turn {name : String}
    (h : ∀ found world operations,
      lookupKey Component.name found.name world.components = some found → found.name = name →
      retrieveComponent outside found.role = some operations →
      R world (finalState ((operation name operations).run world))) :
    Guarantees R (turn outside operation name) := by
  refine guarantees_bind_component hrefl name fun found world hfound hname => ?_
  cases hops : retrieveComponent outside found.role with
  | none => exact hrefl world
  | some operations => exact h found world operations hfound hname hops

theorem guarantees_forEachComponent
    (htrans : ∀ world world' world'', R world world' → R world' world'' → R world world'')
    {names : List String} (h : ∀ name ∈ names, Guarantees R (turn outside operation name)) :
    Guarantees R (forEachComponent outside operation names) := by
  induction names with
  | nil => exact .of_pure hrefl _
  | cons name names ih =>
    rw [forEachComponent_cons]
    refine .bind htrans (h name (.head _)) fun outcome => ?_
    refine .bind htrans (ih fun other hother => h other (.tail _ hother)) fun errors => ?_
    cases outcome with
    | ok _ => exact .of_pure hrefl _
    | error _ => exact .of_pure hrefl _

end Guarantees

theorem preserves_forEachComponent {P : World σ → Prop} {names : List String}
    (h : ∀ found world operations, P world → found.name ∈ names →
      lookupKey Component.name found.name world.components = some found →
      retrieveComponent outside found.role = some operations →
      P (finalState ((operation found.name operations).run world))) :
    Preserves P (forEachComponent outside operation names) := by
  refine guarantees_forEachComponent (R := fun world world' => P world → P world') outside
    (fun _ => id) (fun _ _ _ h h' => h' ∘ h) fun name hname =>
      guarantees_turn outside (fun _ => id) ?_
  rintro found world operations hfound rfl hops hw
  exact h found world operations hw hname hfound hops

theorem performs_reconcileComponent {name : String} {operations : ComponentOperations σ}
    (hrec : Performs p (operations.reconcile name)) :
    Performs p (reconcileComponent outside name operations) :=
  .bind ((Performs.hasData p name).setCondition outside _ _) fun _ => .bind (.attempt hrec)
    fun _ => .bind ((Performs.hasData p name).setCondition outside _ _) fun _ => .pure _

theorem performs_reconcileComponentDeletion {name : String} {operations : ComponentOperations σ}
    (hdel : Performs p (operations.reconcileDeletion name)) :
    Performs p (reconcileComponentDeletion name operations) := by
  refine .bind (.attempt hdel) fun outcome => ?_
  dsimp only
  split
  · exact (Performs.hasData p name).bind_component fun _ _ _ _ => ⟨_, _, rfl, rfl, rfl⟩
  · exact .pure _

theorem run_orAllComponents (names : List String) (world : World σ) :
    (orAllComponents names).run world =
      .ok (if names = [] then world.components.map Component.name else names) world := rfl

theorem performs_operations_preReconcile {role : Role} {operations : ComponentOperations σ}
    (h : retrieveComponent outside role = some operations) (name : String) :
    Performs (preReconcilePermissions name) (operations.preReconcile name) := by
  cases role with
  | unknown => cases h
  | controlPlane =>
    cases h
    exact ControlPlane.performs_preReconcile name
  | controlPlaneIngress =>
    cases h
    exact ControlPlaneIngress.performs_preReconcile name

theorem performs_preReconcile (name : String) :
    Performs (preReconcilePermissions name) (preReconcile outside [name]) := by
  intro world
  rw [preReconcile, EStateM.run_bind, run_orAllComponents]
  refine guarantees_forEachComponent outside (fun _ => .refl) (fun _ _ _ => .trans)
    (fun other hother => ?_) world
  rw [if_neg (List.cons_ne_nil _ _), List.mem_singleton] at hother
  subst hother
  exact guarantees_turn outside (fun _ => .refl) fun _ world _ _ _ hops =>
    Performs.attempt (performs_operations_preReconcile outside hops other) world

/-- What the operations on components may do: request ports under the names of host ports, and
free them. -/
def operationPermissions : Permissions where
  requests _ portName := portName ∈ hostPortNames
  frees _ _ := True

theorem performs_operations {role : Role} {operations : ComponentOperations σ}
    (h : retrieveComponent outside role = some operations) (name : String) :
    Performs operationPermissions (operations.reconcile name) ∧
      Performs operationPermissions (operations.reconcileDeletion name) := by
  cases role with
  | unknown => cases h
  | controlPlane =>
    cases h
    refine ⟨(ControlPlane.performs_reconcile outside name).mono ⟨?_, fun _ _ _ => trivial⟩,
      (ControlPlane.performs_reconcileDeletion outside name).mono ⟨?_, fun _ _ _ => trivial⟩⟩
    · rintro other portName (rfl | rfl | ⟨-, rfl⟩)
      · exact .head _
      · exact .tail _ (.tail _ (.head _))
      · exact .tail _ (.head _)
    · rintro other portName (rfl | ⟨-, rfl⟩)
      · exact .tail _ (.tail _ (.head _))
      · exact .tail _ (.head _)
  | controlPlaneIngress =>
    cases h
    refine ⟨(ControlPlaneIngress.performs_reconcile outside name).mono ⟨?_, fun _ _ _ => trivial⟩,
      (ControlPlaneIngress.performs_reconcileDeletion outside name).mono
        ⟨fun _ _ => False.elim, fun _ _ _ => trivial⟩⟩
    rintro other portName (rfl | ⟨-, rfl⟩)
    · exact .head _
    · exact .tail _ (.tail _ (.tail _ (.head _)))

/-- An operation on every role is one on each component. -/
theorem performs_forEachComponent
    (hop : ∀ role operations, retrieveComponent outside role = some operations →
      ∀ name, Performs p (operation name operations)) (names : List String) :
    Performs p (forEachComponent outside operation names) :=
  guarantees_forEachComponent outside (fun _ => .refl) (fun _ _ _ => .trans) fun name _ =>
    guarantees_turn outside (fun _ => .refl) fun found world operations _ _ h =>
      hop found.role operations h name world

theorem performs_forEach_reconcile (names : List String) : Performs operationPermissions
    (forEachComponent outside (reconcileComponent outside) names) :=
  performs_forEachComponent outside (fun _ _ h name =>
    performs_reconcileComponent outside (performs_operations outside h name).1) names

theorem performs_reconcile_hostPorts (names : List String) :
    Performs operationPermissions (reconcile outside names) :=
  .bind (.bind .get fun _ => .pure _) fun names => performs_forEach_reconcile outside names

theorem performs_reconcileDeletion_hostPorts (names : List String) :
    Performs operationPermissions (reconcileDeletion outside names) :=
  performs_forEachComponent outside (fun _ _ h name =>
    performs_reconcileComponentDeletion (performs_operations outside h name).2) names

end Reconciler

end OneInfra.Components
