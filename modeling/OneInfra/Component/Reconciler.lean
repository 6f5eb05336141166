import OneInfra.Component.ControlPlaneIngress

/-!
# The component reconciler

`internal/pkg/component/reconciler/reconciler.go`.  The reconciler goes over
components, finds the operations of each by its role, and collects the errors.
`ComponentOperations` is the interface `Component` of
`internal/pkg/component/components/reconciler.go`.

A list of errors stands for `ReconcileErrors`, with the component that each error
is about.
-/

namespace OneInfra.Components

open OneInfra.Lib Conditions

variable {σ : Type}

/-- The interface `Component`. -/
structure ComponentOperations (σ : Type) where
  preReconcile : String → ReconcileM σ Unit
  reconcile : String → ReconcileM σ Unit
  reconcileDeletion : String → ReconcileM σ Unit

/-- `retrieveComponent`. -/
def retrieveComponent (outside : Outside σ) : Role → Option (ComponentOperations σ)
  | .controlPlane => some
      ⟨ControlPlane.preReconcile, ControlPlane.reconcile outside,
        ControlPlane.reconcileDeletion outside⟩
  | .controlPlaneIngress => some
      ⟨ControlPlaneIngress.preReconcile, ControlPlaneIngress.reconcile outside,
        ControlPlaneIngress.reconcileDeletion outside⟩
  | .unknown => none

/-- `ReconcileStarted`. -/
def reconcileStarted : String := "ReconcileStarted"

/-- `ReconcileSucceeded`. -/
def reconcileSucceeded : String := "ReconcileSucceeded"

variable (outside : Outside σ)

/-- Set a condition of a component. -/
def setCondition (name conditionType : String) (conditionStatus : ConditionStatus) :
    ReconcileM σ Unit := do
  let component ← component name
  let now := outside.now (← get).outside
  modify fun world => world.setComponent { component with
    conditions := Conditions.setCondition component.conditions now conditionType conditionStatus }

/-- The errors of a reconcile, by component. -/
abbrev ReconcileErrors := List (String × String)

/-- Run an operation for each component and collect the errors. -/
def forEachComponent
    (operation : String → ComponentOperations σ → ReconcileM σ (Except String Unit)) :
    List String → ReconcileM σ ReconcileErrors
  | [] => pure []
  | name :: names => do
    let component ← component name
    let outcome ← match retrieveComponent outside component.role with
      | none => pure (.error "could not retrieve a specific component instance")
      | some operations => operation name operations
    let errors ← forEachComponent operation names
    match outcome with
    | .ok _ => return errors
    | .error message => return (name, message) :: errors

/-- The end of `forEachComponent`, with the outcome of one component and the errors of those
after it. -/
def collectErrors (name : String) (later : ReconcileM σ ReconcileErrors)
    (outcome : Except String Unit) : ReconcileM σ ReconcileErrors := do
  let errors ← later
  match outcome with
  | .ok _ => return errors
  | .error message => return (name, message) :: errors

/-- The components to go over.  If none are given, it is all of them. -/
def orAllComponents (names : List String) : ReconcileM σ (List String) := do
  let world ← get
  return if names = [] then world.components.map Component.name else names

/-- `PreReconcile`. -/
def preReconcile (names : List String) : ReconcileM σ ReconcileErrors := do
  forEachComponent outside (fun name operations => attempt (operations.preReconcile name))
    (← orAllComponents names)

/-- The operation `Reconcile` of one component, with the conditions around it. -/
def reconcileComponent (name : String) (operations : ComponentOperations σ) :
    ReconcileM σ (Except String Unit) := do
  setCondition outside name reconcileStarted .true
  let outcome ← attempt (operations.reconcile name)
  setCondition outside name reconcileSucceeded (if outcome matches .ok _ then .true else .false)
  return outcome

/-- `Reconcile`. -/
def reconcile (names : List String) : ReconcileM σ ReconcileErrors := do
  forEachComponent outside (reconcileComponent outside) (← orAllComponents names)

/-- The operation `ReconcileDeletion` of one component.  The finalizer is removed if
it succeeds. -/
def reconcileComponentDeletion (name : String) (operations : ComponentOperations σ) :
    ReconcileM σ (Except String Unit) := do
  let outcome ← attempt (operations.reconcileDeletion name)
  if outcome matches .ok _ then
    let component ← component name
    modify fun world => world.setComponent { component with
      finalizers := component.finalizers.filter (· ≠ oneInfraCleanupFinalizer) }
  return outcome

/-- `ReconcileDeletion`. -/
def reconcileDeletion (names : List String) : ReconcileM σ ReconcileErrors :=
  forEachComponent outside reconcileComponentDeletion names

end OneInfra.Components
