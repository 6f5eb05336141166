import Mathlib.Algebra.Order.BigOperators.Group.List
import OneInfra.Cluster.Export
import OneInfra.Controllers.ClusterController
import OneInfra.Controllers.Store
import OneInfra.Lib.Replan

/-!
# The replicas of a cluster

`ClusterController.Reconcile` lists the components of its cluster once and then creates or
deletes components one call at a time, first those of the control plane and then those of the
ingress.  This module puts the API server behind the calls: the webhook of
`apis/cluster/v1alpha1/component_webhook.go` adds the finalizer and the label that
`listClusterComponents` selects by, and a deleted component stays with a deletion timestamp
until its finalizers are removed.

`plan` is the list of calls that a run makes if all of them succeed, and every run makes a
first part of it.  The stored components after a call have the rest of the plan as
their own plan, and a plan is empty when the numbers of replicas are right.  So it does not
matter where a run stops: the next one goes on with what is left.
-/

namespace OneInfra

open Lib

/-! ## The webhook -/

/-- `constants.OneInfraClusterNameLabelName`. -/
def oneInfraClusterNameLabelName : String := "oneinfra/cluster-name"

namespace Component

/-- `addFinalizer`. -/
def addFinalizer (component : Component) : Component :=
  if component.deletionTimestamp.isSome then component
  else { component with
    finalizers := addElementToListIfNotExists component.finalizers oneInfraCleanupFinalizer }

/-- `addClusterNameLabel`. -/
def addClusterNameLabel (component : Component) : Component :=
  { component with
    labels := component.labels.insert oneInfraClusterNameLabelName component.clusterName }

/-- `Default`. -/
def default (component : Component) : Component :=
  component.addFinalizer.addClusterNameLabel

end Component

namespace Controllers

/-! ## The API server -/

/-- What the API server chooses: the name of an object that is created without one, which no
object of the namespace has, and the time of a deletion. -/
structure ServerChoices where
  name : List Component → Component → String
  now : List Component → Nat
  fresh : ∀ list component, ∀ other ∈ list, other.namespace = component.namespace →
    other.name ≠ name list component

/-- The stored components.  All of them went through the webhook. -/
structure StoredComponents where
  list : List Component
  keyed : (list.map Component.key).Nodup
  labelled : ∀ component ∈ list,
    component.labels.lookup oneInfraClusterNameLabelName = some component.clusterName

namespace StoredComponents

variable (choices : ServerChoices)

/-- A component as it is stored when it is created. -/
def admitted (stored : StoredComponents) (component : Component) : Component :=
  { component.default with
    name := if component.name = "" then choices.name stored.list component else component.name
    resourceVersion := 1
    deletionTimestamp := none }

theorem labels_admitted (stored : StoredComponents) (component : Component) :
    (stored.admitted choices component).labels.lookup oneInfraClusterNameLabelName =
      some (stored.admitted choices component).clusterName := by
  unfold admitted Component.default Component.addClusterNameLabel
  dsimp only
  rw [GoMap.lookup_insert_eq, if_pos rfl]

/-- `Create`. -/
def create (stored : StoredComponents) (component : Component) :
    Except WriteError StoredComponents :=
  if hkey : (stored.admitted choices component).key ∈ stored.list.map Component.key then
    .error (.other "already exists")
  else .ok
    { list := stored.list ++ [stored.admitted choices component]
      keyed := nodup_map_concat stored.keyed hkey
      labelled := by
        intro other hmem
        rcases List.mem_append.mp hmem with hmem | hmem
        · exact stored.labelled other hmem
        · rw [List.mem_singleton.mp hmem]
          exact labels_admitted choices stored component }

/-- The stored component after a request to delete the one under `key`. -/
def deletedAt (stored : StoredComponents) (key : ObjectKey) (component : Component) :
    Option Component :=
  if component.key = key then component.deleted (choices.now stored.list) else some component

theorem deletedAt_eq_some {stored : StoredComponents} {key : ObjectKey}
    {component comp' : Component}
    (h : stored.deletedAt choices key component = some comp') :
    comp'.key = component.key ∧ comp'.labels = component.labels ∧
      comp'.clusterName = component.clusterName ∧
      (comp' = component ∨ component.key = key ∧ comp'.deletionTimestamp.isSome) := by
  unfold deletedAt Component.deleted requestDeletion at h
  split_ifs at h with hkey hdel
  · cases h
    exact ⟨rfl, rfl, rfl, .inl rfl⟩
  · cases h
    exact ⟨rfl, rfl, rfl, .inr ⟨hkey, rfl⟩⟩
  · cases h
    exact ⟨rfl, rfl, rfl, .inl rfl⟩

/-- `Delete`.  The client sends the namespace and the name. -/
def delete (stored : StoredComponents) (component : Component) :
    Except WriteError StoredComponents :=
  if component.key ∈ stored.list.map Component.key then .ok
    { list := stored.list.filterMap (stored.deletedAt choices component.key)
      keyed := stored.keyed.sublist
        (map_filterMap_sublist fun _ _ h => (deletedAt_eq_some choices h).1)
      labelled := by
        intro other hmem
        obtain ⟨source, hsource, hother⟩ := List.mem_filterMap.mp hmem
        obtain ⟨-, hlabs, hcl, -⟩ := deletedAt_eq_some choices hother
        rw [hlabs, hcl]
        exact stored.labelled source hsource }
  else .error .notFound

/-- It is the edit of `Store`. -/
theorem delete_eq_edit {stored stored' : StoredComponents} {component : Component}
    (h : stored.delete choices component = .ok stored') {store : Store}
    (hlist : store.components = stored.list) :
    (store.edit (.deleteComponent component.key (choices.now stored.list))).components =
      stored'.list := by
  unfold delete at h
  split_ifs at h
  cases h
  show store.components.filterMap _ = _
  rw [hlist]
  rfl

/-- The answer of the API server to a call of the controller. -/
def take (stored : StoredComponents) : ComponentCall → Except WriteError StoredComponents
  | .create component => stored.create choices component
  | .delete component => stored.delete choices component

/-- `listClusterComponents`. -/
def listClusterComponents (stored : StoredComponents) (clusterNamespace clusterName : String) :
    List Component :=
  stored.list.filter fun component => component.namespace = clusterNamespace ∧
    component.labels.lookup oneInfraClusterNameLabelName = some clusterName

/-- The components of a role of the cluster that are not being deleted. -/
def replicas (stored : StoredComponents) (cluster : Cluster) (role : Role) : List Component :=
  stored.list.filter fun component => component.namespace = cluster.namespace ∧
    component.clusterName = cluster.name ∧ component.role = role ∧
    component.deletionTimestamp = none

variable {choices} {stored stored' : StoredComponents} {cluster : Cluster} {role : Role}

/-- The controller counts the replicas. -/
theorem undeletedWithRole_listClusterComponents :
    ClusterController.undeletedWithRole
        (stored.listClusterComponents cluster.namespace cluster.name) role =
      stored.replicas cluster role := by
  unfold ClusterController.undeletedWithRole listClusterComponents replicas
  rw [List.filter_filter]
  apply List.filter_congr
  intro component hmem
  have hlab := stored.labelled component hmem
  simp only [hlab, Option.some_inj, Bool.decide_and]
  grind

theorem mem_replicas {component : Component} :
    component ∈ stored.replicas cluster role ↔ component ∈ stored.list ∧
      component.namespace = cluster.namespace ∧ component.clusterName = cluster.name ∧
      component.role = role ∧ component.deletionTimestamp = none := by
  unfold replicas
  rw [List.mem_filter, decide_eq_true_iff]

/-- A component without a name is stored. -/
theorem create_of_unnamed (choices : ServerChoices) {component : Component}
    (hname : component.name = "") :
    ∃ stored', stored.create choices component = .ok stored' ∧
      stored'.list = stored.list ++ [stored.admitted choices component] := by
  have hkey : (stored.admitted choices component).key ∉ stored.list.map Component.key := by
    intro hmem
    obtain ⟨other, hother, heq⟩ := List.mem_map.mp hmem
    have hns : other.namespace = (stored.admitted choices component).namespace :=
      congrArg Prod.fst heq
    have hnames : other.name = (stored.admitted choices component).name := congrArg Prod.snd heq
    have hsame : (stored.admitted choices component).namespace = component.namespace := by
      unfold admitted Component.default Component.addClusterNameLabel Component.addFinalizer
      dsimp only
      split_ifs <;> rfl
    have hchosen : (stored.admitted choices component).name =
        choices.name stored.list component := if_pos hname
    exact choices.fresh stored.list component other hother (hns.trans hsame)
      (hnames.trans hchosen)
  unfold create
  rw [dif_neg hkey]
  exact ⟨_, rfl, rfl⟩

/-- A new component is a replica of its own role only. -/
theorem replicas_of_list_eq_concat {component : Component} (role : Role) (hlist : stored'.list =
      stored.list ++ [stored.admitted choices component])
    (hns : component.namespace = cluster.namespace)
    (hcl : component.clusterName = cluster.name) :
    stored'.replicas cluster role = stored.replicas cluster role ++
      if component.role = role then [stored.admitted choices component] else [] := by
  have hfields : (stored.admitted choices component).namespace = component.namespace ∧
      (stored.admitted choices component).clusterName = component.clusterName ∧
      (stored.admitted choices component).role = component.role := by
    unfold admitted Component.default Component.addClusterNameLabel Component.addFinalizer
    dsimp only
    split_ifs <;> exact ⟨rfl, rfl, rfl⟩
  have hts : (stored.admitted choices component).deletionTimestamp = none := rfl
  unfold replicas
  rw [hlist, List.filter_append, List.append_cancel_left_eq]
  by_cases hrole : component.role = role
  · simp [hfields, hts, hns, hcl, hrole]
  · simp [hfields, hrole]

/-- A component that is there is deleted. -/
theorem delete_of_mem (choices : ServerChoices) {component : Component}
    (hmem : component ∈ stored.list) :
    ∃ stored', stored.delete choices component = .ok stored' ∧
      stored'.list = stored.list.filterMap (stored.deletedAt choices component.key) := by
  unfold delete
  rw [if_pos (List.mem_map_of_mem hmem)]
  exact ⟨_, rfl, rfl⟩

/-- Only the deleted component stops being a replica. -/
theorem replicas_of_list_eq_filterMap {key : ObjectKey}
    (hlist : stored'.list = stored.list.filterMap (stored.deletedAt choices key)) :
    stored'.replicas cluster role =
      (stored.replicas cluster role).filter fun component => component.key ≠ key := by
  unfold replicas
  rw [hlist]
  induction stored.list with
  | nil => rfl
  | cons component list ih =>
    by_cases hkey : component.key = key
    · -- the component is gone, or it has a deletion timestamp
      cases hdel : stored.deletedAt choices key component with
      | none =>
        rw [List.filterMap_cons_none hdel, ih, List.filter_filter, List.filter_filter]
        simp [hkey]
      | some comp' =>
        have hgone : comp'.deletionTimestamp.isSome := by
          unfold deletedAt Component.deleted requestDeletion at hdel
          rw [if_pos hkey] at hdel
          split_ifs at hdel with hdeleting
          · cases hdel
            exact hdeleting
          · cases hdel
            rfl
        have hne : comp'.deletionTimestamp ≠ none := Option.isSome_iff_ne_none.mp hgone
        rw [List.filterMap_cons_some hdel, List.filter_cons_of_neg (by simp [hne]), ih,
          List.filter_filter, List.filter_filter]
        simp [hkey]
    · have hsame : stored.deletedAt choices key component = some component := if_neg hkey
      rw [List.filterMap_cons_some hsame, List.filter_cons, List.filter_cons]
      split_ifs with hrep
      · rw [List.filter_cons_of_pos (by simp [hkey]), ih]
      · exact ih

/-- Deleting the first of the replicas leaves the others. -/
theorem replicas_delete_head {component : Component} {rest : List Component}
    (hreps : stored.replicas cluster role = component :: rest)
    (hlist : stored'.list = stored.list.filterMap (stored.deletedAt choices component.key)) :
    stored'.replicas cluster role = rest := by
  have hnd : ((stored.replicas cluster role).map Component.key).Nodup :=
    stored.keyed.sublist (List.filter_sublist.map _)
  rw [hreps, List.map_cons, List.nodup_cons] at hnd
  rw [replicas_of_list_eq_filterMap hlist, hreps, List.filter_cons_of_neg (by simp),
    List.filter_eq_self]
  intro other hother
  simp only [ne_eq, decide_not, Bool.not_eq_true', decide_eq_false_iff_not]
  exact fun hkey => hnd.1 (hkey ▸ List.mem_map_of_mem hother)

/-- Deleting a replica of one role keeps those of the others. -/
theorem replicas_delete_other {component : Component} {other : Role}
    (hmem : component ∈ stored.replicas cluster other) (hrole : other ≠ role)
    (hlist : stored'.list = stored.list.filterMap (stored.deletedAt choices component.key)) :
    stored'.replicas cluster role = stored.replicas cluster role := by
  rw [replicas_of_list_eq_filterMap hlist, List.filter_eq_self]
  intro kept hkept
  simp only [ne_eq, decide_not, Bool.not_eq_true', decide_eq_false_iff_not]
  intro hkey
  have heq : kept = component := List.inj_on_of_nodup_map stored.keyed (mem_replicas.mp hkept).1
    (mem_replicas.mp hmem).1 hkey
  have hroles : component.role = role := heq ▸ (mem_replicas.mp hkept).2.2.2.1
  exact hrole ((mem_replicas.mp hmem).2.2.2.1.symm.trans hroles)

end StoredComponents

/-! ## The plan -/

/-- The calls that bring the current replicas to a number: creations of a component, or
deletions of the first replicas. -/
def roleCalls (component : Component) (current : List Component) (desired : Nat) :
    List ComponentCall :=
  if current.length < desired then
    List.replicate (desired - current.length) (.create component)
  else (current.take (current.length - desired)).map .delete

theorem roleCalls_eq_nil_iff {component : Component} {current : List Component} {desired : Nat} :
    roleCalls component current desired = [] ↔ current.length = desired := by
  unfold roleCalls
  split_ifs with hless
  · simp only [List.replicate_eq_nil_iff]
    omega
  · simp only [List.map_eq_nil_iff, List.take_eq_nil_iff]
    constructor
    · intro hnil
      rcases hnil with hle | hempty
      · omega
      · have hzero : current.length = 0 := by rw [hempty]; rfl
        omega
    · intro hlen
      exact .inl (by omega)

/-- The first call is a creation, or it deletes the first replica.  The calls after it are
those for the replicas after it. -/
theorem roleCalls_eq_cons {component : Component} {current : List Component} {desired : Nat}
    {call : ComponentCall} {rest : List ComponentCall}
    (h : roleCalls component current desired = call :: rest) :
    (call = .create component ∧ current.length < desired ∧
      ∀ created, roleCalls component (current ++ [created]) desired = rest) ∨
    ∃ first others, current = first :: others ∧ desired < current.length ∧
      call = .delete first ∧ roleCalls component others desired = rest := by
  unfold roleCalls at h
  split_ifs at h with hless
  · left
    obtain ⟨missing, hmissing⟩ : ∃ missing, desired - current.length = missing + 1 :=
      ⟨desired - current.length - 1, by omega⟩
    rw [hmissing, List.replicate_succ, List.cons.injEq] at h
    refine ⟨h.1.symm, hless, fun created => ?_⟩
    unfold roleCalls
    rw [List.length_append, List.length_singleton, ← h.2]
    split_ifs with hless'
    · rw [show desired - (current.length + 1) = missing by omega]
    · rw [show missing = 0 by omega, show current.length + 1 - desired = 0 by omega]
      rfl
  · right
    cases current with
    | nil => simp at h
    | cons first others =>
      by_cases hexact : (first :: others).length = desired
      · rw [show (first :: others).length - desired = 0 by omega] at h
        cases h
      · rw [List.length_cons] at hless hexact h
        rw [show others.length + 1 - desired = (others.length - desired) + 1 by omega,
          List.take_succ_cons, List.map_cons, List.cons.injEq] at h
        refine ⟨first, others, rfl, ?_, h.1.symm, ?_⟩
        · rw [List.length_cons]
          omega
        · unfold roleCalls
          rw [if_neg (by omega)]
          exact h.2

/-- The component that the controller creates for the control plane. -/
def newControlPlane (cluster : Cluster) : Component :=
  .newComponent cluster.namespace cluster.name (cluster.name ++ "-control-plane-") .controlPlane

/-- The component that the controller creates for the ingress. -/
def newControlPlaneIngress (cluster : Cluster) : Component :=
  .newComponent cluster.namespace cluster.name (cluster.name ++ "-control-plane-ingress-")
    .controlPlaneIngress

/-- The number of control planes that the cluster asks for. -/
def desiredReplicas (cluster : Cluster) : Nat := cluster.controlPlaneReplicas.toInt.toNat

/-- The calls of a run whose calls all succeed. -/
def plan (cluster : Cluster) (stored : StoredComponents) : List ComponentCall :=
  roleCalls (newControlPlane cluster) (stored.replicas cluster .controlPlane)
      (desiredReplicas cluster) ++
    roleCalls (newControlPlaneIngress cluster) (stored.replicas cluster .controlPlaneIngress) 1

/-- The numbers that a cluster asks for: that many control planes, and one ingress. -/
structure Converged (cluster : Cluster) (stored : StoredComponents) : Prop where
  controlPlane : (stored.replicas cluster .controlPlane).length =
    cluster.controlPlaneReplicas.toInt
  controlPlaneIngress : (stored.replicas cluster .controlPlaneIngress).length = 1

section Plan

variable {choices : ServerChoices} {cluster : Cluster} {stored : StoredComponents}

theorem plan_eq_nil_iff (hreps : 0 ≤ cluster.controlPlaneReplicas.toInt) :
    plan cluster stored = [] ↔ Converged cluster stored := by
  unfold plan
  rw [List.append_eq_nil_iff, roleCalls_eq_nil_iff, roleCalls_eq_nil_iff]
  constructor
  · intro ⟨hctlPlane, hingress⟩
    refine ⟨?_, hingress⟩
    rw [hctlPlane]
    exact Int.toNat_of_nonneg hreps
  · intro hconverged
    refine ⟨?_, hconverged.controlPlaneIngress⟩
    have hcount := hconverged.controlPlane
    unfold desiredReplicas
    omega

/-- The first call for a role is accepted.  The stored components after it have the rest of
the calls for the role, and the same replicas of other roles. -/
theorem take_roleCalls (choices : ServerChoices) (role : Role) {component : Component}
    {desired : Nat} {call : ComponentCall} {rest : List ComponentCall} (hname : component.name = "")
    (hns : component.namespace = cluster.namespace)
    (hcl : component.clusterName = cluster.name) (hrole : component.role = role)
    (h : roleCalls component (stored.replicas cluster role) desired = call :: rest) :
    ∃ stored', stored.take choices call = .ok stored' ∧
      roleCalls component (stored'.replicas cluster role) desired = rest ∧
      (stored'.replicas cluster role).length ≤
        max (stored.replicas cluster role).length desired ∧
      ∀ other ≠ role, stored'.replicas cluster other = stored.replicas cluster other := by
  rcases roleCalls_eq_cons h with
    ⟨hcall, hless, hrest⟩ | ⟨first, others, hreps, hmore, hcall, hrest⟩
  · obtain ⟨stored', hcreate, hlist⟩ := stored.create_of_unnamed choices hname
    have hreps := fun role =>
      StoredComponents.replicas_of_list_eq_concat role hlist hns hcl
    have hown := hreps role
    rw [if_pos hrole] at hown
    refine ⟨stored', ?_, ?_, ?_, fun other hother => ?_⟩
    · rw [hcall]
      exact hcreate
    · rw [hown]
      exact hrest _
    · rw [hown, List.length_append, List.length_singleton]
      omega
    · rw [hreps other, if_neg (hrole.trans_ne hother.symm), List.append_nil]
  · have hfirst : first ∈ stored.replicas cluster role := by
      rw [hreps]
      exact List.mem_cons_self
    obtain ⟨stored', hdelete, hlist⟩ := stored.delete_of_mem choices
      (StoredComponents.mem_replicas.mp hfirst).1
    have hown := StoredComponents.replicas_delete_head hreps hlist
    refine ⟨stored', ?_, ?_, ?_, fun other hother => ?_⟩
    · rw [hcall]
      exact hdelete
    · rw [hown]
      exact hrest
    · rw [hown, hreps, List.length_cons]
      omega
    · exact StoredComponents.replicas_delete_other hfirst hother.symm hlist

/-- No more control planes than a machine integer can count. -/
def Counted (cluster : Cluster) (stored : StoredComponents) : Prop :=
  (stored.replicas cluster .controlPlane).length < 2 ^ 63

theorem desiredReplicas_lt (cluster : Cluster) : desiredReplicas cluster < 2 ^ 63 := by
  have hlt := cluster.controlPlaneReplicas.toInt_lt
  unfold desiredReplicas
  omega

/-- After each call of a plan, the rest of it is the plan. -/
theorem replans (choices : ServerChoices) (cluster : Cluster) :
    Replans (StoredComponents.take choices) (plan cluster) (Counted cluster) where
  step := by
    intro stored call rest hcounted hplan
    have hdesired := desiredReplicas_lt cluster
    unfold plan at hplan
    cases hctlPlane : roleCalls (newControlPlane cluster)
        (stored.replicas cluster .controlPlane) (desiredReplicas cluster) with
    | nil =>
      -- the control planes are done, and the call is one for the ingress
      rw [hctlPlane, List.nil_append] at hplan
      obtain ⟨stored', htake, hrest, -, hsame⟩ :=
        take_roleCalls choices .controlPlaneIngress rfl rfl rfl rfl hplan
      have hkept := hsame .controlPlane (by decide)
      refine ⟨stored', htake, ?_, ?_⟩
      · unfold plan
        rw [hkept, hctlPlane, hrest, List.nil_append]
      · unfold Counted
        rw [hkept]
        exact hcounted
    | cons first calls =>
      rw [hctlPlane, List.cons_append, List.cons.injEq] at hplan
      obtain ⟨stored', htake, hrest, hlen, hsame⟩ :=
        take_roleCalls choices .controlPlane rfl rfl rfl rfl hctlPlane
      refine ⟨stored', ?_, ?_, ?_⟩
      · rw [← hplan.1]
        exact htake
      · unfold plan
        rw [hrest, hsame .controlPlaneIngress (by decide)]
        exact hplan.2
      · unfold Counted at hcounted ⊢
        omega

end Plan

/-! ## The runs -/

namespace ClusterController

variable (api : ComponentApi)

/-- Make calls in order up to the first that fails: whether all of them succeeded. -/
def writeAll : List ComponentCall → ClusterProg Bool
  | [] => pure true
  | call :: calls => do
    if ← write api call then writeAll calls else pure false

theorem createMissing_eq_writeAll (component : Component) (n : Nat) :
    createMissing api component n = writeAll api (List.replicate n (.create component)) := by
  induction n with
  | zero => rfl
  | succ n ih => rw [createMissing, List.replicate_succ, writeAll, ih]

theorem deleteExcess_eq_writeAll {replicas : List Component} {n i : Nat}
    (hle : i + n ≤ replicas.length) :
    deleteExcess api replicas n i = writeAll api (((replicas.drop i).take n).map .delete) := by
  induction n generalizing i with
  | zero => rfl
  | succ n ih =>
    have hi : i < replicas.length := by omega
    rw [deleteExcess, List.getElem?_eq_getElem hi, List.drop_eq_getElem_cons hi,
      List.take_succ_cons, List.map_cons, writeAll, ih (by omega)]

theorem writeAll_append (calls calls' : List ComponentCall) :
    writeAll api (calls ++ calls') =
      writeAll api calls >>= fun ok => if ok then writeAll api calls' else pure false := by
  induction calls with
  | nil => rw [List.nil_append, writeAll, pure_bind, if_pos rfl]
  | cons call calls ih =>
    rw [List.cons_append, writeAll, writeAll, bind_assoc]
    refine bind_congr fun ok => ?_
    cases ok with
    | false => rfl
    | true => exact ih

/-- The replicas of the control plane. -/
theorem reconcileControlPlane_eq_writeAll {cluster : Cluster} {components : List Component}
    (hreps : 0 ≤ cluster.controlPlaneReplicas.toInt)
    (hcount : (undeletedWithRole components .controlPlane).length < 2 ^ 63) :
    reconcileControlPlane api cluster components = writeAll api
      (roleCalls (newControlPlane cluster) (undeletedWithRole components .controlPlane)
        (desiredReplicas cluster)) := by
  have hcur := toInt_ofNat_length hcount
  have hdesired := cluster.controlPlaneReplicas.toInt_lt
  unfold reconcileControlPlane roleCalls desiredReplicas
  dsimp only
  by_cases hmissing : cluster.controlPlaneReplicas >
      Int64.ofNat (undeletedWithRole components .controlPlane).length
  · rw [if_pos hmissing, createMissing_eq_writeAll]
    rw [gt_iff_lt, Int64.lt_iff_toInt_lt, hcur] at hmissing
    have hsub := toInt_sub_of_le cluster.controlPlaneReplicas
      (Int64.ofNat (undeletedWithRole components .controlPlane).length) hreps (by omega)
    have hcalls : (cluster.controlPlaneReplicas -
        Int64.ofNat (undeletedWithRole components .controlPlane).length).toInt.toNat =
          cluster.controlPlaneReplicas.toInt.toNat -
            (undeletedWithRole components .controlPlane).length := by omega
    rw [hcalls, if_pos (by omega)]
    rfl
  · rw [if_neg hmissing]
    rw [gt_iff_lt, Int64.lt_iff_toInt_lt, hcur, not_lt] at hmissing
    have hsub := toInt_sub_of_le
      (Int64.ofNat (undeletedWithRole components .controlPlane).length)
      cluster.controlPlaneReplicas (by omega) (by omega)
    have hcalls : (Int64.ofNat (undeletedWithRole components .controlPlane).length -
        cluster.controlPlaneReplicas).toInt.toNat =
          (undeletedWithRole components .controlPlane).length -
            cluster.controlPlaneReplicas.toInt.toNat := by omega
    rw [hcalls, deleteExcess_eq_writeAll api (by omega), List.drop_zero, if_neg (by omega)]

/-- The one ingress. -/
theorem reconcileControlPlaneIngress_eq_writeAll (cluster : Cluster)
    (components : List Component) :
    reconcileControlPlaneIngress api cluster components = writeAll api
      (roleCalls (newControlPlaneIngress cluster)
        (undeletedWithRole components .controlPlaneIngress) 1) := by
  unfold reconcileControlPlaneIngress roleCalls
  dsimp only
  generalize undeletedWithRole components .controlPlaneIngress = current
  by_cases hnone : current.length = 0
  · rw [if_pos hnone, if_pos (by omega), hnone]
    refine (bind_pure _).symm.trans (bind_congr fun ok => ?_)
    cases ok <;> rfl
  · have hsome : ¬ current.length < 1 := by omega
    rw [if_neg hnone, if_neg hsome]
    by_cases hmany : current.length > 1
    · rw [if_pos hmany, deleteExcess_eq_writeAll api (by omega), List.drop_zero]
    · rw [if_neg hmany, show current.length - 1 = 0 by omega]
      rfl

/-- A run makes the calls of the plan up to the first that fails. -/
theorem reconcileComponents_eq_writeAll {cluster : Cluster} {stored : StoredComponents}
    (hlive : cluster.deletionTimestamp = none)
    (hreps : 0 ≤ cluster.controlPlaneReplicas.toInt) (hcounted : Counted cluster stored) :
    reconcileComponents api cluster
        (stored.listClusterComponents cluster.namespace cluster.name) =
      writeAll api (plan cluster stored) >>= fun ok =>
        if ok then pure .done else pure (.requeueAfter 10) := by
  have hcount : (undeletedWithRole (stored.listClusterComponents cluster.namespace cluster.name)
      .controlPlane).length < 2 ^ 63 := by
    rw [StoredComponents.undeletedWithRole_listClusterComponents]
    exact hcounted
  unfold reconcileComponents
  rw [hlive, if_neg (by simp), reconcileControlPlane_eq_writeAll api hreps hcount,
    reconcileControlPlaneIngress_eq_writeAll,
    StoredComponents.undeletedWithRole_listClusterComponents,
    StoredComponents.undeletedWithRole_listClusterComponents, plan, writeAll_append, bind_assoc]
  refine bind_congr fun ok => ?_
  cases ok <;> rfl

/-- All calls succeeded. -/
def AllSucceed (calls : List ComponentCall) : Prop :=
  ∀ before call after, calls = before ++ call :: after → api before call = none

/-- The calls that were made are a first part of the list.  If one of them failed it was the
last, and otherwise they are all calls of the list. -/
theorem run_writeAll (calls made : List ComponentCall) : ∃ ok more rest,
    (writeAll api calls).run made = .ok ok (made ++ more) ∧ calls = more ++ rest ∧
      (ok = true ∧ rest = [] ∨
        ok = false ∧ ∃ before call, more = before ++ [call] ∧
          (api (made ++ before) call).isSome) := by
  induction calls generalizing made with
  | nil => exact ⟨true, [], [], by rw [List.append_nil]; rfl, rfl, .inl ⟨rfl, rfl⟩⟩
  | cons call calls ih =>
    have hrun : (writeAll api (call :: calls)).run made =
        (if (api made call).isNone then writeAll api calls else pure false).run
          (made ++ [call]) := rfl
    cases hanswer : api made call with
    | some message =>
      refine ⟨false, [call], calls, ?_, rfl, .inr ⟨rfl, [], call, rfl, ?_⟩⟩
      · rw [hrun, hanswer]
        rfl
      · rw [List.append_nil, hanswer]
        rfl
    | none =>
      obtain ⟨ok, more, rest, hmore, hcalls, hok⟩ := ih (made ++ [call])
      refine ⟨ok, call :: more, rest, ?_, by rw [hcalls]; rfl, ?_⟩
      · rw [hrun, hanswer, Option.isNone_none, if_pos rfl, hmore, List.append_assoc]
        rfl
      · rcases hok with hall | ⟨hfailed, before, last, hlast, hanswer'⟩
        · exact .inl hall
        · refine .inr ⟨hfailed, call :: before, last, by rw [hlast]; rfl, ?_⟩
          rw [List.append_assoc] at hanswer'
          exact hanswer'

end ClusterController

/-! ## What a run leaves alone -/

section Frame

variable {choices : ServerChoices} {stored stored' : StoredComponents}

/-- A call changes at most the component that it deletes. -/
theorem take_kept {call : ComponentCall} (htake : stored.take choices call = .ok stored')
    {component : Component} (hmem : component ∈ stored.list) :
    component ∈ stored'.list ∨ ∃ deleted, call = .delete deleted ∧ deleted.key = component.key := by
  cases call with
  | create sent =>
    change stored.create choices sent = .ok stored' at htake
    unfold StoredComponents.create at htake
    split_ifs at htake
    cases htake
    exact .inl (List.mem_append_left _ hmem)
  | delete deleted =>
    change stored.delete choices deleted = .ok stored' at htake
    unfold StoredComponents.delete at htake
    split_ifs at htake
    cases htake
    by_cases hkey : component.key = deleted.key
    · exact .inr ⟨deleted, rfl, hkey.symm⟩
    · exact .inl (List.mem_filterMap.mpr ⟨component, hmem, if_neg hkey⟩)

/-- Where a component comes from that is stored after a call. -/
theorem take_origin {call : ComponentCall} (htake : stored.take choices call = .ok stored')
    {component : Component} (hmem : component ∈ stored'.list) :
    component ∈ stored.list ∨
      (∃ sent, call = .create sent ∧ component = stored.admitted choices sent) ∨
      ∃ deleted, call = .delete deleted ∧ deleted.key = component.key ∧
        component.deletionTimestamp.isSome := by
  cases call with
  | create sent =>
    change stored.create choices sent = .ok stored' at htake
    unfold StoredComponents.create at htake
    split_ifs at htake
    cases htake
    rcases List.mem_append.mp hmem with hold | hnew
    · exact .inl hold
    · exact .inr (.inl ⟨sent, rfl, List.mem_singleton.mp hnew⟩)
  | delete deleted =>
    change stored.delete choices deleted = .ok stored' at htake
    unfold StoredComponents.delete at htake
    split_ifs at htake
    cases htake
    obtain ⟨source, hsource, hcomp⟩ := List.mem_filterMap.mp hmem
    obtain ⟨hkey, -, -, hsame | ⟨hdel, hts⟩⟩ :=
      StoredComponents.deletedAt_eq_some choices hcomp
    · rw [hsame]
      exact .inl hsource
    · exact .inr (.inr ⟨deleted, rfl, (hkey.trans hdel).symm, hts⟩)

theorem foldlM_take_kept {calls : List ComponentCall}
    (hcalls : calls.foldlM (StoredComponents.take choices) stored = .ok stored')
    {component : Component} (hmem : component ∈ stored.list) :
    component ∈ stored'.list ∨
      ∃ deleted, .delete deleted ∈ calls ∧ deleted.key = component.key := by
  induction calls generalizing stored with
  | nil =>
    cases hcalls
    exact .inl hmem
  | cons call calls ih =>
    rw [List.foldlM_cons] at hcalls
    obtain ⟨next, htake, hrest⟩ := except_bind_eq_ok.mp hcalls
    rcases take_kept htake hmem with hnext | ⟨deleted, hcall, hkey⟩
    · rcases ih hrest hnext with hkept | ⟨deleted, hdel, hkey⟩
      · exact .inl hkept
      · exact .inr ⟨deleted, List.mem_cons_of_mem _ hdel, hkey⟩
    · exact .inr ⟨deleted, hcall ▸ List.mem_cons_self, hkey⟩

theorem foldlM_take_origin {calls : List ComponentCall}
    (hcalls : calls.foldlM (StoredComponents.take choices) stored = .ok stored')
    {component : Component} (hmem : component ∈ stored'.list) :
    component ∈ stored.list ∨
      (∃ sent between, .create sent ∈ calls ∧
        component = StoredComponents.admitted choices between sent) ∨
      ∃ deleted, .delete deleted ∈ calls ∧ deleted.key = component.key ∧
        component.deletionTimestamp.isSome := by
  induction calls generalizing stored with
  | nil =>
    cases hcalls
    exact .inl hmem
  | cons call calls ih =>
    rw [List.foldlM_cons] at hcalls
    obtain ⟨next, htake, hrest⟩ := except_bind_eq_ok.mp hcalls
    rcases ih hrest with hnext | ⟨sent, between, hsent, hcomp⟩ | ⟨deleted, hdel, hfields⟩
    · rcases take_origin htake hnext with hold | ⟨sent, hcall, hcomp⟩ |
        ⟨deleted, hcall, hfields⟩
      · exact .inl hold
      · exact .inr (.inl ⟨sent, stored, hcall ▸ List.mem_cons_self, hcomp⟩)
      · exact .inr (.inr ⟨deleted, hcall ▸ List.mem_cons_self, hfields⟩)
    · exact .inr (.inl ⟨sent, between, List.mem_cons_of_mem _ hsent, hcomp⟩)
    · exact .inr (.inr ⟨deleted, List.mem_cons_of_mem _ hdel, hfields⟩)

end Frame

section Members

variable {cluster : Cluster} {stored : StoredComponents}

theorem mem_roleCalls {component : Component} {current : List Component} {desired : Nat}
    {call : ComponentCall} (h : call ∈ roleCalls component current desired) :
    call = .create component ∧ current.length < desired ∨
      ¬ current.length < desired ∧ ∃ deleted ∈ current, call = .delete deleted := by
  unfold roleCalls at h
  split_ifs at h with hless
  · exact .inl ⟨List.eq_of_mem_replicate h, hless⟩
  · obtain ⟨deleted, hdel, hcall⟩ := List.mem_map.mp h
    exact .inr ⟨hless, deleted, List.mem_of_mem_take hdel, hcall.symm⟩

/-- A creation of the plan is for a role that has too few replicas. -/
theorem create_mem_plan {component : Component} (h : .create component ∈ plan cluster stored) :
    component.role = .controlPlane ∧
        (stored.replicas cluster .controlPlane).length < desiredReplicas cluster ∨
      component.role = .controlPlaneIngress ∧
        (stored.replicas cluster .controlPlaneIngress).length < 1 := by
  rcases List.mem_append.mp h with h | h
  · rcases mem_roleCalls h with ⟨hcall, hless⟩ | ⟨-, deleted, -, hcall⟩
    · cases hcall
      exact .inl ⟨rfl, hless⟩
    · cases hcall
  · rcases mem_roleCalls h with ⟨hcall, hless⟩ | ⟨-, deleted, -, hcall⟩
    · cases hcall
      exact .inr ⟨rfl, hless⟩
    · cases hcall

/-- A deletion of the plan is of a replica, for a role that has enough of them. -/
theorem delete_mem_plan {component : Component} (h : .delete component ∈ plan cluster stored) :
    component ∈ stored.replicas cluster .controlPlane ∧
        ¬ (stored.replicas cluster .controlPlane).length < desiredReplicas cluster ∨
      component ∈ stored.replicas cluster .controlPlaneIngress ∧
        ¬ (stored.replicas cluster .controlPlaneIngress).length < 1 := by
  rcases List.mem_append.mp h with h | h
  · rcases mem_roleCalls h with ⟨hcall, -⟩ | ⟨hmore, deleted, hdel, hcall⟩
    · cases hcall
    · cases hcall
      exact .inl ⟨hdel, hmore⟩
  · rcases mem_roleCalls h with ⟨hcall, -⟩ | ⟨hmore, deleted, hdel, hcall⟩
    · cases hcall
    · cases hcall
      exact .inr ⟨hdel, hmore⟩

/-- A plan does not create and delete components of one role. -/
theorem role_ne_of_mem_plan {created deleted : Component}
    (hnew : .create created ∈ plan cluster stored)
    (hdel : .delete deleted ∈ plan cluster stored) : created.role ≠ deleted.role := by
  intro hroles
  rcases create_mem_plan hnew with ⟨hrole, hless⟩ | ⟨hrole, hless⟩
  · rcases delete_mem_plan hdel with ⟨-, hmore⟩ | ⟨hmem, -⟩
    · exact hmore hless
    · rw [hrole, (StoredComponents.mem_replicas.mp hmem).2.2.2.1] at hroles
      cases hroles
  · rcases delete_mem_plan hdel with ⟨hmem, -⟩ | ⟨-, hmore⟩
    · rw [hrole, (StoredComponents.mem_replicas.mp hmem).2.2.2.1] at hroles
      cases hroles
    · exact hmore hless

end Members

/-! ## Convergence -/

/-- One run of `Reconcile` on a cluster object whose import is `cluster`.  The API server takes
the calls that succeed, and it may have taken the one that failed, too. -/
structure ReplicaRun (choices : ServerChoices) (env : Environment) (object : V1alpha1.Cluster)
    (cluster : Cluster) (api : ComponentApi) (stored : StoredComponents) (result : Result)
    (calls : List ComponentCall) (stored' : StoredComponents) : Prop where
  returns : (ClusterController.reconcile api env (.ok object)
    (.ok (stored.listClusterComponents cluster.namespace cluster.name))).run [] = .ok result calls
  taken : calls.foldlM (StoredComponents.take choices) stored = .ok stored' ∨
    ∃ before call, calls = before ++ [call] ∧ (api before call).isSome ∧
      before.foldlM (StoredComponents.take choices) stored = .ok stored'

/-- The components that a run did not create or delete are the same after it.  It deletes
control planes and ingresses of the cluster only, and none that is being deleted already. -/
structure Untouched (choices : ServerChoices) (cluster : Cluster) (stored : StoredComponents)
    (calls : List ComponentCall) (stored' : StoredComponents) : Prop where
  deleted : ∀ component, .delete component ∈ calls →
    component ∈ stored.replicas cluster .controlPlane ∨
      component ∈ stored.replicas cluster .controlPlaneIngress
  kept : ∀ component ∈ stored.list, .delete component ∉ calls → component ∈ stored'.list
  origin : ∀ component ∈ stored'.list, component ∈ stored.list ∨
    (∃ sent between, .create sent ∈ calls ∧
      component = StoredComponents.admitted choices between sent) ∨
    ∃ deleted, .delete deleted ∈ calls ∧ deleted.key = component.key ∧
      component.deletionTimestamp.isSome

section Convergence

variable {choices : ServerChoices} {env : Environment} {object : V1alpha1.Cluster}
  {cluster : Cluster} {api : ComponentApi} {stored stored' : StoredComponents} {result : Result}
  {calls : List ComponentCall}

open ClusterController

/-- The result and the calls of a run. -/
theorem run_reconcile (hload : newClusterFromv1alpha1 env object = .ok cluster)
    (hlive : cluster.deletionTimestamp = none)
    (hreps : 0 ≤ cluster.controlPlaneReplicas.toInt) (hcounted : Counted cluster stored)
    (api : ComponentApi) : ∃ result calls rest,
    (ClusterController.reconcile api env (.ok object) (.ok (stored.listClusterComponents
      cluster.namespace cluster.name))).run [] = .ok result calls ∧
      plan cluster stored = calls ++ rest ∧
      (result = .done ∧ rest = [] ∨
        ∃ before call, calls = before ++ [call] ∧ (api before call).isSome) := by
  have hrec : ClusterController.reconcile api env (.ok object)
      (.ok (stored.listClusterComponents cluster.namespace cluster.name)) =
        reconcileComponents api cluster
          (stored.listClusterComponents cluster.namespace cluster.name) := by
    unfold ClusterController.reconcile
    dsimp only
    rw [hload]
  rw [hrec, reconcileComponents_eq_writeAll api hlive hreps hcounted]
  obtain ⟨ok, more, rest, hrun, hplan, hok⟩ := run_writeAll api (plan cluster stored) []
  rw [EStateM.run_bind, hrun]
  rcases hok with ⟨hall, hrest⟩ | ⟨hfailed, before, call, hmore, hanswer⟩
  · rw [hall]
    exact ⟨.done, more, rest, rfl, hplan, .inl ⟨rfl, hrest⟩⟩
  · rw [hfailed]
    exact ⟨.requeueAfter 10, more, rest, rfl, hplan, .inr ⟨before, call, hmore, hanswer⟩⟩

/-- Every run makes a first part of the plan, and leaves a state from which the next run can
go on.  If all calls succeed nothing is left to do. -/
theorem ReplicaRun.planned (hload : newClusterFromv1alpha1 env object = .ok cluster)
    (hlive : cluster.deletionTimestamp = none)
    (hreps : 0 ≤ cluster.controlPlaneReplicas.toInt) (hcounted : Counted cluster stored)
    (h : ReplicaRun choices env object cluster api stored result calls stored') :
    (∃ rest, plan cluster stored = calls ++ rest) ∧ Counted cluster stored' ∧
      (AllSucceed api calls → result = .done ∧ plan cluster stored' = []) := by
  obtain ⟨result', calls', rest, hrun, hplan, hend⟩ :=
    run_reconcile hload hlive hreps hcounted api
  have hsame := h.returns.symm.trans hrun
  injection hsame with hres hcalls
  rw [← hres, ← hcalls] at hend
  rw [← hcalls] at hplan
  refine ⟨⟨rest, hplan⟩, ?_⟩
  rcases h.taken with hall | ⟨before, call, hlast, hanswer, hbef⟩
  · obtain ⟨reached, hreached, hrest, hcounted'⟩ :=
      (replans choices cluster).foldlM hcounted hplan
    rw [hreached] at hall
    cases hall
    refine ⟨hcounted', fun hsucc => ?_⟩
    rcases hend with ⟨hdone, hnothing⟩ | ⟨before, call, hlast, hanswer⟩
    · exact ⟨hdone, hrest.trans hnothing⟩
    · rw [hsucc before call [] hlast] at hanswer
      cases hanswer
  · rw [hlast, List.append_assoc] at hplan
    obtain ⟨reached, hreached, -, hcounted'⟩ :=
      (replans choices cluster).foldlM hcounted hplan
    rw [hreached] at hbef
    cases hbef
    refine ⟨hcounted', fun hsucc => ?_⟩
    rw [hsucc before call [] hlast] at hanswer
    cases hanswer

/-- A run does not panic, and the API server has no reason to refuse a call. -/
theorem exists_run (hload : newClusterFromv1alpha1 env object = .ok cluster)
    (hlive : cluster.deletionTimestamp = none)
    (hreps : 0 ≤ cluster.controlPlaneReplicas.toInt) (hcounted : Counted cluster stored)
    (choices : ServerChoices) (api : ComponentApi) : ∃ result calls stored',
    ReplicaRun choices env object cluster api stored result calls stored' := by
  obtain ⟨result, calls, rest, hrun, hplan, -⟩ :=
    run_reconcile hload hlive hreps hcounted api
  obtain ⟨stored', hcalls, -⟩ := (replans choices cluster).foldlM hcounted hplan
  exact ⟨result, calls, stored', hrun, .inl hcalls⟩

theorem ReplicaRun.untouched (hload : newClusterFromv1alpha1 env object = .ok cluster)
    (hlive : cluster.deletionTimestamp = none)
    (hreps : 0 ≤ cluster.controlPlaneReplicas.toInt) (hcounted : Counted cluster stored)
    (h : ReplicaRun choices env object cluster api stored result calls stored') :
    Untouched choices cluster stored calls stored' := by
  obtain ⟨⟨rest, hplan⟩, -⟩ := h.planned hload hlive hreps hcounted
  have hmem : ∀ call ∈ calls, call ∈ plan cluster stored := by
    intro call hcall
    rw [hplan]
    exact List.mem_append_left _ hcall
  have hdel : ∀ component, .delete component ∈ calls →
      component ∈ stored.replicas cluster .controlPlane ∨
        component ∈ stored.replicas cluster .controlPlaneIngress := by
    intro component hcall
    exact (delete_mem_plan (hmem _ hcall)).imp And.left And.left
  -- the calls that the API server took
  obtain ⟨taken, htaken, hsub⟩ : ∃ taken : List ComponentCall,
      taken.foldlM (StoredComponents.take choices) stored = .ok stored' ∧
        ∀ call ∈ taken, call ∈ calls := by
    rcases h.taken with hall | ⟨before, call, hlast, -, hbef⟩
    · exact ⟨calls, hall, fun _ => id⟩
    · refine ⟨before, hbef, fun _ hcall => ?_⟩
      rw [hlast]
      exact List.mem_append_left _ hcall
  refine ⟨hdel, fun component hst hnot => ?_, fun component hst => ?_⟩
  · rcases foldlM_take_kept htaken hst with hkept | ⟨deleted, hcall, hkey⟩
    · exact hkept
    · have hlisted : deleted ∈ stored.list := by
        rcases hdel deleted (hsub _ hcall) with hrep | hrep
        · exact (StoredComponents.mem_replicas.mp hrep).1
        · exact (StoredComponents.mem_replicas.mp hrep).1
      have heq : deleted = component :=
        List.inj_on_of_nodup_map stored.keyed hlisted hst hkey
      exact absurd (hsub _ hcall) (heq ▸ hnot)
  · rcases foldlM_take_origin htaken hst with
      hold | ⟨sent, between, hcall, hcomp⟩ | ⟨deleted, hcall, hfields⟩
    · exact .inl hold
    · exact .inr (.inl ⟨sent, between, hsub _ hcall, hcomp⟩)
    · exact .inr (.inr ⟨deleted, hsub _ hcall, hfields⟩)

/-- What the runs on a cluster do.  There is one for every behaviour of the API.  If all its
calls succeed the numbers of replicas are right afterwards, and the next run makes no call.
No run creates and deletes components of one role, or touches other components.  A run after
one that was cut short brings the numbers to the same. -/
structure ReplicasConverge (choices : ServerChoices) (env : Environment)
    (object : V1alpha1.Cluster) (cluster : Cluster) (stored : StoredComponents) : Prop where
  runs : ∀ api, ∃ result calls stored',
    ReplicaRun choices env object cluster api stored result calls stored'
  complete : ∀ api result calls stored',
    ReplicaRun choices env object cluster api stored result calls stored' → AllSucceed api calls →
      result = .done ∧ Converged cluster stored' ∧
        ∀ api', ReplicaRun choices env object cluster api' stored' .done [] stored'
  roles : ∀ api result calls stored',
    ReplicaRun choices env object cluster api stored result calls stored' →
      ∀ created deleted, .create created ∈ calls → .delete deleted ∈ calls →
        created.role ≠ deleted.role
  untouched : ∀ api result calls stored',
    ReplicaRun choices env object cluster api stored result calls stored' →
      Untouched choices cluster stored calls stored'
  resumed : ∀ api result calls between,
    ReplicaRun choices env object cluster api stored result calls between →
      (∀ api', ∃ result' calls' stored',
        ReplicaRun choices env object cluster api' between result' calls' stored') ∧
      ∀ api' result' calls' stored',
        ReplicaRun choices env object cluster api' between result' calls' stored' →
          AllSucceed api' calls' → result' = .done ∧ Converged cluster stored'

theorem replicasConverge (choices : ServerChoices)
    (hload : newClusterFromv1alpha1 env object = .ok cluster)
    (hlive : cluster.deletionTimestamp = none) (hreps : 0 ≤ cluster.controlPlaneReplicas)
    (hlen : (stored.listClusterComponents cluster.namespace cluster.name).length < 2 ^ 63) :
    ReplicasConverge choices env object cluster stored := by
  have hnonneg : 0 ≤ cluster.controlPlaneReplicas.toInt := by
    rw [Int64.le_iff_toInt_le] at hreps
    exact hreps
  have hcounted : Counted cluster stored := by
    unfold Counted
    rw [← StoredComponents.undeletedWithRole_listClusterComponents]
    exact (length_undeletedWithRole_le _ _).trans_lt hlen
  refine ⟨exists_run hload hlive hnonneg hcounted choices, ?_, ?_,
    fun api result calls stored' hrun => hrun.untouched hload hlive hnonneg hcounted, ?_⟩
  · intro api result calls stored' hrun hsucc
    obtain ⟨-, hcounted', hdone⟩ := hrun.planned hload hlive hnonneg hcounted
    obtain ⟨hres, hplan⟩ := hdone hsucc
    refine ⟨hres, (plan_eq_nil_iff hnonneg).mp hplan, fun api' => ?_⟩
    -- the plan of the next run is empty
    obtain ⟨result', calls', rest, hrun', hplan', hend⟩ :=
      run_reconcile hload hlive hnonneg hcounted' api'
    rw [hplan, eq_comm, List.append_eq_nil_iff] at hplan'
    rw [hplan'.1] at hrun' hend
    rcases hend with ⟨hdone', -⟩ | ⟨before, call, hlast, -⟩
    · rw [hdone'] at hrun'
      exact ⟨hrun', .inl rfl⟩
    · simp at hlast
  · intro api result calls stored' hrun created deleted hnew hdel
    obtain ⟨⟨rest, hplan⟩, -⟩ := hrun.planned hload hlive hnonneg hcounted
    apply role_ne_of_mem_plan
    · rw [hplan]
      exact List.mem_append_left _ hnew
    · rw [hplan]
      exact List.mem_append_left _ hdel
  · intro api result calls between hrun
    obtain ⟨-, hcounted', -⟩ := hrun.planned hload hlive hnonneg hcounted
    refine ⟨exists_run hload hlive hnonneg hcounted' choices, ?_⟩
    intro api' result' calls' stored' hrun' hsucc
    obtain ⟨-, -, hdone⟩ := hrun'.planned hload hlive hnonneg hcounted'
    obtain ⟨hres, hplan⟩ := hdone hsucc
    exact ⟨hres, (plan_eq_nil_iff hnonneg).mp hplan⟩

/-- The API server took these calls of a run: all of them, or all but the last one, which has
failed. -/
def TookOf (api : ComponentApi) (calls taken : List ComponentCall) : Prop :=
  taken = calls ∨ ∃ call, calls = taken ++ [call] ∧ (api taken call).isSome

/-- Runs one after the other, and the calls of them that the API server took.  Each may be cut
short by a call that fails. -/
inductive ReplicaRuns (choices : ServerChoices) (env : Environment) (object : V1alpha1.Cluster)
    (cluster : Cluster) (stored : StoredComponents) :
    List ComponentCall → StoredComponents → Prop
  | none : ReplicaRuns choices env object cluster stored [] stored
  | next {taken more calls : List ComponentCall} {between stored' : StoredComponents}
      {api : ComponentApi} {result : Result}
      (before : ReplicaRuns choices env object cluster stored taken between)
      (run : ReplicaRun choices env object cluster api between result calls stored')
      (took : TookOf api calls more)
      (effect : more.foldlM (StoredComponents.take choices) between = .ok stored') :
      ReplicaRuns choices env object cluster stored (taken ++ more) stored'

theorem ReplicaRun.exists_took
    (h : ReplicaRun choices env object cluster api stored result calls stored') :
    ∃ taken, TookOf api calls taken ∧
      taken.foldlM (StoredComponents.take choices) stored = .ok stored' := by
  rcases h.taken with hall | ⟨before, call, hlast, hanswer, hbef⟩
  · exact ⟨calls, .inl rfl, hall⟩
  · exact ⟨before, .inr ⟨call, hlast, hanswer⟩, hbef⟩

/-- What the API server took of a run is what the plan loses. -/
theorem ReplicaRun.plan_eq (hload : newClusterFromv1alpha1 env object = .ok cluster)
    (hlive : cluster.deletionTimestamp = none)
    (hreps : 0 ≤ cluster.controlPlaneReplicas.toInt) (hcounted : Counted cluster stored)
    (h : ReplicaRun choices env object cluster api stored result calls stored')
    {taken : List ComponentCall} (htook : TookOf api calls taken)
    (heffect : taken.foldlM (StoredComponents.take choices) stored = .ok stored') :
    plan cluster stored = taken ++ plan cluster stored' := by
  obtain ⟨⟨rest, hplan⟩, -⟩ := h.planned hload hlive hreps hcounted
  obtain ⟨rest', hplan'⟩ : ∃ rest', plan cluster stored = taken ++ rest' := by
    rcases htook with rfl | ⟨call, rfl, -⟩
    · exact ⟨rest, hplan⟩
    · exact ⟨call :: rest, by rw [hplan, List.append_assoc]; rfl⟩
  obtain ⟨reached, hreached, hrest, -⟩ := (replans choices cluster).foldlM hcounted hplan'
  rw [heffect] at hreached
  cases hreached
  rw [hrest]
  exact hplan'

/-- However often runs are cut short, the API server takes the calls of the first plan, each once
and in order.  The numbers of replicas are right when it has taken all of them. -/
theorem plan_eq_of_runs (hload : newClusterFromv1alpha1 env object = .ok cluster)
    (hlive : cluster.deletionTimestamp = none)
    (hreps : 0 ≤ cluster.controlPlaneReplicas.toInt) (hcounted : Counted cluster stored)
    {taken : List ComponentCall} {final : StoredComponents}
    (hruns : ReplicaRuns choices env object cluster stored taken final) :
    taken.foldlM (StoredComponents.take choices) stored = .ok final ∧
      plan cluster stored = taken ++ plan cluster final ∧
      (Converged cluster final ↔ taken = plan cluster stored) := by
  have hinv : Counted cluster final ∧
      taken.foldlM (StoredComponents.take choices) stored = .ok final ∧
        plan cluster stored = taken ++ plan cluster final := by
    induction hruns with
    | none => exact ⟨hcounted, rfl, rfl⟩
    | next _ hrun htook heffect ih =>
      obtain ⟨hbtw, htaken, hplan⟩ := ih
      refine ⟨(hrun.planned hload hlive hreps hbtw).2.1, ?_, ?_⟩
      · rw [List.foldlM_append, htaken]
        exact heffect
      · rw [hplan, hrun.plan_eq hload hlive hreps hbtw htook heffect, List.append_assoc]
  obtain ⟨-, htaken, hplan⟩ := hinv
  refine ⟨htaken, hplan, ?_⟩
  rw [← plan_eq_nil_iff hreps, hplan, List.self_eq_append_right]

end Convergence

/-! ### A mixed state -/

/-- An API server that chooses names longer than all names there are. -/
def longerNames : ServerChoices where
  name list component := component.generateName ++
    String.ofList (List.replicate ((list.map fun other => other.name.length).sum + 1) 'x')
  now _ := 1
  fresh := by
    intro list component other hmem _ hname
    have hle : other.name.length ≤ (list.map fun other => other.name.length).sum :=
      List.le_sum_of_mem (List.mem_map_of_mem hmem)
    have hlen := congrArg String.length hname
    rw [String.length_append, String.length_ofList, List.length_replicate] at hlen
    omega

/-- A stored component of the cluster `c`. -/
def storedComponent (name : String) (role : Role) (deletionTimestamp : Option Nat) : Component :=
  { name := name, «namespace» := "ns", clusterName := "c", role := role
    labels := (∅ : GoMap String String).insert oneInfraClusterNameLabelName "c"
    finalizers := [oneInfraCleanupFinalizer], deletionTimestamp := deletionTimestamp }

/-- One control plane, another one that is being deleted, and two ingresses. -/
def mixedComponents : StoredComponents where
  list := [storedComponent "cp1" .controlPlane none, storedComponent "cp2" .controlPlane (some 1),
    storedComponent "lb1" .controlPlaneIngress none,
    storedComponent "lb2" .controlPlaneIngress none]
  keyed := by decide
  labelled := by
    intro component hmem
    simp only [List.mem_cons, List.not_mem_nil, or_false] at hmem
    rcases hmem with rfl | rfl | rfl | rfl <;> rfl

/-- A cluster with three control planes, to which the mixed state converges. -/
theorem replicasConverge_mixed : ∃ cluster,
    newClusterFromv1alpha1 keylessEnvironment
        { name := "c", «namespace» := "ns", spec.controlPlaneReplicas := 3 } = .ok cluster ∧
      ReplicasConverge longerNames keylessEnvironment
        { name := "c", «namespace» := "ns", spec.controlPlaneReplicas := 3 } cluster
        mixedComponents := by
  refine ⟨_, rfl, ?_⟩
  apply replicasConverge longerNames rfl rfl
  · decide
  · decide

/-- The second call of a run fails, and another run follows. -/
theorem plan_eq_of_runs_mixed : ∃ cluster taken final,
    ReplicaRuns longerNames keylessEnvironment
        { name := "c", «namespace» := "ns", spec.controlPlaneReplicas := 3 } cluster
        mixedComponents taken final ∧
      plan cluster mixedComponents = taken ++ plan cluster final := by
  obtain ⟨cluster, hload, hlive, hreps, hcounted⟩ : ∃ cluster,
      newClusterFromv1alpha1 keylessEnvironment
        { name := "c", «namespace» := "ns", spec.controlPlaneReplicas := 3 } = .ok cluster ∧
      cluster.deletionTimestamp = none ∧ 0 ≤ cluster.controlPlaneReplicas.toInt ∧
      Counted cluster mixedComponents :=
    ⟨_, rfl, rfl, by decide, by unfold Counted; decide⟩
  obtain ⟨result, calls, between, hrun⟩ := exists_run hload hlive hreps hcounted longerNames
    fun before _ => if before.length = 0 then none else some "timeout"
  have hcounted' := (hrun.planned hload hlive hreps hcounted).2.1
  obtain ⟨result', calls', final, hrun'⟩ :=
    exists_run hload hlive hreps hcounted' longerNames fun _ _ => none
  obtain ⟨taken, htook, heffect⟩ := hrun.exists_took
  obtain ⟨taken', htook', heffect'⟩ := hrun'.exists_took
  have hruns := ReplicaRuns.none.next hrun htook heffect |>.next hrun' htook' heffect'
  exact ⟨cluster, _, final, hruns, (plan_eq_of_runs hload hlive hreps hcounted hruns).2.1⟩

end Controllers

end OneInfra
