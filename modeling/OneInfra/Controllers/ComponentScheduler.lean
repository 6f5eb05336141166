import OneInfra.Component.V1alpha1
import OneInfra.Controllers.Store
import OneInfra.Infra.V1alpha1

/-!
# Scheduling components

`ComponentScheduler.Reconcile` of `controllers/component_scheduler.go` assigns a hypervisor
to every component that has none.  Control planes go to private hypervisors and ingresses
to public ones.

The list of candidates is a variable outside the loop, and the switch on the role has no
default.  A component of another role, which the API does not reject, is therefore assigned
to a candidate of the component before it.  `respects_iff` says that this is the only way
to break the rule.

The drawn numbers stand for the order of the hypervisors in the map as well.
-/

namespace OneInfra.Controllers.ComponentScheduler

open Lib Infra

/-! ## The controller -/

/-- `HypervisorMap.PrivateList`. -/
def privateList (hypervisorMap : List ImportedHypervisor) : List ImportedHypervisor :=
  hypervisorMap.filter fun hypervisor => !hypervisor.public

/-- `HypervisorMap.PublicList`. -/
def publicList (hypervisorMap : List ImportedHypervisor) : List ImportedHypervisor :=
  hypervisorMap.filter fun hypervisor => hypervisor.public

/-- `HypervisorList.Sample`, with the number that is drawn. -/
def sample (hypervisorList : List ImportedHypervisor) (number : Nat) :
    Except String ImportedHypervisor :=
  match hypervisorList[number % hypervisorList.length]? with
  | none => .error "no hypervisors available"
  | some hypervisor => .ok hypervisor

/-- What a run gets from outside. -/
structure Inputs where
  /-- The error of the list of components. -/
  listError : Option String := none
  /-- The result of `listHypervisors`. -/
  hypervisorMap : Except String (List ImportedHypervisor)
  /-- The numbers that `rand.Intn` draws. -/
  numbers : Nat → Nat := id
  /-- Whether the update of a component is accepted. -/
  update : ObjectKey → Bool := fun _ => true
  /-- The traversal of the host ports in an export. -/
  hostPorts : Component → List (String × Int64) := fun _ => []

/-- `ctrl.Result` and the error of a run. -/
inductive Result
  | done
  | requeue
  | requeueAfter (seconds : Nat)
  | error (message : String) (seconds : Nat)
deriving DecidableEq, Repr

/-- The key of a stored component. -/
def key (component : V1alpha1.Component) : ObjectKey := (component.namespace, component.name)

/-- The role of a stored component. -/
def roleOf (component : V1alpha1.Component) : Role := roleFromv1alpha1 component.spec.role

/-- The variables of the loop, and the stored components. -/
structure State where
  stored : List V1alpha1.Component
  hypervisorList : List ImportedHypervisor := []
  samples : Nat := 0
  result : Result := .done

/-- The switch on the role. -/
def candidates (hypervisorMap : List ImportedHypervisor) (role : Role)
    (hypervisorList : List ImportedHypervisor) : List ImportedHypervisor :=
  match role with
  | .controlPlane => privateList hypervisorMap
  | .controlPlaneIngress => publicList hypervisorMap
  | .unknown => hypervisorList

/-- The API server takes the specification of the object that it gets. -/
def withSpecOf (sent stored : V1alpha1.Component) : V1alpha1.Component :=
  { stored with resourceVersion := stored.resourceVersion + 1, spec := sent.spec }

/-- The stored component after the update with an assigned hypervisor. -/
def assign (inputs : Inputs) (component : Component) (hypervisorName : String) :
    V1alpha1.Component → V1alpha1.Component :=
  let component := { component with hypervisorName := hypervisorName }
  withSpecOf (component.export (inputs.hostPorts component))

/-- The body of the loop. -/
def schedule (inputs : Inputs) (hypervisorMap : List ImportedHypervisor) (req : ObjectKey)
    (state : State) (versionedComponent : V1alpha1.Component) : State :=
  let component := newComponentFromv1alpha1 versionedComponent
  let hypervisorList := candidates hypervisorMap component.role state.hypervisorList
  match sample hypervisorList (inputs.numbers state.samples) with
  | .error _ =>
    { state with
      hypervisorList := hypervisorList
      result := if component.key = req then .requeueAfter 10 else state.result }
  | .ok scheduledHypervisor =>
    if inputs.update component.key then
      { state with
        stored := modifyKey key component.key
          (assign inputs component scheduledHypervisor.name) state.stored
        hypervisorList := hypervisorList
        samples := state.samples + 1 }
    else
      { state with
        hypervisorList := hypervisorList
        samples := state.samples + 1
        result := .requeue }

/-- The components without a hypervisor. -/
def unscheduled (components : List V1alpha1.Component) : List V1alpha1.Component :=
  components.filter fun component => component.spec.hypervisor = ""

/-- `Reconcile`. -/
def reconcile (inputs : Inputs) (req : ObjectKey) (stored : List V1alpha1.Component) :
    Result × List V1alpha1.Component :=
  match inputs.listError with
  | some message => (.error message 0, stored)
  | none =>
    if unscheduled stored = [] then (.done, stored)
    else
      match inputs.hypervisorMap with
      | .error message => (.error message 10, stored)
      | .ok hypervisorMap =>
        let state := (unscheduled stored).foldl (schedule inputs hypervisorMap req)
          { stored := stored }
        (state.result, state.stored)

/-! ## What the controller is for -/

/-- The hypervisor suits the role. -/
def Suits (role : Role) (hypervisor : ImportedHypervisor) : Prop :=
  (role = .controlPlane ∧ hypervisor.public = false) ∨
    (role = .controlPlaneIngress ∧ hypervisor.public = true)

/-- A component whose assignment has changed had none, and has now one that suits its
role. -/
def Respects (hypervisorMap : List ImportedHypervisor)
    (before after : List V1alpha1.Component) : Prop :=
  after.map key = before.map key ∧
    ∀ component ∈ before, ∀ component' ∈ after, key component' = key component →
      component'.spec.hypervisor ≠ component.spec.hypervisor →
      component.spec.hypervisor = "" ∧
        ∃ hypervisor ∈ hypervisorMap, component'.spec.hypervisor = hypervisor.name ∧
          Suits (roleOf component) hypervisor

/-- The candidates that are left over from a list of components. -/
def carried (hypervisorMap : List ImportedHypervisor) (components : List V1alpha1.Component) :
    List ImportedHypervisor :=
  components.foldl (fun hypervisorList component =>
    candidates hypervisorMap (roleOf component) hypervisorList) []

/-- The hypervisors of a run. -/
def Inputs.hypervisors (inputs : Inputs) : List ImportedHypervisor :=
  match inputs.hypervisorMap with
  | .ok hypervisorMap => hypervisorMap
  | .error _ => []

/-- If the components are listed, a component of another role finds no candidates left
over, or its update fails. -/
def NothingCarried (inputs : Inputs) (stored : List V1alpha1.Component) : Prop :=
  inputs.listError = none → ∀ before component after,
    unscheduled stored = before ++ component :: after → roleOf component = .unknown →
    carried inputs.hypervisors before = [] ∨ inputs.update (key component) = false

/-! ## One component -/

section Step

variable {inputs : Inputs} {hypervisorMap : List ImportedHypervisor} {req : ObjectKey}
  {state : State} {component : V1alpha1.Component}

theorem sample_cases (hypervisorList : List ImportedHypervisor) (number : Nat) :
    (hypervisorList = [] ∧ sample hypervisorList number = .error "no hypervisors available") ∨
      ∃ hypervisor ∈ hypervisorList, sample hypervisorList number = .ok hypervisor := by
  cases hypervisorList with
  | nil => exact .inl ⟨rfl, rfl⟩
  | cons first rest =>
    have hlt : number % (first :: rest).length < (first :: rest).length :=
      Nat.mod_lt _ (Nat.succ_pos _)
    refine .inr ⟨(first :: rest)[number % (first :: rest).length], List.getElem_mem hlt, ?_⟩
    rw [sample, List.getElem?_eq_getElem hlt]

@[simp] theorem key_assign (component : Component) (hyp : String)
    (stored : V1alpha1.Component) :
    key (assign inputs component hyp stored) = key stored := rfl

/-- What the body of the loop does: the candidates are those of the role, and the component
gets one of them if there are any and its update is accepted. -/
theorem schedule_cases :
    (schedule inputs hypervisorMap req state component).hypervisorList =
        candidates hypervisorMap (roleOf component) state.hypervisorList ∧
      (((schedule inputs hypervisorMap req state component).stored = state.stored ∧
          (candidates hypervisorMap (roleOf component) state.hypervisorList = [] ∨
            inputs.update (key component) = false)) ∨
        (inputs.update (key component) = true ∧
          ∃ hypervisor ∈ candidates hypervisorMap (roleOf component) state.hypervisorList,
            (schedule inputs hypervisorMap req state component).stored =
              modifyKey key (key component)
                (assign inputs (newComponentFromv1alpha1 component) hypervisor.name)
                state.stored)) := by
  have hkey : (newComponentFromv1alpha1 component).key = key component := rfl
  have hrole : (newComponentFromv1alpha1 component).role = roleOf component := rfl
  unfold schedule
  dsimp only
  rw [hkey, hrole]
  rcases sample_cases (candidates hypervisorMap (roleOf component) state.hypervisorList)
      (inputs.numbers state.samples) with ⟨hnil, hsample⟩ | ⟨hypervisor, hmem, hsample⟩
  · rw [hsample]
    exact ⟨rfl, .inl ⟨rfl, .inl hnil⟩⟩
  · rw [hsample]
    dsimp only
    cases hupdate : inputs.update (key component) with
    | true =>
      rw [if_pos rfl]
      exact ⟨rfl, .inr ⟨rfl, hypervisor, hmem, rfl⟩⟩
    | false =>
      rw [if_neg Bool.false_ne_true]
      exact ⟨rfl, .inl ⟨rfl, .inr rfl⟩⟩

theorem keys_schedule :
    (schedule inputs hypervisorMap req state component).stored.map key = state.stored.map key := by
  rcases schedule_cases.2 with ⟨heq, -⟩ | ⟨-, hypervisor, -, heq⟩
  · rw [heq]
  · rw [heq, map_modifyKey (key_assign _ _)]

/-- The rows of other components stay. -/
theorem mem_schedule {other : V1alpha1.Component} (hne : key other ≠ key component) :
    other ∈ (schedule inputs hypervisorMap req state component).stored ↔ other ∈ state.stored := by
  rcases schedule_cases.2 with ⟨heq, -⟩ | ⟨-, hypervisor, -, heq⟩
  · rw [heq]
  · rw [heq, mem_modifyKey]
    constructor
    · rintro (⟨hmem, -⟩ | ⟨stored, -, hkey, rfl⟩)
      · exact hmem
      · exact absurd hkey hne
    · exact fun hmem => .inl ⟨hmem, hne⟩

end Step

/-! ## All components -/

section Run

variable {inputs : Inputs} {hypervisorMap : List ImportedHypervisor} {req : ObjectKey}

theorem hypervisorList_foldl (l : List V1alpha1.Component) (state : State) :
    (l.foldl (schedule inputs hypervisorMap req) state).hypervisorList =
      l.foldl (fun hypervisorList component =>
        candidates hypervisorMap (roleOf component) hypervisorList) state.hypervisorList := by
  induction l generalizing state with
  | nil => rfl
  | cons component l ih => rw [List.foldl_cons, ih, schedule_cases.1, List.foldl_cons]

theorem keys_foldl (l : List V1alpha1.Component) (state : State) :
    (l.foldl (schedule inputs hypervisorMap req) state).stored.map key =
      state.stored.map key := by
  induction l generalizing state with
  | nil => rfl
  | cons component l ih => rw [List.foldl_cons, ih, keys_schedule]

theorem mem_foldl {l : List V1alpha1.Component} {state : State} {other : V1alpha1.Component}
    (hnew : key other ∉ l.map key) :
    other ∈ (l.foldl (schedule inputs hypervisorMap req) state).stored ↔ other ∈ state.stored := by
  induction l generalizing state with
  | nil => exact Iff.rfl
  | cons component l ih =>
    rw [List.map_cons, List.mem_cons, not_or] at hnew
    rw [List.foldl_cons, ih hnew.2, mem_schedule hnew.1]

theorem mem_candidates {role : Role} {hypervisorList : List ImportedHypervisor}
    {hypervisor : ImportedHypervisor}
    (hmem : hypervisor ∈ candidates hypervisorMap role hypervisorList) :
    (hypervisor ∈ hypervisorMap ∧ Suits role hypervisor) ∨
      (role = .unknown ∧ hypervisor ∈ hypervisorList) := by
  cases role with
  | unknown => exact .inr ⟨rfl, hmem⟩
  | controlPlane =>
    obtain ⟨hmap, hpriv⟩ := List.mem_filter.mp hmem
    exact .inl ⟨hmap, .inl ⟨rfl, by simpa using hpriv⟩⟩
  | controlPlaneIngress =>
    obtain ⟨hmap, hpub⟩ := List.mem_filter.mp hmem
    exact .inl ⟨hmap, .inr ⟨rfl, hpub⟩⟩

theorem mem_of_mem_carried {l : List V1alpha1.Component} {hypervisor : ImportedHypervisor}
    (hmem : hypervisor ∈ carried hypervisorMap l) : hypervisor ∈ hypervisorMap := by
  induction l using List.reverseRecOn with
  | nil => cases hmem
  | append_singleton l component ih =>
    rw [carried, List.foldl_append] at hmem
    rcases mem_candidates hmem with ⟨hmap, -⟩ | ⟨-, hmem⟩
    · exact hmap
    · exact ih hmem

variable {stored : List V1alpha1.Component}

theorem mem_of_unscheduled {before after : List V1alpha1.Component}
    {component : V1alpha1.Component} (hsplit : unscheduled stored = before ++ component :: after) :
    component ∈ stored ∧ component.spec.hypervisor = "" := by
  have hmem : component ∈ unscheduled stored := by
    rw [hsplit]
    exact List.mem_append_right _ List.mem_cons_self
  simpa [unscheduled] using hmem

theorem respects_refl (hnd : (stored.map key).Nodup) :
    Respects hypervisorMap stored stored := by
  refine ⟨rfl, fun component hcomp comp' hcomp' hkey hchanged => ?_⟩
  rw [List.inj_on_of_nodup_map hnd hcomp' hcomp hkey] at hchanged
  exact absurd rfl hchanged

/-- The loop respects the kinds of hypervisors as far as it has come. -/
theorem respects_foldl (hnd : (stored.map key).Nodup) (hok : inputs.listError = none)
    (hnothing : NothingCarried inputs stored) {before after : List V1alpha1.Component}
    (hsplit : unscheduled stored = before ++ after) :
    Respects inputs.hypervisors stored
      (before.foldl (schedule inputs inputs.hypervisors req) { stored := stored }).stored := by
  refine ⟨keys_foldl _ _, ?_⟩
  induction before using List.reverseRecOn generalizing after with
  | nil => exact (respects_refl hnd).2
  | append_singleton before scheduled ih =>
    have hsplit' : unscheduled stored = before ++ scheduled :: after := by
      rw [hsplit, List.append_assoc, List.singleton_append]
    have hbef := ih hsplit'
    have hsched := mem_of_unscheduled hsplit'
    rw [List.foldl_append]
    intro component hcomp comp' hcomp' hkey hchanged
    rcases (@schedule_cases inputs inputs.hypervisors req _ scheduled).2 with
      ⟨heq, -⟩ | ⟨hupdate, hypervisor, hmem, heq⟩
    · exact hbef component hcomp comp' (heq ▸ hcomp') hkey hchanged
    · replace hcomp' : comp' ∈ _ := heq ▸ hcomp'
      rcases mem_modifyKey.mp hcomp' with ⟨hold, -⟩ | ⟨row, hrow, hrowKey, rfl⟩
      · exact hbef component hcomp comp' hold hkey hchanged
      · -- the component that the body is about
        have hsame : component = scheduled := by
          refine List.inj_on_of_nodup_map hnd hcomp hsched.1 ?_
          rw [← hkey, key_assign, hrowKey]
        rw [hsame]
        refine ⟨hsched.2, ?_⟩
        rcases mem_candidates hmem with ⟨hmap, hsuits⟩ | ⟨hunknown, hcarried⟩
        · exact ⟨hypervisor, hmap, rfl, hsuits⟩
        · rw [hypervisorList_foldl] at hcarried
          rcases hnothing hok before scheduled after hsplit' hunknown with hnil | hrejected
          · rw [carried] at hnil
            rw [hnil] at hcarried
            cases hcarried
          · rw [hrejected] at hupdate
            cases hupdate

/-- A component of another role with candidates left over gets one of them. -/
theorem exists_mem_foldl (hnd : (stored.map key).Nodup)
    {before after : List V1alpha1.Component} {component : V1alpha1.Component}
    (hsplit : unscheduled stored = before ++ component :: after)
    (hunknown : roleOf component = .unknown) (hcarried : carried hypervisorMap before ≠ [])
    (hupdate : inputs.update (key component) = true) :
    ∃ hypervisor ∈ hypervisorMap, ∃ comp' ∈ ((unscheduled stored).foldl
        (schedule inputs hypervisorMap req) { stored := stored }).stored,
      key comp' = key component ∧ comp'.spec.hypervisor = hypervisor.name := by
  have hnd' : ((unscheduled stored).map key).Nodup := hnd.sublist (List.filter_sublist.map _)
  have hmem : component ∈ stored := (mem_of_unscheduled hsplit).1
  have hlast : key component ∉ after.map key := by
    rw [hsplit, List.map_append, List.map_cons] at hnd'
    exact (List.nodup_cons.mp (List.nodup_append.mp hnd').2.1).1
  rw [hsplit, List.foldl_append, List.foldl_cons]
  set state := before.foldl (schedule inputs hypervisorMap req) { stored := stored } with hstate
  have hlist : state.hypervisorList = carried hypervisorMap before := hypervisorList_foldl _ _
  have hkeys : key component ∈ state.stored.map key := by
    rw [hstate, keys_foldl]
    exact List.mem_map_of_mem hmem
  obtain ⟨row, hrow, hrowKey⟩ := List.mem_map.mp hkeys
  have hcandidates : candidates hypervisorMap (roleOf component) state.hypervisorList =
      carried hypervisorMap before := by
    rw [hunknown, hlist]
    rfl
  rcases (@schedule_cases inputs hypervisorMap req state component).2 with
    ⟨-, hnil | hrejected⟩ | ⟨-, hypervisor, hhyp, heq⟩
  · rw [hcandidates] at hnil
    exact absurd hnil hcarried
  · rw [hrejected] at hupdate
    cases hupdate
  · rw [hcandidates] at hhyp
    refine ⟨hypervisor, mem_of_mem_carried hhyp,
      assign inputs (newComponentFromv1alpha1 component) hypervisor.name row, ?_, hrowKey, rfl⟩
    rw [mem_foldl (by rw [key_assign, hrowKey]; exact hlast), heq, mem_modifyKey]
    exact .inr ⟨row, hrow, hrowKey, rfl⟩

theorem carried_nil (l : List V1alpha1.Component) : carried [] l = [] :=
  List.eq_nil_iff_forall_not_mem.mpr fun _ hmem => List.not_mem_nil (mem_of_mem_carried hmem)

/-- Without candidates the loop stores nothing. -/
theorem reconcile_stored (hok : inputs.listError = none) :
    (reconcile inputs req stored).2 = stored ∧
        (unscheduled stored = [] ∨ inputs.hypervisors = []) ∨
      (reconcile inputs req stored).2 = ((unscheduled stored).foldl
        (schedule inputs inputs.hypervisors req) { stored := stored }).stored := by
  unfold reconcile Inputs.hypervisors
  rw [hok]
  dsimp only
  by_cases hempty : unscheduled stored = []
  · rw [if_pos hempty]
    exact .inl ⟨rfl, .inl hempty⟩
  · rw [if_neg hempty]
    cases inputs.hypervisorMap with
    | error message => exact .inl ⟨rfl, .inr rfl⟩
    | ok hypervisorMap => exact .inr rfl

/-- An assignment to a component without one is the edit of `Store`. -/
theorem import_assign {component : V1alpha1.Component} (hnone : component.spec.hypervisor = "")
    (hyp : String) :
    newComponentFromv1alpha1 (assign inputs (newComponentFromv1alpha1 component) hyp component) =
      (newComponentFromv1alpha1 component).scheduled hyp := by
  have hrole : roleFromv1alpha1 (roleFromv1alpha1 component.spec.role).export =
      roleFromv1alpha1 component.spec.role := by
    cases roleFromv1alpha1 component.spec.role <;> decide
  refine Eq.trans ?_ (if_pos hnone).symm
  exact congrArg (fun role => ({ newComponentFromv1alpha1 component with
    resourceVersion := component.resourceVersion + 1, role := role, hypervisorName := hyp } :
      Component)) hrole

/-- The loop is a sequence of edits of `Store`. -/
theorem exists_edits_foldl (hnd : (stored.map key).Nodup) {store : Store}
    (hlist : store.components = stored.map newComponentFromv1alpha1)
    {before after : List V1alpha1.Component} (hsplit : unscheduled stored = before ++ after) :
    ∃ edits : List Edit, (∀ edit ∈ edits, ∃ k hyp, edit = .scheduleComponent k hyp) ∧
      (edits.foldl Store.edit store).components =
        (before.foldl (schedule inputs hypervisorMap req) { stored := stored }).stored.map
          newComponentFromv1alpha1 := by
  induction before using List.reverseRecOn generalizing after with
  | nil => exact ⟨[], by simp, hlist⟩
  | append_singleton before scheduled ih =>
    have hsplit' : unscheduled stored = before ++ scheduled :: after := by
      rw [hsplit, List.append_assoc, List.singleton_append]
    obtain ⟨edits, hedits, heq⟩ := ih hsplit'
    rw [List.foldl_append, List.foldl_cons, List.foldl_nil]
    set state := before.foldl (schedule inputs hypervisorMap req) { stored := stored } with hstate
    rcases (@schedule_cases inputs hypervisorMap req state scheduled).2 with
      ⟨hsame, -⟩ | ⟨-, hypervisor, -, hassign⟩
    · exact ⟨edits, hedits, by rw [hsame, heq]⟩
    · refine ⟨edits ++ [.scheduleComponent (key scheduled) hypervisor.name], ?_, ?_⟩
      · intro edit hmem
        rcases List.mem_append.mp hmem with hmem | hmem
        · exact hedits edit hmem
        · exact ⟨_, _, List.mem_singleton.mp hmem⟩
      · -- The row of the component is still the one that was listed.
        have hsched := mem_of_unscheduled hsplit'
        have hnew : key scheduled ∉ before.map key := by
          have hnd' := hnd.sublist ((List.filter_sublist (p := fun component =>
            decide (component.spec.hypervisor = ""))).map key)
          rw [← unscheduled, hsplit', List.map_append, List.map_cons] at hnd'
          intro hmem
          exact (List.nodup_append.mp hnd').2.2 _ hmem _ List.mem_cons_self rfl
        have hrow : scheduled ∈ state.stored := (mem_foldl hnew).mpr hsched.1
        have hnd' : (state.stored.map key).Nodup := by
          rw [hstate, keys_foldl]
          exact hnd
        rw [List.foldl_append, hassign]
        show modifyKey Component.key (key scheduled) _ (edits.foldl Store.edit store).components = _
        rw [heq, modifyKey, modifyKey, List.map_map, List.map_map]
        refine List.map_congr_left fun row hmem => ?_
        show (if key row = key scheduled then _ else _) =
          newComponentFromv1alpha1 (if _ then _ else _)
        split_ifs with hkey
        · rw [List.inj_on_of_nodup_map hnd' hmem hrow hkey]
          exact (import_assign hsched.2 _).symm
        · rfl

end Run

/-- What a run stores is what a sequence of edits of `Store` does. -/
theorem exists_edits_reconcile (inputs : Inputs) (req : ObjectKey)
    {stored : List V1alpha1.Component} (hnd : (stored.map key).Nodup) {store : Store}
    (hlist : store.components = stored.map newComponentFromv1alpha1) :
    ∃ edits : List Edit, (∀ edit ∈ edits, ∃ k hyp, edit = .scheduleComponent k hyp) ∧
      (edits.foldl Store.edit store).components =
        (reconcile inputs req stored).2.map newComponentFromv1alpha1 := by
  cases herror : inputs.listError with
  | some message =>
    refine ⟨[], by simp, ?_⟩
    rw [reconcile, herror]
    exact hlist
  | none =>
    rcases @reconcile_stored inputs req stored herror with ⟨hsame, -⟩ | hloop
    · exact ⟨[], by simp, by rw [hsame]; exact hlist⟩
    · rw [hloop]
      exact exists_edits_foldl hnd hlist (List.append_nil _).symm

/-- A run assigns hypervisors as it should if and only if no component of another role
comes after candidates that it could get. -/
theorem respects_iff (inputs : Inputs) (req : ObjectKey) (stored : List V1alpha1.Component)
    (hnd : (stored.map key).Nodup)
    (hnames : ∀ hypervisor ∈ inputs.hypervisors, hypervisor.name ≠ "") :
    Respects inputs.hypervisors stored (reconcile inputs req stored).2 ↔
      NothingCarried inputs stored := by
  cases hlist : inputs.listError with
  | some message =>
    have hsame : (reconcile inputs req stored).2 = stored := by rw [reconcile, hlist]
    rw [hsame]
    refine ⟨fun _ hok => ?_, fun _ => respects_refl hnd⟩
    rw [hlist] at hok
    cases hok
  | none =>
    rcases @reconcile_stored inputs req stored hlist with ⟨hsame, hempty⟩ | hloop
    · rw [hsame]
      refine ⟨fun _ _ before component after hsplit _ => .inl ?_, fun _ => respects_refl hnd⟩
      rcases hempty with hempty | hempty
      · rw [hempty] at hsplit
        exact absurd hsplit.symm (by simp)
      · rw [hempty, carried_nil]
    · rw [hloop]
      refine ⟨fun hrespects _ before component after hsplit hunknown => ?_, fun hnothing =>
        respects_foldl hnd hlist hnothing (List.append_nil _).symm⟩
      by_contra hneither
      rw [not_or, Bool.not_eq_false] at hneither
      obtain ⟨hypervisor, hmap, comp', hmem', hkey, hasg⟩ :=
        @exists_mem_foldl inputs _ req _ hnd _ _ _ hsplit hunknown hneither.1 hneither.2
      have hcomp := mem_of_unscheduled hsplit
      have hchanged : comp'.spec.hypervisor ≠ component.spec.hypervisor := by
        rw [hasg, hcomp.2]
        exact hnames hypervisor hmap
      obtain ⟨-, _, -, -, hsuits⟩ :=
        hrespects.2 component hcomp.1 comp' hmem' hkey hchanged
      rcases hsuits with ⟨hrole, -⟩ | ⟨hrole, -⟩ <;> (rw [hunknown] at hrole; cases hrole)

/-- A hypervisor without components. -/
def emptyHypervisor (name : String) (isPublic : Bool) : ImportedHypervisor :=
  { name := name
    resourceVersion := 0
    ipAddress := ""
    files := ∅
    portRangeLow := 30000
    portRangeHigh := 60000
    freedPorts := []
    allocatedPorts := []
    labels := ∅
    annotations := ∅
    «public» := isPublic
    endpoint := .localHypervisorEndpoint "" }

/-- A component that has just been created. -/
def newComponent (name role : String) : V1alpha1.Component :=
  { name := name, «namespace» := "default", spec := { role := role } }

/-- A component of the role `other` is assigned to the private hypervisor that its
predecessor has left as the only candidate. -/
theorem not_respects_other_role :
    let inputs : Inputs := { hypervisorMap := .ok [emptyHypervisor "private" false] }
    let stored := [newComponent "plane" "control-plane", newComponent "stray" "other"]
    (∃ component ∈ (reconcile inputs ("default", "stray") stored).2,
        key component = ("default", "stray") ∧ component.spec.hypervisor = "private") ∧
      ¬ Respects inputs.hypervisors stored (reconcile inputs ("default", "stray") stored).2 := by
  intro inputs stored
  have hasg : ∃ component ∈ (reconcile inputs ("default", "stray") stored).2,
      key component = ("default", "stray") ∧ component.spec.hypervisor = "private" := by
    decide +kernel
  refine ⟨hasg, fun hrespects => ?_⟩
  obtain ⟨component, hmem, hkey, hhyp⟩ := hasg
  have hchanged : component.spec.hypervisor ≠ (newComponent "stray" "other").spec.hypervisor := by
    rw [hhyp]
    decide
  obtain ⟨-, _, -, -, hsuits⟩ := hrespects.2 (newComponent "stray" "other")
    (List.mem_cons_of_mem _ List.mem_cons_self) component hmem hkey hchanged
  rcases hsuits with ⟨hrole, -⟩ | ⟨hrole, -⟩
  · exact absurd hrole (by decide +kernel)
  · exact absurd hrole (by decide +kernel)

/-- The same two components in the other order. -/
theorem respects_iff_other_order :
    let inputs : Inputs := { hypervisorMap := .ok [emptyHypervisor "private" false] }
    let stored := [newComponent "stray" "other", newComponent "plane" "control-plane"]
    ((stored.map key).Nodup ∧ ∃ hypervisor ∈ inputs.hypervisors, hypervisor.name ≠ "") ∧
      (Respects inputs.hypervisors stored (reconcile inputs ("default", "stray") stored).2 ↔
        NothingCarried inputs stored) :=
  ⟨⟨by decide +kernel, _, List.mem_cons_self, by decide +kernel⟩,
    respects_iff _ _ _ (by decide +kernel) fun _ hmem => by
      rw [List.mem_singleton.mp hmem]
      decide +kernel⟩

end OneInfra.Controllers.ComponentScheduler
