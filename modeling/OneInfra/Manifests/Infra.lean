import OneInfra.Cluster.Export
import OneInfra.Component.V1alpha1
import OneInfra.Infra.V1alpha1
import OneInfra.Lib.Keyed
import OneInfra.Manifests.Documents

/-!
# Manifests through the command line

`WithStdinResources` of `internal/pkg/manifests/infra.go`.  The commands read a manifest from
standard input, change its hypervisors, clusters and components, and print them again.

The text is parsed once per kind, and a document of another kind is skipped: it does not decode
in the scheme, or it leaves the given object empty.  A document that cannot be imported is
skipped as well.  Hypervisors and clusters are collected in maps under their names, and a later
one takes the place of an earlier one.

An imported hypervisor has no namespace, and an import of a cluster can panic.
-/

namespace OneInfra.Manifests

open Lib Infra

/-! ## Objects and texts -/

/-- The kind of a document. -/
inductive Kind
  | hypervisor
  | cluster
  | component
deriving DecidableEq, Repr

/-- A decoded document.  The conversions do not read the namespace of a hypervisor. -/
inductive Object
  | hypervisor («namespace» : String) (hypervisor : V1alpha1.Hypervisor)
  | cluster (cluster : V1alpha1.Cluster)
  | component (component : V1alpha1.Component)

/-- The kind, the namespace and the name. -/
def Object.identity : Object → Kind × String × String
  | .hypervisor ns obj => (.hypervisor, ns, obj.name)
  | .cluster obj => (.cluster, obj.namespace, obj.name)
  | .component obj => (.component, obj.namespace, obj.name)

/-- The Kubernetes serializer.  What it encodes is one document and decodes to an object with the
same identity. -/
structure Serializer where
  decode : Text → Option Object
  encode : Object → Option Text
  isDocument : ∀ {object text}, encode object = some text → IsDocument text
  decode_encode : ∀ {object text}, encode object = some text →
    ∃ decoded, decode ('\n' :: text) = some decoded ∧ decoded.identity = object.identity

/-- The orders in which maps are traversed. -/
structure Traversals where
  traverse : ∀ {α : Type}, GoMap String α → List (String × α)
  isIteration : ∀ {α : Type} (m : GoMap String α), m.IsIteration (traverse m)

/-- `HypervisorMap`. -/
abbrev HypervisorMap := GoMap String ImportedHypervisor

/-- `cluster.Map`. -/
abbrev ClusterMap := GoMap String Cluster

section Pipeline

variable (env : Environment) (serializer : Serializer) (traversals : Traversals)

/-! ## Specifications -/

/-- The object of a hypervisor. -/
def hypervisorObject (hypervisor : ImportedHypervisor) : Object :=
  .hypervisor "" hypervisor.export

/-- The object of a cluster. -/
def clusterObject (cluster : Cluster) : Object :=
  .cluster (cluster.export env.net (traversals.traverse cluster.vpnPeers))

/-- The object of a component. -/
def componentObject (component : Component) : Object :=
  .component (component.export (traversals.traverse component.allocatedHostPorts))

/-- `Specs` of a collection of objects.  Those that cannot be encoded are left out. -/
def specs (objects : List Object) : Text := joined (objects.filterMap serializer.encode)

/-- `HypervisorMap.Specs`. -/
def hypervisorSpecs (hypervisors : HypervisorMap) : Text :=
  specs serializer ((traversals.traverse hypervisors).map fun entry => hypervisorObject entry.2)

/-- `Map.Specs` of clusters. -/
def clusterSpecs (clusters : ClusterMap) : Text :=
  specs serializer
    ((traversals.traverse clusters).map fun entry => clusterObject env traversals entry.2)

/-- `List.Specs` of components. -/
def componentSpecs (components : List Component) : Text :=
  specs serializer (components.map (componentObject traversals))

/-! ## Reading -/

/-- `RetrieveHypervisors`.  `NewHypervisorFromv1alpha1` encodes the hypervisor and fails if it
cannot. -/
def retrieveHypervisors (manifests : Text) : HypervisorMap :=
  (splitDocuments manifests).foldl (fun hypervisors document =>
    match serializer.decode document with
    | some (.hypervisor _ hypervisor) =>
      match (newHypervisorFromv1alpha1 hypervisor ∅).1 with
      | .ok internalHypervisor =>
        if (serializer.encode (hypervisorObject internalHypervisor)).isSome then
          hypervisors.insert internalHypervisor.name internalHypervisor
        else hypervisors
      | .error _ => hypervisors
    | _ => hypervisors) ∅

/-- `RetrieveClusters`. -/
def retrieveClusters (manifests : Text) : Except Fault ClusterMap :=
  (splitDocuments manifests).foldlM (fun clusters document =>
    match serializer.decode document with
    | some (.cluster clusterObj) =>
      match newClusterFromv1alpha1 env clusterObj with
      | .ok internalCluster => .ok (clusters.insert internalCluster.name internalCluster)
      | .error (.error _) => .ok clusters
      | .error (.panic message) => .error (.panic message)
    | _ => .ok clusters) ∅

/-- `RetrieveComponents`. -/
def retrieveComponents (manifests : Text) : List Component :=
  (splitDocuments manifests).filterMap fun document =>
    match serializer.decode document with
    | some (.component componentObj) => some (newComponentFromv1alpha1 componentObj)
    | _ => none

/-- The resources that a command works on. -/
structure Resources where
  hypervisors : HypervisorMap
  clusters : ClusterMap
  components : List Component

/-- `retrieveResourcesFromStdin`. -/
def retrieveResourcesFromStdin (stdin : Except String Text) : Except Fault Resources := do
  let stdin ← stdin.mapError Fault.error
  let hypervisors := retrieveHypervisors serializer stdin
  let clusters ← retrieveClusters env serializer stdin
  pure ⟨hypervisors, clusters, retrieveComponents serializer stdin⟩

/-- `WithStdinResources`: what is printed.  The actuator gets pointers and may change all of the
resources. -/
def withStdinResources (resourceActuator : Resources → Except Fault Resources)
    (stdin : Except String Text) : Except Fault Text := do
  let resources ← retrieveResourcesFromStdin env serializer stdin
  let resources ← resourceActuator resources
  pure (hypervisorSpecs serializer traversals resources.hypervisors ++
    clusterSpecs env serializer traversals resources.clusters ++
    componentSpecs serializer traversals resources.components)

end Pipeline

/-! ## What a manifest says -/

/-- The objects of a manifest. -/
def Serializer.objects (serializer : Serializer) (manifests : Text) : List Object :=
  (splitDocuments manifests).filterMap serializer.decode

/-- The identities of the objects of a manifest. -/
def Serializer.identities (serializer : Serializer) (manifests : Text) :
    List (Kind × String × String) :=
  (serializer.objects manifests).map Object.identity

/-- The objects of what is printed. -/
theorem identities_specs (serializer : Serializer) (objects : List Object) :
    serializer.identities (specs serializer objects) =
      (objects.filter fun object => (serializer.encode object).isSome).map Object.identity := by
  unfold Serializer.identities Serializer.objects specs
  have hdocs : ∀ text ∈ objects.filterMap serializer.encode, IsDocument text := by
    intro text htext
    obtain ⟨object, -, hencode⟩ := List.mem_filterMap.mp htext
    exact serializer.isDocument hencode
  rw [splitDocuments_joined hdocs, List.filterMap_map]
  clear hdocs
  induction objects with
  | nil => rfl
  | cons object objects ih =>
    cases hencode : serializer.encode object with
    | none =>
      rw [List.filterMap_cons_none hencode, List.filter_cons_of_neg (by simp [hencode])]
      exact ih
    | some text =>
      obtain ⟨decoded, hdecode, hidentity⟩ := serializer.decode_encode hencode
      rw [List.filterMap_cons_some hencode, List.filter_cons_of_pos (by simp [hencode]),
        List.filterMap_cons_some (show (serializer.decode ∘ ('\n' :: ·)) text = some decoded
          from hdecode), List.map_cons, List.map_cons, hidentity, ih]

section Import

variable (env : Environment) (serializer : Serializer) (traversals : Traversals)

/-- A hypervisor that is collected, under its name. -/
def hypervisorEntry : Object → Option (String × ImportedHypervisor)
  | .hypervisor _ hypervisor =>
    match (newHypervisorFromv1alpha1 hypervisor ∅).1 with
    | .ok internalHypervisor =>
      if (serializer.encode (hypervisorObject internalHypervisor)).isSome then
        some (internalHypervisor.name, internalHypervisor)
      else none
    | .error _ => none
  | _ => none

/-- A cluster that is collected, under its name. -/
def clusterEntry : Object → Option (String × Cluster)
  | .cluster clusterObj =>
    match newClusterFromv1alpha1 env clusterObj with
    | .ok internalCluster => some (internalCluster.name, internalCluster)
    | .error _ => none
  | _ => none

/-- A component that is collected. -/
def componentEntry : Object → Option Component
  | .component componentObj => some (newComponentFromv1alpha1 componentObj)
  | _ => none

theorem retrieveHypervisors_eq (manifests : Text) :
    retrieveHypervisors serializer manifests =
      GoMap.ofList ((serializer.objects manifests).filterMap (hypervisorEntry serializer)) := by
  unfold retrieveHypervisors Serializer.objects GoMap.ofList
  rw [List.filterMap_filterMap, List.foldl_filterMap]
  congr 1
  funext hypervisors document
  cases serializer.decode document with
  | none => rfl
  | some object =>
    cases object with
    | cluster | component => rfl
    | hypervisor ns hypervisor =>
      dsimp only [Option.bind, hypervisorEntry]
      cases (newHypervisorFromv1alpha1 hypervisor ∅).1 with
      | error => rfl
      | ok internalHypervisor =>
        dsimp only
        split <;> rfl

theorem retrieveComponents_eq (manifests : Text) :
    retrieveComponents serializer manifests =
      (serializer.objects manifests).filterMap componentEntry := by
  unfold retrieveComponents Serializer.objects
  rw [List.filterMap_filterMap]
  congr 1
  funext document
  cases serializer.decode document with
  | none => rfl
  | some object => cases object <;> rfl

/-- The import of a cluster of the manifest panics, or the clusters are collected. -/
theorem retrieveClusters_cases (manifests : Text) :
    (∃ message, retrieveClusters env serializer manifests = .error (.panic message)) ∧
        (∃ clusterObj message, .cluster clusterObj ∈ serializer.objects manifests ∧
          newClusterFromv1alpha1 env clusterObj = .error (.panic message)) ∨
      retrieveClusters env serializer manifests =
        .ok (GoMap.ofList ((serializer.objects manifests).filterMap (clusterEntry env))) := by
  unfold retrieveClusters Serializer.objects GoMap.ofList
  generalize splitDocuments manifests = documents
  generalize (∅ : ClusterMap) = clusters
  induction documents generalizing clusters with
  | nil => exact .inr rfl
  | cons document documents ih =>
    rw [List.foldlM_cons]
    cases hdecode : serializer.decode document with
    | none =>
      rw [List.filterMap_cons_none hdecode]
      exact ih clusters
    | some object =>
      rw [List.filterMap_cons_some hdecode]
      -- a panic of a later document is one of the whole
      have hlater : ∀ {P : Prop}, (P ∧ ∃ clusterObj message,
            Object.cluster clusterObj ∈ documents.filterMap serializer.decode ∧
              newClusterFromv1alpha1 env clusterObj = .error (.panic message)) →
          P ∧ ∃ clusterObj message,
            Object.cluster clusterObj ∈ object :: documents.filterMap serializer.decode ∧
              newClusterFromv1alpha1 env clusterObj = .error (.panic message) :=
        fun ⟨hp, clusterObj, message, hmem, hpanic⟩ =>
          ⟨hp, clusterObj, message, List.mem_cons_of_mem _ hmem, hpanic⟩
      cases object with
      | hypervisor ns hypervisor => exact (ih clusters).imp_left hlater
      | component componentObj => exact (ih clusters).imp_left hlater
      | cluster clusterObj =>
        dsimp only
        cases himp : newClusterFromv1alpha1 env clusterObj with
        | ok internalCluster =>
          have hentry : clusterEntry env (.cluster clusterObj) =
              some (internalCluster.name, internalCluster) := by
            simp only [clusterEntry, himp]
          rw [List.filterMap_cons_some hentry]
          exact (ih (clusters.insert internalCluster.name internalCluster)).imp_left hlater
        | error fault =>
          have hentry : clusterEntry env (.cluster clusterObj) = none := by
            simp only [clusterEntry, himp]
          rw [List.filterMap_cons_none hentry]
          cases fault with
          | error message => exact (ih clusters).imp_left hlater
          | panic message =>
            exact .inl ⟨⟨message, rfl⟩, clusterObj, message, List.mem_cons_self, himp⟩

/-! ## What is printed of an object -/

/-- An object after its import and its export. -/
def Object.reexport : Object → Except Fault Object
  | .hypervisor _ obj =>
    match (newHypervisorFromv1alpha1 obj ∅).1 with
    | .ok internalHypervisor => .ok (hypervisorObject internalHypervisor)
    | .error message => .error (.error message)
  | .cluster obj => (newClusterFromv1alpha1 env obj).map (clusterObject env traversals)
  | .component obj => .ok (componentObject traversals (newComponentFromv1alpha1 obj))

/-- The identity that an object is printed with. -/
def Object.printedIdentity : Object → Kind × String × String
  | .hypervisor _ obj => (.hypervisor, "", obj.name)
  | .cluster obj => (Object.cluster obj).identity
  | .component obj => (Object.component obj).identity

theorem name_newHypervisorFromv1alpha1 {hypervisor : V1alpha1.Hypervisor}
    {connectionPool : HypervisorConnectionPool} {internalHypervisor : ImportedHypervisor}
    (h : (newHypervisorFromv1alpha1 hypervisor connectionPool).1 = .ok internalHypervisor) :
    internalHypervisor.name = hypervisor.name := by
  unfold newHypervisorFromv1alpha1 at h
  cases hep : specEndpoint hypervisor with
  | error message =>
    rw [hep] at h
    cases h
  | ok endpoint =>
    rw [hep] at h
    cases h
    rfl

variable {env serializer traversals}

theorem reexport_hypervisor_ok {ns : String} {obj : V1alpha1.Hypervisor} {exported : Object}
    (h : (Object.hypervisor ns obj).reexport env traversals = .ok exported) :
    ∃ internalHypervisor, (newHypervisorFromv1alpha1 obj ∅).1 = .ok internalHypervisor ∧
      exported = hypervisorObject internalHypervisor := by
  unfold Object.reexport at h
  dsimp only at h
  split at h
  · next internalHypervisor himp =>
    cases h
    exact ⟨internalHypervisor, himp, rfl⟩
  · cases h

theorem reexport_cluster_ok {obj : V1alpha1.Cluster} {exported : Object}
    (h : (Object.cluster obj).reexport env traversals = .ok exported) :
    ∃ internalCluster, newClusterFromv1alpha1 env obj = .ok internalCluster ∧
      internalCluster.name = obj.name ∧ internalCluster.namespace = obj.namespace ∧
      exported = clusterObject env traversals internalCluster := by
  change Except.map _ (newClusterFromv1alpha1 env obj) = _ at h
  cases himp : newClusterFromv1alpha1 env obj with
  | error fault =>
    rw [himp] at h
    cases h
  | ok internalCluster =>
    rw [himp] at h
    cases h
    obtain ⟨joinKey, serviceAccount, vpn, -, -, -, rfl⟩ := newClusterFromv1alpha1_eq_ok himp
    exact ⟨_, rfl, rfl, rfl, rfl⟩

theorem identity_reexport {object exported : Object}
    (h : object.reexport env traversals = .ok exported) :
    exported.identity = object.printedIdentity := by
  cases object with
  | hypervisor ns obj =>
    obtain ⟨internalHypervisor, himp, rfl⟩ := reexport_hypervisor_ok h
    exact congrArg (fun name => (Kind.hypervisor, "", name))
      (name_newHypervisorFromv1alpha1 himp)
  | cluster obj =>
    obtain ⟨internalCluster, -, hname, hns, rfl⟩ := reexport_cluster_ok h
    exact congrArg₂ (fun clusterNamespace name => (Kind.cluster, clusterNamespace, name))
      hns hname
  | component obj =>
    cases h
    rfl

/-- What is collected is an import of the object. -/
theorem hypervisorEntry_eq_some {object : Object} {entry : String × ImportedHypervisor}
    (h : hypervisorEntry serializer object = some entry) :
    entry.1 = entry.2.name ∧ ∃ ns obj, object = .hypervisor ns obj ∧
      (newHypervisorFromv1alpha1 obj ∅).1 = .ok entry.2 := by
  cases object with
  | cluster obj => cases h
  | component obj => cases h
  | hypervisor ns obj =>
    unfold hypervisorEntry at h
    dsimp only at h
    split at h
    · next internalHypervisor himp =>
      split at h
      · cases h
        exact ⟨rfl, ns, obj, rfl, himp⟩
      · cases h
    · cases h

theorem clusterEntry_eq_some {object : Object} {entry : String × Cluster}
    (h : clusterEntry env object = some entry) :
    entry.1 = entry.2.name ∧ ∃ obj, object = .cluster obj ∧
      newClusterFromv1alpha1 env obj = .ok entry.2 := by
  cases object with
  | hypervisor ns obj => cases h
  | component obj => cases h
  | cluster obj =>
    unfold clusterEntry at h
    dsimp only at h
    split at h
    · next internalCluster himp =>
      cases h
      exact ⟨rfl, obj, rfl, himp⟩
    · cases h

/-- An object that can be imported is collected under its name. -/
theorem hypervisorEntry_of_reexport {ns : String} {obj : V1alpha1.Hypervisor} {exported : Object}
    (h : (Object.hypervisor ns obj).reexport env traversals = .ok exported)
    (hencode : (serializer.encode exported).isSome = true) :
    ∃ entry, hypervisorEntry serializer (.hypervisor ns obj) = some entry ∧
      entry.1 = obj.name := by
  obtain ⟨internalHypervisor, himp, rfl⟩ := reexport_hypervisor_ok h
  unfold hypervisorEntry
  dsimp only
  rw [himp]
  exact ⟨_, if_pos hencode, name_newHypervisorFromv1alpha1 himp⟩

theorem clusterEntry_of_reexport {obj : V1alpha1.Cluster} {exported : Object}
    (h : (Object.cluster obj).reexport env traversals = .ok exported) :
    ∃ entry, clusterEntry env (.cluster obj) = some entry ∧ entry.1 = obj.name := by
  obtain ⟨internalCluster, himp, hname, -, -⟩ := reexport_cluster_ok h
  unfold clusterEntry
  dsimp only
  rw [himp]
  exact ⟨_, rfl, hname⟩

variable (env serializer traversals)

/-! ## What is printed of a manifest -/

/-- The hypervisors that are printed. -/
def printedHypervisors (objects : List Object) : List Object :=
  (traversals.traverse (GoMap.ofList (objects.filterMap (hypervisorEntry serializer)))).map
    fun entry => hypervisorObject entry.2

/-- The clusters that are printed. -/
def printedClusters (objects : List Object) : List Object :=
  (traversals.traverse (GoMap.ofList (objects.filterMap (clusterEntry env)))).map
    fun entry => clusterObject env traversals entry.2

/-- The components that are printed. -/
def printedComponents (objects : List Object) : List Object :=
  (objects.filterMap componentEntry).map (componentObject traversals)

/-- All that is printed. -/
def printed (objects : List Object) : List Object :=
  printedHypervisors serializer traversals objects ++ printedClusters env traversals objects ++
    printedComponents traversals objects

theorem specs_append (objects objects' : List Object) :
    specs serializer objects ++ specs serializer objects' =
      specs serializer (objects ++ objects') := by
  unfold specs joined
  rw [List.filterMap_append, List.flatMap_append]

/-- The import of a cluster panics, or the objects are printed. -/
theorem withStdinResources_cases (manifests : Text) :
    let result := withStdinResources env serializer traversals .ok (.ok manifests)
    (∃ message, result = .error (.panic message)) ∧
        (∃ clusterObj message, .cluster clusterObj ∈ serializer.objects manifests ∧
          newClusterFromv1alpha1 env clusterObj = .error (.panic message)) ∨
      result = .ok (specs serializer
        (printed env serializer traversals (serializer.objects manifests))) := by
  have hread : retrieveResourcesFromStdin env serializer (.ok manifests) =
      retrieveClusters env serializer manifests >>= fun clusters => pure
        ⟨retrieveHypervisors serializer manifests, clusters,
          retrieveComponents serializer manifests⟩ := rfl
  unfold withStdinResources
  rcases retrieveClusters_cases env serializer manifests with ⟨⟨message, hpanic⟩, hobj⟩ | hok
  · left
    refine ⟨⟨message, ?_⟩, hobj⟩
    rw [hread, hpanic]
    rfl
  · right
    rw [hread, hok]
    show Except.ok (_ ++ _ ++ _) = _
    unfold printed hypervisorSpecs clusterSpecs componentSpecs
    rw [specs_append, specs_append, retrieveHypervisors_eq, retrieveComponents_eq]
    rfl

section Printed

variable {env serializer traversals} {objects : List Object}

theorem mem_traverse_ofList {α : Type} {entries : List (String × α)} {entry : String × α}
    (h : entry ∈ traversals.traverse (GoMap.ofList entries)) : entry ∈ entries :=
  GoMap.mem_of_lookup_ofList ((traversals.isIteration _).mem_iff.mp h)

/-- Everything that is printed comes from the manifest. -/
theorem exists_of_mem_printed {exported : Object}
    (h : exported ∈ printed env serializer traversals objects) :
    ∃ object ∈ objects, object.reexport env traversals = .ok exported := by
  unfold printed at h
  rw [List.mem_append, List.mem_append] at h
  rcases h with (h | h) | h
  · obtain ⟨entry, hentry, rfl⟩ := List.mem_map.mp h
    obtain ⟨object, hobj, hsome⟩ := List.mem_filterMap.mp (mem_traverse_ofList hentry)
    obtain ⟨-, ns, obj, rfl, himp⟩ := hypervisorEntry_eq_some hsome
    refine ⟨_, hobj, ?_⟩
    simp only [Object.reexport, himp]
  · obtain ⟨entry, hentry, rfl⟩ := List.mem_map.mp h
    obtain ⟨object, hobj, hsome⟩ := List.mem_filterMap.mp (mem_traverse_ofList hentry)
    obtain ⟨-, obj, rfl, himp⟩ := clusterEntry_eq_some hsome
    refine ⟨_, hobj, ?_⟩
    simp only [Object.reexport, himp]
    rfl
  · obtain ⟨component, hcomp, rfl⟩ := List.mem_map.mp h
    obtain ⟨object, hobj, hsome⟩ := List.mem_filterMap.mp hcomp
    cases object with
    | hypervisor ns obj => cases hsome
    | cluster obj => cases hsome
    | component obj =>
      cases hsome
      exact ⟨_, hobj, rfl⟩

/-- The hypervisors that are printed have distinct names. -/
theorem nodup_printedHypervisors :
    ((printedHypervisors serializer traversals objects).map Object.identity).Nodup := by
  unfold printedHypervisors
  have hkeys := (traversals.isIteration
    (GoMap.ofList (objects.filterMap (hypervisorEntry serializer)))).nodup_keys
  refine List.Nodup.of_map (fun identity => identity.2.2) ?_
  rw [List.map_map, List.map_map]
  convert hkeys using 1
  apply List.map_congr_left
  intro entry hentry
  obtain ⟨object, -, hsome⟩ := List.mem_filterMap.mp (mem_traverse_ofList hentry)
  exact (hypervisorEntry_eq_some hsome).1.symm

theorem nodup_names_printedClusters :
    ((printedClusters env traversals objects).map fun object => object.identity.2.2).Nodup := by
  unfold printedClusters
  have hkeys := (traversals.isIteration
    (GoMap.ofList (objects.filterMap (clusterEntry env)))).nodup_keys
  rw [List.map_map]
  convert hkeys using 1
  apply List.map_congr_left
  intro entry hentry
  obtain ⟨object, -, hsome⟩ := List.mem_filterMap.mp (mem_traverse_ofList hentry)
  exact (clusterEntry_eq_some hsome).1.symm

/-- The components that are printed are those of the manifest. -/
theorem identities_printedComponents_sublist :
    ((printedComponents traversals objects).map Object.identity).Sublist
      (objects.map Object.identity) := by
  unfold printedComponents
  rw [List.map_filterMap]
  refine map_filterMap_sublist fun object exported h => ?_
  cases object with
  | hypervisor ns obj => cases h
  | cluster obj => cases h
  | component obj =>
    cases h
    rfl

theorem kind_of_mem_printedHypervisors {exported : Object}
    (h : exported ∈ printedHypervisors serializer traversals objects) :
    exported.identity.1 = .hypervisor := by
  obtain ⟨entry, -, rfl⟩ := List.mem_map.mp h
  rfl

theorem kind_of_mem_printedClusters {exported : Object}
    (h : exported ∈ printedClusters env traversals objects) : exported.identity.1 = .cluster := by
  obtain ⟨entry, -, rfl⟩ := List.mem_map.mp h
  rfl

theorem kind_of_mem_printedComponents {exported : Object}
    (h : exported ∈ printedComponents traversals objects) : exported.identity.1 = .component := by
  obtain ⟨component, -, rfl⟩ := List.mem_map.mp h
  rfl

theorem mem_printedClusters_of_kind {exported : Object}
    (h : exported ∈ printed env serializer traversals objects)
    (hkind : exported.identity.1 = .cluster) :
    exported ∈ printedClusters env traversals objects := by
  unfold printed at h
  rw [List.mem_append, List.mem_append] at h
  rcases h with (h | h) | h
  · rw [kind_of_mem_printedHypervisors h] at hkind
    cases hkind
  · exact h
  · rw [kind_of_mem_printedComponents h] at hkind
    cases hkind

/-- An object that can be imported and printed is printed, or another one of its kind and
name. -/
theorem exists_mem_printed {object exported : Object} (hobj : object ∈ objects)
    (h : object.reexport env traversals = .ok exported)
    (hencode : (serializer.encode exported).isSome = true) :
    ∃ other ∈ printed env serializer traversals objects,
      other.identity.1 = object.identity.1 ∧ other.identity.2.2 = object.identity.2.2 ∧
        (object.identity.1 = .component → other = exported) := by
  unfold printed
  cases object with
  | hypervisor ns obj =>
    obtain ⟨entry, hentry, hname⟩ := hypervisorEntry_of_reexport h hencode
    have hkey := List.mem_map_of_mem (f := Prod.fst) (List.mem_filterMap.mpr ⟨_, hobj, hentry⟩)
    obtain ⟨found, hfound⟩ := (traversals.isIteration _).exists_of_mem hkey
    obtain ⟨source, -, hsome⟩ := List.mem_filterMap.mp (mem_traverse_ofList hfound)
    refine ⟨hypervisorObject found, ?_, rfl, ?_, nofun⟩
    · exact List.mem_append_left _ (List.mem_append_left _ (List.mem_map_of_mem hfound))
    · exact (hypervisorEntry_eq_some hsome).1.symm.trans hname
  | cluster obj =>
    obtain ⟨entry, hentry, hname⟩ := clusterEntry_of_reexport h
    have hkey := List.mem_map_of_mem (f := Prod.fst) (List.mem_filterMap.mpr ⟨_, hobj, hentry⟩)
    obtain ⟨found, hfound⟩ := (traversals.isIteration _).exists_of_mem hkey
    obtain ⟨source, -, hsome⟩ := List.mem_filterMap.mp (mem_traverse_ofList hfound)
    refine ⟨clusterObject env traversals found, ?_, rfl, ?_, nofun⟩
    · exact List.mem_append_left _ (List.mem_append_right _ (List.mem_map_of_mem hfound))
    · exact (clusterEntry_eq_some hsome).1.symm.trans hname
  | component obj =>
    cases h
    refine ⟨_, List.mem_append_right _ (List.mem_map_of_mem
      (List.mem_filterMap.mpr ⟨_, hobj, rfl⟩)), rfl, rfl, fun _ => rfl⟩

end Printed

/-! ## Losses -/

/-- The call fails, or it prints the objects of the manifest, each once. -/
def Lossless (manifests : Text) (result : Except Fault Text) : Prop :=
  (∃ message, result = .error (.error message)) ∨
    ∃ output, result = .ok output ∧
      (serializer.identities output).Perm (serializer.identities manifests)

/-- The key of a pair, if there is one, can be read. -/
def ReadableKey (keyPair : Option KeyPair) : Prop :=
  ∀ pair, keyPair = some pair → ∃ key, env.newKeyPairFromString pair.privateKey = .ok key

/-- What an import asks of an object: a hypervisor has one endpoint, the keys of a cluster can be
read, and a cluster with a VPN network has both VPN keys. -/
def Object.Importable : Object → Prop
  | .hypervisor _ obj => obj.spec.localCRIEndpoint.isSome ≠ obj.spec.remoteCRIEndpoint.isSome
  | .cluster obj => ReadableKey env obj.spec.joinKey ∧
      ReadableKey env (obj.spec.apiServer.getD {}).serviceAccount ∧
      ∀ vpn, obj.spec.vpn = some vpn → vpn.cidr.isSome →
        vpn.privateKey.isSome ∧ vpn.publicKey.isSome
  | .component _ => True

/-- What makes the objects of a manifest come through: each of them can be imported and its
export can be encoded, no hypervisor has a namespace, and no two clusters have one name. -/
structure Survive (objects : List Object) : Prop where
  importable : ∀ object ∈ objects, object.Importable env
  encodable : ∀ object ∈ objects, ∀ exported, object.reexport env traversals = .ok exported →
    (serializer.encode exported).isSome = true
  hypervisors : ∀ ns obj, .hypervisor ns obj ∈ objects → ns = ""
  clusters : ∀ obj obj', .cluster obj ∈ objects → .cluster obj' ∈ objects →
    obj.name = obj'.name → obj.namespace = obj'.namespace

section Losses

variable {env serializer traversals} {objects : List Object}

theorem readableKey_iff {keyPair : Option KeyPair} :
    ReadableKey env keyPair ↔ ∃ key, newKeyPairFromv1alpha1 env keyPair = .ok key := by
  cases keyPair with
  | none => simp [ReadableKey, newKeyPairFromv1alpha1]
  | some pair =>
    cases hkey : env.newKeyPairFromString pair.privateKey <;>
      simp [ReadableKey, newKeyPairFromv1alpha1, hkey]

theorem exists_newVPNFromv1alpha1_iff (net : NetText) {vpn : Option V1alpha1.VPN} :
    (∀ spec, vpn = some spec → spec.cidr.isSome →
      spec.privateKey.isSome ∧ spec.publicKey.isSome) ↔
      ∃ imported, newVPNFromv1alpha1 net vpn = .ok imported := by
  cases vpn with
  | none => simp [newVPNFromv1alpha1]
  | some spec =>
    obtain ⟨enabled, privateKey, publicKey, cidr⟩ := spec
    cases cidr <;> cases privateKey <;> cases publicKey <;>
      simp [newVPNFromv1alpha1, deref, Bind.bind, Except.bind, pure, Except.pure]

/-- The fields say whether the import succeeds. -/
theorem importable_iff {object : Object} :
    object.Importable env ↔ ∃ exported, object.reexport env traversals = .ok exported := by
  cases object with
  | component obj => exact iff_of_true trivial ⟨_, rfl⟩
  | hypervisor ns obj =>
    cases hlocal : obj.spec.localCRIEndpoint <;> cases hremote : obj.spec.remoteCRIEndpoint <;>
      simp [Object.Importable, Object.reexport, newHypervisorFromv1alpha1, specEndpoint, hlocal,
        hremote]
  | cluster obj =>
    show ReadableKey env _ ∧ ReadableKey env _ ∧ _ ↔ _
    rw [readableKey_iff, readableKey_iff, exists_newVPNFromv1alpha1_iff env.net]
    constructor
    · rintro ⟨⟨joinKey, hjoin⟩, ⟨serviceAccount, hservice⟩, vpn, hvpn⟩
      refine ⟨clusterObject env traversals (importedCluster obj joinKey
        { obj.spec.apiServer.getD {} with serviceAccount := serviceAccount } vpn), ?_⟩
      show Except.map _ (newClusterFromv1alpha1 env obj) = _
      unfold newClusterFromv1alpha1 newKubeAPIServerFromv1alpha1
      rw [hjoin, hservice, hvpn]
      rfl
    · rintro ⟨exported, hexp⟩
      obtain ⟨internalCluster, himp, -⟩ := reexport_cluster_ok hexp
      obtain ⟨joinKey, serviceAccount, vpn, hjoin, hservice, hvpn, -⟩ :=
        newClusterFromv1alpha1_eq_ok himp
      exact ⟨⟨joinKey, hjoin⟩, ⟨serviceAccount, hservice⟩, vpn, hvpn⟩

theorem Survive.converts (h : Survive env serializer traversals objects) {object : Object}
    (hobj : object ∈ objects) : ∃ exported, object.reexport env traversals = .ok exported ∧
      (serializer.encode exported).isSome = true := by
  obtain ⟨exported, hreexport⟩ := importable_iff.mp (h.importable object hobj)
  exact ⟨exported, hreexport, h.encodable object hobj exported hreexport⟩

theorem survive_of_mem (hdist : (objects.map Object.identity).Nodup)
    (hmem : ∀ object ∈ objects, ∃ exported ∈ printed env serializer traversals objects,
      (serializer.encode exported).isSome = true ∧ exported.identity = object.identity) :
    Survive env serializer traversals objects := by
  -- hypervisors are printed without a namespace
  have hnamespaces : ∀ object ∈ objects, object.printedIdentity = object.identity := by
    intro object hobject
    obtain ⟨exported, hexp, -, hidentity⟩ := hmem object hobject
    obtain ⟨source, -, hreexport⟩ := exists_of_mem_printed hexp
    have hprinted := hidentity.symm.trans (identity_reexport hreexport)
    cases object with
    | cluster obj => rfl
    | component obj => rfl
    | hypervisor ns obj =>
      cases source with
      | cluster obj' => cases congrArg Prod.fst hprinted
      | component obj' => cases congrArg Prod.fst hprinted
      | hypervisor ns' obj' =>
        have hns : ns = "" := congrArg (fun identity => identity.2.1) hprinted
        rw [hns]
        rfl
  have hconverts : ∀ object ∈ objects, ∃ exported,
      object.reexport env traversals = .ok exported ∧
        (serializer.encode exported).isSome = true := by
    intro object hobject
    obtain ⟨exported, hexp, hencode, hidentity⟩ := hmem object hobject
    obtain ⟨source, hsource, hreexport⟩ := exists_of_mem_printed hexp
    have hsame : source.identity = object.identity := by
      rw [← hnamespaces source hsource, ← identity_reexport hreexport, hidentity]
    cases List.inj_on_of_nodup_map hdist hsource hobject hsame
    exact ⟨exported, hreexport, hencode⟩
  refine ⟨fun object hobject => ?_, fun object hobject exported hreexport => ?_,
    fun ns obj hobject => ?_, fun obj obj' hobj hobj' hname => ?_⟩
  · obtain ⟨exported, hreexport, -⟩ := hconverts object hobject
    exact importable_iff.mpr ⟨exported, hreexport⟩
  · obtain ⟨_, hreexport', hencode⟩ := hconverts object hobject
    cases hreexport.symm.trans hreexport'
    exact hencode
  · exact (congrArg (fun identity => identity.2.1) (hnamespaces _ hobject)).symm
  · obtain ⟨exported, hexp, -, hidentity⟩ := hmem _ hobj
    obtain ⟨exported', hexp', -, hidentity'⟩ := hmem _ hobj'
    have hcl := mem_printedClusters_of_kind hexp (congrArg Prod.fst hidentity)
    have hcl' := mem_printedClusters_of_kind hexp' (congrArg Prod.fst hidentity')
    have heq := List.inj_on_of_nodup_map nodup_names_printedClusters hcl hcl' (by
      rw [hidentity, hidentity']
      exact hname)
    subst heq
    exact congrArg (fun identity => identity.2.1) (hidentity.symm.trans hidentity')

/-- All of what is printed can be encoded. -/
theorem Survive.encodes (h : Survive env serializer traversals objects) {exported : Object}
    (hexp : exported ∈ printed env serializer traversals objects) :
    (serializer.encode exported).isSome = true := by
  obtain ⟨source, hsource, hreexport⟩ := exists_of_mem_printed hexp
  obtain ⟨_, hreexport', hencode⟩ := h.converts hsource
  rw [hreexport] at hreexport'
  cases hreexport'
  exact hencode

/-- What is printed has the identity of an object of the manifest. -/
theorem Survive.exists_identity (h : Survive env serializer traversals objects) {exported : Object}
    (hexp : exported ∈ printed env serializer traversals objects) :
    ∃ object ∈ objects, exported.identity = object.identity := by
  obtain ⟨source, hsource, hreexport⟩ := exists_of_mem_printed hexp
  refine ⟨source, hsource, (identity_reexport hreexport).trans ?_⟩
  cases source with
  | cluster obj => rfl
  | component obj => rfl
  | hypervisor ns obj =>
    rw [h.hypervisors ns obj hsource]
    rfl

/-- Every object of the manifest is printed. -/
theorem Survive.exists_mem (h : Survive env serializer traversals objects) {object : Object}
    (hobj : object ∈ objects) :
    ∃ exported ∈ printed env serializer traversals objects,
      exported.identity = object.identity := by
  obtain ⟨exported, hreexport, hencode⟩ := h.converts hobj
  obtain ⟨other, hother, hkind, hname, hcomp⟩ := exists_mem_printed hobj hreexport hencode
  refine ⟨other, hother, ?_⟩
  obtain ⟨source, hsource, hidentity⟩ := h.exists_identity hother
  rw [hidentity] at hkind hname ⊢
  -- the other object has the same kind and name
  cases object with
  | component obj =>
    rw [← hidentity, hcomp rfl]
    exact identity_reexport hreexport
  | cluster obj =>
    cases source with
    | hypervisor ns' obj' => cases hkind
    | component obj' => cases hkind
    | cluster obj' =>
      exact congrArg₂ (fun clusterNamespace name => (Kind.cluster, clusterNamespace, name))
        (h.clusters _ _ hsource hobj hname) hname
  | hypervisor ns obj =>
    cases source with
    | cluster obj' => cases hkind
    | component obj' => cases hkind
    | hypervisor ns' obj' =>
      rw [h.hypervisors _ _ hobj, h.hypervisors _ _ hsource]
      exact congrArg (fun name => (Kind.hypervisor, "", name)) hname

theorem nodup_printed (hdist : (objects.map Object.identity).Nodup) :
    ((printed env serializer traversals objects).map Object.identity).Nodup := by
  have hcls : ((printedClusters env traversals objects).map Object.identity).Nodup := by
    refine List.Nodup.of_map (fun identity => identity.2.2) ?_
    rw [List.map_map]
    exact nodup_names_printedClusters
  have hcomps := (@identities_printedComponents_sublist traversals objects).nodup hdist
  unfold printed
  rw [List.map_append, List.map_append, List.nodup_append, List.nodup_append]
  refine ⟨⟨nodup_printedHypervisors, hcls, ?_⟩, hcomps, ?_⟩
  · intro _ hleft _ hright heq
    obtain ⟨a, ha, rfl⟩ := List.mem_map.mp hleft
    obtain ⟨b, hb, rfl⟩ := List.mem_map.mp hright
    have hkind := congrArg Prod.fst heq
    rw [kind_of_mem_printedHypervisors ha, kind_of_mem_printedClusters hb] at hkind
    cases hkind
  · intro _ hleft _ hright heq
    rw [← List.map_append] at hleft
    obtain ⟨a, ha, rfl⟩ := List.mem_map.mp hleft
    obtain ⟨b, hb, rfl⟩ := List.mem_map.mp hright
    have hkind := congrArg Prod.fst heq
    rw [kind_of_mem_printedComponents hb] at hkind
    rcases List.mem_append.mp ha with ha | ha
    · rw [kind_of_mem_printedHypervisors ha] at hkind
      cases hkind
    · rw [kind_of_mem_printedClusters ha] at hkind
      cases hkind

theorem Survive.perm (h : Survive env serializer traversals objects)
    (hdist : (objects.map Object.identity).Nodup) :
    ((printed env serializer traversals objects).map Object.identity).Perm
      (objects.map Object.identity) := by
  rw [List.perm_ext_iff_of_nodup (nodup_printed hdist) hdist]
  intro identity
  rw [List.mem_map, List.mem_map]
  constructor
  · rintro ⟨exported, hexp, rfl⟩
    obtain ⟨object, hobj, hidentity⟩ := h.exists_identity hexp
    exact ⟨object, hobj, hidentity.symm⟩
  · rintro ⟨object, hobj, rfl⟩
    exact h.exists_mem hobj

theorem survive_of_lossless {manifests : Text}
    (hdist : (serializer.identities manifests).Nodup)
    (h : Lossless serializer manifests
      (withStdinResources env serializer traversals .ok (.ok manifests))) :
    Survive env serializer traversals (serializer.objects manifests) := by
  rcases withStdinResources_cases env serializer traversals manifests with
    ⟨⟨message, hpanic⟩, -⟩ | hprinted
  · rw [hpanic] at h
    rcases h with ⟨_, herr⟩ | ⟨_, hok, -⟩
    · cases herr
    · cases hok
  · rw [hprinted] at h
    rcases h with ⟨_, herr⟩ | ⟨output, hok, hperm⟩
    · cases herr
    · cases hok
      rw [identities_specs] at hperm
      refine survive_of_mem hdist fun object hobj => ?_
      obtain ⟨exported, hexp, hidentity⟩ :=
        List.mem_map.mp (hperm.mem_iff.mpr (List.mem_map_of_mem hobj))
      obtain ⟨hexp, hencode⟩ := List.mem_filter.mp hexp
      exact ⟨exported, hexp, hencode, hidentity⟩

theorem Survive.lossless {manifests : Text}
    (h : Survive env serializer traversals (serializer.objects manifests))
    (hdist : (serializer.identities manifests).Nodup) :
    Lossless serializer manifests
      (withStdinResources env serializer traversals .ok (.ok manifests)) := by
  rcases withStdinResources_cases env serializer traversals manifests with
    ⟨-, clusterObj, cause, hobj, himp⟩ | hprinted
  · -- a cluster that can be imported does not panic
    obtain ⟨exported, hreexport, -⟩ := h.converts hobj
    obtain ⟨internalCluster, hok, -⟩ := reexport_cluster_ok hreexport
    rw [himp] at hok
    cases hok
  · rw [hprinted]
    refine .inr ⟨_, rfl, ?_⟩
    rw [identities_specs, List.filter_eq_self.mpr fun exported hexp => h.encodes hexp]
    exact h.perm hdist

end Losses

/-- **The objects of a manifest come through the pipeline.**  For a manifest of different objects
and an actuator that changes nothing, the call prints the same objects if and only if all of them
survive the conversions and the maps. -/
theorem lossless_iff_survive (manifests : Text)
    (hdist : (serializer.identities manifests).Nodup) :
    Lossless serializer manifests
        (withStdinResources env serializer traversals .ok (.ok manifests)) ↔
      Survive env serializer traversals (serializer.objects manifests) :=
  ⟨survive_of_lossless hdist, fun h => h.lossless hdist⟩

end Import

/-! ## Two manifests -/

/-- The lines of a document before the name.  A hypervisor has a local endpoint. -/
def header : Kind → List Text
  | .hypervisor => ["apiVersion: infra.oneinfra.ereslibre.es/v1alpha1".toList,
      "kind: Hypervisor".toList, "spec:".toList, "  localCRIEndpoint:".toList,
      "    criEndpointPath: /run/cri.sock".toList, "metadata:".toList]
  | .cluster => ["apiVersion: cluster.oneinfra.ereslibre.es/v1alpha1".toList,
      "kind: Cluster".toList, "metadata:".toList]
  | .component => ["apiVersion: cluster.oneinfra.ereslibre.es/v1alpha1".toList,
      "kind: Component".toList, "metadata:".toList]

/-- The lines of a document of an identity. -/
def documentLines : Kind × String × String → List Text
  | (kind, ns, name) =>
    header kind ++ ["  name: ".toList ++ name.toList, "  namespace: ".toList ++ ns.toList]

/-- A document of an identity. -/
def document (identity : Kind × String × String) : Text :=
  ['\n'].intercalate (documentLines identity) ++ ['\n']

example : document (.cluster, "a", "x") = "apiVersion: cluster.oneinfra.ereslibre.es/v1alpha1
kind: Cluster
metadata:
  name: x
  namespace: a
".toList := by
  decide +kernel

/-- The namespace and the name are in one line. -/
def Plain (identity : Kind × String × String) : Prop :=
  '\n' ∉ identity.2.1.toList ∧ '\n' ∉ identity.2.2.toList

instance (identity : Kind × String × String) : Decidable (Plain identity) :=
  inferInstanceAs (Decidable (_ ∧ _))

section Document

variable {identity : Kind × String × String} (h : Plain identity)

include h

theorem documentLines_spec {line : Text} (hline : line ∈ documentLines identity) :
    '\n' ∉ line ∧ line ≠ [] ∧ line ≠ splitter := by
  have hheader : ∀ kind, ∀ line ∈ header kind, '\n' ∉ line ∧ line ≠ [] ∧ line ≠ splitter := by
    intro kind
    cases kind <;> decide
  obtain ⟨kind, ns, name⟩ := identity
  rcases List.mem_append.mp hline with hline | hline
  · exact hheader kind line hline
  · simp only [List.mem_cons, List.not_mem_nil, or_false] at hline
    rcases hline with rfl | rfl
    · exact ⟨by simpa using h.2, by simp, by simp [splitter]⟩
    · exact ⟨by simpa using h.1, by simp, by simp [splitter]⟩

theorem splitOn_document :
    (document identity).splitOn '\n' = documentLines identity ++ [[]] := by
  unfold document
  rw [List.splitOn_append_cons_of_beq _ _ (beq_self_eq_true _), List.splitOn_intercalate '\n'
    (fun line hline => (documentLines_spec h hline).1) (by simp [documentLines])]
  rfl

theorem isDocument_document : IsDocument (document identity) where
  newline := ⟨_, rfl⟩
  noSplitter := by
    rw [splitOn_document h, List.mem_append, List.mem_singleton, not_or]
    exact ⟨fun hmem => (documentLines_spec h hmem).2.2 rfl, by decide⟩
  notBlank := by
    have hfirst : ∀ kind lines, 'a' ∈ ['\n'].intercalate (header kind ++ lines) := by
      intro kind lines
      cases kind <;> exact List.mem_cons_self
    exact ⟨'a', List.mem_append_left _ (hfirst _ _), by decide⟩

end Document

/-- The object of an identity, as it is read from the document. -/
def objectOf : Kind × String × String → Object
  | (.hypervisor, ns, name) =>
    .hypervisor ns { name := name, spec.localCRIEndpoint := some ⟨"/run/cri.sock"⟩ }
  | (.cluster, ns, name) => .cluster { name := name, «namespace» := ns }
  | (.component, ns, name) => .component { name := name, «namespace» := ns }

theorem identity_objectOf (identity : Kind × String × String) :
    (objectOf identity).identity = identity := by
  obtain ⟨kind, ns, name⟩ := identity
  cases kind <;> rfl

/-- The object of the lines of a document. -/
def objectOfLines (lines : List Text) : Option Object :=
  let count := lines.length - 2
  match [Kind.hypervisor, .cluster, .component].find? (header · = lines.take count),
    lines.drop count with
  | some kind, [name, ns] => some (objectOf (kind,
      String.ofList (ns.drop "  namespace: ".length), String.ofList (name.drop "  name: ".length)))
  | _, _ => none

theorem objectOfLines_documentLines (identity : Kind × String × String) :
    objectOfLines (documentLines identity) = some (objectOf identity) := by
  obtain ⟨kind, ns, name⟩ := identity
  have hns : String.ofList (("  namespace: ".toList ++ ns.toList).drop "  namespace: ".length) =
      ns := String.ofList_toList
  have hname : String.ofList (("  name: ".toList ++ name.toList).drop "  name: ".length) = name :=
    String.ofList_toList
  cases kind
  all_goals
    show some (objectOf (_, String.ofList _, String.ofList _)) = _
    rw [hns, hname]

/-- The object of a document. -/
def decodeDocument (text : Text) : Option Object :=
  objectOfLines ((text.splitOn '\n').filter (· ≠ []))

theorem decodeDocument_document {identity : Kind × String × String} (h : Plain identity) :
    decodeDocument ('\n' :: document identity) = some (objectOf identity) := by
  have hlines : ('\n' :: document identity).splitOn '\n' =
      [] :: (documentLines identity ++ [[]]) := by
    rw [List.splitOn_cons_eq_if_modifyHead, if_pos (beq_self_eq_true _), splitOn_document h]
  have hfilter : (documentLines identity).filter (fun line => decide (line ≠ [])) =
      documentLines identity :=
    List.filter_eq_self.mpr fun line hline => decide_eq_true (documentLines_spec h hline).2.1
  unfold decodeDocument
  rw [hlines, List.filter_cons_of_neg (by simp), List.filter_append, hfilter]
  exact (congrArg objectOfLines (List.append_nil _)).trans (objectOfLines_documentLines identity)

/-- A serializer that writes the identity of an object. -/
def identitySerializer : Serializer where
  decode := decodeDocument
  encode object := if Plain object.identity then some (document object.identity) else none
  isDocument := by
    intro object text h
    split at h
    · next hplain =>
      cases h
      exact isDocument_document hplain
    · cases h
  decode_encode := by
    intro object text h
    split at h
    · next hplain =>
      cases h
      exact ⟨_, decodeDocument_document hplain, identity_objectOf _⟩
    · cases h

theorem isSome_encode {object : Object} {identity : Kind × String × String}
    (h : object.identity = identity) (hplain : Plain identity) :
    (identitySerializer.encode object).isSome = true := by
  subst h
  exact congrArg Option.isSome (if_pos hplain)

/-- The objects of documents that are written one after the other. -/
theorem objects_joined {identities : List (Kind × String × String)}
    (h : ∀ identity ∈ identities, Plain identity) :
    identitySerializer.objects (joined (identities.map document)) = identities.map objectOf := by
  have hdocs : ∀ text ∈ identities.map document, IsDocument text := by
    intro text htext
    obtain ⟨identity, hidentity, rfl⟩ := List.mem_map.mp htext
    exact isDocument_document (h identity hidentity)
  unfold Serializer.objects
  rw [splitDocuments_joined hdocs, List.map_map, List.filterMap_map, ← List.filterMap_eq_map]
  exact List.filterMap_congr fun identity hidentity =>
    decodeDocument_document (h identity hidentity)

/-- Two clusters with one name in two namespaces. -/
def twoNamespaces : Text := joined ([(.cluster, "a", "x"), (.cluster, "b", "x")].map document)

/-- One of the two clusters is lost. -/
theorem not_lossless_twoNamespaces :
    (identitySerializer.identities twoNamespaces).Nodup ∧
      ∀ traversals, ¬ Lossless identitySerializer twoNamespaces
        (withStdinResources keylessEnvironment identitySerializer traversals .ok
          (.ok twoNamespaces)) := by
  have hobjs : identitySerializer.objects twoNamespaces =
      [.cluster { name := "x", «namespace» := "a" },
        .cluster { name := "x", «namespace» := "b" }] :=
    objects_joined (by decide)
  have hdist : (identitySerializer.identities twoNamespaces).Nodup := by
    unfold Serializer.identities
    rw [hobjs]
    decide
  refine ⟨hdist, fun traversals h => ?_⟩
  have hsurvive := survive_of_lossless hdist h
  rw [hobjs] at hsurvive
  have hsame := hsurvive.clusters _ _ List.mem_cons_self
    (List.mem_cons_of_mem _ List.mem_cons_self) rfl
  exact absurd hsame (by decide)

/-- A component, its cluster and its hypervisor. -/
def threeKinds : Text :=
  joined ([(.component, "a", "y"), (.cluster, "a", "x"), (.hypervisor, "", "z")].map document)

/-- All three are printed. -/
theorem lossless_iff_survive_threeKinds :
    (identitySerializer.identities threeKinds).Nodup ∧
      ∀ traversals, Lossless identitySerializer threeKinds
        (withStdinResources keylessEnvironment identitySerializer traversals .ok
          (.ok threeKinds)) := by
  have hobjs : identitySerializer.objects threeKinds =
      [.component { name := "y", «namespace» := "a" }, .cluster { name := "x", «namespace» := "a" },
        .hypervisor "" { name := "z", spec.localCRIEndpoint := some ⟨"/run/cri.sock"⟩ }] :=
    objects_joined (by decide)
  have hdist : (identitySerializer.identities threeKinds).Nodup := by
    unfold Serializer.identities
    rw [hobjs]
    decide
  refine ⟨hdist, fun traversals =>
    (lossless_iff_survive keylessEnvironment identitySerializer traversals threeKinds hdist).mpr ?_⟩
  rw [hobjs]
  refine ⟨?_, ?_, ?_, ?_⟩
  · simp [Object.Importable, ReadableKey]
  · simp only [List.forall_mem_cons]
    refine ⟨fun _ hexp => ?_, fun _ hexp => ?_, fun _ hexp => ?_, by simp⟩
    all_goals
      exact isSome_encode (identity_reexport hexp) (by decide)
  · intro ns obj hobject
    simp only [List.mem_cons, reduceCtorEq, Object.hypervisor.injEq, false_or, List.not_mem_nil,
      or_false] at hobject
    exact hobject.1
  · intro obj obj' hobj hobj' _
    simp only [List.mem_cons, reduceCtorEq, Object.cluster.injEq, false_or, List.not_mem_nil,
      or_false] at hobj hobj'
    rw [hobj, hobj']

end OneInfra.Manifests
