import OneInfra.Component.Performs

/-!
# The files that a component has recorded

`UploadFiles` records the sums of the files that it is called with.  `recordedFiles` are
those of one component on its hypervisor, and `uploadFiles_ok` says that after a call that
returns they have the sums of the contents that were passed.
-/

namespace OneInfra.Components

open Lib Infra

variable {σ : Type} {outside : Outside σ} {name : String} {world world' : World σ}

/-- The files of a component on its hypervisor, by the cluster of the world. -/
def recordedFiles (world : World σ) (name : String) : Option FileMap := do
  let component ← lookupKey Component.name name world.components
  let hypervisor ← world.componentHypervisor component
  hypervisor.fileMap world.cluster.namespace world.cluster.name name

/-- The sum under a path. -/
def recordedSum (world : World σ) (name path : String) : Option String :=
  (recordedFiles world name).bind (·.lookup path)

theorem recordedFiles_eq {found : Component} {hypervisor : Hypervisor}
    (hasg : world.componentHypervisor found = some hypervisor)
    (hfound : lookupKey Component.name name world.components = some found) :
    recordedFiles world name =
      hypervisor.fileMap world.cluster.namespace world.cluster.name name := by
  rw [recordedFiles, hfound]
  show Option.bind (world.componentHypervisor found) _ = _
  rw [hasg]
  rfl

theorem recordedSum_eq {found : Component} {hypervisor : Hypervisor}
    (hasg : world.componentHypervisor found = some hypervisor)
    (hfound : lookupKey Component.name name world.components = some found) (path : String) :
    recordedSum world name path =
      (hypervisor.fileMap world.cluster.namespace world.cluster.name name).bind
        (·.lookup path) := by
  rw [recordedSum, recordedFiles_eq hasg hfound]

/-! ## Programs that return -/

theorem component_ok {found : Component}
    (hrun : (component name).run world = .ok found world') :
    lookupKey Component.name name world.components = some found ∧ world' = world := by
  rw [run_component] at hrun
  split at hrun
  · next h =>
    cases hrun
    exact ⟨h, rfl⟩
  · cases hrun

theorem derefHypervisor_ok {hypervisor : Hypervisor}
    (hrun : (derefHypervisor name).run world = .ok hypervisor world') : world' = world ∧
      ∃ found, lookupKey Component.name name world.components = some found ∧
        world.componentHypervisor found = some hypervisor := by
  rw [run_derefHypervisor] at hrun
  split at hrun
  · cases hrun
  next found hfound =>
  split at hrun
  · next h =>
    cases hrun
    exact ⟨rfl, found, hfound, h⟩
  · cases hrun

/-- The hypervisor of a component after it was replaced by one of the same name. -/
theorem componentHypervisor_setHypervisor {component : Component}
    {hypervisor hyp' : Hypervisor}
    (hhyp : world.componentHypervisor component = some hypervisor)
    (hname : hyp'.name = hypervisor.name) :
    (world.setHypervisor hyp').componentHypervisor component = some hyp' := by
  obtain ⟨hlk, hasg⟩ := lookup_of_componentHypervisor hhyp
  show lookupKey Hypervisor.name component.hypervisorName (modifyKey _ _ _ _) = _
  rw [lookupKey_modifyKey fun _ _ => rfl, if_pos (hasg.symm.trans hname.symm), hname, hlk]
  rfl

/-- The record of a component after files were recorded for it. -/
theorem recordedFiles_recordFiles {found : Component} {hypervisor : Hypervisor}
    (hasg : world.componentHypervisor found = some hypervisor)
    (hfound : lookupKey Component.name name world.components = some found)
    (sums : List (String × String)) :
    recordedFiles (world.setHypervisor (hypervisor.recordFiles world.cluster.namespace
        world.cluster.name name sums)) name =
      some (sums.foldl (fun record file => record.insert file.1 file.2)
        ((recordedFiles world name).getD ∅)) := by
  have hasg' := componentHypervisor_setHypervisor hasg (rfl : (hypervisor.recordFiles
    world.cluster.namespace world.cluster.name name sums).name = hypervisor.name)
  rw [recordedFiles_eq hasg' hfound, recordedFiles_eq hasg hfound]
  exact (Hypervisor.fileMap_recordFiles ..).trans (if_pos ⟨rfl, rfl, rfl⟩)

/-- The record of a component after it was dropped. -/
theorem recordedFiles_cleanupHypervisorFileMap {found : Component} {hypervisor : Hypervisor}
    (hasg : world.componentHypervisor found = some hypervisor)
    (hfound : lookupKey Component.name name world.components = some found) :
    recordedFiles (world.setHypervisor (hypervisor.cleanupHypervisorFileMap
      world.cluster.namespace world.cluster.name name)) name = none := by
  obtain ⟨files, heq⟩ := hypervisor.cleanupHypervisorFileMap_eq world.cluster.namespace
    world.cluster.name name
  have hasg' := componentHypervisor_setHypervisor hasg
    (congrArg Hypervisor.name heq : (hypervisor.cleanupHypervisorFileMap _ _ _).name = _)
  rw [recordedFiles_eq hasg' hfound]
  exact (Hypervisor.fileMap_cleanupHypervisorFileMap ..).trans (if_pos ⟨rfl, rfl, rfl⟩)

/-- An upload that returns finds all files up to date, or it records them all. -/
theorem uploadFiles_cases {files : List (String × String)}
    (hrun : (uploadFiles outside name files).run world = .ok () world') :
    (world' = world ∧
        ∀ file ∈ files, recordedSum world name file.1 = some (outside.sha1Sum file.2)) ∨
      ∃ record : FileMap, recordedFiles world' name =
        some ((files.map fun file => (file.1, outside.sha1Sum file.2)).foldl
          (fun record file => record.insert file.1 file.2) record) := by
  simp only [uploadFiles, cluster, run_bind_eq_ok] at hrun
  obtain ⟨hypervisor, _, hhyp, _, _, ⟨_, _, hget, hpure⟩, hrun⟩ := hrun
  obtain ⟨rfl, found, hfound, hasg⟩ := derefHypervisor_ok hhyp
  cases hget
  cases hpure
  split at hrun
  · next hnone =>
    cases hrun
    refine .inl ⟨rfl, fun file hfile => ?_⟩
    have huptodate := List.filter_eq_nil_iff.mp hnone file hfile
    rw [Bool.not_eq_true, Bool.not_eq_false', Hypervisor.fileUpToDate, decide_eq_true_iff]
      at huptodate
    rw [recordedSum_eq hasg hfound, huptodate]
  · simp only [run_bind_eq_ok] at hrun
    obtain ⟨_, _, -, _, world₂, -, hypervisor₂, _, hhypervisor₂, hrun⟩ := hrun
    obtain ⟨hsame, found₂, hfound₂, hassigned₂⟩ := derefHypervisor_ok hhypervisor₂
    rw [hsame] at hrun
    cases hrun
    exact .inr ⟨_, recordedFiles_recordFiles hassigned₂ hfound₂ _⟩

/-- After an upload that returns, the sums of the files are recorded. -/
theorem uploadFiles_ok {files : List (String × String)}
    (hrun : (uploadFiles outside name files).run world = .ok () world')
    (hnd : (files.map Prod.fst).Nodup) {file : String × String} (hfile : file ∈ files) :
    recordedSum world' name file.1 = some (outside.sha1Sum file.2) := by
  rcases uploadFiles_cases hrun with ⟨rfl, huptodate⟩ | ⟨record, hrecord⟩
  · exact huptodate file hfile
  · have hsums : ((files.map fun file => (file.1, outside.sha1Sum file.2)).map Prod.fst).Nodup := by
      rwa [List.map_map]
    rw [recordedSum, hrecord, Option.bind_some]
    exact GoMap.lookup_foldl_insert_of_mem hsums
      (List.mem_map_of_mem (f := fun file => (file.1, outside.sha1Sum file.2)) hfile) _

/-- And so are their paths, also if one is passed twice. -/
theorem isSome_recordedSum_of_uploadFiles {files : List (String × String)}
    (hrun : (uploadFiles outside name files).run world = .ok () world')
    {path : String} (hpath : path ∈ files.map Prod.fst) :
    (recordedSum world' name path).isSome := by
  rcases uploadFiles_cases hrun with ⟨rfl, huptodate⟩ | ⟨record, hrecord⟩
  · obtain ⟨file, hfile, rfl⟩ := List.mem_map.mp hpath
    rw [huptodate file hfile]
    rfl
  · rw [recordedSum, hrecord, Option.bind_some, GoMap.isSome_lookup_foldl_insert, List.map_map]
    exact .inl hpath

end OneInfra.Components
