import OneInfra.Infra.Hypervisor

/-!
# The file map of a hypervisor

A hypervisor records the sums of the files that were uploaded to it, by
namespace, cluster, component and path.  `recordFiles` is the end of
`UploadFiles` in `internal/pkg/infra/hypervisor.go`, and
`cleanupHypervisorFileMap` is the function of
`internal/pkg/component/components/file_map.go`, which also drops the levels
that it leaves empty.

`fileMap` reads the three outer levels at once.  The two lemmas at the end say
that both functions change the entry of one component and no other.
-/

namespace OneInfra.Infra.Hypervisor

open OneInfra.Lib

/-- The files of one component, if it has any entry. -/
def fileMap (hypervisor : Hypervisor) (clusterNamespace clusterName componentName : String) :
    Option FileMap := do
  let clusterFileMap ← hypervisor.files.lookup clusterNamespace
  let componentFileMap ← clusterFileMap.lookup clusterName
  componentFileMap.lookup componentName

/-- `FileUpToDate`, with the sum of the contents. -/
def fileUpToDate (hypervisor : Hypervisor)
    (clusterNamespace clusterName componentName hostPath fileContentsSHA1 : String) : Bool :=
  ((hypervisor.fileMap clusterNamespace clusterName componentName).bind
    (·.lookup hostPath)) = some fileContentsSHA1

/-- What `UploadFiles` does to the file map, with the paths and the sums of the
files. -/
def recordFiles (hypervisor : Hypervisor) (clusterNamespace clusterName componentName : String)
    (sums : List (String × String)) : Hypervisor :=
  let clusterFileMap := (hypervisor.files.lookup clusterNamespace).getD ∅
  let componentFileMap := (clusterFileMap.lookup clusterName).getD ∅
  let fileMap := (componentFileMap.lookup componentName).getD ∅
  let fileMap := sums.foldl (fun fileMap file => fileMap.insert file.1 file.2) fileMap
  { hypervisor with
    files := hypervisor.files.insert clusterNamespace
      (clusterFileMap.insert clusterName (componentFileMap.insert componentName fileMap)) }

/-- `cleanupHypervisorFileMap`. -/
def cleanupHypervisorFileMap (hypervisor : Hypervisor)
    (clusterNamespace clusterName componentName : String) : Hypervisor :=
  match hypervisor.files.lookup clusterNamespace with
  | none => hypervisor
  | some clusterFileMap =>
    match clusterFileMap.lookup clusterName with
    | none => hypervisor
    | some componentFileMap =>
      let componentFileMap := componentFileMap.erase componentName
      let clusterFileMap :=
        if componentFileMap = ∅ then clusterFileMap.erase clusterName
        else clusterFileMap.insert clusterName componentFileMap
      { hypervisor with
        files :=
          if clusterFileMap = ∅ then hypervisor.files.erase clusterNamespace
          else hypervisor.files.insert clusterNamespace clusterFileMap }

/-- The cleanup changes the file map only. -/
theorem cleanupHypervisorFileMap_eq (hypervisor : Hypervisor)
    (clusterNamespace clusterName componentName : String) : ∃ files,
    hypervisor.cleanupHypervisorFileMap clusterNamespace clusterName componentName =
      { hypervisor with files := files } := by
  unfold cleanupHypervisorFileMap
  split
  · exact ⟨hypervisor.files, rfl⟩
  · dsimp only
    split
    · exact ⟨hypervisor.files, rfl⟩
    · exact ⟨_, rfl⟩

section FileMap

variable (hypervisor : Hypervisor) (clusterNamespace clusterName componentName : String)
  (ns cluster component : String)

theorem fileMap_eq : hypervisor.fileMap ns cluster component =
    ((hypervisor.files.lookup ns).bind fun clusterFileMap =>
      (clusterFileMap.lookup cluster).bind fun componentFileMap =>
        componentFileMap.lookup component) := rfl

/-- Recording files gives the component an entry and changes no other. -/
theorem fileMap_recordFiles (sums : List (String × String)) :
    (hypervisor.recordFiles clusterNamespace clusterName componentName sums).fileMap ns cluster
        component =
      if ns = clusterNamespace ∧ cluster = clusterName ∧ component = componentName then
        some (sums.foldl (fun fileMap file => fileMap.insert file.1 file.2)
          ((hypervisor.fileMap clusterNamespace clusterName componentName).getD ∅))
      else hypervisor.fileMap ns cluster component := by
  by_cases hns : ns = clusterNamespace
  swap
  · rw [if_neg fun h => hns h.1, fileMap_eq, fileMap_eq, recordFiles,
      Finmap.lookup_insert_of_ne _ hns]
  subst hns
  by_cases hcl : cluster = clusterName
  swap
  · rw [if_neg fun h => hcl h.2.1, fileMap_eq, fileMap_eq, recordFiles,
      Finmap.lookup_insert, Option.bind_some, Finmap.lookup_insert_of_ne _ hcl]
    cases hypervisor.files.lookup ns <;> rfl
  subst hcl
  by_cases hcomp : component = componentName
  swap
  · rw [if_neg fun h => hcomp h.2.2, fileMap_eq, fileMap_eq, recordFiles,
      Finmap.lookup_insert, Option.bind_some, Finmap.lookup_insert, Option.bind_some,
      Finmap.lookup_insert_of_ne _ hcomp]
    cases hypervisor.files.lookup ns with
    | none => rfl
    | some clusterFileMap => cases h : clusterFileMap.lookup cluster <;> simp [h]
  subst hcomp
  rw [if_pos ⟨rfl, rfl, rfl⟩, fileMap_eq, fileMap_eq, recordFiles, Finmap.lookup_insert,
    Option.bind_some, Finmap.lookup_insert, Option.bind_some, Finmap.lookup_insert]
  cases hypervisor.files.lookup ns with
  | none => rfl
  | some clusterFileMap => cases h : clusterFileMap.lookup cluster <;> simp [h]

/-- The cleanup drops the entry of the component and no other. -/
theorem fileMap_cleanupHypervisorFileMap :
    (hypervisor.cleanupHypervisorFileMap clusterNamespace clusterName componentName).fileMap ns
        cluster component =
      if ns = clusterNamespace ∧ cluster = clusterName ∧ component = componentName then none
      else hypervisor.fileMap ns cluster component := by
  have hmissing : ∀ h : hypervisor.fileMap clusterNamespace clusterName componentName = none,
      hypervisor.fileMap ns cluster component =
        if ns = clusterNamespace ∧ cluster = clusterName ∧ component = componentName then none
        else hypervisor.fileMap ns cluster component := by
    intro h
    split_ifs with hkey
    · rw [hkey.1, hkey.2.1, hkey.2.2, h]
    · rfl
  unfold cleanupHypervisorFileMap
  cases hcls : hypervisor.files.lookup clusterNamespace with
  | none => exact hmissing (by rw [fileMap_eq, hcls]; rfl)
  | some clusterFileMap =>
    cases hcomps : clusterFileMap.lookup clusterName with
    | none =>
      dsimp only
      rw [hcomps]
      exact hmissing (by rw [fileMap_eq, hcls, Option.bind_some, hcomps]; rfl)
    | some componentFileMap =>
      dsimp only
      rw [hcomps]
      dsimp only
      rw [fileMap_eq, GoMap.bind_lookup_ite_empty _ _ _ _ (by rw [Finmap.lookup_empty]; rfl),
        GoMap.bind_lookup_ite_empty _ _ _ _ (Finmap.lookup_empty _), GoMap.lookup_erase_eq,
        fileMap_eq]
      by_cases hns : ns = clusterNamespace
      swap
      · rw [if_neg hns, if_neg fun h => hns h.1]
      rw [if_pos hns, hns, hcls, Option.bind_some]
      by_cases hcl : cluster = clusterName
      swap
      · rw [if_neg hcl, if_neg fun h => hcl h.2.1]
      rw [if_pos hcl, hcl, hcomps, Option.bind_some]
      simp only [true_and]

end FileMap

end OneInfra.Infra.Hypervisor
