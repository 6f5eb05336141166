import OneInfra.Lib.DNSName

/-!
# The paths of a component on its host

`internal/pkg/component/components/paths.go`.  The secrets and the storage of a component
are in directories of its own, below directories of its cluster and of its namespace.

The functions join arbitrary names.  For names that the API server accepts there is
nothing to clean, and the lemmas give the parts of each path.
-/

namespace OneInfra

open Lib Lib.FilePath

/-- `globalSecretsPath`. -/
def globalSecretsPath : String := "/etc/oneinfra/clusters"

/-- `globalStoragePath`. -/
def globalStoragePath : String := "/var/lib/oneinfra/clusters"

section Paths

variable (clusterNamespace clusterName componentName : String)

/-- `namespacedClusterSecretsPath`. -/
def namespacedClusterSecretsPath : String := join [globalSecretsPath, clusterNamespace]

/-- `clusterSecretsPath`. -/
def clusterSecretsPath : String :=
  join [namespacedClusterSecretsPath clusterNamespace, clusterName]

/-- `componentSecretsPath`. -/
def componentSecretsPath : String :=
  join [clusterSecretsPath clusterNamespace clusterName, componentName]

/-- `componentSecretsPathFile`. -/
def componentSecretsPathFile (file : String) : String :=
  join [componentSecretsPath clusterNamespace clusterName componentName, file]

/-- `namespacedClusterStoragePath`. -/
def namespacedClusterStoragePath : String := join [globalStoragePath, clusterNamespace]

/-- `clusterStoragePath`. -/
def clusterStoragePath : String :=
  join [namespacedClusterStoragePath clusterNamespace, clusterName]

/-- `componentStoragePath`. -/
def componentStoragePath : String :=
  join [clusterStoragePath clusterNamespace clusterName, componentName]

/-- `subcomponentStoragePath`. -/
def subcomponentStoragePath (subcomponentName : String) : String :=
  join [componentStoragePath clusterNamespace clusterName componentName, subcomponentName]

end Paths

/-! ## The parts of the paths -/

/-- The parts of `globalSecretsPath`. -/
def secretsRoot : List String := ["etc", "oneinfra", "clusters"]

/-- The parts of `globalStoragePath`. -/
def storageRoot : List String := ["var", "lib", "oneinfra", "clusters"]

theorem plain_append {l : List String} {name : String} (hl : ∀ p ∈ l, Plain p)
    (hname : Plain name) : ∀ p ∈ l ++ [name], Plain p := by
  intro p hp
  rcases List.mem_append.mp hp with hp | hp
  · exact hl p hp
  · rw [List.mem_singleton.mp hp]
    exact hname

theorem plain_secretsRoot : ∀ p ∈ secretsRoot, Plain p := by decide

theorem plain_storageRoot : ∀ p ∈ storageRoot, Plain p := by decide

section Parts

variable {ns cluster comp : String}
variable (hns : Plain ns) (hcl : Plain cluster)
  (hcomp : Plain comp)

include hns

theorem namespacedClusterSecretsPath_eq :
    namespacedClusterSecretsPath ns = rooted (secretsRoot ++ [ns]) :=
  join_rooted_of_plain plain_secretsRoot hns

theorem namespacedClusterStoragePath_eq :
    namespacedClusterStoragePath ns = rooted (storageRoot ++ [ns]) :=
  join_rooted_of_plain plain_storageRoot hns

include hcl

theorem clusterSecretsPath_eq : clusterSecretsPath ns cluster =
    rooted (secretsRoot ++ [ns, cluster]) := by
  rw [clusterSecretsPath, namespacedClusterSecretsPath_eq hns,
    join_rooted_of_plain (plain_append plain_secretsRoot hns) hcl, List.append_assoc]
  rfl

theorem clusterStoragePath_eq : clusterStoragePath ns cluster =
    rooted (storageRoot ++ [ns, cluster]) := by
  rw [clusterStoragePath, namespacedClusterStoragePath_eq hns,
    join_rooted_of_plain (plain_append plain_storageRoot hns) hcl, List.append_assoc]
  rfl

theorem plain_cluster {root : List String} (hroot : ∀ p ∈ root, Plain p) :
    ∀ p ∈ root ++ [ns, cluster], Plain p := by
  have h := plain_append (plain_append hroot hns) hcl
  rwa [List.append_assoc] at h

include hcomp

theorem plain_component {root : List String} (hroot : ∀ p ∈ root, Plain p) :
    ∀ p ∈ root ++ [ns, cluster, comp], Plain p := by
  have h := plain_append (plain_cluster hns hcl hroot) hcomp
  rwa [List.append_assoc] at h

theorem componentSecretsPath_eq : componentSecretsPath ns cluster comp =
    rooted (secretsRoot ++ [ns, cluster, comp]) := by
  rw [componentSecretsPath, clusterSecretsPath_eq hns hcl,
    join_rooted_of_plain (plain_cluster hns hcl plain_secretsRoot) hcomp,
    List.append_assoc]
  rfl

theorem componentStoragePath_eq : componentStoragePath ns cluster comp =
    rooted (storageRoot ++ [ns, cluster, comp]) := by
  rw [componentStoragePath, clusterStoragePath_eq hns hcl,
    join_rooted_of_plain (plain_cluster hns hcl plain_storageRoot) hcomp,
    List.append_assoc]
  rfl

/-- A file name may be empty or dots, which are cleaned away. -/
theorem componentSecretsPathFile_eq {file : String} (hfile : '/' ∉ file.toList) :
    componentSecretsPathFile ns cluster comp file =
      rooted (push true (secretsRoot ++ [ns, cluster, comp]) file) := by
  rw [componentSecretsPathFile, componentSecretsPath_eq hns hcl hcomp,
    join_rooted (plain_component hns hcl hcomp plain_secretsRoot) hfile]

theorem subcomponentStoragePath_eq {name : String} (hname : '/' ∉ name.toList) :
    subcomponentStoragePath ns cluster comp name =
      rooted (push true (storageRoot ++ [ns, cluster, comp]) name) := by
  rw [subcomponentStoragePath, componentStoragePath_eq hns hcl hcomp,
    join_rooted (plain_component hns hcl hcomp plain_storageRoot) hname]

end Parts

end OneInfra
