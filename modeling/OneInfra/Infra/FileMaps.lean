import OneInfra.Infra.Uploads
import OneInfra.Lib.NestedMap

/-!
# The bookkeeping of the file map

The file map of a hypervisor has four levels: namespaces, clusters, components and paths.
`UploadFiles` creates the levels that it needs, `cleanupHypervisorFileMap` drops the ones that
it leaves empty, and `internal/pkg/infra/file_map.go` copies the map level by level to the
versioned object and back.

The field `Files` can be nil, as in a hypervisor of `NewLocalHypervisor`.  A nil map reads as
an empty one, and `UploadFiles` does not write to it.  `Tracked` is a hypervisor with this
distinction, and `FileEvent` is what happens to its file map.  `uploadFiles_host` connects the
upload here, which is given the outcome of the pod, to the one on a host, which runs the pod.

`Bookkeeping` is what one event does: what it sets, and that it changes no other entry.
-/

namespace OneInfra.Infra

open OneInfra.Lib

/-! ## The levels -/

namespace Hypervisor

/-- The recorded sum of a path. -/
def recordedSum (hypervisor : Hypervisor)
    (clusterNamespace clusterName componentName path : String) : Option String :=
  (hypervisor.fileMap clusterNamespace clusterName componentName).bind (·.lookup path)

/-- No namespace, cluster or component of the file map is empty. -/
def NoEmptyLevel (hypervisor : Hypervisor) : Prop :=
  GoMap.AllValues (GoMap.Full (GoMap.Full (· ≠ (∅ : FileMap)))) hypervisor.files

section Levels

variable {hypervisor : Hypervisor} {cns cl comp : String}

theorem foldl_insert_ne_empty {sums : List (String × String)} (hsums : sums ≠ [])
    (fileMap : FileMap) :
    sums.foldl (fun fileMap file => fileMap.insert file.1 file.2) fileMap ≠ ∅ := by
  cases sums with
  | nil => exact absurd rfl hsums
  | cons file sums =>
    intro hempty
    have hsome := GoMap.isSome_lookup_foldl_insert (file :: sums) file.1 fileMap
    rw [hempty, Finmap.lookup_empty] at hsome
    simp at hsome

theorem NoEmptyLevel.recordFiles (h : hypervisor.NoEmptyLevel) {sums : List (String × String)}
    (hsums : sums ≠ []) :
    (hypervisor.recordFiles cns cl comp sums).NoEmptyLevel := by
  have hcls := GoMap.AllValues.getD h cns
  have hcomps := GoMap.AllValues.getD hcls cl
  exact h.insert (.insert hcls (.insert hcomps (foldl_insert_ne_empty hsums _)))

theorem NoEmptyLevel.cleanup (h : hypervisor.NoEmptyLevel) :
    (hypervisor.cleanupHypervisorFileMap cns cl
      comp).NoEmptyLevel := by
  unfold cleanupHypervisorFileMap
  cases hcls : hypervisor.files.lookup cns with
  | none => exact h
  | some clusterFileMap =>
    obtain ⟨-, hvalues⟩ := h cns clusterFileMap hcls
    dsimp only
    cases hcomps : clusterFileMap.lookup cl with
    | none => exact h
    | some componentFileMap =>
      obtain ⟨-, hfs⟩ := hvalues cl componentFileMap hcomps
      -- the clusters that are left are full, whether or not this one is dropped
      have hleft : GoMap.AllValues (GoMap.Full (· ≠ (∅ : FileMap)))
          (if componentFileMap.erase comp = ∅ then clusterFileMap.erase cl
          else clusterFileMap.insert cl (componentFileMap.erase comp)) := by
        split_ifs with hempty
        · exact hvalues.erase
        · exact hvalues.insert ⟨hempty, hfs.erase⟩
      unfold NoEmptyLevel
      dsimp only
      split_ifs with hempty hempty' hempty'
      · exact h.erase
      · rw [if_pos hempty] at hleft
        exact h.insert ⟨hempty', hleft⟩
      · exact h.erase
      · rw [if_neg hempty] at hleft
        exact h.insert ⟨hempty', hleft⟩

end Levels

end Hypervisor

/-! ## Export and import -/

/-- The order in which a range statement goes over a map. -/
structure Traversal (V : Type) where
  list : GoMap String V → List (String × V)
  isIteration : ∀ m : GoMap String V, m.IsIteration (list m)

/-- The orders of the four loops of a conversion, the inner ones by the keys of the outer. -/
structure ConversionOrder where
  namespaces : Traversal ClusterFileMap
  clusters : String → Traversal ComponentFileMap
  components : String → String → Traversal FileMap
  files : String → String → String → Traversal String

/-- The loops of the two conversions, which have the same text. -/
def copyFileMap (order : ConversionOrder) (namespacedClusterFileMap : NamespacedClusterFileMap) :
    NamespacedClusterFileMap :=
  GoMap.copyInto ∅ (fun namespaceName res clusterFileMap =>
    GoMap.copyInto ∅ (fun cl res componentFileMap =>
      GoMap.copyInto ∅ (fun comp res fileMap =>
        GoMap.copyInto "" (fun _ _ fileSum => fileSum)
          ((order.files namespaceName cl comp).list fileMap) res)
        ((order.components namespaceName cl).list componentFileMap) res)
      ((order.clusters namespaceName).list clusterFileMap) res)
    (order.namespaces.list namespacedClusterFileMap) ∅

/-- `NamespacedClusterFileMap.Export`. -/
def NamespacedClusterFileMap.export (order : ConversionOrder)
    (namespacedClusterFileMap : NamespacedClusterFileMap) : NamespacedClusterFileMap :=
  copyFileMap order namespacedClusterFileMap

/-- `NewNamespacedClusterFileMapFromv1alpha1`. -/
def newNamespacedClusterFileMapFromv1alpha1 (order : ConversionOrder)
    (namespacedClusterFileMap : NamespacedClusterFileMap) : NamespacedClusterFileMap :=
  copyFileMap order namespacedClusterFileMap

theorem copyFileMap_eq (order : ConversionOrder) (files : NamespacedClusterFileMap) :
    copyFileMap order files = files := by
  apply GoMap.copyInto_empty (order.namespaces.isIteration files)
  intro namespaceName clusterFileMap
  apply GoMap.copyInto_empty ((order.clusters namespaceName).isIteration clusterFileMap)
  intro cl componentFileMap
  apply GoMap.copyInto_empty
    ((order.components namespaceName cl).isIteration componentFileMap)
  intro comp fileMap
  exact GoMap.copyInto_empty
    ((order.files namespaceName cl comp).isIteration fileMap) fun _ _ => rfl

/-! ## Hypervisors with a file map that may be nil -/

/-- A hypervisor, and whether its `Files` is nil. -/
structure Tracked where
  hypervisor : Hypervisor
  filesNil : Bool
  empty_of_nil : filesNil = true → hypervisor.files = ∅

namespace Tracked

variable (sha1Sum : String → String) (cns cl comp : String)

/-- The files that are not up to date. -/
def filesToUpload (files : List (String × String)) (tracked : Tracked) : List (String × String) :=
  files.filter fun file => !tracked.hypervisor.fileUpToDate cns cl
    comp file.1 (sha1Sum file.2)

/-- `UploadFiles`, with what `EnsureImage` and `RunAndWaitForPod` return.  The files are in the
order of the second traversal. -/
def uploadFiles (written : Except Fault Unit) (files : List (String × String))
    (tracked : Tracked) : Except Fault Unit × Tracked :=
  if tracked.filesToUpload sha1Sum cns cl comp files = [] then
    (.ok (), tracked)
  else
    match written with
    | .error fault => (.error fault, tracked)
    | .ok () =>
      if hnil : tracked.filesNil = true then (.ok (), tracked)
      else (.ok (),
        { hypervisor := tracked.hypervisor.recordFiles cns cl comp
            (files.map fun file => (file.1, sha1Sum file.2))
          filesNil := tracked.filesNil
          empty_of_nil := fun h => absurd h hnil })

/-- `cleanupHypervisorFileMap`. -/
def cleanup (tracked : Tracked) : Tracked :=
  if hnil : tracked.filesNil = true then tracked
  else
    { hypervisor := tracked.hypervisor.cleanupHypervisorFileMap cns cl
        comp
      filesNil := tracked.filesNil
      empty_of_nil := fun h => absurd h hnil }

/-- The hypervisor after its file map was exported and imported.  The import makes a map. -/
def exportImport (order order' : ConversionOrder) (tracked : Tracked) : Tracked where
  hypervisor := { tracked.hypervisor with
    files := newNamespacedClusterFileMapFromv1alpha1 order'
      (NamespacedClusterFileMap.export order tracked.hypervisor.files) }
  filesNil := false
  empty_of_nil := fun h => by cases h

end Tracked

/-- What happens to the file map of a hypervisor. -/
inductive FileEvent
  | upload (cns cl comp : String)
      (files : List (String × String)) (distinct : (files.map Prod.fst).Nodup)
      (written : Except Fault Unit)
  | cleanup (cns cl comp : String)
  | exportImport (order order' : ConversionOrder)

namespace Tracked

variable (sha1Sum : String → String)

/-- The hypervisor after an event. -/
def after (tracked : Tracked) : FileEvent → Tracked
  | .upload cns cl comp files _ written =>
    (tracked.uploadFiles sha1Sum cns cl comp written files).2
  | .cleanup cns cl comp =>
    tracked.cleanup cns cl comp
  | .exportImport order order' => tracked.exportImport order order'

/-- The hypervisor after a sequence of events. -/
def afterAll (tracked : Tracked) (events : List FileEvent) : Tracked :=
  events.foldl (after sha1Sum) tracked

/-! ## What an event does -/

/-- The files of a component were recorded, and no other entry has changed. -/
structure Recorded (cns cl comp : String)
    (files : List (String × String)) (before after : Hypervisor) : Prop where
  sets : ∀ file ∈ files,
    after.recordedSum cns cl comp file.1 = some (sha1Sum file.2)
  keeps : ∀ ns cluster component path,
    (ns = cns → cluster = cl → component = comp →
      path ∉ files.map Prod.fst) →
    after.recordedSum ns cluster component path = before.recordedSum ns cluster component path

/-- An upload that fails changes nothing, and neither does one without anything to do.  One
that succeeds records its files and nothing else.  Repeating it, with any outcome of the pod
and in any order of the files, does nothing. -/
structure UploadKept (cns cl comp : String)
    (files : List (String × String)) (written : Except Fault Unit) (tracked : Tracked) : Prop where
  failed : ∀ fault, (tracked.uploadFiles sha1Sum cns cl comp written
    files).1 = .error fault →
      (tracked.uploadFiles sha1Sum cns cl comp written files).2 = tracked
  nothing : (∀ file ∈ files, tracked.hypervisor.recordedSum cns cl
      comp file.1 = some (sha1Sum file.2)) →
    tracked.uploadFiles sha1Sum cns cl comp written files = (.ok (), tracked)
  succeeded : (tracked.uploadFiles sha1Sum cns cl comp written
    files).1 = .ok () →
      Recorded sha1Sum cns cl comp files tracked.hypervisor
        (tracked.uploadFiles sha1Sum cns cl comp written
          files).2.hypervisor
  repeated : (tracked.uploadFiles sha1Sum cns cl comp written
    files).1 = .ok () → ∀ files', files'.Perm files → ∀ written',
      (tracked.uploadFiles sha1Sum cns cl comp written
        files).2.uploadFiles sha1Sum cns cl comp written' files' =
        (.ok (), (tracked.uploadFiles sha1Sum cns cl comp written
          files).2)

/-- The entry of a component is gone, and no other has changed. -/
structure CleanedUp (cns cl comp : String)
    (before after : Hypervisor) : Prop where
  gone : after.fileMap cns cl comp = none
  keeps : ∀ ns cluster component,
    ¬ (ns = cns ∧ cluster = cl ∧ component = comp) →
    after.fileMap ns cluster component = before.fileMap ns cluster component

/-- What an event does to the file map of a hypervisor. -/
def Bookkeeping (tracked : Tracked) : FileEvent → Prop
  | .upload cns cl comp files _ written =>
    UploadKept sha1Sum cns cl comp files written tracked
  | .cleanup cns cl comp =>
    CleanedUp cns cl comp tracked.hypervisor
      (tracked.cleanup cns cl comp).hypervisor
  | .exportImport order order' => tracked.exportImport order order' = tracked

section Events

variable {sha1Sum} {tracked : Tracked} {cns cl comp : String}
  {files : List (String × String)} {written : Except Fault Unit}

theorem filesToUpload_eq_nil_iff :
    tracked.filesToUpload sha1Sum cns cl comp files = [] ↔
      ∀ file ∈ files, tracked.hypervisor.recordedSum cns cl comp
        file.1 = some (sha1Sum file.2) := by
  unfold filesToUpload
  rw [List.filter_eq_nil_iff]
  refine forall₂_congr fun file _ => ?_
  unfold Hypervisor.fileUpToDate Hypervisor.recordedSum
  simp

/-- An upload of files that are all recorded. -/
theorem uploadFiles_of_recorded (h : ∀ file ∈ files, tracked.hypervisor.recordedSum
      cns cl comp file.1 = some (sha1Sum file.2)) :
    tracked.uploadFiles sha1Sum cns cl comp written files = (.ok (), tracked) := by
  unfold uploadFiles
  exact if_pos (filesToUpload_eq_nil_iff.mpr h)

/-- The three ways an upload to a map can end. -/
theorem uploadFiles_cases (sha1Sum : String → String)
    (cns cl comp : String) (files : List (String × String))
    (written : Except Fault Unit) (hnil : tracked.filesNil = false) :
    (tracked.uploadFiles sha1Sum cns cl comp written files = (.ok (), tracked) ∧
      ∀ file ∈ files, tracked.hypervisor.recordedSum cns cl comp
        file.1 = some (sha1Sum file.2)) ∨
    (∃ fault, tracked.uploadFiles sha1Sum cns cl comp written
      files = (.error fault, tracked)) ∨
    files ≠ [] ∧ ∃ after, tracked.uploadFiles sha1Sum cns cl comp
        written files = (.ok (), after) ∧ after.filesNil = false ∧
      after.hypervisor = tracked.hypervisor.recordFiles cns cl comp
        (files.map fun file => (file.1, sha1Sum file.2)) := by
  by_cases hrecorded : ∀ file ∈ files, tracked.hypervisor.recordedSum cns
      cl comp file.1 = some (sha1Sum file.2)
  · exact .inl ⟨uploadFiles_of_recorded hrecorded, hrecorded⟩
  · right
    have hsome : files ≠ [] := by
      intro hfs
      rw [hfs] at hrecorded
      exact hrecorded (by simp)
    unfold uploadFiles
    rw [if_neg fun hempty => hrecorded (filesToUpload_eq_nil_iff.mp hempty)]
    cases written with
    | error fault => exact .inl ⟨fault, rfl⟩
    | ok _ =>
      refine .inr ⟨hsome, ?_⟩
      dsimp only
      rw [dif_neg (by rw [hnil]; decide)]
      exact ⟨_, rfl, hnil, rfl⟩

theorem recorded_recordFiles (sha1Sum : String → String)
    (cns cl comp : String) (hypervisor : Hypervisor)
    (hdist : (files.map Prod.fst).Nodup) :
    Recorded sha1Sum cns cl comp files hypervisor
      (hypervisor.recordFiles cns cl comp
        (files.map fun file => (file.1, sha1Sum file.2))) := by
  have hpaths : (files.map fun file => (file.1, sha1Sum file.2)).map Prod.fst =
      files.map Prod.fst := by
    rw [List.map_map]
    rfl
  constructor
  · intro file hfile
    unfold Hypervisor.recordedSum
    rw [Hypervisor.fileMap_recordFiles, if_pos ⟨rfl, rfl, rfl⟩, Option.bind_some]
    exact GoMap.lookup_foldl_insert_of_mem (hpaths ▸ hdist)
      (List.mem_map.mpr ⟨file, hfile, rfl⟩) _
  · intro ns cluster component path hother
    unfold Hypervisor.recordedSum
    rw [Hypervisor.fileMap_recordFiles]
    split_ifs with hkey
    · obtain ⟨hns, hcl, hcomp⟩ := hkey
      have hpath := hother hns hcl hcomp
      rw [Option.bind_some, GoMap.lookup_foldl_insert_of_notMem (hpaths ▸ hpath), hns, hcl,
        hcomp]
      cases hypervisor.fileMap cns cl comp with
      | none => exact Finmap.lookup_empty _
      | some fileMap => rfl
    · rfl

theorem uploadKept (hnil : tracked.filesNil = false) (hdist : (files.map Prod.fst).Nodup) :
    UploadKept sha1Sum cns cl comp files written tracked := by
  rcases uploadFiles_cases sha1Sum cns cl comp files written
      hnil with
    ⟨hres, hrecorded⟩ | ⟨fault, hres⟩ | ⟨-, after, hres, -, hafter⟩
  · refine ⟨fun fault hfault => ?_, fun _ => hres, fun _ => ?_,
      fun _ files' hperm written' => ?_⟩
    · rw [hres] at hfault
      cases hfault
    · rw [hres]
      exact ⟨hrecorded, fun _ _ _ _ _ => rfl⟩
    · rw [hres]
      exact uploadFiles_of_recorded fun file hfile => hrecorded file (hperm.subset hfile)
  · refine ⟨fun _ _ => ?_, uploadFiles_of_recorded, fun hok => ?_, fun hok => ?_⟩
    · rw [hres]
    · rw [hres] at hok
      cases hok
    · rw [hres] at hok
      cases hok
  · have hrecorded := recorded_recordFiles sha1Sum cns cl comp
      tracked.hypervisor hdist
    refine ⟨fun fault hfault => ?_, uploadFiles_of_recorded, fun _ => ?_,
      fun _ files' hperm written' => ?_⟩
    · rw [hres] at hfault
      cases hfault
    · rw [hres, hafter]
      exact hrecorded
    · rw [hres]
      apply uploadFiles_of_recorded
      intro file hfile
      rw [hafter]
      exact hrecorded.sets file (hperm.subset hfile)

theorem cleanedUp (hnil : tracked.filesNil = false) :
    CleanedUp cns cl comp tracked.hypervisor
      (tracked.cleanup cns cl comp).hypervisor := by
  unfold cleanup
  rw [dif_neg (by rw [hnil]; decide)]
  constructor
  · rw [Hypervisor.fileMap_cleanupHypervisorFileMap, if_pos ⟨rfl, rfl, rfl⟩]
  · intro ns cluster component hother
    rw [Hypervisor.fileMap_cleanupHypervisorFileMap, if_neg hother]

theorem exportImport_eq (hnil : tracked.filesNil = false) (order order' : ConversionOrder) :
    tracked.exportImport order order' = tracked := by
  unfold exportImport newNamespacedClusterFileMapFromv1alpha1 NamespacedClusterFileMap.export
  cases tracked with
  | mk hypervisor filesNil empty_of_nil =>
    cases hnil
    simp only [copyFileMap_eq]

theorem bookkeeping (hnil : tracked.filesNil = false) (event : FileEvent) :
    Bookkeeping sha1Sum tracked event := by
  cases event with
  | upload cns cl comp files distinct written =>
    exact uploadKept hnil distinct
  | cleanup cns cl comp => exact cleanedUp hnil
  | exportImport order order' => exact exportImport_eq hnil order order'

/-- An event keeps a map without empty levels. -/
theorem after_noEmptyLevel (sha1Sum : String → String) (hnil : tracked.filesNil = false)
    (hlevels : tracked.hypervisor.NoEmptyLevel) (event : FileEvent) :
    (tracked.after sha1Sum event).filesNil = false ∧
      (tracked.after sha1Sum event).hypervisor.NoEmptyLevel := by
  cases event with
  | upload cns cl comp files distinct written =>
    unfold after
    dsimp only
    rcases uploadFiles_cases sha1Sum cns cl comp files written
        hnil with
      ⟨hres, -⟩ | ⟨fault, hres⟩ | ⟨hsome, after, hres, hafterNil, hafter⟩
    · rw [hres]
      exact ⟨hnil, hlevels⟩
    · rw [hres]
      exact ⟨hnil, hlevels⟩
    · rw [hres, hafter]
      exact ⟨hafterNil, hlevels.recordFiles (by simpa using hsome)⟩
  | cleanup cns cl comp =>
    unfold after cleanup
    dsimp only
    rw [dif_neg (by rw [hnil]; decide)]
    exact ⟨hnil, hlevels.cleanup⟩
  | exportImport order order' =>
    unfold after
    dsimp only
    rw [exportImport_eq hnil]
    exact ⟨hnil, hlevels⟩

/-- From a map without empty levels, no sequence of events makes a level empty, and each event
does what it should. -/
theorem afterAll_bookkeeping (sha1Sum : String → String) (tracked : Tracked)
    (hnil : tracked.filesNil = false)
    (hlevels : tracked.hypervisor.NoEmptyLevel) (events : List FileEvent) :
    (tracked.afterAll sha1Sum events).hypervisor.NoEmptyLevel ∧
      ∀ event, Bookkeeping sha1Sum (tracked.afterAll sha1Sum events) event := by
  have hinv : (tracked.afterAll sha1Sum events).filesNil = false ∧
      (tracked.afterAll sha1Sum events).hypervisor.NoEmptyLevel := by
    induction events generalizing tracked with
    | nil => exact ⟨hnil, hlevels⟩
    | cons event events ih =>
      obtain ⟨hnil', hlevels'⟩ := after_noEmptyLevel sha1Sum hnil hlevels event
      exact ih _ hnil' hlevels'
  exact ⟨hinv.2, bookkeeping hinv.1⟩

end Events

/-! ## Uploads on a host -/

/-- What a run returns. -/
def returned {α : Type} : EStateM.Result Fault Host α → Except Fault α
  | .ok a _ => .ok a
  | .error fault _ => .error fault

/-- A hypervisor that was imported. -/
def imported (hypervisor : Hypervisor) : Tracked := ⟨hypervisor, false, fun h => by cases h⟩

theorem filesToUpload_imported (tools : Tools)
    (cns cl comp : String) (hypervisor : Hypervisor)
    (files : List (String × String)) :
    (imported hypervisor).filesToUpload tools.sha1Sum cns cl comp
        files =
      Host.filesToUpload tools cns cl comp hypervisor files := rfl

/-- An upload on a host is one with the outcome of writing the files. -/
theorem uploadFiles_host (tools : Tools) (cns cl comp : String)
    (files : List (String × String)) (host : Host) :
    ∃ written, returned ((Host.uploadFiles tools cns cl comp
        files).run host) =
          ((imported host.hypervisor).uploadFiles tools.sha1Sum cns cl
            comp written files).1 ∧
      (finalState ((Host.uploadFiles tools cns cl comp
        files).run host)).hypervisor =
          ((imported host.hypervisor).uploadFiles tools.sha1Sum cns cl
            comp written files).2.hypervisor := by
  unfold uploadFiles
  rw [Host.run_uploadFiles, filesToUpload_imported]
  generalize Host.filesToUpload tools cns cl comp host.hypervisor
    files = toUpload
  by_cases hempty : toUpload = []
  · refine ⟨.ok (), ?_⟩
    rw [if_pos hempty, if_pos hempty]
    exact ⟨rfl, rfl⟩
  · refine ⟨returned ((Host.writeFiles tools cns cl comp
      toUpload).run host), ?_⟩
    rw [if_neg hempty, if_neg hempty, EStateM.run_bind]
    have hkept := (Host.stable_hypervisor tools host.hypervisor).preserves_writeFiles
      cns cl comp toUpload host rfl
    cases hwrite : (Host.writeFiles tools cns cl comp
        toUpload).run host with
    | error fault host' =>
      rw [hwrite] at hkept
      exact ⟨rfl, hkept⟩
    | ok _ host' =>
      rw [hwrite] at hkept
      change host'.hypervisor = host.hypervisor at hkept
      refine ⟨rfl, ?_⟩
      change host'.hypervisor.recordFiles _ _ _ _ = _
      rw [hkept]
      rfl

/-! ### A local hypervisor -/

/-- A hypervisor with that file map. -/
def hypervisorWith (files : NamespacedClusterFileMap) : Hypervisor where
  name := "h"
  resourceVersion := 1
  ipAddress := "10.0.0.1"
  portRangeLow := 30000
  portRangeHigh := 60000
  files := files
  freedPorts := []
  allocatedPorts := []

/-- What `NewLocalHypervisor` returns has no file map. -/
def newLocalHypervisor : Tracked := ⟨hypervisorWith ∅, true, fun _ => rfl⟩

/-- An upload to a local hypervisor succeeds and records nothing. -/
theorem not_bookkeeping_local :
    newLocalHypervisor.hypervisor.NoEmptyLevel ∧
      (newLocalHypervisor.uploadFiles id "" "" "" (.ok ())
        [("/etc/oneinfra/haproxy.cfg", "contents")]).1 = .ok () ∧
      ¬ Bookkeeping id newLocalHypervisor
        (.upload "" "" "" [("/etc/oneinfra/haproxy.cfg", "contents")] (by decide) (.ok ())) := by
  refine ⟨GoMap.allValues_empty, rfl, ?_⟩
  intro hkept
  have hsets := (hkept.succeeded rfl).sets _ List.mem_cons_self
  have hnone : newLocalHypervisor.hypervisor.recordedSum "" "" "" "/etc/oneinfra/haproxy.cfg" =
      none := rfl
  exact absurd (hnone.symm.trans hsets) (by decide)

/-- An upload that succeeds, a cleanup, and a hypervisor that was imported. -/
theorem afterAll_bookkeeping_imported :
    ((imported (hypervisorWith ∅)).afterAll id
        [.upload "ns" "c" "cp" [("/etc/ca.crt", "ca")] (by decide) (.ok ()),
          .cleanup "ns" "c" "other"]).hypervisor.NoEmptyLevel ∧
      Bookkeeping id ((imported (hypervisorWith ∅)).afterAll id
        [.upload "ns" "c" "cp" [("/etc/ca.crt", "ca")] (by decide) (.ok ()),
          .cleanup "ns" "c" "other"])
        (.upload "ns" "c" "cp" [("/etc/ca.crt", "new")] (by decide)
          (.error (.error "failed"))) := by
  have h := afterAll_bookkeeping id (imported (hypervisorWith ∅)) rfl
    GoMap.allValues_empty [.upload "ns" "c" "cp" [("/etc/ca.crt", "ca")] (by decide) (.ok ()),
      .cleanup "ns" "c" "other"]
  exact ⟨h.1, h.2 _⟩

end Tracked

end OneInfra.Infra
