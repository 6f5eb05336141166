import OneInfra.Component.Paths

/-!
# The removal of the files of a component

`hostCleanup` of `control_plane.go` and of `control_plane_ingress.go` runs a pod whose
containers remove directories of the component.  Each container runs one line of shell:
a recursive removal, and then the removal of the directories around it as long as they
are empty.  `Command` is such a line, and `Command.run` is what it does to the files of the
host.

The result is `hostCleanup_spares`: the removal for one component leaves the files of every
other component alone.
-/

namespace OneInfra.Components

open Lib Lib.FilePath

/-! ## Commands on the files of a host -/

/-- What is at a path. -/
inductive Entry
  | directory
  | file (contents : String)
deriving DecidableEq, Repr

/-- The entries of a host by their paths. -/
abbrev FileSystem := List (String × Entry)

/-- The commands of the cleanup. -/
inductive Command
  | rmRecursively (path : String)
  | rmdir (path : String)
  | andThen (first second : Command)
  | orTrue (command : Command)
deriving DecidableEq, Repr

instance (path dir : String) : Decidable (IsUnder path dir) :=
  inferInstanceAs (Decidable (_ ∨ _))

namespace FileSystem

/-- `rm -rf`. -/
def rmRecursively (path : String) (fs : FileSystem) : FileSystem :=
  fs.filter fun entry => ¬ IsUnder entry.1 path

/-- There is an entry below the directory. -/
def occupied (path : String) (fs : FileSystem) : Bool :=
  fs.any fun entry => IsUnder entry.1 path && entry.1 ≠ path

/-- `rmdir`. -/
def rmdir (path : String) (fs : FileSystem) : Except String FileSystem :=
  if (path, Entry.directory) ∉ fs then .error "No such directory"
  else if fs.occupied path then .error "Directory not empty"
  else .ok (fs.filter fun entry => entry.1 ≠ path)

/-- `rmdir` fails on a directory with an entry below it. -/
theorem rmdir_of_isUnder {path dir : String} {entry : Entry} {fs : FileSystem}
    (hdir : (dir, Entry.directory) ∈ fs) (hmem : (path, entry) ∈ fs) (hunder : IsUnder path dir)
    (hne : path ≠ dir) : fs.rmdir dir = .error "Directory not empty" := by
  have hoccupied : fs.occupied dir = true := by
    refine List.any_eq_true.mpr ⟨(path, entry), hmem, ?_⟩
    rw [Bool.and_eq_true, decide_eq_true_eq, decide_eq_true_eq]
    exact ⟨hunder, hne⟩
  rw [rmdir, if_neg (not_not_intro hdir), if_pos hoccupied]

end FileSystem

namespace Command

/-- The line of shell. -/
def text : Command → String
  | rmRecursively path => "rm -rf " ++ path
  | rmdir path => "rmdir " ++ path
  | andThen first second => first.text ++ " && " ++ second.text
  | orTrue command => "((" ++ command.text ++ ") || true)"

/-- Whether the command succeeds, and the files after it. -/
def run : Command → FileSystem → Bool × FileSystem
  | rmRecursively path, fs => (true, fs.rmRecursively path)
  | rmdir path, fs =>
    match fs.rmdir path with
    | .ok fs' => (true, fs')
    | .error _ => (false, fs)
  | andThen first second, fs =>
    match first.run fs with
    | (true, fs') => second.run fs'
    | (false, fs') => (false, fs')
  | orTrue command, fs => (true, (command.run fs).2)

/-- The directories that a command removes with all that is in them. -/
def removedRecursively : Command → List String
  | rmRecursively path => [path]
  | rmdir _ => []
  | andThen first second => first.removedRecursively ++ second.removedRecursively
  | orTrue command => command.removedRecursively

/-- The directories that a command removes if they are empty. -/
def removedIfEmpty : Command → List String
  | rmRecursively _ => []
  | rmdir path => [path]
  | andThen first second => first.removedIfEmpty ++ second.removedIfEmpty
  | orTrue command => command.removedIfEmpty

/-- An entry stays if no command names it or, recursively, a directory around it. -/
theorem mem_run {command : Command} {path : String} {entry : Entry} {fs : FileSystem}
    (hrecursively : ∀ dir ∈ command.removedRecursively, ¬ IsUnder path dir)
    (hempty : path ∉ command.removedIfEmpty) (hmem : (path, entry) ∈ fs) :
    (path, entry) ∈ (command.run fs).2 := by
  induction command generalizing fs with
  | rmRecursively dir =>
    refine List.mem_filter.mpr ⟨hmem, ?_⟩
    exact decide_eq_true (hrecursively dir List.mem_cons_self)
  | rmdir dir =>
    have hne : path ≠ dir := fun h => hempty (h ▸ List.mem_cons_self)
    unfold run
    cases hrmdir : fs.rmdir dir with
    | error message => exact hmem
    | ok fs' =>
      unfold FileSystem.rmdir at hrmdir
      split_ifs at hrmdir
      cases hrmdir
      exact List.mem_filter.mpr ⟨hmem, decide_eq_true hne⟩
  | andThen first second hfirst hsnd =>
    rw [removedIfEmpty, List.mem_append, not_or] at hempty
    have hmem' := hfirst (fun dir hdir => hrecursively dir (List.mem_append_left _ hdir))
      hempty.1 hmem
    unfold run
    cases hrun : first.run fs with
    | mk succeeds fs' =>
      rw [hrun] at hmem'
      cases succeeds with
      | false => exact hmem'
      | true =>
        exact hsnd (fun dir hdir => hrecursively dir (List.mem_append_right _ hdir))
          hempty.2 hmem'
  | orTrue command ih => exact ih hrecursively hempty hmem

end Command

/-! ## The commands of the source -/

section Cleanup

variable (ns cluster comp : String)

/-- The container `etcd-cleanup`. -/
def etcdCleanup : Command :=
  .andThen (.rmRecursively
      (subcomponentStoragePath ns cluster comp "etcd"))
    (.orTrue (.andThen (.andThen
      (.rmdir (componentStoragePath ns cluster comp))
      (.rmdir (clusterStoragePath ns cluster)))
      (.rmdir (namespacedClusterStoragePath ns))))

/-- The container `secrets-cleanup`. -/
def secretsCleanup : Command :=
  .andThen (.rmRecursively (componentSecretsPath ns cluster comp))
    (.orTrue (.andThen
      (.rmdir (clusterSecretsPath ns cluster))
      (.rmdir (namespacedClusterSecretsPath ns))))

/-- The commands of `hostCleanup` of a control plane. -/
def ControlPlane.cleanupCommands : List Command :=
  [etcdCleanup ns cluster comp,
    secretsCleanup ns cluster comp]

/-- The commands of `hostCleanup` of a control plane ingress. -/
def ControlPlaneIngress.cleanupCommands : List Command :=
  [secretsCleanup ns cluster comp]

/-- The paths of a component with a given file name. -/
def componentPaths (file : String) : List String :=
  [componentSecretsPathFile ns cluster comp file,
    subcomponentStoragePath ns cluster comp file]

end Cleanup

example : (secretsCleanup "ns" "c" "cp").text =
    "rm -rf /etc/oneinfra/clusters/ns/c/cp && ((rmdir /etc/oneinfra/clusters/ns/c && " ++
      "rmdir /etc/oneinfra/clusters/ns) || true)" := by decide +kernel

/-! ## Other components -/

/-- The three names under which a component has its files. -/
structure Owner where
  clusterNamespace : String
  clusterName : String
  componentName : String
  /-- The API server accepts the names. -/
  valid : DNSName.isDNS1123Subdomain clusterNamespace = true ∧
    DNSName.isDNS1123Subdomain clusterName = true ∧ DNSName.isDNS1123Subdomain componentName = true

namespace Owner

/-- The names as parts of a path. -/
def parts (owner : Owner) : List String :=
  [owner.clusterNamespace, owner.clusterName, owner.componentName]

theorem plain (owner : Owner) : Plain owner.clusterNamespace ∧ Plain owner.clusterName ∧
    Plain owner.componentName :=
  ⟨DNSName.plain owner.valid.1, DNSName.plain owner.valid.2.1, DNSName.plain owner.valid.2.2⟩

theorem parts_injective {owner other : Owner} (h : owner.parts = other.parts) : owner = other := by
  cases owner
  cases other
  simp only [parts, List.cons.injEq] at h
  obtain ⟨rfl, rfl, rfl, -⟩ := h
  rfl

theorem plain_parts (owner : Owner) {root : List String} (hroot : ∀ p ∈ root, Plain p) :
    ∀ p ∈ root ++ owner.parts, Plain p :=
  plain_component owner.plain.1 owner.plain.2.1 owner.plain.2.2 hroot

end Owner

/-- The first three parts below a root are the names of the owner, or there are fewer. -/
theorem prefix_push {root : List String} {owner : Owner} {file : String} :
    push true (root ++ owner.parts) file <+: root ++ owner.parts ++ [file] := by
  unfold push
  split
  · exact List.prefix_append _ _
  · split
    · have hlast : (root ++ owner.parts).getLast? = some owner.componentName := by
        simp [Owner.parts]
      rw [hlast]
      dsimp only
      rw [if_neg owner.plain.2.2.ne_dots]
      exact (List.dropLast_prefix _).trans (List.prefix_append _ _)
    · exact List.prefix_refl _

/-- Below one root, the directory of one owner is around no path of another. -/
theorem not_prefix_push {root rest : List String} {owner other : Owner}
    (hne : owner.parts ≠ other.parts) {file : String} :
    ¬ root ++ other.parts ++ rest <+: push true (root ++ owner.parts) file := by
  intro h
  have hother : other.parts <+: owner.parts ++ [file] := by
    have htrans := ((List.prefix_append _ rest).trans h).trans prefix_push
    rw [List.append_assoc] at htrans
    exact (List.prefix_append_right_inj root).mp htrans
  exact hne (List.prefix_of_prefix_length_le hother (List.prefix_append _ _) (Nat.le_refl 3)
    |>.eq_of_length rfl).symm

theorem plain_root {root : List String} (hroot : root = secretsRoot ∨ root = storageRoot) :
    ∀ p ∈ root, Plain p := by
  rcases hroot with rfl | rfl
  · exact plain_secretsRoot
  · exact plain_storageRoot

/-- The two roots are different directories. -/
theorem not_prefix_of_roots {rest rest' : List String} :
    ¬ secretsRoot ++ rest <+: storageRoot ++ rest' ∧
      ¬ storageRoot ++ rest <+: secretsRoot ++ rest' := by
  simp [secretsRoot, storageRoot]

/-- A path of a component, below one of the two roots. -/
theorem exists_root_of_mem {owner : Owner} {file path : String} (hfile : '/' ∉ file.toList)
    (hpath : path ∈ componentPaths owner.clusterNamespace owner.clusterName owner.componentName
      file) :
    ∃ root, (root = secretsRoot ∨ root = storageRoot) ∧
      path = rooted (push true (root ++ owner.parts) file) := by
  obtain ⟨hns, hcl, hcomp⟩ := owner.plain
  simp only [componentPaths, List.mem_cons, List.not_mem_nil, or_false] at hpath
  rcases hpath with rfl | rfl
  · exact ⟨secretsRoot, .inl rfl, componentSecretsPathFile_eq hns hcl hcomp hfile⟩
  · exact ⟨storageRoot, .inr rfl, subcomponentStoragePath_eq hns hcl hcomp hfile⟩

/-- What a command of the cleanup removes, by the parts of the paths. -/
theorem removed_eq {owner : Owner} {command : Command}
    (hcommand : command ∈ ControlPlane.cleanupCommands owner.clusterNamespace owner.clusterName
      owner.componentName) :
    ∃ root, (root = secretsRoot ∨ root = storageRoot) ∧
      (∀ dir ∈ command.removedRecursively, ∃ rest, (∀ p ∈ rest, Plain p) ∧
        dir = rooted (root ++ owner.parts ++ rest)) ∧
      ∀ dir ∈ command.removedIfEmpty, ∃ names, (∀ p ∈ names, Plain p) ∧ names.length ≤ 3 ∧
        (names.length = 3 → names = owner.parts) ∧ dir = rooted (root ++ names) := by
  obtain ⟨hns, hcl, hcomp⟩ := owner.plain
  simp only [ControlPlane.cleanupCommands, List.mem_cons, List.not_mem_nil, or_false] at hcommand
  rcases hcommand with rfl | rfl
  · refine ⟨storageRoot, .inr rfl, ?_, ?_⟩
    · intro dir hdir
      have hetcd : Plain "etcd" := by decide
      refine ⟨["etcd"], by simpa using hetcd, ?_⟩
      rw [List.mem_singleton.mp hdir,
        subcomponentStoragePath_eq hns hcl hcomp hetcd.no_slash,
        push_of_plain hetcd]
      rfl
    · intro dir hdir
      simp only [etcdCleanup, Command.removedIfEmpty, List.nil_append, List.cons_append,
        List.mem_cons, List.not_mem_nil, or_false] at hdir
      rcases hdir with rfl | rfl | rfl
      · exact ⟨owner.parts, by simp [Owner.parts, hns, hcl, hcomp], Nat.le_refl 3,
          fun _ => rfl, componentStoragePath_eq hns hcl hcomp⟩
      · exact ⟨[owner.clusterNamespace, owner.clusterName], by simp [hns, hcl],
          by simp, by simp, clusterStoragePath_eq hns hcl⟩
      · exact ⟨[owner.clusterNamespace], by simp [hns], by simp, by simp,
          namespacedClusterStoragePath_eq hns⟩
  · refine ⟨secretsRoot, .inl rfl, ?_, ?_⟩
    · intro dir hdir
      refine ⟨[], by simp, ?_⟩
      rw [List.mem_singleton.mp hdir, componentSecretsPath_eq hns hcl hcomp,
        List.append_nil]
      rfl
    · intro dir hdir
      simp only [secretsCleanup, Command.removedIfEmpty, List.nil_append, List.cons_append,
        List.mem_cons, List.not_mem_nil, or_false] at hdir
      rcases hdir with rfl | rfl
      · exact ⟨[owner.clusterNamespace, owner.clusterName], by simp [hns, hcl],
          by simp, by simp, clusterSecretsPath_eq hns hcl⟩
      · exact ⟨[owner.clusterNamespace], by simp [hns], by simp, by simp,
          namespacedClusterSecretsPath_eq hns⟩

/-- No directory that is removed recursively for one component is around a path of
another. -/
theorem not_isUnder_removedRecursively {owner other : Owner} (hne : owner ≠ other)
    {file path dir : String} {command : Command} (hfile : '/' ∉ file.toList)
    (hpath : path ∈ componentPaths owner.clusterNamespace owner.clusterName owner.componentName
      file)
    (hcommand : command ∈ ControlPlane.cleanupCommands other.clusterNamespace other.clusterName
      other.componentName)
    (hdir : dir ∈ command.removedRecursively) : ¬ IsUnder path dir := by
  obtain ⟨root, hroot, rfl⟩ := exists_root_of_mem hfile hpath
  obtain ⟨root', hroot', hrecursively, -⟩ := removed_eq hcommand
  obtain ⟨rest, hrest, rfl⟩ := hrecursively dir hdir
  have hplainPath := plain_push (owner.plain_parts (plain_root hroot)) hfile
  have hplainDir : ∀ p ∈ root' ++ other.parts ++ rest, Plain p := by
    intro p hp
    rcases List.mem_append.mp hp with hp | hp
    · exact other.plain_parts (plain_root hroot') p hp
    · exact hrest p hp
  rw [isUnder_rooted hplainPath hplainDir]
  -- the same root: the names differ; different roots: the first parts differ
  by_cases heq : root = root'
  · subst heq
    exact not_prefix_push fun h => hne (Owner.parts_injective h)
  · intro hpre
    have hlong := hpre.trans prefix_push
    rw [List.append_assoc, List.append_assoc] at hlong
    rcases hroot with rfl | rfl <;> rcases hroot' with rfl | rfl
    · exact heq rfl
    · exact not_prefix_of_roots.2 hlong
    · exact not_prefix_of_roots.1 hlong
    · exact heq rfl

/-- A path of one component is a directory that is removed for another only if its file name
is the parent directory. -/
theorem eq_dots_of_mem_removedIfEmpty {owner other : Owner} (hne : owner ≠ other)
    {file path : String} {command : Command} (hfile : '/' ∉ file.toList)
    (hpath : path ∈ componentPaths owner.clusterNamespace owner.clusterName owner.componentName
      file)
    (hcommand : command ∈ ControlPlane.cleanupCommands other.clusterNamespace other.clusterName
      other.componentName)
    (hmem : path ∈ command.removedIfEmpty) : file = ".." := by
  obtain ⟨root, hroot, rfl⟩ := exists_root_of_mem hfile hpath
  obtain ⟨root', hroot', -, hempty⟩ := removed_eq hcommand
  obtain ⟨names, hnames, hlen, hthree, heq⟩ := hempty _ hmem
  have hparts : push true (root ++ owner.parts) file = root' ++ names := by
    refine rooted_injective (plain_push (owner.plain_parts (plain_root hroot)) hfile) ?_ heq
    intro p hp
    rcases List.mem_append.mp hp with hp | hp
    · exact plain_root hroot' p hp
    · exact hnames p hp
  by_contra hdots
  unfold push at hparts
  split_ifs at hparts with hskip
  · have hsame : root = root' ∧ owner.parts = names := by
      rcases hroot with rfl | rfl <;> rcases hroot' with rfl | rfl
      · exact ⟨rfl, List.append_cancel_left hparts⟩
      · exact absurd hparts (by simp [secretsRoot, storageRoot])
      · exact absurd hparts (by simp [secretsRoot, storageRoot])
      · exact ⟨rfl, List.append_cancel_left hparts⟩
    have hlen' : names.length = 3 := by
      rw [← hsame.2]
      rfl
    exact hne (Owner.parts_injective (hsame.2.trans (hthree hlen')))
  · have hlong : names.length = 4 ∨ root ≠ root' := by
      by_cases hsame : root = root'
      · rw [hsame, List.append_assoc] at hparts
        left
        rw [← List.append_cancel_left hparts]
        rfl
      · exact .inr hsame
    rcases hlong with hfour | hroots
    · omega
    · rcases hroot with rfl | rfl <;> rcases hroot' with rfl | rfl
      · exact hroots rfl
      · exact absurd hparts (by simp [secretsRoot, storageRoot])
      · exact absurd hparts (by simp [secretsRoot, storageRoot])
      · exact hroots rfl

/-- **The cleanup of one component leaves the others alone.**  A path of a component is not
in a directory that is removed recursively for another one.  A directory around it is kept,
because it is not empty, and so whatever is at the path is there after the cleanup.  The
file name `..` gives a directory of the cluster and not a file of the component. -/
theorem hostCleanup_spares {owner other : Owner} (hne : owner ≠ other) {file path : String}
    {command : Command} (hfile : '/' ∉ file.toList)
    (hpath : path ∈ componentPaths owner.clusterNamespace owner.clusterName owner.componentName
      file)
    (hcommand :
      command ∈ ControlPlane.cleanupCommands other.clusterNamespace other.clusterName
        other.componentName ∨
      command ∈ ControlPlaneIngress.cleanupCommands other.clusterNamespace other.clusterName
        other.componentName) :
    (∀ dir ∈ command.removedRecursively, ¬ IsUnder path dir) ∧
    (∀ dir ∈ command.removedIfEmpty, ∀ fs : FileSystem, ∀ entry,
      (dir, Entry.directory) ∈ fs → (path, entry) ∈ fs → IsUnder path dir → path ≠ dir →
      fs.rmdir dir = .error "Directory not empty") ∧
    (path ∈ command.removedIfEmpty → file = "..") ∧
    ∀ (fs : FileSystem) (entry : Entry), file ≠ ".." → (path, entry) ∈ fs →
      (path, entry) ∈ (command.run fs).2 := by
  have hcommand' : command ∈ ControlPlane.cleanupCommands other.clusterNamespace
      other.clusterName other.componentName :=
    hcommand.elim id (List.mem_cons_of_mem _)
  have hrecursively : ∀ dir ∈ command.removedRecursively, ¬ IsUnder path dir :=
    fun dir hdir => not_isUnder_removedRecursively hne hfile hpath hcommand' hdir
  have hdots : path ∈ command.removedIfEmpty → file = ".." :=
    eq_dots_of_mem_removedIfEmpty hne hfile hpath hcommand'
  refine ⟨hrecursively, ?_, hdots, ?_⟩
  · intro dir _ fs entry hdir hmem hunder hne'
    exact FileSystem.rmdir_of_isUnder hdir hmem hunder hne'
  · intro fs entry hname hmem
    exact Command.mem_run hrecursively (fun h => hname (hdots h)) hmem

/-- Two components of one cluster, one with a name that the other starts with. -/
theorem hostCleanup_spares_longer_name : ∃ owner other : Owner, owner ≠ other ∧
    owner.clusterName = other.clusterName ∧
    ("/etc/oneinfra/clusters/ns/c/cp-1/apiserver.key", Entry.file "key") ∈
      ((secretsCleanup other.clusterNamespace other.clusterName other.componentName).run
        [("/etc/oneinfra/clusters/ns/c/cp-1/apiserver.key", .file "key")]).2 := by
  let owner : Owner := ⟨"ns", "c", "cp-1", by decide +kernel⟩
  let other : Owner := ⟨"ns", "c", "cp", by decide +kernel⟩
  have hne : owner ≠ other := fun h => by
    have hname := congrArg Owner.componentName h
    revert hname
    decide
  have hpath : "/etc/oneinfra/clusters/ns/c/cp-1/apiserver.key" ∈
      componentPaths "ns" "c" "cp-1" "apiserver.key" := by decide +kernel
  refine ⟨owner, other, hne, rfl, ?_⟩
  exact (hostCleanup_spares hne (by decide) hpath (.inr List.mem_cons_self)).2.2.2 _ _ (by decide)
    List.mem_cons_self

end OneInfra.Components
