import Mathlib.Data.List.Basic

/-!
# Paths of files

`clean` and `join` are `Clean` and `Join` of the package `path/filepath` on a system
with slashes.  A path is split at its slashes, and the parts are pushed onto a stack.  An
empty part and a dot push nothing, and two dots take the last part away.

`rooted` is the path of a list of parts from the root.  The results are about such paths
with parts that are `Plain`, so that `clean` has nothing to do.  Joining a name to such a
path pushes the name (`join_rooted`), and one path is at or below another if the parts of
the other are the first parts of the one (`isUnder_rooted`).
-/

namespace OneInfra.Lib

/-- There is no separator in a part. -/
theorem notMem_of_mem_splitOn {α : Type*} [BEq α] [LawfulBEq α] {sep : α} {part l : List α}
    (h : part ∈ l.splitOn sep) : sep ∉ part := by
  induction l generalizing part with
  | nil =>
    rw [List.splitOn_eq_singleton List.not_mem_nil] at h
    rw [List.mem_singleton.mp h]
    exact List.not_mem_nil
  | cons a l ih =>
    rw [List.splitOn_cons_eq_if_modifyHead] at h
    split at h
    · rcases List.mem_cons.mp h with rfl | h
      · exact List.not_mem_nil
      · exact ih h
    · next hne =>
      cases hsplit : l.splitOn sep with
      | nil => exact absurd hsplit (List.splitOn_ne_nil sep l)
      | cons first rest =>
        rw [hsplit] at h ih
        rcases List.mem_cons.mp h with rfl | h
        · rw [List.mem_cons, not_or]
          exact ⟨fun heq => hne (beq_iff_eq.mpr heq.symm), ih List.mem_cons_self⟩
        · exact ih (List.mem_cons_of_mem _ h)

namespace FilePath

/-! ## The functions of the package -/

/-- The parts between the slashes. -/
def parts (path : String) : List String :=
  (path.toList.splitOn '/').map String.ofList

/-- The path starts at the root. -/
def isRooted (path : String) : Bool :=
  path.toList.head? = some '/'

/-- The stack of the parts that are left, after one more part. -/
def push (fromRoot : Bool) (stack : List String) (part : String) : List String :=
  if part = "" ∨ part = "." then stack
  else if part = ".." then
    match stack.getLast? with
    | none => if fromRoot then [] else [".."]
    | some last => if last = ".." then stack ++ [".."] else stack.dropLast
  else stack ++ [part]

/-- The path of parts from the root. -/
def rooted (parts : List String) : String :=
  if parts = [] then "/" else String.ofList (parts.flatMap fun part => '/' :: part.toList)

/-- `filepath.Clean`. -/
def clean (path : String) : String :=
  let stack := (parts path).foldl (push (isRooted path)) []
  if isRooted path then rooted stack
  else if stack = [] then "." else String.intercalate "/" stack

/-- `filepath.Join`, which skips empty elements at the start. -/
def join (elems : List String) : String :=
  match elems.dropWhile (· = "") with
  | [] => ""
  | elem :: elems => clean (String.intercalate "/" (elem :: elems))

/-- The path is the directory or lies below it. -/
def IsUnder (path dir : String) : Prop :=
  path = dir ∨ (if dir = "/" then dir else dir ++ "/").toList <+: path.toList

/-! ## Paths from the root -/

/-- A part that `clean` leaves alone. -/
structure Plain (part : String) : Prop where
  ne_empty : part ≠ ""
  ne_dot : part ≠ "."
  ne_dots : part ≠ ".."
  no_slash : '/' ∉ part.toList

instance (part : String) : Decidable (Plain part) :=
  decidable_of_iff (part ≠ "" ∧ part ≠ "." ∧ part ≠ ".." ∧ '/' ∉ part.toList)
    ⟨fun ⟨h₁, h₂, h₃, h₄⟩ => ⟨h₁, h₂, h₃, h₄⟩, fun h => ⟨h.1, h.2, h.3, h.4⟩⟩

theorem push_of_plain {fromRoot : Bool} {stack : List String} {part : String} (h : Plain part) :
    push fromRoot stack part = stack ++ [part] := by
  unfold push
  rw [if_neg (not_or.mpr ⟨h.ne_empty, h.ne_dot⟩), if_neg h.ne_dots]

theorem foldl_push_of_plain {fromRoot : Bool} {stack l : List String} (h : ∀ part ∈ l, Plain part) :
    l.foldl (push fromRoot) stack = stack ++ l := by
  induction l generalizing stack with
  | nil => rw [List.foldl_nil, List.append_nil]
  | cons part l ih =>
    obtain ⟨hpart, hl⟩ := List.forall_mem_cons.mp h
    rw [List.foldl_cons, push_of_plain hpart, ih hl, List.append_assoc, List.singleton_append]

/-- Pushing keeps a stack plain, unless the part has a slash. -/
theorem plain_push {stack : List String} {part : String} (hstack : ∀ p ∈ stack, Plain p)
    (hpart : '/' ∉ part.toList) : ∀ p ∈ push true stack part, Plain p := by
  unfold push
  split
  · exact hstack
  · next hne =>
    split
    · split
      · simp
      · next hlast =>
        rw [if_neg (hstack _ (List.mem_of_getLast? hlast)).ne_dots]
        exact fun p hp => hstack p (List.dropLast_subset _ hp)
    · next hdots =>
      intro p hp
      rcases List.mem_append.mp hp with hp | hp
      · exact hstack p hp
      · rw [List.mem_singleton.mp hp]
        exact ⟨fun h => hne (.inl h), fun h => hne (.inr h), hdots, hpart⟩

/-! ### Splitting -/

theorem splitOn_flatMap {part : List Char} {l : List (List Char)}
    (hpart : '/' ∉ part) (hl : ∀ p ∈ l, '/' ∉ p) :
    (part ++ l.flatMap fun p => '/' :: p).splitOn '/' = part :: l := by
  induction l generalizing part with
  | nil => rw [List.flatMap_nil, List.append_nil, List.splitOn_eq_singleton hpart]
  | cons p l ih =>
    obtain ⟨hp, hl⟩ := List.forall_mem_cons.mp hl
    rw [List.flatMap_cons, List.cons_append,
      List.splitOn_append_cons_of_beq _ _ (beq_self_eq_true _),
      List.splitOn_eq_singleton hpart, ih hp hl, List.singleton_append]

theorem toList_rooted (part : String) (l : List String) :
    (rooted (part :: l)).toList =
      '/' :: (part.toList ++ (l.map String.toList).flatMap fun p => '/' :: p) := by
  rw [rooted, if_neg (List.cons_ne_nil _ _), String.toList_ofList, List.flatMap_cons,
    List.cons_append, List.flatMap_map]

theorem splitOn_rooted {part : String} {l : List String} (h : ∀ p ∈ part :: l, '/' ∉ p.toList) :
    (rooted (part :: l)).toList.splitOn '/' = [] :: (part :: l).map String.toList := by
  obtain ⟨hpart, hl⟩ := List.forall_mem_cons.mp h
  have hl' : ∀ p ∈ l.map String.toList, '/' ∉ p := by
    intro p hp
    obtain ⟨q, hq, rfl⟩ := List.mem_map.mp hp
    exact hl q hq
  rw [toList_rooted, List.splitOn_cons_eq_if_modifyHead, if_pos (beq_self_eq_true _),
    splitOn_flatMap hpart hl', List.map_cons]

/-- The parts of a path from the root, without the empty ones. -/
theorem filter_splitOn_rooted {l : List String} (h : ∀ p ∈ l, Plain p) :
    ((rooted l).toList.splitOn '/').filter (· ≠ []) = l.map String.toList := by
  cases l with
  | nil => rfl
  | cons part l =>
    rw [splitOn_rooted fun p hp => (h p hp).no_slash, List.filter_cons_of_neg (by simp),
      List.filter_eq_self]
    intro p hp
    obtain ⟨q, hq, rfl⟩ := List.mem_map.mp hp
    have hne : q.toList ≠ [] := fun hnil => (h q hq).ne_empty (String.toList_eq_nil_iff.mp hnil)
    simpa using hne

theorem map_toList_injective {l l' : List String} (h : l.map String.toList = l'.map String.toList) :
    l = l' :=
  List.map_injective_iff.mpr (fun _ _ hab => String.toList_inj.mp hab) h

theorem rooted_injective {l l' : List String} (hl : ∀ p ∈ l, Plain p) (hl' : ∀ p ∈ l', Plain p)
    (h : rooted l = rooted l') : l = l' := by
  apply map_toList_injective
  rw [← filter_splitOn_rooted hl, h, filter_splitOn_rooted hl']

/-! ### Joining -/

theorem isRooted_rooted (l : List String) (rest : String) : isRooted (rooted l ++ rest) = true := by
  unfold isRooted
  cases l with
  | nil =>
    rw [String.toList_append]
    rfl
  | cons part l =>
    rw [String.toList_append, toList_rooted, List.cons_append]
    rfl

theorem foldl_push_parts_rooted {l : List String} (h : ∀ p ∈ l, Plain p) :
    (parts (rooted l)).foldl (push true) [] = l := by
  cases l with
  | nil => rfl
  | cons part l =>
    have hparts : parts (rooted (part :: l)) = "" :: part :: l := by
      rw [parts, splitOn_rooted fun p hp => (h p hp).no_slash, List.map_cons, List.map_map]
      congr 1
      exact List.map_id'' (fun p => String.ofList_toList) _
    have hempty : push true [] "" = [] := by rfl
    rw [hparts, List.foldl_cons, hempty, foldl_push_of_plain h, List.nil_append]

/-- Joining a name to a path from the root. -/
theorem join_rooted_eq {l : List String} (hl : ∀ p ∈ l, Plain p) (name : String) :
    join [rooted l, name] = rooted ((parts name).foldl (push true) l) := by
  have hne : rooted l ≠ "" := by
    intro h
    have hrooted := isRooted_rooted l ""
    rw [h] at hrooted
    cases hrooted
  have hparts : parts (rooted l ++ "/" ++ name) = parts (rooted l) ++ parts name := by
    rw [parts, String.toList_append, String.toList_append, List.append_assoc]
    show (((rooted l).toList ++ '/' :: name.toList).splitOn '/').map String.ofList = _
    rw [List.splitOn_append_cons_of_beq _ _ (beq_self_eq_true _), List.map_append, parts, parts]
  have hjoin : join [rooted l, name] = clean (rooted l ++ "/" ++ name) := by
    rw [join, List.dropWhile_cons_of_neg (by simpa using hne)]
    rfl
  have hrooted : isRooted (rooted l ++ "/" ++ name) = true := by
    rw [String.append_assoc]
    exact isRooted_rooted l _
  rw [hjoin, clean, hrooted, if_pos rfl, hparts, List.foldl_append, foldl_push_parts_rooted hl]

/-- Joining a name without slashes to a path from the root. -/
theorem join_rooted {l : List String} {name : String} (hl : ∀ p ∈ l, Plain p)
    (hname : '/' ∉ name.toList) : join [rooted l, name] = rooted (push true l name) := by
  rw [join_rooted_eq hl, parts, List.splitOn_eq_singleton hname, List.map_singleton,
    String.ofList_toList]
  rfl

/-- Whatever is joined to a path from the root, the result is one. -/
theorem exists_join_rooted {l : List String} (hl : ∀ p ∈ l, Plain p) (name : String) :
    ∃ l', (∀ p ∈ l', Plain p) ∧ join [rooted l, name] = rooted l' := by
  refine ⟨_, ?_, join_rooted_eq hl name⟩
  have hparts : ∀ part ∈ parts name, '/' ∉ part.toList := by
    intro part hpart
    obtain ⟨chars, hchars, rfl⟩ := List.mem_map.mp hpart
    rw [String.toList_ofList]
    exact notMem_of_mem_splitOn hchars
  exact List.foldlRecOn (motive := fun l => ∀ p ∈ l, Plain p) (parts name) (push true) hl
    fun l hl part hpart => plain_push hl (hparts part hpart)

theorem join_rooted_of_plain {l : List String} {name : String} (hl : ∀ p ∈ l, Plain p)
    (hname : Plain name) : join [rooted l, name] = rooted (l ++ [name]) := by
  rw [join_rooted hl hname.no_slash, push_of_plain hname]

/-! ### Directories -/

theorem toList_rooted_append (l : List String) {part : String} {l' : List String} (hne : l ≠ []) :
    (rooted (l ++ part :: l')).toList =
      (rooted l ++ "/").toList ++
        (part.toList ++ (l'.map String.toList).flatMap fun p => '/' :: p) := by
  have hne' : l ++ part :: l' ≠ [] := by simp
  rw [rooted, if_neg hne', rooted, if_neg hne, String.toList_append, String.toList_ofList,
    String.toList_ofList, List.flatMap_append, List.flatMap_cons, List.flatMap_map]
  simp

/-- A path is at or below a directory if the parts of the directory are its first
parts. -/
theorem isUnder_rooted {l dir : List String} (hl : ∀ p ∈ l, Plain p) (hdir : ∀ p ∈ dir, Plain p) :
    IsUnder (rooted l) (rooted dir) ↔ dir <+: l := by
  constructor
  · rintro (heq | hpre)
    · obtain rfl := rooted_injective hl hdir heq
      exact List.prefix_refl _
    · by_cases hroot : dir = []
      · rw [hroot]
        exact List.nil_prefix
      have hne : rooted dir ≠ "/" := by
        intro h
        exact hroot (rooted_injective hdir (by simp) h)
      rw [if_neg hne] at hpre
      obtain ⟨rest, hrest⟩ := hpre
      -- the split at the slash after the directory
      have hsplit : (rooted l).toList.splitOn '/' =
          (rooted dir).toList.splitOn '/' ++ rest.splitOn '/' := by
        rw [← hrest, String.toList_append, List.append_assoc]
        exact List.splitOn_append_cons_of_beq _ _ (beq_self_eq_true _)
      have hparts : dir.map String.toList <+: l.map String.toList := by
        rw [← filter_splitOn_rooted hl, ← filter_splitOn_rooted hdir, hsplit, List.filter_append]
        exact List.prefix_append _ _
      obtain ⟨t, ht⟩ := hparts
      refine ⟨t.map String.ofList, map_toList_injective ?_⟩
      rw [List.map_append, List.map_map, ← ht]
      congr 1
      exact List.map_id'' (fun p => String.toList_ofList) _
  · rintro ⟨t, rfl⟩
    cases t with
    | nil =>
      rw [List.append_nil]
      exact .inl rfl
    | cons part t =>
      right
      by_cases hroot : dir = []
      · rw [hroot, List.nil_append, toList_rooted]
        exact ⟨_, rfl⟩
      · have hne : rooted dir ≠ "/" := fun h => hroot (rooted_injective hdir (by simp) h)
        rw [if_neg hne, toList_rooted_append dir hroot]
        exact List.prefix_append _ _

end FilePath

end OneInfra.Lib
