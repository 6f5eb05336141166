import Mathlib.Data.List.DropRight

/-!
# Documents of a manifest

`SplitDocuments` of `internal/pkg/yaml/documents.go`.  A manifest is cut at the lines that
are three dashes, and documents of blanks are dropped.  Texts are lists of characters.

`splitDocuments_joined` is the inverse: a text in which every document follows a line of
dashes is cut into these documents.
-/

namespace OneInfra.Manifests

/-- A text. -/
abbrev Text := List Char

/-- The line at which documents are split. -/
def splitter : Text := ['-', '-', '-']

/-- `trimmer`. -/
def trimmer : List Char := ['\n', '\t', ' ']

/-- `strings.Trim`. -/
def trim (text cutset : Text) : Text :=
  (text.dropWhile (· ∈ cutset)).rdropWhile (· ∈ cutset)

/-- The pieces of a text between the matches of the splitter, for the lines of the text.
`current` is the piece that is being read. -/
def pieces (current : Text) : List Text → List Text
  | [] => [current]
  | [line] => if line = splitter then [current, []] else [current ++ line]
  | line :: next :: lines =>
    if line = splitter then current :: pieces ['\n'] (next :: lines)
    else pieces (current ++ line ++ ['\n']) (next :: lines)

/-- `SplitDocuments`. -/
def splitDocuments (manifests : Text) : List Text :=
  (pieces [] (manifests.splitOn '\n')).filter fun document => (trim document trimmer).length > 0

/-! ## Documents that were written one after the other -/

theorem trim_eq_nil_iff {text cutset : Text} :
    trim text cutset = [] ↔ ∀ c ∈ text, c ∈ cutset := by
  unfold trim
  rw [List.rdropWhile_eq_nil_iff]
  constructor
  · intro h
    have hnil : text.dropWhile (fun c => decide (c ∈ cutset)) = [] := by
      by_contra hne
      have hfirst := List.head_dropWhile_not _ hne
      rw [h _ (List.head_mem hne)] at hfirst
      cases hfirst
    simpa using List.dropWhile_eq_nil_iff.mp hnil
  · intro h c hc
    have hmem := (List.dropWhile_sublist fun c => decide (c ∈ cutset)).mem hc
    exact decide_eq_true (h c hmem)

section Pieces

variable {current line : Text} {lines rest : List Text}

theorem pieces_cons_of_ne (hline : line ≠ splitter) (hrest : rest ≠ []) :
    pieces current (line :: rest) = pieces (current ++ line ++ ['\n']) rest := by
  cases rest with
  | nil => exact absurd rfl hrest
  | cons next rest => exact if_neg hline

theorem pieces_splitter (hrest : rest ≠ []) :
    pieces current (splitter :: rest) = current :: pieces ['\n'] rest := by
  cases rest with
  | nil => exact absurd rfl hrest
  | cons next rest => exact if_pos rfl

/-- Lines that are not the splitter go to the current piece. -/
theorem pieces_append (hlines : splitter ∉ lines) (hrest : rest ≠ []) :
    pieces current (lines ++ rest) = pieces (current ++ lines.flatMap (· ++ ['\n'])) rest := by
  induction lines generalizing current with
  | nil => simp
  | cons line lines ih =>
    rw [List.mem_cons, not_or] at hlines
    have hne : lines ++ rest ≠ [] := List.append_ne_nil_of_right_ne_nil _ hrest
    rw [List.cons_append, pieces_cons_of_ne (Ne.symm hlines.1) hne, ih hlines.2,
      List.flatMap_cons, List.append_assoc, List.append_assoc, List.append_assoc]

end Pieces

theorem flatMap_splitOn (text : Text) :
    (text.splitOn '\n').flatMap (· ++ ['\n']) = text ++ ['\n'] := by
  have hjoin : ∀ lines : List Text, lines ≠ [] →
      lines.flatMap (· ++ ['\n']) = ['\n'].intercalate lines ++ ['\n'] := by
    intro lines hne
    induction lines with
    | nil => exact absurd rfl hne
    | cons line lines ih =>
      cases lines with
      | nil => simp
      | cons next lines =>
        rw [List.flatMap_cons, ih (List.cons_ne_nil _ _), List.intercalate_cons_cons,
          List.append_assoc, List.append_assoc]
        simp
  rw [hjoin _ (List.splitOn_ne_nil '\n' text), List.intercalate_splitOn]

/-- A text that can be one document of many: it ends with its last line, no line is the
splitter, and it is not blank. -/
structure IsDocument (text : Text) : Prop where
  newline : ∃ body, text = body ++ ['\n']
  noSplitter : splitter ∉ text.splitOn '\n'
  notBlank : ∃ c ∈ text, c ∉ trimmer

/-- The text of documents, each after a splitter. -/
def joined (documents : List Text) : Text :=
  documents.flatMap fun document => splitter ++ '\n' :: document

theorem pieces_joined {documents : List Text} (hdocs : ∀ text ∈ documents, IsDocument text)
    (current : Text) :
    pieces current ((joined documents).splitOn '\n') = current :: documents.map ('\n' :: ·) := by
  induction documents generalizing current with
  | nil =>
    show pieces current [[]] = [current]
    exact congrArg (fun text => [text]) (List.append_nil current)
  | cons document documents ih =>
    rw [List.forall_mem_cons] at hdocs
    obtain ⟨⟨body, rfl⟩, hsplitter, -⟩ := hdocs.1
    have hsplit : (body ++ ['\n']).splitOn '\n' = body.splitOn '\n' ++ [[]] :=
      List.splitOn_append_cons_of_beq body [] (beq_self_eq_true '\n')
    rw [hsplit, List.mem_append, not_or] at hsplitter
    have htext : joined ((body ++ ['\n']) :: documents) =
        splitter ++ '\n' :: (body ++ '\n' :: joined documents) := by
      simp [joined]
    rw [htext, List.splitOn_append_cons_of_beq _ _ (beq_self_eq_true '\n'),
      List.splitOn_append_cons_of_beq _ _ (beq_self_eq_true '\n'),
      List.splitOn_eq_singleton (by decide : '\n' ∉ splitter), List.singleton_append,
      pieces_splitter (List.append_ne_nil_of_right_ne_nil _ (List.splitOn_ne_nil _ _)),
      pieces_append hsplitter.1 (List.splitOn_ne_nil _ _), ih hdocs.2, flatMap_splitOn,
      List.map_cons]
    rfl

/-- What was written is read again. -/
theorem splitDocuments_joined {documents : List Text}
    (hdocs : ∀ text ∈ documents, IsDocument text) :
    splitDocuments (joined documents) = documents.map ('\n' :: ·) := by
  unfold splitDocuments
  rw [pieces_joined hdocs, List.filter_cons_of_neg (by decide), List.filter_eq_self]
  intro text htext
  obtain ⟨document, hdoc, rfl⟩ := List.mem_map.mp htext
  obtain ⟨c, hc, hblank⟩ := (hdocs document hdoc).notBlank
  refine decide_eq_true (List.length_pos_of_ne_nil fun hnil => ?_)
  exact hblank (trim_eq_nil_iff.mp hnil c (List.mem_cons_of_mem _ hc))

end OneInfra.Manifests
