import OneInfra.Lib.FilePath
import OneInfra.Manifests.Documents

/-!
# What splitting a manifest keeps

`OneInfra.Manifests.Documents` cuts a manifest line by line.  The source cuts it at the matches of
the regular expression `(?m)^---$`.  `regexpSplit` looks for the matches character by character, as
`Split` of the package `regexp` does, and `regexpSplit_eq_pieces` says that the two agree.

`IsCut` says that a text is a list of pieces with a line of dashes between each two of them.  Every
text is cut into pieces that have no line of dashes, and the documents are those pieces that are
not blank.  Nothing depends on whether the characters of a text are runes or bytes.
-/

namespace OneInfra.Manifests

/-! ## The regular expression -/

/-- What `^` asks of the text before it. -/
def AtLineStart (before : Text) : Prop := before = [] ∨ ∃ body, before = body ++ ['\n']

/-- What `$` asks of the text after it. -/
def AtLineEnd (after : Text) : Prop := after = [] ∨ ∃ rest, after = '\n' :: rest

/-- The splitter matches at the beginning of this text, if a line starts there. -/
def matchesSplitter : Text → Bool
  | ['-', '-', '-'] => true
  | '-' :: '-' :: '-' :: '\n' :: _ => true
  | _ => false

/-- `splitter.Split` with the text that is left.  `skip` characters of it belong to a match, and
`current` is the piece that is being read. -/
def regexpSplit (lineStart : Bool) (skip : Nat) (current : Text) : Text → List Text
  | [] => [current]
  | c :: rest =>
    match skip with
    | skip + 1 => regexpSplit false skip current rest
    | 0 =>
      if lineStart && matchesSplitter (c :: rest) then current :: regexpSplit false 2 [] rest
      else regexpSplit (c = '\n') 0 (current ++ [c]) rest

section Regexp

variable {line after current : Text}

theorem matchesSplitter_iff {text : Text} :
    matchesSplitter text = true ↔ ∃ after, text = splitter ++ after ∧ AtLineEnd after := by
  unfold matchesSplitter
  split
  next => exact iff_of_true rfl ⟨[], rfl, .inl rfl⟩
  next rest => exact iff_of_true rfl ⟨'\n' :: rest, rfl, .inr ⟨rest, rfl⟩⟩
  next hlast hline =>
    refine iff_of_false Bool.false_ne_true fun ⟨after, heq, hafter⟩ => ?_
    rcases hafter with rfl | ⟨rest, rfl⟩
    · exact hlast heq
    · exact hline rest heq

/-- The first line of a text. -/
theorem takeWhile_line (hline : '\n' ∉ line) (hafter : AtLineEnd after) :
    (line ++ after).takeWhile (· ≠ '\n') = line := by
  have hall : ∀ c ∈ line, decide (c ≠ '\n') = true :=
    fun c hc => decide_eq_true fun heq => hline (heq ▸ hc)
  rw [List.takeWhile_append_of_pos hall]
  rcases hafter with rfl | ⟨rest, rfl⟩
  · exact List.append_nil line
  · simp

/-- At the start of a line the splitter matches if it is that line. -/
theorem matchesSplitter_append (hline : '\n' ∉ line) (hafter : AtLineEnd after) :
    matchesSplitter (line ++ after) = true ↔ line = splitter := by
  rw [matchesSplitter_iff]
  constructor
  · intro ⟨after', heq, hafter'⟩
    have hfirst := takeWhile_line (by decide : '\n' ∉ splitter) hafter'
    rw [← heq, takeWhile_line hline hafter] at hfirst
    exact hfirst
  · intro heq
    exact ⟨after, by rw [heq], hafter⟩

/-- Inside of a line nothing matches. -/
theorem regexpSplit_line (hline : '\n' ∉ line) :
    regexpSplit false 0 current (line ++ after) = regexpSplit false 0 (current ++ line) after := by
  induction line generalizing current with
  | nil => simp
  | cons c line ih =>
    rw [List.mem_cons, not_or] at hline
    have hc : decide (c = '\n') = false := decide_eq_false fun heq => hline.1 heq.symm
    rw [List.cons_append, regexpSplit, hc, if_neg (by simp), ih hline.2, List.append_assoc,
      List.singleton_append]

/-- The splitter ends a piece, and what follows it belongs to the next. -/
theorem regexpSplit_splitter (hafter : AtLineEnd after) :
    regexpSplit true 0 current (splitter ++ after) = current :: regexpSplit false 0 [] after := by
  have hmatch := (matchesSplitter_append (by decide : '\n' ∉ splitter) hafter).mpr rfl
  show regexpSplit true 0 current ('-' :: '-' :: '-' :: after) = _
  rw [regexpSplit, Bool.true_and]
  exact if_pos hmatch

/-- A line that is not the splitter belongs to the piece. -/
theorem regexpSplit_other (hline : '\n' ∉ line) (hafter : AtLineEnd after)
    (hsplitter : line ≠ splitter) :
    regexpSplit true 0 current (line ++ after) =
      regexpSplit (line = []) 0 (current ++ line) after := by
  have hmatch : matchesSplitter (line ++ after) = false :=
    eq_false_of_ne_true fun h => hsplitter ((matchesSplitter_append hline hafter).mp h)
  cases line with
  | nil => simp
  | cons c line =>
    rw [List.mem_cons, not_or] at hline
    have hc : decide (c = '\n') = false := decide_eq_false fun heq => hline.1 heq.symm
    rw [List.cons_append] at hmatch ⊢
    rw [regexpSplit, hmatch, hc, if_neg (by simp), regexpSplit_line hline.2, List.append_assoc,
      List.singleton_append]
    simp

/-- The end of a line starts the next one. -/
theorem regexpSplit_newline (lineStart : Bool) :
    regexpSplit lineStart 0 current ('\n' :: after) =
      regexpSplit true 0 (current ++ ['\n']) after := by
  rw [regexpSplit, if_neg]
  · rfl
  · simp [matchesSplitter]

end Regexp

theorem regexpSplit_intercalate {lines : List Text} (hne : lines ≠ [])
    (hlines : ∀ line ∈ lines, '\n' ∉ line) (current : Text) :
    regexpSplit true 0 current (['\n'].intercalate lines) = pieces current lines := by
  induction lines generalizing current with
  | nil => exact absurd rfl hne
  | cons line lines ih =>
    rw [List.forall_mem_cons] at hlines
    cases lines with
    | nil =>
      have hend : AtLineEnd [] := .inl rfl
      rw [List.intercalate_singleton, ← List.append_nil line]
      by_cases hsplitter : line = splitter
      · rw [hsplitter, regexpSplit_splitter hend]
        rfl
      · rw [regexpSplit_other hlines.1 hend hsplitter, List.append_nil]
        exact (if_neg hsplitter).symm
    | cons next lines =>
      have hrest := ih (List.cons_ne_nil next lines) hlines.2
      rw [List.intercalate_cons_cons, List.append_assoc, List.singleton_append]
      have hend : AtLineEnd ('\n' :: ['\n'].intercalate (next :: lines)) := .inr ⟨_, rfl⟩
      by_cases hsplitter : line = splitter
      · rw [hsplitter, regexpSplit_splitter hend, regexpSplit_newline, List.nil_append, hrest,
          pieces_splitter (List.cons_ne_nil next lines)]
      · rw [regexpSplit_other hlines.1 hend hsplitter, regexpSplit_newline, hrest,
          pieces_cons_of_ne hsplitter (List.cons_ne_nil next lines)]

/-- Splitting at the matches of the regular expression is splitting at the lines. -/
theorem regexpSplit_eq_pieces (current text : Text) :
    regexpSplit true 0 current text = pieces current (text.splitOn '\n') := by
  have hlines := regexpSplit_intercalate (List.splitOn_ne_nil '\n' text)
    (fun _ => Lib.notMem_of_mem_splitOn) current
  rw [List.intercalate_splitOn] at hlines
  exact hlines

theorem splitDocuments_eq_regexpSplit (manifests : Text) :
    splitDocuments manifests = (regexpSplit true 0 [] manifests).filter fun document =>
      (trim document trimmer).length > 0 := by
  rw [regexpSplit_eq_pieces]
  rfl

/-! ## The pieces have no line of dashes -/

/-- Lines that were read, and the rest of the last one. -/
theorem splitOn_lines {lines : List Text} {last : Text} (hlines : ∀ line ∈ lines, '\n' ∉ line)
    (hlast : '\n' ∉ last) :
    (lines.flatMap (· ++ ['\n']) ++ last).splitOn '\n' = lines ++ [last] := by
  induction lines with
  | nil => exact List.splitOn_eq_singleton hlast
  | cons line lines ih =>
    rw [List.forall_mem_cons] at hlines
    rw [List.flatMap_cons, List.append_assoc, List.append_assoc, List.singleton_append,
      List.splitOn_append_cons_of_beq _ _ (beq_self_eq_true '\n'),
      List.splitOn_eq_singleton hlines.1, ih hlines.2]
    rfl

theorem splitter_notMem_splitOn_lines {lines : List Text} {last : Text}
    (hlines : ∀ line ∈ lines, '\n' ∉ line) (hsplitter : splitter ∉ lines) (hlast : '\n' ∉ last)
    (hne : last ≠ splitter) :
    splitter ∉ (lines.flatMap (· ++ ['\n']) ++ last).splitOn '\n' := by
  rw [splitOn_lines hlines hlast, List.mem_append, List.mem_singleton, not_or]
  exact ⟨hsplitter, hne.symm⟩

theorem splitter_notMem_splitOn_flatMap {lines : List Text}
    (hlines : ∀ line ∈ lines, '\n' ∉ line) (hsplitter : splitter ∉ lines) :
    splitter ∉ (lines.flatMap (· ++ ['\n'])).splitOn '\n' := by
  have hcut := splitter_notMem_splitOn_lines hlines hsplitter List.not_mem_nil
    (by decide : ([] : Text) ≠ splitter)
  rwa [List.append_nil] at hcut

/-- The lines that were read are those of a piece, and the splitter is not among them. -/
theorem splitter_notMem_of_mem_pieces {read lines : List Text}
    (hread : ∀ line ∈ read, '\n' ∉ line) (hsplitter : splitter ∉ read)
    (hlines : ∀ line ∈ lines, '\n' ∉ line) {piece : Text}
    (h : piece ∈ pieces (read.flatMap (· ++ ['\n'])) lines) :
    splitter ∉ piece.splitOn '\n' := by
  induction lines generalizing read with
  | nil =>
    rw [List.mem_singleton.mp h]
    exact splitter_notMem_splitOn_flatMap hread hsplitter
  | cons line lines ih =>
    rw [List.forall_mem_cons] at hlines
    by_cases hline : line = splitter
    · have hnext : piece = read.flatMap (· ++ ['\n']) ∨ piece = [] ∨
          piece ∈ pieces ([[]].flatMap (· ++ ['\n'])) lines := by
        cases lines with
        | nil =>
          rw [pieces, if_pos hline, List.mem_cons, List.mem_singleton] at h
          exact h.imp_right .inl
        | cons next lines =>
          rw [hline, pieces_splitter (List.cons_ne_nil next lines), List.mem_cons] at h
          exact h.imp_right .inr
      rcases hnext with rfl | rfl | hnext
      · exact splitter_notMem_splitOn_flatMap hread hsplitter
      · decide
      · -- The next piece starts with the end of the line of dashes.
        exact ih (by simp) (by decide) hlines.2 hnext
    · cases lines with
      | nil =>
        rw [pieces, if_neg hline, List.mem_singleton] at h
        rw [h]
        exact splitter_notMem_splitOn_lines hread hsplitter hlines.1 hline
      | cons next lines =>
        have hcur : read.flatMap (· ++ ['\n']) ++ line ++ ['\n'] =
            (read ++ [line]).flatMap (· ++ ['\n']) := by
          simp
        rw [pieces_cons_of_ne hline (List.cons_ne_nil next lines), hcur] at h
        refine ih ?_ ?_ hlines.2 h
        · intro other hother
          rcases List.mem_append.mp hother with hother | hother
          · exact hread other hother
          · rw [List.mem_singleton.mp hother]
            exact hlines.1
        · rw [List.mem_append, List.mem_singleton, not_or]
          exact ⟨hsplitter, fun heq => hline heq.symm⟩

/-! ## The pieces make up the text -/

/-- The text is the pieces with a line of dashes between each two of them. -/
structure IsCut (all : List Text) (manifests : Text) : Prop where
  joins : splitter.intercalate all = manifests
  lines : ∀ before after, before ≠ [] → after ≠ [] → all = before ++ after →
    AtLineStart (splitter.intercalate before) ∧ AtLineEnd (splitter.intercalate after)

theorem AtLineStart.append {left right : Text} (h : AtLineStart right) (hne : right ≠ []) :
    AtLineStart (left ++ right) := by
  rcases h with rfl | ⟨body, rfl⟩
  · exact absurd rfl hne
  · exact .inr ⟨left ++ body, (List.append_assoc _ _ _).symm⟩

/-- The first piece starts with what was read of it. -/
theorem exists_pieces (current : Text) (lines : List Text) :
    ∃ first rest, pieces current lines = (current ++ first) :: rest := by
  induction lines generalizing current with
  | nil => exact ⟨[], [], by rw [pieces, List.append_nil]⟩
  | cons line lines ih =>
    cases lines with
    | nil =>
      rw [pieces]
      split_ifs
      · exact ⟨[], [[]], by rw [List.append_nil]⟩
      · exact ⟨line, [], rfl⟩
    | cons next lines =>
      rw [pieces]
      split_ifs
      · exact ⟨[], _, by rw [List.append_nil]⟩
      · obtain ⟨first, rest, heq⟩ := ih (current ++ line ++ ['\n'])
        exact ⟨line ++ ['\n'] ++ first, rest, by rw [heq]; simp⟩

theorem intercalate_pieces {lines : List Text} (hne : lines ≠ []) (current : Text) :
    splitter.intercalate (pieces current lines) = current ++ ['\n'].intercalate lines := by
  induction lines generalizing current with
  | nil => exact absurd rfl hne
  | cons line lines ih =>
    cases lines with
    | nil =>
      rw [pieces, List.intercalate_singleton]
      split_ifs with hline
      · rw [hline]
        rfl
      · exact List.intercalate_singleton
    | cons next lines =>
      have hrest := ih (List.cons_ne_nil next lines)
      rw [List.intercalate_cons_cons]
      by_cases hline : line = splitter
      · obtain ⟨first, rest, heq⟩ := exists_pieces ['\n'] (next :: lines)
        rw [hline, pieces_splitter (List.cons_ne_nil next lines), heq, List.intercalate_cons_cons,
          ← heq, hrest, List.append_assoc, List.append_assoc]
      · rw [pieces_cons_of_ne hline (List.cons_ne_nil next lines), hrest, List.append_assoc,
          List.append_assoc, List.append_assoc]

theorem singleton_ne_append {before after : List Text} (hbef : before ≠ [])
    (hafter : after ≠ []) (piece : Text) : [piece] ≠ before ++ after := by
  intro heq
  have hlen := congrArg List.length heq
  have hleft := List.length_pos_of_ne_nil hbef
  have hright := List.length_pos_of_ne_nil hafter
  rw [List.length_append, List.length_singleton] at hlen
  omega

/-- A text that starts with a newline is not empty. -/
theorem intercalate_ne_nil {lines before after : List Text} (hbef : before ≠ [])
    (heq : pieces ['\n'] lines = before ++ after) : splitter.intercalate before ≠ [] := by
  obtain ⟨first, rest, hpieces⟩ := exists_pieces ['\n'] lines
  rw [hpieces] at heq
  cases before with
  | nil => exact absurd rfl hbef
  | cons piece before =>
    have hpiece : ['\n'] ++ first = piece := (List.cons.inj heq).1
    rw [← hpiece]
    cases before with
    | nil => simp
    | cons next before => simp [List.intercalate_cons_cons]

/-- What is left out between two pieces is a line. -/
theorem lines_pieces {lines : List Text} {current : Text} (hcur : AtLineStart current)
    {before after : List Text} (hbef : before ≠ []) (hafter : after ≠ [])
    (heq : pieces current lines = before ++ after) :
    AtLineStart (splitter.intercalate before) ∧ AtLineEnd (splitter.intercalate after) := by
  induction lines generalizing current before with
  | nil => exact absurd heq (singleton_ne_append hbef hafter current)
  | cons line lines ih =>
    by_cases hline : line = splitter
    · have htail : ∃ tail, pieces current (line :: lines) = current :: tail ∧
          (tail = [[]] ∨ lines ≠ [] ∧ tail = pieces ['\n'] lines) := by
        rw [hline]
        cases lines with
        | nil => exact ⟨[[]], rfl, .inl rfl⟩
        | cons next lines =>
          have hne := List.cons_ne_nil next lines
          exact ⟨_, pieces_splitter hne, .inr ⟨hne, rfl⟩⟩
      obtain ⟨tail, hpieces, htail⟩ := htail
      rw [hpieces] at heq
      cases before with
      | nil => exact absurd rfl hbef
      | cons piece before =>
        obtain ⟨rfl, rfl⟩ := List.cons.inj heq
        cases before with
        | nil =>
          refine ⟨by rwa [List.intercalate_singleton], ?_⟩
          change after = [[]] ∨ lines ≠ [] ∧ after = pieces ['\n'] lines at htail
          rcases htail with htail | ⟨hne, htail⟩
          · rw [htail, List.intercalate_singleton]
            exact .inl rfl
          · rw [htail, intercalate_pieces hne]
            exact .inr ⟨_, rfl⟩
        | cons next before =>
          have hne := List.cons_ne_nil next before
          rcases htail with htail | ⟨-, htail⟩
          · exact absurd htail.symm (singleton_ne_append hne hafter [])
          · obtain ⟨hstart, hend⟩ := ih (.inr ⟨[], rfl⟩) hne htail.symm
            refine ⟨?_, hend⟩
            rw [List.intercalate_cons_cons, List.append_assoc]
            exact (hstart.append (intercalate_ne_nil hne htail.symm)).append
              (List.append_ne_nil_of_right_ne_nil _ (intercalate_ne_nil hne htail.symm))
    · cases lines with
      | nil =>
        rw [pieces, if_neg hline] at heq
        exact absurd heq (singleton_ne_append hbef hafter _)
      | cons next lines =>
        rw [pieces_cons_of_ne hline (List.cons_ne_nil next lines)] at heq
        exact ih (.inr ⟨_, rfl⟩) hbef heq

theorem isCut_pieces (manifests : Text) : IsCut (pieces [] (manifests.splitOn '\n')) manifests where
  joins := by
    rw [intercalate_pieces (List.splitOn_ne_nil _ _), List.nil_append, List.intercalate_splitOn]
  lines := fun _ _ hbef hafter heq => lines_pieces (.inl rfl) hbef hafter heq

/-! ## The documents -/

/-- A text of newlines, tabs and spaces. -/
def IsBlank (text : Text) : Prop := ∀ c ∈ text, c ∈ trimmer

instance (text : Text) : Decidable (IsBlank text) :=
  List.decidableBAll (· ∈ trimmer) text

/-- The documents are the pieces that are not blank. -/
theorem splitDocuments_eq_filter (manifests : Text) :
    splitDocuments manifests =
      (pieces [] (manifests.splitOn '\n')).filter fun piece => ¬ IsBlank piece := by
  unfold splitDocuments
  apply List.filter_congr
  intro piece _
  have hblank : (trim piece trimmer).length > 0 ↔ ¬ IsBlank piece := by
    unfold IsBlank
    rw [← trim_eq_nil_iff, gt_iff_lt, List.length_pos_iff]
  exact decide_eq_decide.mpr hblank

/-- What splitting gives: what was joined is found again, no document has a line of dashes or is
blank, and only lines of dashes and blank pieces are left out. -/
theorem splitDocuments_splits :
    (∀ documents : List Text, (∀ document ∈ documents, ¬ IsBlank document ∧
        (∃ body, document = body ++ ['\n']) ∧ splitter ∉ document.splitOn '\n') →
      splitDocuments (joined documents) = documents.map ('\n' :: ·)) ∧
    ∀ manifests : Text,
      (∀ document ∈ splitDocuments manifests,
        splitter ∉ document.splitOn '\n' ∧ ¬ IsBlank document) ∧
      ∃ all, IsCut all manifests ∧
        splitDocuments manifests = all.filter fun piece => ¬ IsBlank piece := by
  refine ⟨?_, fun manifests => ⟨?_, ?_⟩⟩
  · intro documents hdocs
    apply splitDocuments_joined
    intro document hdoc
    obtain ⟨hblank, hnewline, hsplitter⟩ := hdocs document hdoc
    refine ⟨hnewline, hsplitter, ?_⟩
    simpa only [IsBlank, not_forall, exists_prop] using hblank
  · intro document hdoc
    rw [splitDocuments_eq_filter, List.mem_filter, decide_eq_true_iff] at hdoc
    have hread : ∀ line ∈ ([] : List Text), '\n' ∉ line := by simp
    refine ⟨?_, hdoc.2⟩
    exact splitter_notMem_of_mem_pieces hread List.not_mem_nil
      (fun _ => Lib.notMem_of_mem_splitOn) hdoc.1
  · exact ⟨_, isCut_pieces manifests, splitDocuments_eq_filter manifests⟩

/-- Two documents of one line. -/
theorem splitDocuments_splits_two :
    splitDocuments (joined [['a', '\n'], ['b', '\n']]) =
      [['\n', 'a', '\n'], ['\n', 'b', '\n']] := by
  apply splitDocuments_splits.1
  intro document hdoc
  rcases List.mem_pair.mp hdoc with rfl | rfl
  · exact ⟨by decide, ⟨['a'], rfl⟩, by decide⟩
  · exact ⟨by decide, ⟨['b'], rfl⟩, by decide⟩

end OneInfra.Manifests
