import StyleCatalog.Proofs.Text.Lines
import StyleCatalog.Section.Builder

/-! # Normalized blanks

Where every carriage return belongs to a line end, normalizing a text keeps its lines and changes no
more than the tabs in them. No tab and no carriage return is left in any case.
-/

namespace StyleCatalog

namespace Text

/-! ## Tabs -/

/-- Four spaces for each tab. -/
def expandTabs (t : Text) : Text := t.flatMap fun c => if c = '\t' then "    ".toList else [c]

theorem expandTabs_append (t u : Text) : expandTabs (t ++ u) = expandTabs t ++ expandTabs u :=
  List.flatMap_append

theorem expandTabs_cons_tab (t : Text) : expandTabs ('\t' :: t) = "    ".toList ++ expandTabs t :=
  rfl

theorem expandTabs_cons {c : Char} (noTab : c ≠ '\t') (t : Text) :
    expandTabs (c :: t) = c :: expandTabs t := by
  rw [expandTabs, List.flatMap_cons, if_neg noTab]
  rfl

theorem expandTabs_of_not_mem {t : Text} (noTab : '\t' ∉ t) : expandTabs t = t := by
  induction t with
  | nil => rfl
  | cons c rest induction =>
      rw [List.mem_cons, not_or] at noTab
      rw [expandTabs_cons (Ne.symm noTab.1), induction noTab.2]

theorem expandTabs_ne_nil {t : Text} (some : t ≠ []) : expandTabs t ≠ [] := by
  cases t with
  | nil => exact absurd rfl some
  | cons c rest =>
      by_cases tab : c = '\t'
      · subst tab
        exact List.cons_ne_nil _ _
      · rw [expandTabs_cons tab]
        exact List.cons_ne_nil _ _

theorem mem_expandTabs {c : Char} {t : Text} (noSpace : c ≠ ' ') (noTab : c ≠ '\t') :
    c ∈ expandTabs t ↔ c ∈ t := by
  induction t with
  | nil => rfl
  | cons d rest induction =>
      by_cases tab : d = '\t'
      · subst tab
        simp [expandTabs_cons_tab, induction, noSpace, noTab]
      · simp [expandTabs_cons tab, induction]

theorem space_mem_expandTabs {t : Text} (tab : '\t' ∈ t) : ' ' ∈ expandTabs t :=
  List.mem_flatMap.mpr ⟨'\t', tab, by decide⟩

theorem isBlankLine_expandTabs (t : Text) : (expandTabs t).isBlankLine = t.isBlankLine := by
  induction t with
  | nil => rfl
  | cons c rest induction =>
      by_cases tab : c = '\t'
      · subst tab
        exact induction
      · rw [expandTabs_cons tab, isBlankLine, List.all_cons, isBlankLine, List.all_cons]
        exact congrArg _ induction

theorem trimStart_expandTabs (t : Text) : (expandTabs t).trimStart = expandTabs t.trimStart := by
  induction t with
  | nil => rfl
  | cons c rest induction =>
      by_cases tab : c = '\t'
      · subst tab
        exact induction
      · cases blank : isBlank c with
        | true => rw [expandTabs_cons tab, trimStart_cons_of_blank _ blank, induction,
            trimStart_cons_of_blank _ blank]
        | false => rw [expandTabs_cons tab, trimStart_cons_of_not_blank _ blank,
            trimStart_cons_of_not_blank _ blank, expandTabs_cons tab]

end Text

open Text

/-! ## Line ends -/

theorem normalizeBlanks_return_feed (t : Text) :
    normalizeBlanks ('\r' :: '\n' :: t) = '\n' :: normalizeBlanks t := by
  have first : replaceAll ['\r', '\n'] ['\n'] ('\r' :: '\n' :: t) =
      '\n' :: replaceAll ['\r', '\n'] ['\n'] t := rfl
  rw [normalizeBlanks, first, replaceAll_cons_of_ne _ _ _ (by decide),
    replaceAll_cons_of_ne _ _ _ (by decide), normalizeBlanks]

theorem normalizeBlanks_tab (t : Text) :
    normalizeBlanks ('\t' :: t) = "    ".toList ++ normalizeBlanks t := by
  rw [normalizeBlanks, replaceAll_cons_of_ne _ _ _ (by decide),
    replaceAll_cons_of_ne _ _ _ (by decide), normalizeBlanks]
  rfl

theorem normalizeBlanks_cons {c : Char} (noReturn : c ≠ '\r') (noTab : c ≠ '\t') (t : Text) :
    normalizeBlanks (c :: t) = c :: normalizeBlanks t := by
  rw [normalizeBlanks, replaceAll_cons_of_ne _ _ _ noReturn.symm,
    replaceAll_cons_of_ne _ _ _ noReturn.symm, replaceAll_cons_of_ne _ _ _ noTab.symm,
    normalizeBlanks]

theorem normalizeBlanks_append {t : Text} (noReturn : '\r' ∉ t) (u : Text) :
    normalizeBlanks (t ++ u) = expandTabs t ++ normalizeBlanks u := by
  induction t with
  | nil => rfl
  | cons c rest induction =>
      rw [List.mem_cons, not_or] at noReturn
      by_cases tab : c = '\t'
      · subst tab
        rw [List.cons_append, normalizeBlanks_tab, induction noReturn.2, expandTabs_cons_tab,
          List.append_assoc]
      · rw [List.cons_append, normalizeBlanks_cons (Ne.symm noReturn.1) tab, induction noReturn.2,
          expandTabs_cons tab, List.cons_append]

/-! ## No tabs and no returns -/

theorem normalizeBlanks_eq_expandTabs (t : Text) :
    normalizeBlanks t = expandTabs (replaceAll ['\r'] ['\n'] (replaceAll ['\r', '\n'] ['\n'] t)) :=
  replaceAll_singleton '\t' "    ".toList _

theorem return_not_mem_normalizeBlanks (t : Text) : '\r' ∉ normalizeBlanks t := by
  rw [normalizeBlanks_eq_expandTabs, mem_expandTabs (by decide) (by decide)]
  exact not_mem_replaceAll_singleton (by decide) _

theorem tab_not_mem_normalizeBlanks (t : Text) : '\t' ∉ normalizeBlanks t :=
  not_mem_replaceAll_singleton (by decide) _

theorem normalizeBlanks_of_not_mem {t : Text} (noReturn : '\r' ∉ t) (noTab : '\t' ∉ t) :
    normalizeBlanks t = t := by
  rw [normalizeBlanks, replaceAll_of_not_mem ['\n'] ['\n'] noReturn,
    replaceAll_of_not_mem [] ['\n'] noReturn, replaceAll_of_not_mem [] "    ".toList noTab]

/-! ## Lines -/

theorem lineBody_return_feed (body : Text) : lineBody (body ++ ['\r', '\n']) = body := by
  simp [lineBody]

theorem lines_append_newline {body : Text} (noFeed : '\n' ∉ body) (noReturn : '\r' ∉ body)
    (t : Text) : lines (body ++ '\n' :: t) = body :: lines t := by
  have notLast : body.getLast? ≠ some '\r' := fun last => noReturn (List.mem_of_getLast? last)
  rw [lines, lineRuns_append_newline noFeed, List.map_cons, lineBody_append_newline notLast, lines]

theorem lineBody_of_not_mem {body : Text} (noFeed : '\n' ∉ body) : lineBody body = body := by
  have notLast : ∀ rest, body.reverse ≠ '\n' :: rest := by
    intro rest shape
    exact noFeed (List.mem_reverse.mp (shape ▸ List.mem_cons_self))
  rw [lineBody]
  split
  · rename_i rest shape
    exact absurd shape (notLast _)
  · rename_i rest _ shape
    exact absurd shape (notLast rest)
  · rfl

theorem lineBody_newline_isPrefix (body : Text) : lineBody (body ++ ['\n']) <+: body := by
  by_cases returns : body.getLast? = some '\r'
  · rcases List.getLast?_eq_some_iff.mp returns with ⟨line, rfl⟩
    rw [List.append_assoc]
    exact ⟨['\r'], congrArg (· ++ ['\r']) (lineBody_return_feed line)⟩
  · exact ⟨[], by rw [lineBody_append_newline returns, List.append_nil]⟩

theorem newline_not_mem_lines (t : Text) : ∀ line ∈ t.lines, '\n' ∉ line := by
  rw [lines, List.forall_mem_map]
  have whole := wholeLines_lineRuns t
  generalize lineRuns t = runs at whole
  induction whole with
  | nil => exact List.forall_mem_nil _
  | last some noFeed =>
      rw [List.forall_mem_singleton, lineBody_of_not_mem noFeed]
      exact noFeed
  | cons noFeed whole induction =>
      refine List.forall_mem_cons.mpr ⟨fun member => ?_, induction⟩
      exact noFeed ((lineBody_newline_isPrefix _).subset member)

theorem newline_not_mem_map_trimEnd (t : Text) : ∀ line ∈ t.lines.map trimEnd, '\n' ∉ line := by
  rw [List.forall_mem_map]
  exact fun line member feed =>
    newline_not_mem_lines t line member ((trimEnd_isPrefix line).subset feed)

theorem lines_expandTabs_newline {body : Text} (noFeed : '\n' ∉ body) (noReturn : '\r' ∉ body)
    (t : Text) : lines (expandTabs body ++ '\n' :: t) = expandTabs body :: lines t := by
  rw [← mem_expandTabs (by decide) (by decide)] at noFeed noReturn
  exact lines_append_newline noFeed noReturn t

theorem WholeLines.lines_normalizeBlanks {runs : List Text} (whole : WholeLines runs)
    (clean : ∀ run ∈ runs, '\r' ∉ lineBody run) :
    (normalizeBlanks runs.flatten).lines = runs.map fun run => expandTabs (lineBody run) := by
  induction whole with
  | nil => rfl
  | @last body some noFeed =>
      rw [List.forall_mem_singleton, lineBody_of_not_mem noFeed] at clean
      have expanded := normalizeBlanks_append clean []
      have noFeedLeft : '\n' ∉ expandTabs body := by
        rwa [mem_expandTabs (by decide) (by decide)]
      rw [List.append_nil] at expanded
      rw [List.flatten_singleton, expanded, List.map_singleton, lineBody_of_not_mem noFeed]
      change lines (expandTabs body ++ []) = _
      rw [List.append_nil, lines, lineRuns_of_not_mem (expandTabs_ne_nil some) noFeedLeft,
        List.map_singleton, lineBody_of_not_mem noFeedLeft]
  | @cons body rest noFeed whole induction =>
      rw [List.forall_mem_cons] at clean
      have later := induction clean.2
      by_cases returns : body.getLast? = some '\r'
      · rcases List.getLast?_eq_some_iff.mp returns with ⟨line, rfl⟩
        have written : line ++ ['\r'] ++ ['\n'] = line ++ ['\r', '\n'] := by simp
        rw [written, lineBody_return_feed] at clean
        have lineFree : '\n' ∉ line := fun member => noFeed (List.mem_append_left _ member)
        rw [List.flatten_cons, written, List.append_assoc, normalizeBlanks_append clean.1]
        change lines (expandTabs line ++ normalizeBlanks ('\r' :: '\n' :: rest.flatten)) = _
        rw [normalizeBlanks_return_feed, lines_expandTabs_newline lineFree clean.1, later,
          List.map_cons, lineBody_return_feed]
      · rw [lineBody_append_newline returns] at clean
        rw [List.flatten_cons, List.append_assoc, normalizeBlanks_append clean.1,
          List.singleton_append, normalizeBlanks_cons (by decide) (by decide),
          lines_expandTabs_newline noFeed clean.1, later, List.map_cons,
          lineBody_append_newline returns]

/-- Where all carriage returns belong to line ends, normalizing changes no more than the tabs of a
line. -/
theorem lines_normalizeBlanks {t : Text} (clean : ∀ line ∈ t.lines, '\r' ∉ line) :
    (normalizeBlanks t).lines = t.lines.map expandTabs := by
  rw [lines, List.forall_mem_map] at clean
  have whole := (wholeLines_lineRuns t).lines_normalizeBlanks clean
  rw [flatten_lineRuns] at whole
  rw [whole, lines, List.map_map]
  rfl

end StyleCatalog
