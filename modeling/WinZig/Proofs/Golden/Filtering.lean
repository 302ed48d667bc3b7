import WinZig.Golden.Normal
import WinZig.Proofs.Texts

/-!
# Outputs without some lines

Lines to be ignored are taken out of whole outputs when runs are compared, and out of single lines when
reports are compared. The two come to the same. An output is split into lines, some of them are taken
out, and the others are put together again; splitting what was put together gives the lines that were
kept. The exception is an output of which nothing is kept: it is empty, and an empty text has one line,
the empty one. That line reports nothing, and with or without it the text is empty.
-/

namespace WinZig.Golden

variable {ignored : List String} {output line : String} {rows : List String}

/-! ## Lines put together -/

/-- Lines have no line end in them. -/
theorem newline_notMem_of_mem_lines (member : line ∈ lines output) : '\n' ∉ line.toList := by
  obtain ⟨piece, split, rfl⟩ := List.mem_map.mp member
  rw [String.toList_ofList]
  exact Text.notMem_of_mem_splitOn split

/-- Lines that are put together are split again. Where there are none, one empty line appears. -/
theorem lines_intercalate (flat : ∀ row ∈ rows, '\n' ∉ row.toList) :
    lines (String.intercalate "\n" rows) = if rows = [] then [""] else rows := by
  split
  · next none =>
    rw [none]
    rfl
  · next some =>
    have split : (['\n'].intercalate (rows.map String.toList)).splitOn '\n' = rows.map String.toList :=
      List.splitOn_intercalate '\n' (List.forall_mem_map.mpr flat) (mt List.map_eq_nil_iff.mp some)
    rw [lines, String.toList_intercalate]
    refine (congrArg _ split).trans ?_
    rw [List.map_map, Function.comp_def]
    simp

/-- A text without a line end is a single line. -/
theorem lines_of_flat (flat : '\n' ∉ line.toList) : lines line = [line] := by
  simpa using lines_intercalate (List.forall_mem_singleton.mpr flat)

/-! ## The lines that are kept -/

/-- The lines of an output that are not to be ignored. -/
def keptLines (ignored : List String) (output : String) : List String :=
  (lines output).filter fun line => !isIgnored ignored line

/-- A line is ignored by two lists exactly when one of them ignores it. -/
theorem isIgnored_append (ignored further : List String) (line : String) :
    isIgnored (ignored ++ further) line = (isIgnored ignored line || isIgnored further line) :=
  List.any_append

/-- Lines that two lists leave are those that the second leaves of what the first left. -/
theorem keptLines_append (ignored further : List String) (output : String) :
    keptLines (ignored ++ further) output =
      (keptLines ignored output).filter fun line => !isIgnored further line := by
  simp only [keptLines, List.filter_filter, isIgnored_append, Bool.not_or, Bool.and_comm]

/-- What is left of an output has the lines that are kept. -/
theorem lines_withoutIgnored (ignored : List String) (output : String) :
    lines (withoutIgnored ignored output) =
      if keptLines ignored output = [] then [""] else keptLines ignored output :=
  lines_intercalate fun _ member => newline_notMem_of_mem_lines (List.mem_of_mem_filter member)

/-- Without anything to ignore an output stays as it is. -/
theorem withoutIgnored_nil (output : String) : withoutIgnored [] output = output := by
  have all : (lines output).filter (fun line => !isIgnored [] line) = lines output :=
    List.filter_eq_self.mpr fun line _ => rfl
  apply String.toList_injective
  rw [withoutIgnored, all, String.toList_intercalate, lines, List.map_map]
  simp [Function.comp_def]

/-- Taking out lines twice is taking out both kinds of lines at once. -/
theorem withoutIgnored_withoutIgnored (ignored further : List String) (output : String) :
    withoutIgnored further (withoutIgnored ignored output) =
      withoutIgnored (ignored ++ further) output := by
  have both : withoutIgnored (ignored ++ further) output = String.intercalate "\n"
      ((keptLines ignored output).filter fun line => !isIgnored further line) := by
    rw [← keptLines_append]
    rfl
  rw [both, withoutIgnored, lines_withoutIgnored]
  split
  · next none =>
    -- Whether or not the empty line is taken out, the text is empty.
    rw [none]
    cases found : isIgnored further "" <;> simp [found]
  · rfl

/-- Which lines are taken out depends on which texts are listed. -/
theorem withoutIgnored_congr {listed : List String} (same : ∀ text, text ∈ listed ↔ text ∈ ignored)
    (output : String) : withoutIgnored listed output = withoutIgnored ignored output := by
  have each (line : String) : isIgnored listed line = isIgnored ignored line := by
    rw [Bool.eq_iff_iff, isIgnored, isIgnored, List.any_eq_true, List.any_eq_true]
    exact exists_congr fun text => and_congr_left fun _ => same text
  simp only [withoutIgnored, each]

/-! ## Reports that are kept -/

/-- The reports of what is left are the reports that are kept. -/
theorem reports_withoutIgnored (ignored : List String) (output : String) :
    reports (withoutIgnored ignored output) =
      (reports output).filter fun line => !isIgnored ignored line := by
  rw [reports, reports, List.filter_comm, lines_withoutIgnored]
  split
  · next none =>
    rw [keptLines] at none
    rw [none]
    rfl
  · rfl

/-- A single line is left as it is or taken out as a whole. -/
theorem withoutIgnored_of_flat (ignored : List String) (flat : '\n' ∉ line.toList) :
    withoutIgnored ignored line = if isIgnored ignored line then "" else line := by
  rw [withoutIgnored, lines_of_flat flat]
  cases found : isIgnored ignored line <;> simp [found]

/-- A single line is either ignored or normalized as if nothing were. -/
theorem normalize_of_flat (source : String) (ignored : List String) (flat : '\n' ∉ line.toList) :
    normalize source ignored line =
      if isIgnored ignored line then "" else normalize source [] line := by
  have empty (part : String) : substitute part placeholder "" = "" := by
    rw [substitute, String.toList_empty, Text.replaceAll_nil, String.ofList_nil]
  simp only [normalize, withoutIgnored_of_flat ignored flat, withoutIgnored_nil]
  cases isIgnored ignored line with
  | true => simp only [if_true, empty, ite_self]
  | false => rfl

/-- Single lines are made comparable after some of them have been taken out. -/
theorem normalizeLines_of_flat (source : String) (ignored : List String)
    (flat : ∀ row ∈ rows, '\n' ∉ row.toList) :
    normalizeLines source ignored rows =
      normalizeLines source [] (rows.filter fun row => !isIgnored ignored row) := by
  induction rows with
  | nil => rfl
  | cons row rows inductionHypothesis =>
    obtain ⟨first, others⟩ := List.forall_mem_cons.mp flat
    have rest := inductionHypothesis others
    rw [normalizeLines, normalizeLines] at rest ⊢
    rw [List.map_cons, List.filter_cons, rest, normalize_of_flat source ignored first]
    cases found : isIgnored ignored row <;> simp [found, List.filter_cons]

/-- Normalizing the reports of an output with lines to ignore is ignoring them first. -/
theorem normalizeLines_reports (source : String) (ignored : List String) (output : String) :
    normalizeLines source ignored (reports output) =
      normalizeLines source [] (reports (withoutIgnored ignored output)) := by
  rw [reports_withoutIgnored]
  exact normalizeLines_of_flat source ignored fun _ member =>
    newline_notMem_of_mem_lines (List.mem_of_mem_filter member)

/-- Without a source, lines are made comparable by taking out those to be ignored. -/
theorem normalizeLines_sourceless (ignored rows : List String) :
    normalizeLines "" ignored rows = (rows.map (withoutIgnored ignored)).filter (· != "") := by
  have each : normalize "" ignored = withoutIgnored ignored := by
    funext output
    rw [normalize]
    exact if_pos rfl
  rw [normalizeLines, each]

/-- No report is empty. -/
theorem filter_reports_nonempty (output : String) :
    (reports output).filter (· != "") = reports output := by
  refine List.filter_eq_self.mpr fun line member => bne_iff_ne.mpr ?_
  rintro rfl
  exact absurd (List.mem_filter.mp member).2 (by decide)

/-- Taking lines out of outputs is coherent. To take out lines by some texts and then by others is to
take them out by all these texts, so doing it again changes nothing, and neither the order of the two
nor the order of the texts matters. And the reports of what is left of an output are what is left of
its reports, if lines are taken out of each report by itself and those of which nothing is left are
dropped. The same holds if the lines are made comparable besides, whatever their source is.

Proof: what is left has the lines that are kept, unless there are none. -/
theorem filtering_coherent (ignored further : List String) (output : String) :
    withoutIgnored further (withoutIgnored ignored output) =
        withoutIgnored (ignored ++ further) output ∧
      withoutIgnored ignored (withoutIgnored ignored output) = withoutIgnored ignored output ∧
      withoutIgnored ignored (withoutIgnored further output) =
        withoutIgnored further (withoutIgnored ignored output) ∧
      (∀ listed, (∀ text, text ∈ listed ↔ text ∈ ignored) →
        withoutIgnored listed output = withoutIgnored ignored output) ∧
      reports (withoutIgnored ignored output) =
        ((reports output).map (withoutIgnored ignored)).filter (· != "") ∧
      ∀ source, normalizeLines source ignored (reports output) =
        normalizeLines source [] (reports (withoutIgnored ignored output)) := by
  refine ⟨withoutIgnored_withoutIgnored .., ?_, ?_, fun _ same => withoutIgnored_congr same output,
    ?_, ?_⟩
  · rw [withoutIgnored_withoutIgnored]
    exact withoutIgnored_congr (by simp) output
  · rw [withoutIgnored_withoutIgnored, withoutIgnored_withoutIgnored]
    exact withoutIgnored_congr (by simp [or_comm]) output
  · have unchanged : withoutIgnored [] = id := funext withoutIgnored_nil
    calc reports (withoutIgnored ignored output)
        = normalizeLines "" [] (reports (withoutIgnored ignored output)) := by
          rw [normalizeLines_sourceless, unchanged, List.map_id, filter_reports_nonempty]
      _ = ((reports output).map (withoutIgnored ignored)).filter (· != "") := by
          rw [← normalizeLines_reports, normalizeLines_sourceless]
  · exact fun source => normalizeLines_reports source ignored output

end WinZig.Golden
