import WinZig.Golden.Report
import WinZig.Golden.Suite
import WinZig.Proofs.Texts

/-!
# What becomes of a file

Files are planned one after another, and a plan depends on the files before it through the digests
seen so far. What a file is to expect can be said without them: it is skipped if it is to be
skipped, it is an error if it cannot be read, it is skipped as a duplicate of the first file with
its content, and it is tested if it is the first one. Files that are skipped or unreadable do not
count as earlier files.

The verdicts on all files are listed by file. Files are distinct, so their order is the only one
there is, and a list of verdicts is determined by what it holds.
-/

namespace WinZig.Golden

/-! ## Plans -/

namespace Plan

/-- The file that is tested, if one is. -/
def file? : Plan → Option String
  | test file _ => some file
  | decided _ => none

/-- The verdict in which a plan ends. -/
def verdict (judge : String → Verdict) : Plan → Verdict
  | test file _ => judge file
  | decided verdict => verdict

end Plan

/-- The files that are tested are those of the plans. -/
theorem tested_eq_filterMap (sieve : Sieve) (files : List String) :
    tested sieve files = (sieve.plans [] files).filterMap Plan.file? := by
  rw [tested]
  exact List.filterMap_congr fun plan _ => by cases plan <;> rfl

/-- The verdicts are those of the plans, in order. -/
theorem verdicts_eq_map (sieve : Sieve) (test : String → Verdict) (files : List String) :
    verdicts sieve test files = inOrder ((sieve.plans [] files).map (Plan.verdict test)) := by
  rw [verdicts]
  exact congrArg inOrder (List.map_congr_left fun plan _ => by cases plan <;> rfl)

namespace Sieve

variable (sieve : Sieve) {test : String → Verdict} {before files : List String} {file : String}

/-- The files to be tested among some files, by their digests. -/
def seen (files : List String) : List (String × String) := (sieve.plans [] files).foldl remember []

/-- Later files are planned with the digests of earlier ones. -/
theorem plans_append (known : List (String × String)) (front back : List String) :
    sieve.plans known (front ++ back)
      = sieve.plans known front
          ++ sieve.plans ((sieve.plans known front).foldl remember known) back := by
  induction front generalizing known with
  | nil => rfl
  | cons file front inductionHypothesis =>
    simp only [List.cons_append, plans, inductionHypothesis, List.foldl_cons]

/-- The plan of a file is made with the digests seen before it. -/
theorem plans_split (before : List String) (file : String) (after : List String) :
    sieve.plans [] (before ++ file :: after)
      = sieve.plans [] before ++ sieve.plan (sieve.seen before) file
          :: sieve.plans (sieve.seen (before ++ [file])) after := by
  simp only [plans_append, plans, seen, List.foldl_append, List.foldl_cons, List.foldl_nil]

/-- One more file has one more plan. -/
theorem plans_concat (before : List String) (file : String) :
    sieve.plans [] (before ++ [file])
      = sieve.plans [] before ++ [sieve.plan (sieve.seen before) file] :=
  sieve.plans_split before file []

/-- One more file has one more verdict. -/
theorem map_verdict_concat (before : List String) (file : String) :
    (sieve.plans [] (before ++ [file])).map (Plan.verdict test)
      = (sieve.plans [] before).map (Plan.verdict test)
          ++ [(sieve.plan (sieve.seen before) file).verdict test] := by
  rw [plans_concat, List.map_append, List.map_singleton]

/-- One more file is remembered if it is to be tested. -/
theorem seen_concat (before : List String) (file : String) :
    sieve.seen (before ++ [file])
      = remember (sieve.seen before) (sieve.plan (sieve.seen before) file) := by
  rw [seen, plans_concat, List.foldl_append]
  rfl

/-- There is a plan for each file. -/
theorem length_plans (known : List (String × String)) (files : List String) :
    (sieve.plans known files).length = files.length := by
  induction files generalizing known with
  | nil => rfl
  | cons file files inductionHypothesis =>
    rw [plans, List.length_cons, List.length_cons, inductionHypothesis]

/-! ## Contents -/

/-- The digest of a file that is neither skipped nor unreadable. -/
def content? (file : String) : Option String :=
  if sieve.skipped file then none else (sieve.digest file).toOption

/-- A file has a content to compare exactly when it is not skipped and can be read. -/
theorem content?_eq_some {digest : String} :
    sieve.content? file = some digest
      ↔ sieve.skipped file = false ∧ sieve.digest file = .ok digest := by
  rw [content?]
  cases sieve.skipped file <;> cases sieve.digest file <;> simp [Except.toOption]

/-- The first of some files with a content. -/
def firstWith (files : List String) (digest : String) : Option String :=
  files.find? fun file => sieve.content? file == some digest

/-- What is planned for a file, by its content. -/
theorem plan_of_content {known : List (String × String)} {digest : String}
    (content : sieve.content? file = some digest) :
    sieve.plan known file = match known.lookup digest with
      | some earlier =>
        .decided { file, status := .skip, message := s!"Content is identical to {earlier}" }
      | none => .test file digest := by
  obtain ⟨kept, readable⟩ := sieve.content?_eq_some.mp content
  rw [plan, kept, readable]
  rfl

/-- A plan is about the file it is for, and it tests the file only for its content. -/
theorem plan_cases (known : List (String × String)) (file : String) :
    (∃ verdict, sieve.plan known file = .decided verdict ∧ verdict.file = file) ∨
      ∃ digest, sieve.content? file = some digest ∧ sieve.plan known file = .test file digest := by
  cases skip : sieve.skipped file with
  | true =>
    left
    exact ⟨_, by rw [plan, if_pos skip], rfl⟩
  | false =>
    cases readable : sieve.digest file with
    | error error =>
      left
      exact ⟨_, by rw [plan, skip, readable]; rfl, rfl⟩
    | ok digest =>
      have content := sieve.content?_eq_some.mpr ⟨skip, readable⟩
      rw [sieve.plan_of_content content]
      cases known.lookup digest with
      | some earlier => exact .inl ⟨_, rfl, rfl⟩
      | none => exact .inr ⟨digest, content, rfl⟩

/-- A file without content is decided without a test. -/
theorem plan_of_no_content (known : List (String × String))
    (blank : sieve.content? file = none) : ∃ verdict, sieve.plan known file = .decided verdict := by
  rcases sieve.plan_cases known file with ⟨verdict, decided, _⟩ | ⟨digest, content, _⟩
  · exact ⟨verdict, decided⟩
  · rw [blank] at content
    contradiction

/-- What has been seen of a content is the first file with it. -/
theorem lookup_seen (files : List String) (digest : String) :
    (sieve.seen files).lookup digest = sieve.firstWith files digest := by
  induction files using List.reverseRecOn generalizing digest with
  | nil => rfl
  | append_singleton files file inductionHypothesis =>
    rw [seen_concat, firstWith, List.find?_append, ← firstWith]
    cases content : sieve.content? file with
    | none =>
      obtain ⟨verdict, planned⟩ := sieve.plan_of_no_content (sieve.seen files) content
      simp [planned, remember, inductionHypothesis, content]
    | some own =>
      rw [sieve.plan_of_content content, inductionHypothesis own]
      by_cases same : own = digest
      · subst same
        cases found : sieve.firstWith files own with
        | none => simp [remember, content]
        | some earlier => simp [remember, inductionHypothesis, found]
      · cases found : sieve.firstWith files own with
        | none => simp [remember, content, same, List.lookup, inductionHypothesis,
            beq_false_of_ne (Ne.symm same)]
        | some earlier => simp [remember, inductionHypothesis, content, same]

/-! ## Rulings -/

/-- A file is new after some others: it is neither skipped nor unreadable, and no other file that is
neither has its content. -/
def IsNew (before : List String) (file : String) : Prop :=
  ∃ digest, sieve.content? file = some digest ∧
    ∀ earlier ∈ before, sieve.content? earlier ≠ some digest

/-- The verdict on a file after some others. -/
inductive Ruling (test : String → Verdict) (before : List String) (file : String) : Verdict → Prop
  | skipped (skip : sieve.skipped file = true) :
      Ruling test before file { file, status := .skip, message := "Explicitly skipped" }
  | unreadable (error : FileError) (kept : sieve.skipped file = false)
      (failed : sieve.digest file = .error error) :
      Ruling test before file
        { file, status := .error
          message := s!"Failed to read file for hashing: {error.message}" }
  | duplicate (digest first : String) (content : sieve.content? file = some digest)
      (found : sieve.firstWith before digest = some first) :
      Ruling test before file
        { file, status := .skip, message := s!"Content is identical to {first}" }
  | tested (new : sieve.IsNew before file) : Ruling test before file (test file)

variable {sieve}

/-- No earlier file has a digest exactly when none of them has it as its content. -/
theorem firstWith_eq_none {digest : String} :
    sieve.firstWith before digest = none
      ↔ ∀ earlier ∈ before, sieve.content? earlier ≠ some digest := by
  simp [firstWith]

/-- A file is planned for a test exactly when it is new. -/
theorem file?_plan_eq_some :
    (sieve.plan (sieve.seen before) file).file? = some file ↔ sieve.IsNew before file := by
  constructor
  · intro planned
    cases content : sieve.content? file with
    | none =>
      obtain ⟨verdict, decided⟩ := sieve.plan_of_no_content (sieve.seen before) content
      rw [decided] at planned
      contradiction
    | some digest =>
      rw [sieve.plan_of_content content, lookup_seen] at planned
      cases found : sieve.firstWith before digest with
      | some earlier => simp [found, Plan.file?] at planned
      | none => exact ⟨digest, content, firstWith_eq_none.mp found⟩
  · rintro ⟨digest, content, fresh⟩
    rw [sieve.plan_of_content content, lookup_seen, firstWith_eq_none.mpr fresh]
    rfl

/-- The ruling on a file is the verdict in which its plan ends. -/
theorem ruling_iff {verdict : Verdict} :
    sieve.Ruling test before file verdict
      ↔ (sieve.plan (sieve.seen before) file).verdict test = verdict := by
  constructor
  · rintro (skip | ⟨error, kept, failed⟩ | ⟨digest, first, content, found⟩ |
      ⟨digest, content, fresh⟩)
    · rw [plan, if_pos skip]
      rfl
    · rw [plan, kept, failed]
      rfl
    · rw [sieve.plan_of_content content, lookup_seen, found]
      rfl
    · rw [sieve.plan_of_content content, lookup_seen, firstWith_eq_none.mpr fresh]
      rfl
  · rintro rfl
    cases kept : sieve.skipped file with
    | true =>
      rw [plan, if_pos kept]
      exact .skipped kept
    | false =>
      cases readable : sieve.digest file with
      | error error =>
        rw [plan, kept, readable]
        exact .unreadable error kept readable
      | ok digest =>
        have content := sieve.content?_eq_some.mpr ⟨kept, readable⟩
        rw [sieve.plan_of_content content, lookup_seen]
        cases found : sieve.firstWith before digest with
        | some first => exact .duplicate digest first content found
        | none => exact .tested ⟨digest, content, firstWith_eq_none.mp found⟩

/-- The verdicts in which the plans end are the rulings on the files. -/
theorem mem_map_verdict {verdict : Verdict} :
    verdict ∈ (sieve.plans [] files).map (Plan.verdict test)
      ↔ ∃ before file after, files = before ++ file :: after ∧
          sieve.Ruling test before file verdict := by
  constructor
  · intro listed
    induction files using List.reverseRecOn with
    | nil => contradiction
    | append_singleton files file inductionHypothesis =>
      rw [map_verdict_concat, List.mem_append] at listed
      rcases listed with earlier | last
      · obtain ⟨before, other, after, rfl, ruled⟩ := inductionHypothesis earlier
        exact ⟨before, other, after ++ [file], by simp, ruled⟩
      · exact ⟨files, file, [], rfl, ruling_iff.mpr (List.mem_singleton.mp last).symm⟩
  · rintro ⟨before, file, after, rfl, ruled⟩
    rw [plans_split, List.map_append, List.map_cons, ruling_iff.mp ruled]
    exact List.mem_append_right _ List.mem_cons_self

/-! ## Verdicts by file -/

/-- The verdict on a file is about that file, if that holds of the tests. -/
theorem verdict_file (named : ∀ file, (test file).file = file) (known : List (String × String))
    (file : String) : ((sieve.plan known file).verdict test).file = file := by
  rcases sieve.plan_cases known file with ⟨verdict, decided, own⟩ | ⟨digest, _, tested⟩
  · rw [decided]
    exact own
  · rw [tested]
    exact named file

/-- Verdicts name the files they are about, in the order of the files. -/
theorem map_verdict_file (named : ∀ file, (test file).file = file)
    (known : List (String × String)) (files : List String) :
    ((sieve.plans known files).map (Plan.verdict test)).map Verdict.file = files := by
  induction files generalizing known with
  | nil => rfl
  | cons file files inductionHypothesis =>
    rw [plans, List.map_cons, List.map_cons, inductionHypothesis, verdict_file named]

/-- Planned tests are among the files, in their order. -/
theorem filterMap_plans_sublist (known : List (String × String)) (files : List String) :
    ((sieve.plans known files).filterMap Plan.file?).Sublist files := by
  induction files generalizing known with
  | nil => exact List.Sublist.slnil
  | cons file files inductionHypothesis =>
    rw [plans, List.filterMap_cons]
    rcases sieve.plan_cases known file with ⟨verdict, decided, _⟩ | ⟨digest, _, tested⟩
    · rw [decided]
      exact (inductionHypothesis _).cons file
    · rw [tested]
      exact (inductionHypothesis _).cons_cons file

end Sieve

/-- Tested files are among the files, in their order. -/
theorem tested_sublist (sieve : Sieve) (files : List String) :
    (tested sieve files).Sublist files := by
  rw [tested_eq_filterMap]
  exact sieve.filterMap_plans_sublist [] files

/-- One more file is tested last, if it is tested. -/
theorem tested_concat (sieve : Sieve) (before : List String) (file : String) :
    tested sieve (before ++ [file])
      = tested sieve before ++ (sieve.plan (sieve.seen before) file).file?.toList := by
  simp only [tested_eq_filterMap, sieve.plans_concat, List.filterMap_append, List.filterMap_cons,
    List.filterMap_nil]
  cases (sieve.plan (sieve.seen before) file).file? <;> rfl

/-- A file is tested if it is new after those before it. -/
theorem mem_tested_iff_isNew {sieve : Sieve} {before after : List String} {file : String}
    (distinct : (before ++ file :: after).Nodup) :
    file ∈ tested sieve (before ++ file :: after) ↔ sieve.IsNew before file := by
  have front : file ∉ (sieve.plans [] before).filterMap Plan.file? := by
    intro tested
    have earlier := (sieve.filterMap_plans_sublist [] before).subset tested
    exact List.disjoint_of_nodup_append distinct earlier List.mem_cons_self
  have back (known : List (String × String)) :
      file ∉ (sieve.plans known after).filterMap Plan.file? := by
    intro tested
    have later := (sieve.filterMap_plans_sublist known after).subset tested
    exact (List.nodup_cons.mp (List.Nodup.of_append_right distinct)).1 later
  rw [tested_eq_filterMap, sieve.plans_split, List.filterMap_append, List.mem_append,
    List.filterMap_cons, ← Sieve.file?_plan_eq_some]
  rcases sieve.plan_cases (sieve.seen before) file with ⟨verdict, decided, _⟩ | ⟨digest, _, tested⟩
  · simp [decided, Plan.file?, front, back]
  · simp [tested, Plan.file?]

/-- Tested files are those that are new behind the files before them. -/
theorem mem_tested {sieve : Sieve} {files : List String} {file : String} (distinct : files.Nodup) :
    file ∈ tested sieve files
      ↔ ∃ before after, files = before ++ file :: after ∧ sieve.IsNew before file := by
  constructor
  · intro begun
    have listed := (tested_sublist sieve files).subset begun
    obtain ⟨before, after, rfl⟩ := List.append_of_mem listed
    exact ⟨before, after, rfl, (mem_tested_iff_isNew distinct).mp begun⟩
  · rintro ⟨before, after, rfl, new⟩
    exact (mem_tested_iff_isNew distinct).mpr new

/-- Distinct files are tested once each. -/
theorem tested_nodup {sieve : Sieve} {files : List String} (distinct : files.Nodup) :
    (tested sieve files).Nodup := distinct.sublist (tested_sublist sieve files)

/-! ## The order of verdicts -/

/-- Verdicts in order are the same verdicts. -/
theorem inOrder_perm (verdicts : List Verdict) : (inOrder verdicts).Perm verdicts :=
  List.mergeSort_perm verdicts _

/-- Verdicts in order are ordered by file. -/
theorem inOrder_pairwise (verdicts : List Verdict) :
    (inOrder verdicts).Pairwise fun first second => first.file ≤ second.file :=
  Text.pairwise_mergeSort Verdict.file verdicts

/-- Verdicts on distinct files have one order. -/
theorem inOrder_eq_of_perm {first second : List Verdict} (same : first.Perm second)
    (distinct : (first.map Verdict.file).Nodup) : inOrder first = inOrder second := by
  have both : (inOrder first).Perm (inOrder second) :=
    (inOrder_perm first).trans (same.trans (inOrder_perm second).symm)
  refine both.eq_of_pairwise ?_ (inOrder_pairwise first) (inOrder_pairwise second)
  intro one other listed listed' below above
  have ours : one ∈ first := (inOrder_perm first).mem_iff.mp listed
  have theirs : other ∈ first := same.mem_iff.mpr ((inOrder_perm second).mem_iff.mp listed')
  exact List.inj_on_of_nodup_map distinct ours theirs (le_antisymm below above)

/-- Keeping the last verdict on each file keeps all verdicts on distinct files. -/
theorem foldl_last_eq {verdicts kept : List Verdict}
    (distinct : ((kept ++ verdicts).map Verdict.file).Nodup) :
    verdicts.foldl
      (fun kept verdict => kept.filter (fun other => other.file != verdict.file) ++ [verdict]) kept
        = kept ++ verdicts := by
  induction verdicts generalizing kept with
  | nil => simp
  | cons verdict verdicts inductionHypothesis =>
    have others : kept.filter (fun other => other.file != verdict.file) = kept := by
      rw [List.filter_eq_self]
      intro other known
      rw [List.map_append] at distinct
      have apart := List.disjoint_of_nodup_append distinct (List.mem_map_of_mem known)
      exact bne_iff_ne.mpr fun same => apart (same ▸ List.mem_cons_self)
    rw [List.foldl_cons, others, inductionHypothesis (by simpa using distinct), List.append_assoc,
      List.singleton_append]

/-- Nothing is lost when verdicts on distinct files are kept by file. -/
theorem byFile_perm {verdicts : List Verdict} (distinct : (verdicts.map Verdict.file).Nodup) :
    (byFile verdicts).Perm verdicts := by
  rw [byFile, foldl_last_eq (by simpa using distinct)]
  exact inOrder_perm verdicts

/-- Failures are failed tests and errors. -/
theorem Status.isFailure_iff {status : Status} :
    status.isFailure = true ↔ status = .fail ∨ status = .error := by
  cases status <;> simp [Status.isFailure]

/-- Verdicts settle some files: they stand in the order of the files, one for each, and each is the
ruling on its file. Something is wrong exactly if a file has failed or is an error. -/
structure Sieve.Settles (sieve : Sieve) (test : String → Verdict) (files : List String)
    (verdicts : List Verdict) : Prop where
  sorted : verdicts.Pairwise fun first second => first.file < second.file
  complete : (verdicts.map Verdict.file).Perm files
  ruled : ∀ before file after, files = before ++ file :: after →
    ∃ verdict ∈ verdicts, verdict.file = file ∧ sieve.Ruling test before file verdict
  failures : hasFailures verdicts = true ↔
    ∃ before file after verdict, files = before ++ file :: after ∧
      sieve.Ruling test before file verdict ∧ (verdict.status = .fail ∨ verdict.status = .error)

section

variable {sieve : Sieve} {test : String → Verdict} {files : List String}

/-- Verdicts are the rulings on the files. -/
theorem mem_verdicts {verdict : Verdict} :
    verdict ∈ verdicts sieve test files
      ↔ ∃ before file after, files = before ++ file :: after ∧
          sieve.Ruling test before file verdict := by
  rw [verdicts_eq_map, (inOrder_perm _).mem_iff, Sieve.mem_map_verdict]

/-- The verdicts are on the files, each once. -/
theorem verdicts_files (named : ∀ file, (test file).file = file) :
    ((verdicts sieve test files).map Verdict.file).Perm files := by
  rw [verdicts_eq_map]
  exact ((inOrder_perm _).map Verdict.file).trans
    (List.Perm.of_eq (Sieve.map_verdict_file named [] files))

/-- Distinct files are settled by their verdicts. -/
theorem verdicts_settle (named : ∀ file, (test file).file = file) (distinct : files.Nodup) :
    sieve.Settles test files (verdicts sieve test files) := by
  have unlike : ((verdicts sieve test files).map Verdict.file).Nodup :=
    (verdicts_files named).nodup_iff.mpr distinct
  constructor
  case complete => exact verdicts_files named
  case sorted =>
    rw [verdicts_eq_map] at unlike ⊢
    have apart := List.pairwise_map.mp unlike
    exact ((inOrder_pairwise _).and apart).imp fun both => lt_of_le_of_ne both.1 both.2
  case ruled =>
    intro before file after split
    have ruled := Sieve.ruling_iff.mpr (rfl : (sieve.plan (sieve.seen before) file).verdict test = _)
    exact ⟨_, mem_verdicts.mpr ⟨before, file, after, split, ruled⟩,
      Sieve.verdict_file named _ file, ruled⟩
  case failures =>
    have kept := byFile_perm unlike
    rw [hasFailures, List.any_eq_true]
    constructor
    · rintro ⟨verdict, listed, failed⟩
      obtain ⟨before, file, after, split, ruled⟩ := mem_verdicts.mp (kept.mem_iff.mp listed)
      exact ⟨before, file, after, verdict, split, ruled, Status.isFailure_iff.mp failed⟩
    · rintro ⟨before, file, after, verdict, split, ruled, failed⟩
      have listed := mem_verdicts.mpr ⟨before, file, after, split, ruled⟩
      exact ⟨verdict, kept.mem_iff.mpr listed, Status.isFailure_iff.mpr failed⟩

end

/-- A verdict names the file that was judged. -/
theorem SuiteOptions.judge_file (options : SuiteOptions) (host : Host) (file : String)
    (yardstick : Yardstick) : (options.judge host file yardstick).file = file := by
  have compared (reference target : CompileResult) (ignored : List String) :
      (compare file ignored reference target).file = file := by
    rw [compare]
    split <;> rfl
  cases yardstick with
  | golden path =>
    rw [judge]
    split
    · rfl
    · exact compared ..
  | compiler => exact compared ..
  | previous result => exact compared ..
  | nothing => rfl

end WinZig.Golden
