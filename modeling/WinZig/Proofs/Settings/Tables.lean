import Mathlib
import WinZig.Settings.File

/-!
# Keys are given once

The statements of a document build its tables one after another, and every key is looked up before
it is stored. So no key stands twice in a table, at any depth, and a table is a map from its keys.
This is kept by storing an item under a key, hence by every step, wherever in the tree it is taken.

A settings file is read from such tables. What it lists about the warnings and about the features
are two maps from names.
-/

namespace WinZig

namespace Toml

mutual

/-- Every key is given once, in a table and in the tables below it. -/
inductive Distinct : Fields → Prop
  | intro {fields : Fields} (names : (fields.map Prod.fst).Nodup)
      (each : ∀ field ∈ fields, DistinctItem field.2) : Distinct fields

/-- Every key is given once in the tables that are held. -/
inductive DistinctItem : Item → Prop
  | value (value : Value) (line : Nat) : DistinctItem (.value value line)
  | table {fields : Fields} (line : Nat) (opened : Bool) (below : Distinct fields) :
      DistinctItem (.table line opened fields)
  | tables {members : List Fields} (line : Nat) (each : ∀ member ∈ members, Distinct member) :
      DistinctItem (.tables line members)

end

variable {fields after : Fields} {name : String} {item : Item} {line : Nat}
  {step first second : Step}

/-- A table without fields has distinct names. -/
theorem distinct_empty : Distinct [] := .intro List.nodup_nil (List.forall_mem_nil _)

/-- What is held under a name is distinct all the way down. -/
theorem Distinct.lookup (distinct : Distinct fields) (held : lookup name fields = some item) :
    DistinctItem item := by
  obtain ⟨_, each⟩ := distinct
  obtain ⟨before, behind, rfl, _⟩ := List.lookup_eq_some_iff.mp held
  exact each (name, item) (List.mem_append_right before List.mem_cons_self)

/-- Storing an item under a name keeps names distinct. -/
theorem Distinct.store (distinct : Distinct fields) (name : String) (held : DistinctItem item) :
    Distinct (store name item fields) := by
  obtain ⟨names, each⟩ := distinct
  rw [Toml.store]
  split
  · have same : (fields.map fun field => if field.1 = name then (name, item) else field).map Prod.fst
        = fields.map Prod.fst := by
      rw [List.map_map]
      apply List.map_congr_left
      intro field _
      by_cases named : field.1 = name <;> simp [named]
    constructor
    · rw [same]
      exact names
    · rw [List.forall_mem_map]
      intro field listed
      split
      · exact held
      · exact each field listed
  · next absent =>
    have fresh : name ∉ fields.map Prod.fst := by
      intro listed
      obtain ⟨field, old, rfl⟩ := List.mem_map.mp listed
      have nothing := Option.not_isSome_iff_eq_none.mp absent
      have different := List.lookup_eq_none_iff.mp nothing field old
      simp at different
    constructor
    · rw [List.map_append, List.map_singleton, ← List.concat_eq_append]
      exact names.concat fresh
    · intro field listed
      rcases List.mem_append.mp listed with old | new
      · exact each field old
      · rw [List.mem_singleton.mp new]
        exact held

/-! ## Steps -/

/-- A step gives no key twice. -/
def KeepsDistinct (step : Step) : Prop :=
  ∀ ⦃fields after⦄, Distinct fields → step fields = .ok after → Distinct after

/-- What succeeds in two steps succeeds in each. -/
theorem ok_of_bind {ε α β : Type} {result : Except ε α} {next : α → Except ε β} {value : β}
    (succeeded : (result >>= next) = .ok value) :
    ∃ middle, result = .ok middle ∧ next middle = .ok value := by
  cases result with
  | error => contradiction
  | ok middle => exact ⟨middle, rfl, succeeded⟩

/-- Changing nothing keeps names distinct. -/
theorem keepsDistinct_ok : KeepsDistinct .ok := by
  intro fields after distinct done
  cases done
  exact distinct

/-- A refusal keeps names distinct, as there is no table. -/
theorem keepsDistinct_error (refused : Refused) : KeepsDistinct fun _ => .error refused := by
  intro fields after distinct done
  contradiction

/-- Two steps that keep names distinct keep them distinct one after the other. -/
theorem KeepsDistinct.andThen (former : KeepsDistinct first) (latter : KeepsDistinct second) :
    KeepsDistinct fun fields => first fields >>= second := by
  intro fields after distinct done
  obtain ⟨middle, halfway, done⟩ := ok_of_bind done
  exact latter (former distinct halfway) done

/-- A step that is taken further down gives no key twice either. -/
theorem KeepsDistinct.descend (keeps : KeepsDistinct step) (line : Nat) (path : List String) :
    KeepsDistinct (descend line step path) := by
  induction path with
  | nil => exact keeps
  | cons name path inductionHypothesis =>
    intro fields after distinct done
    rw [Toml.descend] at done
    split at done
    · obtain ⟨below, inner, done⟩ := ok_of_bind done
      cases done
      exact distinct.store name (.table line false (inductionHypothesis distinct_empty inner))
    · next since opened below held =>
      obtain ⟨below', inner, done⟩ := ok_of_bind done
      cases done
      cases distinct.lookup held with
      | table _ _ outer =>
        exact distinct.store name (.table since opened (inductionHypothesis outer inner))
    · next since last others held =>
      obtain ⟨last', inner, done⟩ := ok_of_bind done
      cases done
      cases distinct.lookup held with
      | tables _ each =>
        obtain ⟨outer, rest⟩ := List.forall_mem_cons.mp each
        exact distinct.store name
          (.tables since (List.forall_mem_cons.mpr ⟨inductionHypothesis outer inner, rest⟩))
    · contradiction
    · contradiction

/-- Opening a table keeps names distinct. -/
theorem keepsDistinct_openTable (line : Nat) (byHeader : Bool) (written name : String) :
    KeepsDistinct (openTable line byHeader written name) := by
  intro fields after distinct done
  rw [openTable] at done
  split at done
  · cases done
    exact distinct.store name (.table line byHeader distinct_empty)
  · contradiction
  · next since below held =>
    cases done
    cases distinct.lookup held with
    | table _ _ inner => exact distinct.store name (.table line byHeader inner)
  · contradiction
  · contradiction

/-- Opening a member keeps names distinct. -/
theorem keepsDistinct_openMember (line : Nat) (written name : String) :
    KeepsDistinct (openMember line written name) := by
  intro fields after distinct done
  rw [openMember] at done
  split at done
  · cases done
    exact distinct.store name
      (.tables line (List.forall_mem_singleton.mpr distinct_empty))
  · next since members held =>
    cases done
    cases distinct.lookup held with
    | tables _ each =>
      exact distinct.store name
        (.tables since (List.forall_mem_cons.mpr ⟨distinct_empty, each⟩))
  · contradiction
  · contradiction

/-- Putting a value keeps names distinct. -/
theorem keepsDistinct_put (line : Nat) (name : String) (value : Value) :
    KeepsDistinct (put line name value) := by
  intro fields after distinct done
  rw [put] at done
  split at done
  · cases done
    exact distinct.store name (.value value line)
  · contradiction
  · contradiction
  · contradiction

/-- Adding entries gives no key twice, by induction over the values and what stands in them. -/
theorem keepsDistinct_add :
    (∀ path name inList value, KeepsDistinct (addTables path name inList value)) ∧
      (∀ path name items, KeepsDistinct (addAllTables path name items)) ∧
      ∀ path inList entries, KeepsDistinct (addEntries path inList entries) := by
  refine addTables.mutual_induct _ _ _ ?inline ?array ?malformed ?plain ?noItems ?items ?noEntries
    ?entries
  case inline =>
    intro path name inList line entries inductionHypothesis
    rw [addTables]
    refine KeepsDistinct.andThen (KeepsDistinct.descend ?_ line path) inductionHypothesis
    split
    · exact keepsDistinct_openMember line name name
    · exact keepsDistinct_openTable line false name name
  case array =>
    intro path name inList items inductionHypothesis
    rw [addTables]
    exact inductionHypothesis
  case malformed =>
    intro path name inList line
    rw [addTables]
    exact keepsDistinct_error _
  case plain =>
    intro value path name inList notInline notArray notMalformed
    rw [addTables]
    · exact keepsDistinct_ok
    · exact notInline
    · exact notArray
    · exact notMalformed
  case noItems =>
    intro path name
    rw [addAllTables]
    exact keepsDistinct_ok
  case items =>
    intro path name item rest inductionHypothesis others
    rw [addAllTables]
    exact inductionHypothesis.andThen others
  case noEntries =>
    intro path inList
    rw [addEntries]
    exact keepsDistinct_ok
  case entries =>
    intro path inList key value line rest inductionHypothesis others
    rw [addEntries]
    intro fields after distinct done
    obtain ⟨name, _, done⟩ := ok_of_bind done
    obtain ⟨opened, tables, done⟩ := ok_of_bind done
    have distinct := inductionHypothesis name distinct tables
    dsimp only at done
    split at done
    · exact others distinct done
    · obtain ⟨filled, entry, done⟩ := ok_of_bind done
      exact others ((keepsDistinct_put line name value).descend line path distinct entry) done

/-! ## Documents -/

/-- A change at the end of a path keeps names distinct. -/
theorem distinct_of_goTo {draft draft' : Draft} {path : List Name} {opening : String → Step}
    (keeps : ∀ name, KeepsDistinct (opening name)) (distinct : Distinct draft.fields)
    (done : goTo draft path line opening = .ok draft') : Distinct draft'.fields := by
  obtain ⟨names, _, done⟩ := ok_of_bind done
  split at done
  · cases done
    exact distinct
  · next last _ =>
    obtain ⟨fields, opened, done⟩ := ok_of_bind done
    cases done
    exact (keeps last).descend line names.dropLast distinct opened

/-- A statement keeps names distinct. -/
theorem distinct_of_add {draft draft' : Draft} {statement : Statement}
    (distinct : Distinct draft.fields) (done : draft.add statement = .ok draft') :
    Distinct draft'.fields := by
  cases statement with
  | entry entry =>
    obtain ⟨fields, added, done⟩ := ok_of_bind done
    cases done
    exact keepsDistinct_add.2.2 draft.path false [entry] distinct added
  | table path written line =>
    exact distinct_of_goTo (keepsDistinct_openTable line true written) distinct done
  | member path written line =>
    exact distinct_of_goTo (keepsDistinct_openMember line written) distinct done

/-- What holds to begin with and is kept by every step holds in the end. -/
theorem foldlM_induction {ε α σ : Type} {step : σ → α → Except ε σ} {items : List α}
    {start done : σ} (holds : σ → Prop) (keeps : ∀ item ∈ items, ∀ {before after}, holds before →
      step before item = .ok after → holds after)
    (initially : holds start) (folded : items.foldlM step start = .ok done) : holds done := by
  induction items generalizing start with
  | nil =>
    cases folded
    exact initially
  | cons item items inductionHypothesis =>
    rw [List.foldlM_cons] at folded
    obtain ⟨next, stepped, folded⟩ := ok_of_bind folded
    rw [List.forall_mem_cons] at keeps
    exact inductionHypothesis keeps.2 (keeps.1 initially stepped) folded

/-- An assembled table has distinct names. -/
theorem distinct_of_assemble {statements : List Statement}
    (assembled : assemble statements = .ok fields) : Distinct fields := by
  obtain ⟨draft, folded, done⟩ := ok_of_bind assembled
  cases done
  exact foldlM_induction (fun draft => Distinct draft.fields) (fun _ _ => distinct_of_add)
    distinct_empty folded

end Toml

/-- What is listed about warnings and about features are maps from names. -/
def FileSettings.IsMap (file : FileSettings) : Prop :=
  (file.warnings.map Prod.fst).Nodup ∧ (file.features.map Prod.fst).Nodup

/-- Whatever text is decoded, what it lists are maps from names. -/
def FileDecoder.YieldsMaps (decode : FileDecoder) : Prop :=
  ∀ ⦃text file⦄, decode text = .ok file → file.IsMap

namespace FileSettings

open Toml

variable {file : FileSettings} {field : String} {item : Item} {listed : List (String × Bool)}

/-- Switches are read under the names of the fields. -/
theorem names_of_mapM {fields : Fields}
    (read : fields.mapM (fun (name, item) => do return (name, ← readSwitch item)) = .ok listed) :
    listed.map Prod.fst = fields.map Prod.fst := by
  induction fields generalizing listed with
  | nil =>
    cases read
    rfl
  | cons field fields inductionHypothesis =>
    rw [List.mapM_cons] at read
    obtain ⟨first, switch, read⟩ := ok_of_bind read
    obtain ⟨others, rest, read⟩ := ok_of_bind read
    obtain ⟨on, _, switch⟩ := ok_of_bind switch
    cases read
    cases switch
    rw [List.map_cons, List.map_cons, inductionHypothesis rest]

/-- Switches that were read have distinct names. -/
theorem nodup_of_readSwitches (distinct : DistinctItem item)
    (read : readSwitches field item = .ok listed) : (listed.map Prod.fst).Nodup := by
  cases distinct with
  | value | tables => contradiction
  | table line opened below =>
    obtain ⟨names, _⟩ := below
    rw [names_of_mapM read]
    exact names

/-- A TOML document lists no name twice. -/
theorem ofText_yieldsMaps : FileDecoder.YieldsMaps ofText := by
  intro text file read
  rw [ofText] at read
  split at read
  · contradiction
  split at read
  · contradiction
  next fields assembled =>
  obtain ⟨_, each⟩ := distinct_of_assemble assembled
  have empty : IsMap {} := ⟨List.nodup_nil, List.nodup_nil⟩
  refine foldlM_induction IsMap ?_ empty read
  rintro field listed before after ⟨warnings, features⟩ done
  unfold readField at done
  split at done
  · obtain ⟨color, _, done⟩ := ok_of_bind done
    cases done
    exact ⟨warnings, features⟩
  · obtain ⟨switches, read, done⟩ := ok_of_bind done
    cases done
    exact ⟨nodup_of_readSwitches (each _ listed) read, features⟩
  · obtain ⟨switches, read, done⟩ := ok_of_bind done
    cases done
    exact ⟨warnings, nodup_of_readSwitches (each _ listed) read⟩
  · contradiction

end FileSettings

end WinZig
