import WinZig.Toml.Document

/-!
# Tables of a document

The statements of a document build a tree of tables. A key may be given once. A table may be opened
once by a header, but tables on the way to it, and tables between braces, may be opened after the
fact. Lists of tables grow by a header each time.

The first statement in conflict with what is there is reported with its line. A header is named as it
is written.
-/

namespace WinZig.Toml

/-- What a key of a table holds. -/
inductive Item where
  /-- A value, and its line. -/
  | value (value : Value) (line : Nat)
  /-- A table: its line, whether a header has opened it, and what its keys hold. -/
  | table (line : Nat) (opened : Bool) (fields : List (String × Item))
  /-- A list of tables, each with its line and what its keys hold; the last one first. -/
  | tables (line : Nat) (members : List (List (String × Item)))
deriving Inhabited

/-- What the keys of a table hold. -/
abbrev Fields := List (String × Item)

/-- Who claims a key. -/
inductive Claimant where
  | entry
  /-- A header that passes the key on its way. -/
  | passage
  | table
  | member
deriving DecidableEq, Repr

/-- Who holds a key, and since which line. -/
inductive Holder where
  | entry (line : Nat)
  | table (line : Nat)
  | tables (line : Nat)
deriving DecidableEq, Repr

/-- Why a statement is refused. -/
inductive Refusal where
  /-- An escape stands for no character. -/
  | malformed
  /-- A key is held already. -/
  | conflict (claimant : Claimant) (name : String) (holder : Holder)
deriving DecidableEq, Repr

/-- How a claimant is called. -/
def Claimant.noun : Claimant → String
  | entry | passage => "key"
  | table => "table"
  | member => "array table"

/-- How a refusal reads. Between two entries the line is written in hexadecimal and followed by a
letter. -/
def Refusal.message : Refusal → String
  | malformed => "invalid syntax"
  | conflict .entry name (.entry line) =>
    s!"key \x60{name}' is in conflict with line {String.ofList (Nat.toDigits 16 line)}d"
  | conflict .entry name (.tables _) =>
    s!"BUG: key \x60{name}' is in conflict but it's unknown type \x60[]*ast.Table'"
  | conflict claimant name holder =>
    let held := match holder with
      | .entry line => s!"line {line}"
      | .table line => s!"table in line {line}"
      | .tables line => s!"array table in line {line}"
    s!"{claimant.noun} \x60{name}' is in conflict with {held}"

/-- A refusal and the line of the refused statement. -/
structure Refused where
  line : Nat
  refusal : Refusal
deriving DecidableEq, Repr

/-- What a step makes of a table, unless it is refused. -/
abbrev Step := Fields → Except Refused Fields

/-- What a key holds. -/
def lookup (name : String) (fields : Fields) : Option Item := List.lookup name fields

/-- A table in which a key holds an item. -/
def store (name : String) (item : Item) (fields : Fields) : Fields :=
  if (lookup name fields).isSome then
    fields.map fun field => if field.1 = name then (name, item) else field
  else fields ++ [(name, item)]

/-- Goes down a path and takes a step there. Tables that are missing on the way are made. -/
def descend (line : Nat) (step : Step) : (path : List String) → Step
  | [], fields => step fields
  | name :: path, fields =>
    match lookup name fields with
    | none => do
      let below ← descend line step path []
      return store name (.table line false below) fields
    | some (.table since opened below) => do
      let below ← descend line step path below
      return store name (.table since opened below) fields
    | some (.tables since (last :: others)) => do
      let last ← descend line step path last
      return store name (.tables since (last :: others)) fields
    | some (.tables since []) => .error ⟨line, .conflict .passage name (.tables since)⟩
    | some (.value _ since) => .error ⟨line, .conflict .passage name (.entry since)⟩

/-- Opens a table; `byHeader` says whether a header does so, and `written` is how it is named. -/
def openTable (line : Nat) (byHeader : Bool) (written name : String) : Step := fun fields =>
  match lookup name fields with
  | none => .ok (store name (.table line byHeader []) fields)
  | some (.table since true _) => .error ⟨line, .conflict .table written (.table since)⟩
  | some (.table _ false below) => .ok (store name (.table line byHeader below) fields)
  | some (.tables since _) => .error ⟨line, .conflict .table written (.tables since)⟩
  | some (.value _ since) => .error ⟨line, .conflict .table written (.entry since)⟩

/-- Opens a further table of a list; `written` is how it is named. -/
def openMember (line : Nat) (written name : String) : Step := fun fields =>
  match lookup name fields with
  | none => .ok (store name (.tables line [[]]) fields)
  | some (.tables since members) => .ok (store name (.tables since ([] :: members)) fields)
  | some (.table since _ _) => .error ⟨line, .conflict .member written (.table since)⟩
  | some (.value _ since) => .error ⟨line, .conflict .member written (.entry since)⟩

/-- Gives a key a value. -/
def put (line : Nat) (name : String) (value : Value) : Step := fun fields =>
  match lookup name fields with
  | none => .ok (store name (.value value line) fields)
  | some (.value _ since) => .error ⟨line, .conflict .entry name (.entry since)⟩
  | some (.table since _ _) => .error ⟨line, .conflict .entry name (.table since)⟩
  | some (.tables since _) => .error ⟨line, .conflict .entry name (.tables since)⟩

/-- The text of a key. -/
def nameText (name : Name) : Except Refused String :=
  match name.text with
  | some text => .ok text
  | none => .error ⟨name.line, .malformed⟩

mutual

/-- Whether a table between braces stands in a value outside all tables between braces. -/
def holdsTable : Value → Bool
  | .inline .. => true
  | .array items => anyHoldsTable items
  | _ => false

/-- Whether one of some values holds a table between braces. -/
def anyHoldsTable : List Value → Bool
  | [] => false
  | item :: rest => holdsTable item || anyHoldsTable rest

end

mutual

/-- Adds the tables between braces in a value to the table at a path, under a name. Inside a list
they become further tables of a list. -/
def addTables (path : List String) (name : String) (inList : Bool) : Value → Step
  | .inline line entries => fun fields => do
    let fields ← descend line
      (if inList then openMember line name name else openTable line false name name) path fields
    addEntries (path ++ [name]) inList entries fields
  | .array items => addAllTables path name items
  | .malformed line => fun _ => .error ⟨line, .malformed⟩
  | _ => .ok

/-- Adds the tables between braces in the values of a list. -/
def addAllTables (path : List String) (name : String) : List Value → Step
  | [] => .ok
  | item :: rest => fun fields => do
    addAllTables path name rest (← addTables path name true item fields)

/-- Adds entries to the table at a path. -/
def addEntries (path : List String) (inList : Bool) : List (Entry Value) → Step
  | [] => .ok
  | ⟨key, value, line⟩ :: rest => fun fields => do
    let name ← nameText key
    let fields ← addTables path name inList value fields
    let fields ← if holdsTable value then .ok fields
      else descend line (put line name value) path fields
    addEntries path inList rest fields

end

/-- A table under construction: what there is, and the path entries are added at. -/
structure Draft where
  fields : Fields := []
  path : List String := []

/-- Goes to the table of a header. -/
def goTo (draft : Draft) (path : List Name) (line : Nat) (opening : String → Step) :
    Except Refused Draft := do
  let names ← path.mapM nameText
  match names.getLast? with
  | none => return draft
  | some last =>
    return { fields := ← descend line (opening last) names.dropLast draft.fields, path := names }

/-- Adds a statement. -/
def Draft.add (draft : Draft) : Statement → Except Refused Draft
  | .entry entry => do
    return { draft with fields := ← addEntries draft.path false [entry] draft.fields }
  | .table path written line => goTo draft path line (openTable line true written)
  | .member path written line => goTo draft path line (openMember line written)

/-- The tree of a document. -/
def assemble (statements : List Statement) : Except Refused Fields := do
  return (← statements.foldlM Draft.add {}).fields

end WinZig.Toml
