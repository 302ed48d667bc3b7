import WinZig.Proofs.Parsing.Shape

/-!
# The tokens that trees are anchored at

A node is blamed at its token. In a program that is derived from tokens, the kind of that token
tells the form of the node up to a few choices: a literal is anchored at the literal, an operation
at its operator, a statement at the word or the sign that makes it one. In particular the token of a
character literal belongs to no other node, and no node is anchored at the end of the stream.
-/

namespace WinZig

/-- The kinds of tokens at which a node of a given form is anchored. -/
def Form.anchors : Form → List Kind
  | integer => [.integer]
  | boolean => [.trueWord, .falseWord, .eofWord]
  | character => [.character]
  | name => [.identifier]
  | call => [.identifier, .outputWord, .readWord]
  | binary => [20, 30, 40, 50, 60].flatMap Grammar.operators
  | unary => Shape.prefixes
  | assign => [.assign]
  | swap => [.swap]
  | conditional => [.ifWord]
  | forLoop => [.forWord]
  | whileLoop => [.whileWord]
  | repeatLoop => [.repeatWord]
  | caseOf => [.caseWord]
  | returnOf => [.returnWord]

/-- A node and all nodes below it are anchored at tokens that fit their forms. -/
inductive Node.Anchored : Node → Prop
  | node {node : Node} (own : ∀ form ∈ node.form?, node.token.kind ∈ form.anchors)
      (parts : ∀ child ∈ node.children, Anchored child) : Anchored node

/-- The variables of a function are anchored at their names, and its body at tokens that fit. -/
structure Function.Anchored (function : Function) : Prop where
  params : ∀ declared ∈ function.params, declared.tok.kind = .identifier
  locals : ∀ declared ∈ function.locals, declared.tok.kind = .identifier
  body : ∀ node ∈ function.body, node.Anchored

/-- The variables of a program are anchored at their names, and its bodies at tokens that fit. -/
structure Program.Anchored (program : Program) : Prop where
  vars : ∀ declared ∈ program.vars, declared.tok.kind = .identifier
  functions : ∀ function ∈ program.functions, function.Anchored
  body : ∀ node ∈ program.body, node.Anchored

/-- A node is anchored if its token is of one of the kinds of its form and its parts are anchored. -/
theorem Node.Anchored.intro {node : Node} {form : Form} {kind : Kind}
    (shape : node.form? = some form) (spelled : node.token.kind = kind) (fits : kind ∈ form.anchors)
    (parts : ∀ child ∈ node.children, child.Anchored) : node.Anchored := by
  refine .node (fun other same => ?_) parts
  obtain rfl : form = other := Option.some.inj (shape.symm.trans same)
  rw [spelled]
  exact fits

/-- Nothing is asked of what is missing. -/
theorem Node.anchored_missing : Anchored .missing :=
  .node (fun _ => nofun) (List.forall_mem_nil _)

/-- Some nodes and all nodes below them are anchored at tokens that fit. -/
abbrev Node.AllAnchored (nodes : List Node) : Prop := ∀ node ∈ nodes, node.Anchored

/-- A statement that is a node is anchored as a list of one. -/
theorem Node.Anchored.single {node : Node} {form : Form} {kind : Kind}
    (shape : node.form? = some form) (spelled : node.token.kind = kind) (fits : kind ∈ form.anchors)
    (parts : AllAnchored node.children) : AllAnchored [node] :=
  List.forall_mem_singleton.mpr (.intro shape spelled fits parts)

namespace Grammar

/-! ## Bodies -/

variable {enabled : Feature → Bool} {tokens : List Token} {node : Node} {nodes : List Node}

/-- What holds of the members of a list with marks, whatever their tokens are. -/
theorem Separated.values {α : Type} {mark : Kind} {holds : α → Prop} {values : List α}
    (list : Separated mark (fun _ value => holds value) tokens values) :
    ∀ value ∈ values, holds value := by
  intro value member
  obtain ⟨-, held, -⟩ := list.mem value member
  exact held

/-- A derived name is anchored at the name. -/
theorem name_anchored (written : Name tokens node) : node.Anchored := by
  cases written with
  | name spelled => exact .intro rfl spelled (by decide) (List.forall_mem_nil _)

/-- A derived literal is anchored at the literal. -/
theorem literal_anchored (written : Literal tokens node) : node.Anchored := by
  cases written with
  | integer spelled | character spelled | truth spelled | falsity spelled =>
    exact .intro rfl spelled (by decide) (List.forall_mem_nil _)

/-- The binary operators of all levels are anchors of operations. -/
theorem anchors_binary {op : Kind} {level : Nat} (binds : op ∈ operators level) :
    op ∈ Form.binary.anchors := by
  have levels := mem_operators.mp binds
  cases op <;> simp [Kind.level?] at levels <;> decide

/-- A derived case value is anchored at the value. -/
theorem caseValue_anchored (derived : CaseValue tokens node) : node.Anchored := by
  cases derived with
  | literal written => exact literal_anchored written
  | name written => exact name_anchored written

/-- A derived upper bound is anchored at the value, if there is one. -/
theorem upperBound_anchored (derived : UpperBound tokens node) : node.Anchored := by
  cases derived with
  | absent => exact Node.anchored_missing
  | present ranged written => exact caseValue_anchored written

/-- The productions of expressions keep the anchors. -/
theorem anchored_keptByExpressions :
    KeptByExpressions enabled fun _ node => node.Anchored where
  literal written := literal_anchored written
  endOfFile spelled := .intro rfl spelled (by decide) (List.forall_mem_nil _)
  name written := name_anchored written
  call named _ given _ := .intro rfl named (by decide) fun arg member =>
    (given.mem member).values arg member
  group _ enclosed _ := enclosed
  unary applies only := .intro rfl rfl (Shape.mem_prefixes_of_isUnary applies)
    (List.forall_mem_singleton.mpr only)
  binary binds before behind := .intro rfl rfl (anchors_binary binds)
    (List.forall_mem_cons.mpr ⟨before, List.forall_mem_singleton.mpr behind⟩)

/-- The productions of statements keep the anchors. -/
theorem anchored_kept : Kept enabled (fun _ node => node.Anchored) (fun _ node => node.Anchored)
    (fun _ nodes => Node.AllAnchored nodes)
    (fun _ clause => Node.AllAnchored (clause.low :: clause.high :: clause.body)) where
  toKeptByExpressions := anchored_keptByExpressions
  assignment named signed written := .intro rfl signed (by decide)
    (List.forall_mem_cons.mpr ⟨name_anchored named, List.forall_mem_singleton.mpr written⟩)
  empty := List.forall_mem_nil _
  assigned assigned := List.forall_mem_singleton.mpr assigned
  exchange before signed behind := .single rfl signed (by decide) (List.forall_mem_cons.mpr
    ⟨name_anchored before, List.forall_mem_singleton.mpr (name_anchored behind)⟩)
  output written _ given _ := .single rfl written (by decide) given.values
  read written _ given _ := .single rfl written (by decide) (given.imp fun _ _ => name_anchored).values
  ifThen written tested _ held := by
    refine .single rfl written (by decide) ?_
    simp only [Node.children, List.append_nil]
    exact List.forall_mem_cons.mpr ⟨tested, held⟩
  ifThenElse written tested _ held _ failed := .single rfl written (by decide)
    (List.forall_mem_append.mpr ⟨List.forall_mem_cons.mpr ⟨tested, held⟩, failed⟩)
  whileLoop written tested _ held := .single rfl written (by decide)
    (List.forall_mem_cons.mpr ⟨tested, held⟩)
  repeatLoop written held _ tested := .single rfl written (by decide)
    (List.forall_mem_append.mpr ⟨List.forall_mem_flatten.mpr held.values,
      List.forall_mem_singleton.mpr tested⟩)
  forLoop written _ begun _ tested _ stepped _ held := .single rfl written (by decide)
    (List.forall_mem_cons.mpr ⟨begun, List.forall_mem_cons.mpr ⟨tested,
      List.forall_mem_cons.mpr ⟨stepped, held⟩⟩⟩)
  caseOf written selected _ each remaining _ := by
    refine .single rfl written (by decide) ?_
    refine List.forall_mem_append.mpr ⟨List.forall_mem_cons.mpr
      ⟨selected, fun node member => ?_⟩, fun node member => remaining.mem member node member⟩
    obtain ⟨clause, listed, within⟩ := List.mem_flatMap.mp member
    obtain ⟨-, held, -⟩ := each.mem clause listed
    exact held node within
  returnOf written given :=
    .single rfl written (by decide) (List.forall_mem_singleton.mpr given)
  compound _ held _ := List.forall_mem_flatten.mpr held.values
  clause value upper _ held _ := List.forall_mem_cons.mpr
    ⟨caseValue_anchored value, List.forall_mem_cons.mpr ⟨upperBound_anchored upper, held⟩⟩
  otherwise _ held := held
  ended held _ := held

/-! ## Programs -/

/-- Some variables are anchored at their names. -/
abbrev AllNamed (vars : List Variable) : Prop := ∀ declared ∈ vars, declared.tok.kind = .identifier

/-- Derived declarations are anchored at their names. -/
theorem declaration_named {visibility : Visibility} {known : List String} {vars : List Variable}
    (derived : Declaration visibility known tokens vars) : AllNamed vars := by
  cases derived with
  | typed listed divided named =>
    intro declared member
    obtain ⟨tok, among, rfl⟩ := List.mem_map.mp member
    obtain ⟨part, ⟨spelled⟩, -⟩ := listed.mem tok among
    exact spelled

/-- The variables of a derived section are anchored at their names. -/
theorem variables_named {visibility : Visibility} {known : List String} {vars : List Variable}
    (derived : Variables visibility known tokens vars) : AllNamed vars := by
  have closed {tokens : List Token} {vars : List Variable}
      (derived : DeclarationLine visibility known tokens vars) : AllNamed vars := by
    cases derived with
    | line declared ended => exact declaration_named declared
  cases derived with
  | listed written line lines =>
    refine List.forall_mem_append.mpr ⟨closed line, List.forall_mem_flatten.mpr ?_⟩
    intro vars member
    obtain ⟨part, derived, -⟩ := lines.mem vars member
    exact closed derived

/-- A derived function is anchored at tokens that fit. -/
theorem function_anchored {known : List String} {function : Function}
    (derived : FunctionDefinition enabled known tokens function) : function.Anchored := by
  cases derived with
  | function written named opened declared closed divided resulting headed defined listed
      performed =>
    constructor
    case params =>
      exact List.forall_mem_flatten.mpr fun vars member =>
        ((declared.mem member).imp fun _ _ => declaration_named).values vars member
    case locals => exact fun declared member => variables_named (listed.mem member) declared member
    case body => exact anchored_kept.body performed

/-- A program that is derived is anchored at tokens that fit. -/
theorem program_anchored {program : Program} (derived : ProgramText enabled tokens program) :
    program.Anchored := by
  cases derived with
  | program written named divided defined listed declared performed =>
    constructor
    case vars => exact fun declared member => variables_named (listed.mem member) declared member
    case functions =>
      intro function member
      obtain ⟨part, derived, -⟩ := declared.mem function member
      exact function_anchored derived
    case body => exact anchored_kept.body performed

end Grammar

end WinZig
