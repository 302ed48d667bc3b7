import WinZig.Proofs.Inspection
import WinZig.Proofs.Parsing.Derivations
import WinZig.Proofs.Placement

/-!
# Which tokens become anchors

Every node of a tree that is read is anchored at a token of the stream. The tokens that stand for
something by themselves, names, literals and the names of procedures, are each the anchor of one
node, and these nodes come in the order of their tokens. The other nodes are anchored at operators,
signs and the first words of statements, some of which are no anchors at all: a parenthesis, say, or
`then`. So the anchors are some of the tokens, none of them twice.

This is shown production by production. A body ends at the `end` that belongs to its `begin`, so it
matters too that `begin`, `case` and `end` are balanced inside. That makes it possible to say which
tokens are meant without parsing: those between `begin` and `end`, found by counting.
-/

namespace WinZig

/-- The kinds of tokens that stand for something by themselves. -/
def Kind.isTerm : Kind → Bool
  | .identifier | .integer | .character | .trueWord | .falseWord | .eofWord | .readWord
  | .outputWord => true
  | _ => false

/-- The words that open something with an `end` of its own, and `end`. -/
def Kind.isBracket : Kind → Bool
  | .beginWord | .caseWord | .endWord => true
  | _ => false

/-- Tokens of the other kinds divide bodies into their parts. -/
def Kind.isMark (kind : Kind) : Bool := !kind.isTerm && !kind.isBracket

/-- Whether a node is a name, a literal or a call. -/
def Node.isTerm : Node → Bool
  | name .. | integer .. | boolean .. | character .. | call .. => true
  | _ => false

/-- The items between each `begin` outside of bodies and the `end` that belongs to it. Inside of a
body another `begin` or a `case` wants an `end` of its own, and `depth` counts the ends that are
due. -/
def enclosed {α : Type} (kind : α → Kind) : (depth : Nat) → List α → List α
  | _, [] => []
  | 0, item :: rest => if kind item = .beginWord then enclosed kind 1 rest else enclosed kind 0 rest
  | depth + 1, item :: rest =>
    if kind item = .beginWord ∨ kind item = .caseWord then item :: enclosed kind (depth + 2) rest
    else if kind item ≠ .endWord then item :: enclosed kind (depth + 1) rest
    else if depth = 0 then enclosed kind 0 rest
    else item :: enclosed kind depth rest

/-- The places of the tokens in bodies that stand for something by themselves. -/
def termPlaces (tokens : List Token) : List Nat :=
  ((enclosed (fun item => item.1.kind) 0 tokens.zipIdx).filter fun item => item.1.kind.isTerm).map
    Prod.snd

/-- Marks are the tokens that are neither terms nor brackets. -/
theorem Kind.isMark_iff {kind : Kind} :
    kind.isMark = true ↔ kind.isTerm = false ∧ kind.isBracket = false := by
  simp [isMark]

/-- No term is a bracket. -/
theorem Kind.not_isBracket {kind : Kind} (stands : kind.isTerm = true) :
    kind.isBracket = false := by
  cases kind with
  | beginWord | caseWord | endWord => cases stands
  | _ => rfl

/-- All nodes of some trees, in the order of a walk. -/
def Node.all (nodes : List Node) : List Node := walkAll (fun _ => true) nodes

/-- The nodes below two lists are those below each. -/
theorem Node.all_append (before behind : List Node) :
    all (before ++ behind) = all before ++ all behind := by
  simp only [all, walkAll_eq_flatMap, List.flatMap_append]

/-- A node and then everything below it. -/
theorem Node.all_singleton {node : Node} (present : node.isPresent = true) :
    all [node] = node :: all node.children := by
  simp [all, walkAll_eq_flatMap, walk_eq _ node present]

/-! ## Balance -/

/-- Nothing in a list closes what was open before it or stays open behind it. -/
def Balanced (read : List Token) : Prop :=
  ∀ depth rest, enclosed Token.kind (depth + 1) (read ++ rest) =
    read ++ enclosed Token.kind (depth + 1) rest

namespace Balanced

/-- Nothing is balanced. -/
theorem nil : Balanced [] := fun _ _ => rfl

/-- Balanced tokens behind balanced ones are balanced. -/
theorem append {before behind : List Token} (first : Balanced before) (second : Balanced behind) :
    Balanced (before ++ behind) := by
  intro depth rest
  rw [List.append_assoc, first, second, List.append_assoc]

/-- A token that is no bracket is balanced. -/
theorem singleton {tok : Token} (neutral : tok.kind.isBracket = false) : Balanced [tok] := by
  have other {kind : Kind} (word : kind.isBracket = true) : tok.kind ≠ kind := by
    rintro rfl
    rw [word] at neutral
    cases neutral
  intro depth rest
  have opens : ¬(tok.kind = .beginWord ∨ tok.kind = .caseWord) :=
    not_or.mpr ⟨other rfl, other rfl⟩
  have closes : tok.kind ≠ .endWord := other rfl
  rw [List.singleton_append, enclosed, if_neg opens, if_pos closes, List.singleton_append]

/-- What is balanced may stand between a word that opens and the `end` that belongs to it. -/
theorem bracket {opening closing : Token} {read : List Token}
    (opens : opening.kind = .beginWord ∨ opening.kind = .caseWord)
    (closes : closing.kind = .endWord)
    (inner : Balanced read) : Balanced (opening :: (read ++ [closing])) := by
  intro depth rest
  simp [enclosed, opens, closes, inner (depth + 1)]

end Balanced

/-! ## Inside a body -/

/-- The tokens read inside a body account for some nodes: the terms among the nodes are anchored at
the tokens that stand for something by themselves, in order, and all anchors are among the tokens,
none of them twice. -/
structure Accounted (read : List Token) (nodes : List Node) : Prop where
  terms : ((Node.all nodes).filter Node.isTerm).map Node.token =
    read.filter fun tok => tok.kind.isTerm
  anchors : ((Node.all nodes).map Node.token).Subperm read
  balanced : Balanced read

namespace Accounted

/-- No tokens and no nodes account for each other. -/
theorem nil : Accounted [] [] := ⟨rfl, .refl _, .nil⟩

/-- A node that stands for nothing accounts for no token. -/
theorem missing : Accounted [] [.missing] := ⟨rfl, .refl _, .nil⟩

/-- What is accounted for piece by piece is accounted for. -/
theorem append {before behind : List Token} {nodes others : List Node}
    (first : Accounted before nodes) (second : Accounted behind others) :
    Accounted (before ++ behind) (nodes ++ others) where
  terms := by
    rw [Node.all_append, List.filter_append, List.map_append, first.terms, second.terms,
      List.filter_append]
  anchors := by
    rw [Node.all_append, List.map_append]
    exact first.anchors.append second.anchors
  balanced := first.balanced.append second.balanced

/-- A token that no node is anchored at. -/
theorem mark {tok : Token} {kind : Kind} (same : tok.kind = kind) (silent : kind.isMark = true) :
    Accounted [tok] [] := by
  obtain ⟨silent, neutral⟩ := Kind.isMark_iff.mp (same ▸ silent)
  exact ⟨by simp [Node.all, Node.walkAll, silent], List.nil_subperm, .singleton neutral⟩

/-- Such a token may follow. -/
theorem followed {tok : Token} {kind : Kind} {read : List Token} {nodes : List Node}
    (first : Accounted read nodes) (same : tok.kind = kind) (silent : kind.isMark = true) :
    Accounted (read ++ [tok]) nodes := by
  have whole := first.append (mark same silent)
  rwa [List.append_nil] at whole

/-- A term comes before everything below it, and so does its token. -/
theorem term (node : Node) {read : List Token} (is : node.isTerm = true)
    (stands : node.token.kind.isTerm = true) (below : Accounted read node.children) :
    Accounted ([node.token] ++ read) [node] := by
  have present : node.isPresent = true := by
    cases node with
    | missing => cases is
    | _ => rfl
  refine ⟨?_, ?_, (Balanced.singleton (Kind.not_isBracket stands)).append below.balanced⟩
  · rw [Node.all_singleton present, List.filter_cons_of_pos is, List.map_cons, below.terms]
    simp [stands]
  · rw [Node.all_singleton present, List.map_cons]
    exact (List.subperm_cons _).mpr below.anchors

/-- Nothing but its token is to be said of a term without parts. -/
theorem leaf (node : Node) (is : node.isTerm = true) (stands : node.token.kind.isTerm = true)
    (bottom : node.children = []) : Accounted [node.token] [node] :=
  term node is stands (bottom ▸ nil)

/-- Any other node adds its token, wherever it stands, to those of its children. -/
theorem other (node : Node) {below read : List Token} (is : node.isTerm = false)
    (present : node.isPresent = true) (children : Accounted below node.children)
    (kept : (read.filter fun tok => tok.kind.isTerm) = below.filter fun tok => tok.kind.isTerm)
    (covers : (node.token :: below).Subperm read) (balanced : Balanced read) :
    Accounted read [node] where
  terms := by
    rw [Node.all_singleton present, List.filter_cons_of_neg (by simp [is]), children.terms, kept]
  anchors := by
    rw [Node.all_singleton present, List.map_cons]
    exact ((List.subperm_cons _).mpr children.anchors).trans covers
  balanced := balanced

/-- The token of an operation or an assignment stands between the parts. -/
theorem between (node : Node) {before behind : List Token} {nodes others : List Node}
    (is : node.isTerm = false) (present : node.isPresent = true)
    (silent : node.token.kind.isMark = true) (parts : node.children = nodes ++ others)
    (first : Accounted before nodes) (second : Accounted behind others) :
    Accounted (before ++ ([node.token] ++ behind)) [node] := by
  have children : Accounted (before ++ behind) node.children := parts ▸ first.append second
  have alone := mark rfl silent
  refine other node is present children ?_ ?_
    (first.balanced.append (alone.balanced.append second.balanced))
  · simp [(Kind.isMark_iff.mp silent).1]
  · exact List.perm_middle.symm.subperm

/-- The first word of a statement comes before the parts. -/
theorem headed (node : Node) {read : List Token} (is : node.isTerm = false)
    (present : node.isPresent = true) (silent : node.token.kind.isMark = true)
    (below : Accounted read node.children) : Accounted ([node.token] ++ read) [node] :=
  between node is present silent rfl nil below

/-- Behind a word that opens something there is an `end` at last. -/
theorem bracketed (node : Node) {closing : Token} {read : List Token} (is : node.isTerm = false)
    (present : node.isPresent = true) (opens : node.token.kind = .caseWord)
    (closes : closing.kind = .endWord) (below : Accounted read node.children) :
    Accounted ([node.token] ++ (read ++ [closing])) [node] := by
  refine other node is present below ?_ ?_ (below.balanced.bracket (.inr opens) closes)
  · simp [opens, closes, Kind.isTerm]
  · exact ((List.sublist_append_left read [closing]).cons_cons node.token).subperm

/-- A compound statement is no node. -/
theorem compound {opening closing : Token} {read : List Token} {nodes : List Node}
    (opens : opening.kind = .beginWord) (closes : closing.kind = .endWord)
    (inner : Accounted read nodes) : Accounted ([opening] ++ (read ++ [closing])) nodes where
  terms := by
    rw [inner.terms]
    simp [opens, closes, Kind.isTerm]
  anchors := inner.anchors.trans
    (((List.sublist_append_left read [closing]).cons opening).subperm)
  balanced := inner.balanced.bracket (.inl opens) closes

end Accounted

namespace Grammar

variable {α : Type} {enabled : Feature → Bool} {tokens : List Token} {node : Node}
  {nodes : List Node} {mark : Kind}

/-- A list with marks accounts for the nodes of its items. -/
theorem separated_accounted {parts : α → List Node} {values : List α} (silent : mark.isMark = true)
    (list : Separated mark (fun tokens value => Accounted tokens (parts value)) tokens values) :
    Accounted tokens (values.flatMap parts) := by
  induction list with
  | one only =>
    rw [List.flatMap_singleton]
    exact only
  | more first marked others inductionHypothesis =>
    exact first.append ((Accounted.mark marked silent).append inductionHypothesis)

/-- A list without marks accounts for the nodes of its items. -/
theorem repeated_accounted {parts : α → List Node} {values : List α}
    (list : Repeated (fun tokens value => Accounted tokens (parts value)) tokens values) :
    Accounted tokens (values.flatMap parts) := by
  induction list with
  | none => exact .nil
  | more first others inductionHypothesis => exact first.append inductionHypothesis

/-- Expressions with commas between them account for themselves. -/
theorem nodes_accounted
    (list : Separated .comma (fun tokens node => Accounted tokens [node]) tokens nodes) :
    Accounted tokens nodes := by
  have whole := separated_accounted rfl list
  rwa [List.flatMap_singleton'] at whole

/-- Statements with semicolons between them account for themselves. -/
theorem statements_accounted {lists : List (List Node)}
    (list : Separated .semicolon Accounted tokens lists) : Accounted tokens lists.flatten := by
  have whole := @separated_accounted _ _ .semicolon id _ rfl list
  rwa [List.flatMap_id] at whole

/-- A list that is left out accounts for no nodes. -/
theorem optional_accounted {item : Rule (List Node)} (list : Optional item tokens nodes)
    (known : item tokens nodes → Accounted tokens nodes) : Accounted tokens nodes := by
  cases list with
  | absent => exact .nil
  | present list => exact known list

/-- A name accounts for itself. -/
theorem name_accounted (written : Name tokens node) : Accounted tokens [node] := by
  cases written with
  | name spelled => exact .leaf (.name _ .unknown _) rfl (congrArg Kind.isTerm spelled) rfl

/-- A literal accounts for itself. -/
theorem literal_accounted (written : Literal tokens node) : Accounted tokens [node] := by
  cases written with
  | integer spelled => exact .leaf (.integer _ .unknown _) rfl (congrArg Kind.isTerm spelled) rfl
  | character spelled => exact .leaf (.character _ .unknown _) rfl (congrArg Kind.isTerm spelled) rfl
  | truth spelled | falsity spelled =>
    exact .leaf (.boolean _ .unknown _) rfl (congrArg Kind.isTerm spelled) rfl

/-- A case value accounts for itself. -/
theorem caseValue_accounted (derived : CaseValue tokens node) : Accounted tokens [node] := by
  cases derived with
  | literal written => exact literal_accounted written
  | name written => exact name_accounted written

/-- An upper bound accounts for itself, if there is one. -/
theorem upperBound_accounted (derived : UpperBound tokens node) : Accounted tokens [node] := by
  cases derived with
  | absent => exact .missing
  | present ranged written => exact (Accounted.mark ranged rfl).append (caseValue_accounted written)

/-- Nothing is anchored at a binary operator but the operation. -/
theorem isMark_of_mem_operators {op : Kind} {level : Nat} (binds : op ∈ operators level) :
    op.isMark = true := by
  have levels := mem_operators.mp binds
  cases op <;> first | rfl | cases levels

/-- Nothing is anchored at a prefix operator but the operation. -/
theorem isMark_of_isUnary {op : Kind} (applies : isUnary enabled op = true) : op.isMark = true := by
  cases op <;> first | rfl | cases applies

/-- The productions of expressions account for their nodes. -/
theorem accounted_keptByExpressions :
    KeptByExpressions enabled fun tokens node => Accounted tokens [node] where
  literal written := literal_accounted written
  endOfFile spelled := .leaf (.boolean _ .unknown _) rfl (congrArg Kind.isTerm spelled) rfl
  name written := name_accounted written
  call named opened given closed :=
    .term (.call _ .unknown _ _) rfl (congrArg Kind.isTerm named) <|
      (Accounted.mark opened rfl).append
        ((optional_accounted given nodes_accounted).followed closed rfl)
  group opened enclosed closed := (Accounted.mark opened rfl).append (enclosed.followed closed rfl)
  unary applies only := .headed (.unary _ .unknown _ _) rfl rfl (isMark_of_isUnary applies) only
  binary binds before behind :=
    .between (.binary _ .unknown _ _ _) rfl rfl (isMark_of_mem_operators binds) rfl before behind

/-- A call of a predefined procedure accounts for itself. -/
theorem procedure_accounted {word opening closing : Token} {args : List Token}
    (stands : word.kind.isTerm = true) (opened : opening.kind = .openParen)
    (given : Accounted args nodes) (closed : closing.kind = .closeParen) :
    Accounted (word :: opening :: (args ++ [closing])) [.call word .unknown word.text nodes] :=
  .term (.call word .unknown word.text nodes) rfl stands
    ((Accounted.mark opened rfl).append (given.followed closed rfl))

/-- The productions of statements account for their nodes. -/
theorem accounted_kept : Kept enabled (fun tokens node => Accounted tokens [node])
    (fun tokens node => Accounted tokens [node]) Accounted
    (fun tokens clause => Accounted tokens (clause.low :: clause.high :: clause.body)) where
  toKeptByExpressions := accounted_keptByExpressions
  assignment named signed written :=
    .between (.assign _ _ _) rfl rfl (congrArg Kind.isMark signed) rfl (name_accounted named) written
  empty := .nil
  assigned assigned := assigned
  exchange before signed behind := .between (.swap _ _ _) rfl rfl (congrArg Kind.isMark signed) rfl
    (name_accounted before) (name_accounted behind)
  output written opened given closed :=
    procedure_accounted (congrArg Kind.isTerm written) opened (nodes_accounted given) closed
  read written opened given closed :=
    procedure_accounted (congrArg Kind.isTerm written) opened
      (nodes_accounted (given.imp fun _ _ => name_accounted)) closed
  ifThen written tested follows held := by
    refine .headed (.conditional _ _ _ []) rfl rfl (congrArg Kind.isMark written) ?_
    rw [Node.children, List.append_nil]
    exact tested.append ((Accounted.mark follows rfl).append held)
  ifThenElse written tested follows held alternates failed := by
    refine .headed (.conditional _ _ _ _) rfl rfl (congrArg Kind.isMark written) ?_
    exact tested.append ((Accounted.mark follows rfl).append
      (held.append ((Accounted.mark alternates rfl).append failed)))
  whileLoop written tested follows held :=
    .headed (.whileLoop _ _ _) rfl rfl (congrArg Kind.isMark written)
      (tested.append ((Accounted.mark follows rfl).append held))
  repeatLoop written held closed tested :=
    .headed (.repeatLoop _ _ _) rfl rfl (congrArg Kind.isMark written)
      ((statements_accounted held).append ((Accounted.mark closed rfl).append tested))
  forLoop written opened begun divided tested dividedAgain stepped closed held :=
    .headed (.forLoop _ _ _ _ _) rfl rfl (congrArg Kind.isMark written)
      ((Accounted.mark opened rfl).append (begun.append ((Accounted.mark divided rfl).append
        (tested.append ((Accounted.mark dividedAgain rfl).append (stepped.append
          ((Accounted.mark closed rfl).append held)))))))
  caseOf written selected follows each remaining closed := by
    have below := selected.append ((Accounted.mark follows rfl).append
      ((repeated_accounted each).append (optional_accounted remaining id)))
    have whole := Accounted.bracketed (.caseOf _ _ _ _) rfl rfl written closed below
    simp only [List.append_assoc] at whole
    exact whole
  returnOf written given := .headed (.returnOf _ _) rfl rfl (congrArg Kind.isMark written) given
  compound opened held closed := (statements_accounted held).compound opened closed
  clause value upper divided held closed :=
    (caseValue_accounted value).append ((upperBound_accounted upper).append
      ((Accounted.mark divided rfl).append (held.followed closed rfl)))
  otherwise written held := (Accounted.mark written rfl).append held
  ended held ended := held.followed ended rfl

end Grammar

/-! ## Outside of bodies -/

/-- Tokens that open no body. -/
def Quiet (read : List Token) : Prop := ∀ tok ∈ read, tok.kind ≠ .beginWord

namespace Quiet

/-- Where nothing is read, no body is opened. -/
theorem nil : Quiet [] := List.forall_mem_nil _

/-- A token of another kind opens no body. -/
theorem cons {tok : Token} {kind : Kind} {read : List Token} (spelled : tok.kind = kind)
    (other : kind ≠ .beginWord) (rest : Quiet read) : Quiet (tok :: read) :=
  List.forall_mem_cons.mpr ⟨spelled ▸ other, rest⟩

/-- One part behind another. -/
theorem append {before behind : List Token} (first : Quiet before) (second : Quiet behind) :
    Quiet (before ++ behind) :=
  List.forall_mem_append.mpr ⟨first, second⟩

end Quiet

/-- The tokens read outside of bodies, with the bodies between them, account for the nodes of these
bodies. -/
structure Collected (read : List Token) (nodes : List Node) : Prop where
  terms : ∀ rest, ((enclosed Token.kind 0 (read ++ rest)).filter fun tok => tok.kind.isTerm) =
    ((Node.all nodes).filter Node.isTerm).map Node.token ++
      (enclosed Token.kind 0 rest).filter fun tok => tok.kind.isTerm
  anchors : ((Node.all nodes).map Node.token).Subperm read

namespace Collected

/-- No tokens collect no nodes. -/
theorem nil : Collected [] [] := ⟨fun _ => rfl, .refl _⟩

/-- What is collected piece by piece is collected. -/
theorem append {before behind : List Token} {nodes others : List Node}
    (first : Collected before nodes) (second : Collected behind others) :
    Collected (before ++ behind) (nodes ++ others) where
  terms rest := by
    rw [List.append_assoc, first.terms, second.terms, Node.all_append, List.filter_append,
      List.map_append, List.append_assoc]
  anchors := by
    rw [Node.all_append, List.map_append]
    exact first.anchors.append second.anchors

/-- Tokens outside of bodies. -/
theorem passed {read : List Token} (quiet : Quiet read) :
    Collected read [] where
  terms rest := by
    have skipped : enclosed Token.kind 0 (read ++ rest) = enclosed Token.kind 0 rest := by
      induction read with
      | nil => rfl
      | cons tok read inductionHypothesis =>
        obtain ⟨here, behind⟩ := List.forall_mem_cons.mp quiet
        rw [List.cons_append, enclosed, if_neg here, inductionHypothesis behind]
    rw [skipped]
    rfl
  anchors := List.nil_subperm

/-- A body. -/
theorem body {opening closing : Token} {read : List Token} {nodes : List Node}
    (opens : opening.kind = .beginWord) (closes : closing.kind = .endWord)
    (inner : Accounted read nodes) : Collected ([opening] ++ (read ++ [closing])) nodes where
  terms rest := by
    have scanned : enclosed Token.kind 0 ([opening] ++ (read ++ [closing]) ++ rest) =
        read ++ enclosed Token.kind 0 rest := by
      simp [enclosed, opens, closes, inner.balanced 0]
    rw [scanned, List.filter_append, inner.terms]
  anchors := inner.anchors.trans
    ((List.sublist_append_left read [closing]).cons opening).subperm

/-- Behind a body. -/
theorem followed {read more : List Token} {nodes : List Node} (first : Collected read nodes)
    (quiet : Quiet more) : Collected (read ++ more) nodes := by
  have whole := first.append (passed quiet)
  rwa [List.append_nil] at whole

end Collected

namespace Grammar

variable {α : Type} {enabled : Feature → Bool} {visibility : Visibility} {known : List String}
  {tokens : List Token}

/-- A list with marks opens no body if its items do not. -/
theorem Separated.quiet {mark : Kind} {item : Rule α} {values : List α} (other : mark ≠ .beginWord)
    (each : ∀ {part value}, item part value → Quiet part)
    (list : Separated mark item tokens values) : Quiet tokens := by
  induction list with
  | one only => exact each only
  | more first marked others inductionHypothesis =>
    exact (each first).append (.cons marked other inductionHypothesis)

/-- A list without marks opens no body if its items do not. -/
theorem Repeated.quiet {item : Rule α} {values : List α}
    (each : ∀ {part value}, item part value → Quiet part)
    (list : Repeated item tokens values) : Quiet tokens := by
  induction list with
  | none => exact .nil
  | more first others inductionHypothesis =>
    exact (each first).append inductionHypothesis

/-- A list that is left out opens no body. -/
theorem Optional.quiet {item : Rule (List α)} {values : List α}
    (each : ∀ {part values}, item part values → Quiet part)
    (list : Optional item tokens values) : Quiet tokens := by
  cases list with
  | absent => exact .nil
  | present list => exact each list

/-- The names in a list open no body. -/
theorem names_quiet {toks : List Token}
    (list : Separated .comma (Single .identifier) tokens toks) : Quiet tokens := by
  refine list.quiet (by decide) fun {part value} single => ?_
  cases single with
  | token spelled => exact .cons spelled (by decide) .nil

/-- A type name opens no body. -/
theorem typeName_quiet {type : TypeRef} (derived : TypeName known tokens type) : Quiet tokens := by
  cases derived with
  | predefined spelled | declared spelled =>
    exact .cons spelled (by decide) .nil

/-- A declaration opens no body. -/
theorem declaration_quiet {vars : List Variable} (derived : Declaration visibility known tokens vars) :
    Quiet tokens := by
  cases derived with
  | typed listed divided named =>
    exact (names_quiet listed).append (.cons divided (by decide) (typeName_quiet named))

/-- A line of declarations opens no body. -/
theorem declarationLine_quiet {vars : List Variable}
    (derived : DeclarationLine visibility known tokens vars) : Quiet tokens := by
  cases derived with
  | line declared ended =>
    exact (declaration_quiet declared).append (.cons ended (by decide) .nil)

/-- The declarations of variables open no body. -/
theorem variables_quiet {vars : List Variable} (derived : Variables visibility known tokens vars) :
    Quiet tokens := by
  cases derived with
  | listed written line lines =>
    exact .cons written (by decide)
      ((declarationLine_quiet line).append (lines.quiet declarationLine_quiet))

/-- The definition of a type opens no body. -/
theorem typeDefinition_quiet {definition : TypeDef}
    (derived : TypeDefinition visibility tokens definition) : Quiet tokens := by
  cases derived with
  | enumerated named signed opened listed closed ended =>
    exact .cons named (by decide) (.cons signed (by decide) (.cons opened (by decide)
      ((names_quiet listed).append (.cons closed (by decide) (.cons ended (by decide) .nil)))))

/-- The definitions of types open no body. -/
theorem types_quiet {types : List TypeDef} (derived : Types visibility tokens types) :
    Quiet tokens := by
  cases derived with
  | listed written definition definitions =>
    exact .cons written (by decide)
      ((typeDefinition_quiet definition).append (definitions.quiet typeDefinition_quiet))

/-! ## Programs -/

/-- A body accounts for its nodes. -/
theorem body_collected {nodes : List Node} (derived : Body enabled tokens nodes) :
    Collected tokens nodes := by
  cases derived with
  | enclosed opened held closed =>
    exact .body opened closed
      (statements_accounted (held.imp fun _ _ => accounted_kept.statement))

/-- A function accounts for the nodes of its body. -/
theorem function_collected {function : Function}
    (derived : FunctionDefinition enabled known tokens function) :
    Collected tokens function.body := by
  cases derived with
  | function written named opened declared closed divided resulting headed defined listed performed
      closedAs same ended =>
    have params := declared.quiet (Separated.quiet (by decide) declaration_quiet)
    have sections := (defined.quiet types_quiet).append (listed.quiet variables_quiet)
    have type := (typeName_quiet resulting).append (.cons headed (by decide) sections)
    have head := Collected.passed <| Quiet.cons written (by decide) <| .cons named (by decide) <|
      .cons opened (by decide) <| params.append <| .cons closed (by decide) <|
        .cons divided (by decide) type
    have whole := head.append <| (body_collected performed).followed <|
      Quiet.cons closedAs (by decide) <| .cons ended (by decide) .nil
    simpa using whole

/-- Functions account for the nodes of their bodies. -/
theorem functions_collected {functions : List Function}
    (list : Repeated (FunctionDefinition enabled known) tokens functions) :
    Collected tokens (functions.flatMap Function.body) := by
  induction list with
  | none => exact .nil
  | more first others inductionHypothesis =>
    exact (function_collected first).append inductionHypothesis

/-- A program accounts for the nodes of its bodies. -/
theorem program_collected {program : Program} (derived : ProgramText enabled tokens program) :
    Collected tokens (program.functions.flatMap Function.body ++ program.body) := by
  cases derived with
  | program written named divided defined listed declared performed closedAs ended =>
    have head := Collected.passed <| Quiet.cons written (by decide) <| .cons named (by decide) <|
      .cons divided (by decide) <|
        (defined.quiet types_quiet).append (listed.quiet variables_quiet)
    have whole := head.append <| (functions_collected declared).append <|
      (body_collected performed).followed <|
        Quiet.cons closedAs (by decide) <| .cons ended (by decide) .nil
    simpa using whole

end Grammar

/-! ## Places -/

/-- Counting does not depend on what else is known of the items. -/
theorem enclosed_map {α β : Type} (kind : β → Kind) (change : α → β) (depth : Nat)
    (items : List α) :
    enclosed kind depth (items.map change) =
      (enclosed (fun item => kind (change item)) depth items).map change := by
  induction items generalizing depth with
  | nil => cases depth <;> rfl
  | cons item rest inductionHypothesis =>
    cases depth with
    | zero =>
      simp only [List.map_cons, enclosed, inductionHypothesis]
      split <;> rfl
    | succ depth =>
      simp only [List.map_cons, enclosed, inductionHypothesis]
      split_ifs <;> rfl

/-- The number of a numbered token. -/
def Token.number (tok : Token) : Nat := (tok.column - 1).toNat

/-- A token with its place in a stream as its number. -/
def Token.ofPlace (item : Token × Nat) : Token :=
  { kind := item.1.kind, text := item.1.text, line := 1, column := item.2 + 1, length := 2 }

/-- A token made from its place has that place as its number. -/
theorem Token.number_ofPlace (item : Token × Nat) : (Token.ofPlace item).number = item.2 := by
  simp [number, ofPlace]

/-- Tokens are numbered by their places. -/
theorem numbered_eq_map (tokens : List Token) :
    numbered (tokens.map Token.lexeme) = tokens.zipIdx.map Token.ofPlace := by
  rw [numbered, List.mapIdx_eq_zipIdx_map, List.zipIdx_map, List.map_map]
  rfl

/-- The places are the numbers that are found among the numbered tokens. -/
theorem termPlaces_eq (tokens : List Token) : termPlaces tokens =
    ((enclosed Token.kind 0 (tokens.zipIdx.map Token.ofPlace)).filter fun tok =>
      tok.kind.isTerm).map Token.number := by
  have places : Token.number ∘ Token.ofPlace = Prod.snd := funext Token.number_ofPlace
  rw [enclosed_map, List.filter_map, List.map_map, places]
  rfl

/-- Numbers of tokens are distinct. -/
theorem Token.nodup_number (tokens : List Token) :
    ((tokens.zipIdx.map Token.ofPlace).map Token.number).Nodup := by
  have places : Token.number ∘ Token.ofPlace = Prod.snd := funext number_ofPlace
  rw [List.map_map, places, List.zipIdx_map_snd]
  exact List.nodup_range'

/-- A numbered token is sent back to where its number comes from. -/
theorem Token.placed_ofPlace {tokens : List Token} {item : Token × Nat}
    (listed : item ∈ tokens.zipIdx) :
    tokens[(Token.ofPlace item).number]? = some ((Token.ofPlace item).placed tokens) := by
  have here : tokens[item.2]? = some item.1 := List.mem_zipIdx_iff_getElem?.mp listed
  have number : ((item.2 : Int) + 1 - 1).toNat = item.2 := by omega
  rw [number_ofPlace, here, placed, ofPlace, number, tokenAt, here, Option.getD_some]

namespace Node

/-- The nodes below moved nodes are moved. -/
theorem all_moved (onToken : Token → Token) (nodes : List Node) :
    all (nodes.map (moved onToken)) = (all nodes).map (moved onToken) := by
  have each (node : Node) : walk (fun _ => true) (node.moved onToken) =
      (walk (fun _ => true) node).map (moved onToken) :=
    walk_map isPresent_relabel children_relabel node
  simp only [all, walkAll_eq_flatMap, List.flatMap_map, List.map_flatMap, each]

/-- A moved node is a term exactly when it was one. -/
theorem isTerm_moved (onToken : Token → Token) (node : Node) :
    (node.moved onToken).isTerm = node.isTerm := by
  cases node <;> rfl

/-- A character stands at its last column, every other node where its token starts. -/
theorem position_eq (node : Node) : node.position =
    if node.form? = some .character then ⟨node.token.line, node.token.column⟩
    else node.token.start := by
  cases node <;> rfl

/-- Nothing that is missing is met. -/
theorem isPresent_of_mem_all {nodes : List Node} {inner : Node} (member : inner ∈ all nodes) :
    inner.isPresent = true := by
  rw [all, walkAll_eq_flatMap] at member
  obtain ⟨node, -, met⟩ := List.mem_flatMap.mp member
  exact (mem_walk.mp met).1

end Node

namespace Program

variable {settings : Settings} {tokens : List Token}

/-- The bodies of a program, those of its functions first. -/
def bodies (program : Program) : List Node :=
  program.functions.flatMap Function.body ++ program.body

/-- A stream that is read accounts for the nodes of the bodies. -/
theorem ofTokens_collected (real : ∀ tok ∈ tokens, tok.kind ≠ .endOfInput) {program : Program}
    {cursor : Cursor} (run : ofTokens settings tokens = .ok program cursor) :
    Collected tokens program.bodies :=
  Grammar.program_collected (derived_of_ofTokens real run)

/-- The bodies of a moved program are moved. -/
theorem bodies_moved (onToken : Token → Token) (program : Program) :
    (program.moved onToken).bodies = program.bodies.map (Node.moved onToken) := by
  simp only [bodies, Program.moved, Function.moved, List.flatMap_map, List.map_append,
    List.map_flatMap]

/-- The anchors of the nodes of a program, function bodies first. Each node has a place in the
stream of its own, where its token stands. The places of the names, literals and calls are, in the
order in which these are met, exactly the places of such tokens between the `begin` of a body and
its `end`. A node is reported at the start of its token, and a character literal where its token
ends.

Proof: the stream is read like one in which every token has a number, so places are told apart by
their tokens. There the anchors are some of the tokens, and the terms are anchored at all tokens of
their kinds. -/
theorem ofTokens_accounts (settings : Settings) (tokens : List Token)
    (real : ∀ tok ∈ tokens, tok.kind ≠ .endOfInput) {program : Program} {cursor : Cursor}
    (run : ofTokens settings tokens = .ok program cursor) :
    let visited := program.functions.flatMap (fun function =>
      Node.walkAll (fun _ => true) function.body) ++ Node.walkAll (fun _ => true) program.body
    ∃ places : List Nat, places.Nodup ∧
      List.Forall₂ (fun node place => tokens[place]? = some node.token) visited places ∧
      ((visited.zip places).filter fun item => item.1.isTerm).map Prod.snd = termPlaces tokens ∧
      ∀ node ∈ visited, node.position =
        if node.form? = some .character then ⟨node.token.line, node.token.column⟩
        else node.token.start := by
  intro visited
  have same : visited = Node.all program.bodies := by
    simp only [visited, bodies, Node.all, Node.walkAll_eq_flatMap, List.flatMap_append,
      List.flatMap_assoc]
  rw [ofTokens_numbered, numbered_eq_map] at run
  cases read : ofTokens settings (tokens.zipIdx.map Token.ofPlace) with
  | failed | crashed =>
    rw [read] at run
    cases run
  | ok known behind =>
    rw [read] at run
    obtain ⟨rfl, -⟩ := Reply.ok.inj run
    have real' : ∀ tok ∈ tokens.zipIdx.map Token.ofPlace, tok.kind ≠ .endOfInput := by
      intro tok member
      obtain ⟨item, listed, rfl⟩ := List.mem_map.mp member
      exact real item.1 (List.fst_mem_of_mem_zipIdx listed)
    have collected := ofTokens_collected real' read
    rw [bodies_moved, Node.all_moved] at same
    refine ⟨(Node.all known.bodies).map fun node => node.token.number, ?_, ?_, ?_, ?_⟩
    · obtain ⟨chosen, reordered, within⟩ := collected.anchors
      have distinct := (Token.nodup_number tokens).sublist (within.map Token.number)
      have moved := (reordered.map Token.number).nodup_iff.mp distinct
      rwa [List.map_map] at moved
    · rw [same, List.forall₂_map_left_iff, List.forall₂_map_right_iff, List.forall₂_same]
      intro node member
      have anchored := collected.anchors.subset (List.mem_map_of_mem member)
      obtain ⟨item, listed, token⟩ := List.mem_map.mp anchored
      rw [Node.token_moved (Node.isPresent_of_mem_all member), ← token]
      exact Token.placed_ofPlace listed
    · rw [same, List.zip_map', List.filter_map, List.map_map]
      simp only [Function.comp_def, Node.isTerm_moved]
      have terms := collected.terms []
      rw [List.append_nil, enclosed, List.filter_nil, List.append_nil] at terms
      rw [termPlaces_eq, terms, List.map_map]
      rfl
    · exact fun node _ => node.position_eq

/-- A program with a body inside another one, a case with an `end` of its own, and tokens that look
alike. -/
def nestedBodies : List Token := [
  { kind := .programWord }, { kind := .identifier, text := "p" }, { kind := .colon },
  { kind := .functionWord }, { kind := .identifier, text := "f" }, { kind := .openParen },
  { kind := .closeParen }, { kind := .colon }, { kind := .identifier, text := "integer" },
  { kind := .semicolon }, { kind := .beginWord }, { kind := .returnWord },
  { kind := .identifier, text := "f" }, { kind := .endWord }, { kind := .identifier, text := "f" },
  { kind := .semicolon }, { kind := .beginWord }, { kind := .caseWord },
  { kind := .identifier, text := "f" }, { kind := .ofWord }, { kind := .integer, text := "1" },
  { kind := .colon }, { kind := .beginWord }, { kind := .outputWord }, { kind := .openParen },
  { kind := .identifier, text := "f" }, { kind := .openParen }, { kind := .closeParen },
  { kind := .plus }, { kind := .integer, text := "1" }, { kind := .closeParen }, { kind := .endWord },
  { kind := .semicolon }, { kind := .endWord }, { kind := .endWord },
  { kind := .identifier, text := "p" }, { kind := .dot }]

/-- Compound statements in one another are accounted for. -/
theorem ofTokens_accounts_nestedBodies :
    (∀ tok ∈ nestedBodies, tok.kind ≠ .endOfInput) ∧
    ∃ program cursor, ofTokens { feature := fun _ => true } nestedBodies = .ok program cursor ∧
      let visited := program.functions.flatMap (fun function =>
        Node.walkAll (fun _ => true) function.body) ++ Node.walkAll (fun _ => true) program.body
      ∃ places : List Nat, places.Nodup ∧
        List.Forall₂ (fun node place => nestedBodies[place]? = some node.token) visited places ∧
        ((visited.zip places).filter fun item => item.1.isTerm).map Prod.snd =
          [12, 18, 20, 23, 25, 29] := by
  have real : ∀ tok ∈ nestedBodies, tok.kind ≠ .endOfInput := by decide
  have accepted : ∃ program cursor, ofTokens { feature := fun _ => true } nestedBodies = .ok program cursor :=
    ⟨_, _, by cbv⟩
  obtain ⟨program, cursor, run⟩ := accepted
  obtain ⟨places, distinct, anchored, terms, -⟩ := ofTokens_accounts _ nestedBodies real run
  exact ⟨real, program, cursor, run, places, distinct, anchored, terms.trans (by decide)⟩

end Program

end WinZig
