import WinZig.Proofs.Compiling.Reports
import WinZig.Proofs.Typing.Renaming

/-!
# Messages are single lines

Messages quote names and other texts of the source. A token shows a piece of one line, so no text of a
token has a line end in it, and neither has a message that is made of such texts and fixed words.

What parsing says is spelled in the tokens it is given, and so are the names of the program it reads.
What checking says about that program is followed through one renaming, which changes exactly the texts
with a line end: it leaves the names alone, so it leaves everything alone that is said about them.
-/

namespace WinZig

/-- A text without a line end. -/
def Flat (text : String) : Prop := '\n' ∉ text.toList

instance (text : String) : Decidable (Flat text) := inferInstanceAs (Decidable (_ ∉ _))

/-- Two texts together have no line end exactly when neither has one. -/
@[simp] theorem flat_append (first second : String) :
    Flat (first ++ second) ↔ Flat first ∧ Flat second := by
  simp [Flat, not_or]

/-- Literals are checked as their characters, which the kernel reads off without decoding bytes. -/
theorem flat_ofList {chars : List Char} (flat : '\n' ∉ chars) : Flat (String.ofList chars) := by
  unfold Flat
  rwa [String.toList_ofList]

/-- The renaming of all texts with a line end. -/
def unflattened (text : String) : String := if Flat text then text else "\n" ++ text

/-- The renaming leaves exactly the texts without a line end alone. -/
theorem unflattened_eq_self {text : String} : unflattened text = text ↔ Flat text := by
  unfold unflattened
  split
  · next flat => simp [flat]
  · next other =>
    refine ⟨fun same => ?_, fun flat => absurd flat other⟩
    have length := congrArg String.length same
    simp at length

/-- Renamed texts are as different as the texts. -/
theorem unflattened_injective : Function.Injective unflattened := by
  have marked (text : String) : ¬ Flat ("\n" ++ text) := by
    rw [flat_append]
    exact fun flat => absurd flat.1 (by decide)
  intro text other same
  unfold unflattened at same
  split at same
  · next flat =>
    split at same
    · exact same
    · exact absurd (same ▸ flat) (marked other)
  · split at same
    · next flat => exact absurd (same ▸ flat) (marked text)
    · exact (String.append_right_inj _).mp same

/-! ## Messages -/

/-- Names of types are single lines. -/
theorem flat_ty (tag : Ty) : Flat tag.name := by
  cases tag with
  | foreign number =>
    show Flat ""
    exact flat_ofList (by decide)
  | _ => exact flat_ofList (by decide)

/-- Names of token kinds are single lines. -/
theorem flat_kind (kind : Kind) : Flat kind.name := by
  cases kind <;> exact flat_ofList (by decide)

/-- Names of statements are single lines. -/
theorem flat_statement (statement : Conditioned) : Flat statement.name := by
  cases statement <;> exact flat_ofList (by decide)

/-- What is expected in a slot is a single line if the texts it quotes are. -/
theorem Slot.flat_expectation {slot : Slot}
    (quotes : ∀ text ∈ (Cause.unfilled slot).quotes, Flat text) : Flat slot.expectation := by
  cases slot with
  | assignSign target =>
    have named : Flat target := quotes target (by simp [Cause.quotes])
    -- Here and below the case is opened by hand: equations between so many literals are slow to derive.
    delta expectation
    simp only [toString, flat_append, named, and_true]
    and_intros <;> exact flat_ofList (by decide)
  | _ => exact flat_ofList (by decide)

/-- A token is described in a single line if its text is one. -/
theorem Token.flat_described {tok : Token} (spelled : Flat tok.text) : Flat tok.described := by
  unfold Token.described
  split
  · exact flat_ofList (by decide)
  · exact spelled

/-- The message of an error is a single line if the token's text and the quoted texts are. -/
theorem Cause.flat_message {cause : Cause} {tok : Token} (spelled : Flat tok.text)
    (quotes : ∀ text ∈ cause.quotes, Flat text) : Flat (cause.message tok) := by
  have described := Token.flat_described spelled
  cases cause with
  | unknownCharacter c =>
    have shown : Flat (String.singleton c) := quotes _ List.mem_cons_self
    delta message
    simp only [toString, Char.toString, flat_append, shown, and_true]
    and_intros <;> exact flat_ofList (by decide)
  | closedAs opened =>
    have named : Flat opened := quotes opened (by simp [Cause.quotes])
    delta message
    simp only [toString, flat_append, named, spelled, and_true]
    and_intros <;> exact flat_ofList (by decide)
  | unfilled slot =>
    delta message
    simp only [toString, flat_append, Slot.flat_expectation quotes, described, and_true, true_and]
    and_intros <;> exact flat_ofList (by decide)
  | forbidden feature =>
    cases feature with
    | endOfFileLiteral => exact flat_ofList (by decide)
    | _ =>
      delta message
      simp only [toString, flat_append, spelled, and_true]
      and_intros <;> exact flat_ofList (by decide)
  | noExpression | noCaseValue | integerRange | unknownType | trailing =>
    delta message
    simp only [toString, flat_append, described, spelled, and_true]
    and_intros <;> exact flat_ofList (by decide)
  | _ => exact flat_ofList (by decide)

/-- The message of a remark is a single line if the texts it quotes are. -/
theorem Remark.flat_message {remark : Remark} (quotes : ∀ text ∈ remark.quotes, Flat text) :
    Flat remark.message := by
  cases remark with
  | looseRange => exact flat_ofList (by decide)
  | _ =>
    simp only [Remark.quotes, List.forall_mem_cons] at quotes
    delta message
    simp only [toString, flat_append, quotes, and_true]
    and_intros <;> exact flat_ofList (by decide)

/-- A complaint is a single line if its names are. -/
theorem Complaint.flat_message {complaint : Complaint}
    (kept : complaint.renamed unflattened = complaint) : Flat complaint.message := by
  cases complaint with
  | undeclaredVariable | undeclaredFunction | argumentCount | argumentType | returnType
  | redeclaredGlobal | redeclaredLocal =>
    simp only [renamed, undeclaredVariable.injEq, undeclaredFunction.injEq, argumentCount.injEq,
      argumentType.injEq, returnType.injEq, redeclaredGlobal.injEq, redeclaredLocal.injEq, true_and,
      unflattened_eq_self] at kept
    delta message
    simp only [toString, flat_append, kept, flat_ty, and_true]
    and_intros <;> exact flat_ofList (by decide)
  | literalSelector => exact flat_ofList (by decide)
  | _ =>
    delta message
    simp only [toString, flat_append, flat_ty, flat_kind, flat_statement, and_true, true_and]
    and_intros <;> exact flat_ofList (by decide)

/-! ## Scanning -/

/-- A token of a source shows a piece of one line, so its text is a single line. -/
theorem Token.StandsIn.flat {source : SourceFile} {tok : Token} (stands : tok.StandsIn source) :
    Flat tok.text := by
  obtain ⟨line, found, shown⟩ := stands.shown
  unfold Flat
  rw [← shown]
  intro member
  exact newline_notMem_line found (List.mem_of_mem_take (List.mem_of_mem_drop member))

/-- The one cause of scanning that quotes anything quotes the character it is about, which is no line
end. -/
theorem Piece.quotes_flat (nested : Bool) (c : Char) (rest : List Char) :
    ∀ cause ∈ (recognise nested c rest).cause, ∀ text ∈ cause.quotes, Flat text := by
  refine recognise_elim nested c rest (motive := fun piece =>
      ∀ cause ∈ piece.cause, ∀ text ∈ cause.quotes, Flat text)
    ?word ?lineComment ?comment ?newline ?blank ?integer ?quoted ?string ?mark ?unknown
  case comment =>
    intro _
    unfold comment
    split <;> simp [Cause.quotes]
  case quoted =>
    intro _
    unfold quoted
    split
    · split <;> simp [Cause.quotes]
    · simp [Cause.quotes]
  case string =>
    intro _
    unfold string
    dsimp only
    split <;> simp [Cause.quotes]
  case unknown =>
    intro other
    simpa [Cause.quotes, Flat] using Ne.symm other
  all_goals simp [run, word]

/-- Faults of scanning are reported in single lines. -/
theorem Scanner.flat_fault {nested : Bool} {index : Int} {source : SourceFile} {fault : Fault}
    (wrong : (Scanner.ofSource index nested source).fault? = some fault) : Flat fault.message := by
  apply Cause.flat_message (Analysis.fault_standsIn wrong).flat
  obtain ⟨count, -, -, -, -, last⟩ := Scanner.exists_stop (.ofSource index nested source)
  obtain ⟨cause, blamed, rfl⟩ := Option.map_eq_some_iff.mp (last.symm.trans wrong)
  cases ahead : ((Scanner.ofSource index nested source).after count).rest with
  | nil =>
    rw [Scanner.call, Scanner.next_at_end ahead] at blamed
    cases blamed
  | cons c rest =>
    rw [Scanner.call, Scanner.next_of_rest ahead] at blamed
    exact Piece.quotes_flat _ c rest cause blamed

/-! ## Checking -/

/-- All texts that a remark quotes are renamed with the names of a program. -/
def Remark.IsRenamed (remark : Remark) : Prop :=
  ∀ rename, (remark.renamed rename).quotes = remark.quotes.map rename

namespace Checker

/-- Checking remarks on declarations only. -/
def Declares (checker : Checker) : Prop := ∀ notice ∈ checker.notices, notice.remark.IsRenamed

/-- A remark on a declaration is added. -/
theorem Declares.note {checker : Checker} (known : checker.Declares) (tok : Token) {remark : Remark}
    (renamed : remark.IsRenamed) : (checker.note tok remark).Declares := by
  refine List.forall_mem_append.mpr ⟨known, ?_⟩
  unfold Notice.raised
  split
  · exact List.forall_mem_singleton.mpr renamed
  · exact List.forall_mem_nil _

/-- Declaring a global adds no remark. -/
theorem Declares.declareGlobal {checker : Checker} (known : checker.Declares) (declared : Variable) :
    (checker.declareGlobal declared).Declares := by
  unfold Checker.declareGlobal
  split
  · exact known
  · dsimp only
    split <;> exact known

/-- Declaring a local adds remarks on declarations only. -/
theorem Declares.declareLocal {checker : Checker} (known : checker.Declares) (role : Role)
    (declared : Variable) : (checker.declareLocal role declared).Declares := by
  unfold Checker.declareLocal
  dsimp only
  split
  · exact known
  · split
    · exact known.note declared.tok fun _ => rfl
    · exact known

/-- A step that adds remarks on declarations only does so over a whole list. -/
theorem Declares.foldl {α : Type} (step : Checker → α → Checker)
    (each : ∀ checker value, checker.Declares → (step checker value).Declares) (values : List α)
    {checker : Checker} (known : checker.Declares) : (values.foldl step checker).Declares :=
  List.foldlRecOn values step known fun checker held value _ => each checker value held

/-- Checking a function adds remarks on declarations only. -/
theorem Declares.checkFunction {checker : Checker} (known : checker.Declares) (function : Function) :
    (checker.checkFunction function).2.Declares := by
  have locals (role : Role) := foldl (Checker.declareLocal role) fun _ declared held =>
    held.declareLocal role declared
  have types := foldl declareLocalType fun _ _ held => held
  let entered : Checker :=
    { checker with scope := (checker.scope.addGlobal (.ofFunction function)).enter function }
  have start : entered.Declares := known
  have declared := locals .var function.locals
    (types function.types (locals .parameter function.params start))
  rw [Typing.checkFunction_eq]
  dsimp only
  split
  · exact declared
  · exact declared.note function.tok fun _ => rfl

/-- Checking functions adds remarks on declarations only. -/
theorem Declares.checkFunctions {checker : Checker} (known : checker.Declares)
    (functions : List Function) : (checker.checkFunctions functions).2.Declares := by
  induction functions generalizing checker with
  | nil => exact known
  | cons function functions inductionHypothesis =>
    exact inductionHypothesis (known.checkFunction function)

/-- Checking a program makes remarks on declarations only. -/
theorem declares_check (checker : Checker) (program : Program) :
    (checker.check program).2.Declares := by
  have start : Declares checker.reset := List.forall_mem_nil _
  have types := start.foldl declareType (fun _ _ held => held) program.types
  have vars := types.foldl Checker.declareGlobal (fun _ declared held => held.declareGlobal declared)
    program.vars
  exact vars.checkFunctions program.functions

end Checker

/-! ## Names of a program -/

namespace Shape

variable {rename : String → String}

/-- The lexicon of the names that a renaming leaves alone. -/
def Lexicon.unchanged (rename : String → String) : Lexicon where
  name text := rename text = text
  integer _ := True
  character _ := True
  output text := rename text = text
  read text := rename text = text

/-- What is changed nowhere in a list leaves the list alone. -/
theorem map_unchanged {α : Type} {change : α → α} {items : List α}
    (each : ∀ item ∈ items, change item = item) : items.map change = items :=
  (List.map_congr_left each).trans (List.map_id' items)

/-- A name that is left alone. -/
theorem name_unchanged {node : Node} (shape : IsName (.unchanged rename) node) :
    node.renamed rename = node := by
  cases shape with
  | name spelled => rw [Node.renamed, spelled]

/-- An expression whose names are left alone. -/
theorem expression_unchanged {node : Node} (shape : IsExpression (.unchanged rename) node) :
    node.renamed rename = node := by
  induction shape with
  | literal written => cases written <;> rw [Node.renamed]
  | name written => exact name_unchanged written
  | call named given inductionHypothesis =>
    rw [Node.renamed, Node.renamedAll_eq_map, named, map_unchanged inductionHypothesis]
  | binary binds before behind left right => rw [Node.renamed, left, right]
  | unary applies only operand => rw [Node.renamed, operand]

/-- An assignment whose names are left alone. -/
theorem assignment_unchanged {node : Node} (shape : IsAssignment (.unchanged rename) node) :
    node.renamed rename = node := by
  cases shape with
  | assign named written =>
    rw [Node.renamed, name_unchanged named, expression_unchanged written]

/-- A statement whose names are left alone. -/
theorem statement_unchanged {node : Node} (shape : IsStatement (.unchanged rename) node) :
    node.renamed rename = node := by
  induction shape with
  | assignment assigned => exact assignment_unchanged assigned
  | exchange before behind => rw [Node.renamed, name_unchanged before, name_unchanged behind]
  | output named some given =>
    rw [Node.renamed, Node.renamedAll_eq_map, named,
      map_unchanged fun arg member => expression_unchanged (given arg member)]
  | read named some given =>
    rw [Node.renamed, Node.renamedAll_eq_map, named,
      map_unchanged fun arg member => name_unchanged (given arg member)]
  | conditional tested held failed thenBody elseBody =>
    rw [Node.renamed, Node.renamedAll_eq_map, Node.renamedAll_eq_map, expression_unchanged tested,
      map_unchanged thenBody, map_unchanged elseBody]
  | forLoop begun tested stepped held body =>
    rw [Node.renamed, Node.renamedAll_eq_map, assignment_unchanged begun, expression_unchanged tested,
      assignment_unchanged stepped, map_unchanged body]
  | whileLoop tested held body =>
    rw [Node.renamed, Node.renamedAll_eq_map, expression_unchanged tested, map_unchanged body]
  | repeatLoop held tested body =>
    rw [Node.renamed, Node.renamedAll_eq_map, expression_unchanged tested, map_unchanged body]
  | @caseOf _ _ clauses _ selected lows highs held remaining bodies otherwise =>
    have each : ∀ clause ∈ clauses, clause.renamed rename = clause := by
      intro clause member
      have high : clause.high.renamed rename = clause.high := by
        rcases highs clause member with missing | value
        · rw [missing, Node.renamed]
        · exact expression_unchanged value.expression
      rw [Clause.renamed, expression_unchanged (lows clause member).expression, high,
        map_unchanged (bodies clause member)]
    rw [Node.renamed, Node.renamedAll_eq_map, Node.renamedClauses_eq_map, expression_unchanged selected,
      map_unchanged each, map_unchanged otherwise]
  | returnOf given => rw [Node.renamed, expression_unchanged given]

section Declarations

variable {known : List String} {visibility : Visibility}

/-- A reference to a type whose name is left alone. -/
theorem typeRef_unchanged {type : TypeRef} (spared : ∀ name ∈ known, rename name = name)
    (shape : IsTypeRef known type) : type.renamed rename = type := by
  cases shape with
  | predefined => rfl
  | declared other listed => exact congrArg TypeRef.named (spared _ listed)

/-- A variable whose names are left alone. -/
theorem variable_unchanged {declared : Variable} (spared : ∀ name ∈ known, rename name = name)
    (shape : IsVariable (.unchanged rename) known visibility declared) :
    declared.renamed rename = declared := by
  rw [Variable.renamed, shape.name, typeRef_unchanged spared shape.type]

/-- A type whose names are left alone. -/
theorem typeDef_unchanged {definition : TypeDef}
    (shape : IsTypeDef (.unchanged rename) visibility definition) :
    definition.renamed rename = definition := by
  rw [TypeDef.renamed, shape.name, map_unchanged shape.values]

/-- The names of types are left alone with the types. -/
theorem names_spared {types : List TypeDef}
    (shape : ∀ definition ∈ types, IsTypeDef (.unchanged rename) visibility definition) :
    ∀ name ∈ types.map TypeDef.name, rename name = name :=
  List.forall_mem_map.mpr fun definition member => (shape definition member).name

/-- A function whose names are left alone. -/
theorem function_unchanged {function : Function} (spared : ∀ name ∈ known, rename name = name)
    (shape : IsFunction (.unchanged rename) known function) : function.renamed rename = function := by
  have own := List.forall_mem_append.mpr ⟨names_spared shape.types, spared⟩
  rw [Function.renamed, shape.name, typeRef_unchanged spared shape.result,
    map_unchanged fun declared member => variable_unchanged spared (shape.params declared member),
    map_unchanged fun definition member => typeDef_unchanged (shape.types definition member),
    map_unchanged fun declared member => variable_unchanged own (shape.locals declared member),
    map_unchanged fun stmt member => statement_unchanged (shape.body stmt member)]

/-- A program whose names are left alone. -/
theorem program_unchanged {program : Program} (shape : IsProgram (.unchanged rename) program) :
    program.renamed rename = program := by
  have spared := names_spared shape.types
  rw [Program.renamed,
    map_unchanged fun definition member => typeDef_unchanged (shape.types definition member),
    map_unchanged fun declared member => variable_unchanged spared (shape.vars declared member),
    map_unchanged fun function member => function_unchanged spared (shape.functions function member),
    map_unchanged fun stmt member => statement_unchanged (shape.body stmt member)]

end Declarations

end Shape

/-- A program is left alone by a renaming that leaves the texts of its tokens alone. -/
theorem Program.unchanged_of_read {rename : String → String} {settings : Settings}
    {tokens : List Token} (spared : ∀ tok ∈ tokens, rename tok.text = tok.text) {program : Program}
    {cursor : Cursor} (run : ofTokens settings tokens = .ok program cursor) :
    program.renamed rename = program := by
  apply Shape.program_unchanged
  refine shape_of_read (fun tok member => ?_) run
  exact ⟨fun _ => spared tok member, fun _ _ _ => trivial, fun _ _ _ => trivial,
    fun _ => spared tok member, fun _ => spared tok member⟩

/-! ## Whole sources -/

/-- All that is found in a source is said in a line. -/
structure Analysis.SaysFlat (analysis : Analysis) : Prop where
  fault : ∀ fault ∈ analysis.fault?, Flat fault.message
  notices : ∀ notice ∈ analysis.notices, Flat notice.remark.message
  diagnostics : ∀ diagnostic ∈ analysis.diagnostics, Flat diagnostic.message

/-- A remark on a declaration that the renaming leaves alone quotes single lines, so it is one. -/
theorem Remark.flat_of_renamed {remark : Remark} (renamed : remark.IsRenamed)
    (kept : remark.renamed unflattened = remark) : Flat remark.message := by
  apply Remark.flat_message
  have same := renamed unflattened
  rw [kept] at same
  intro text member
  exact unflattened_eq_self.mp
    (List.map_eq_map_iff.mp (same.symm.trans (List.map_id' _).symm) text member)

/-- Checking says in a line what there is to say about a program whose names are such. -/
theorem Checker.flat_check (shown : Warning → Bool) {program : Program}
    (kept : program.renamed unflattened = program) :
    (∀ notice ∈ (check { shown } program).2.notices, Flat notice.remark.message) ∧
      ∀ diagnostic ∈ (check { shown } program).2.diagnostics, Flat diagnostic.message := by
  have predefined (name : String) (flat : Flat name) : unflattened name = name :=
    unflattened_eq_self.mpr flat
  have run := Typing.run_renamed unflattened_injective (predefined discard (by decide))
    (predefined "read" (by decide)) (predefined "output" (by decide)) { shown } program
  rw [kept] at run
  have notices := congrArg (fun checked => checked.2.notices) run
  have diagnostics := congrArg (fun checked => checked.2.diagnostics) run
  constructor
  · intro notice member
    have fixed := List.map_eq_map_iff.mp (notices.symm.trans (List.map_id' _).symm) notice member
    exact Remark.flat_of_renamed (declares_check { shown } program notice member)
      (congrArg Notice.remark fixed)
  · intro diagnostic member
    have fixed :=
      List.map_eq_map_iff.mp (diagnostics.symm.trans (List.map_id' _).symm) diagnostic member
    exact Complaint.flat_message (congrArg Diagnostic.complaint fixed)

/-- Remarks that quote texts of tokens are made in a line if these texts are without line ends. -/
theorem Notice.flat_of_about {notices : List Notice}
    (about : AllAbout (fun tok => Flat tok.text) notices) :
    ∀ notice ∈ notices, Flat notice.remark.message := by
  intro notice member
  apply Remark.flat_message
  intro text quoted
  obtain ⟨tok, flat, rfl⟩ := (about notice member).2 text quoted
  exact flat

/-- Whatever is found in a source is said in a line.

Proof: the texts of its tokens are without line ends, and parsing quotes these texts only. The renaming
of all other texts leaves the program alone that was read; hence it leaves alone everything that
checking says about it. -/
theorem Analysis.ofSource_saysFlat (settings : Settings) (index : Int) (source : SourceFile) :
    (ofSource settings index source.content).SaysFlat := by
  cases found : (Scanner.ofSource index (settings.feature .nestedComments) source).fault? with
  | some fault =>
    rw [ofSource_of_fault found]
    constructor
    case fault =>
      rintro _ ⟨rfl⟩
      exact Scanner.flat_fault found
    case notices => simp [Analysis.notices]
    case diagnostics => simp [Analysis.diagnostics]
  | none =>
    have stand := Scanner.tokens_standIn index (settings.feature .nestedComments) source
    have atEnd : Flat (Cursor.ofTokens
        (Scanner.ofSource index (settings.feature .nestedComments) source).tokens
        settings.warning).stop.text := by
      rw [Program.ofTokens_stop_text]
      decide
    have about := Program.ofTokens_about (fun tok => Flat tok.text) settings
      (fun tok member => (stand tok member).flat) atEnd (by decide)
    rw [ofSource_of_sound found]
    cases read : Program.ofTokens settings
        (Scanner.ofSource index (settings.feature .nestedComments) source).tokens with
    | failed fault place notices =>
      rw [read] at about
      obtain ⟨spelled, quotes, notices⟩ := about
      constructor
      case fault =>
        rintro _ ⟨rfl⟩
        apply Cause.flat_message spelled
        intro text quoted
        obtain ⟨tok, flat, rfl⟩ := quotes text quoted
        exact flat
      case notices => exact Notice.flat_of_about notices
      case diagnostics => simp [ofReply, Analysis.diagnostics]
    | crashed literal notices =>
      rw [read] at about
      constructor
      case fault => simp [ofReply, Analysis.fault?]
      case notices => exact Notice.flat_of_about about.2.2
      case diagnostics => simp [ofReply, Analysis.diagnostics]
    | ok program cursor =>
      rw [read] at about
      have kept : program.renamed unflattened = program := Program.unchanged_of_read
        (fun tok member => unflattened_eq_self.mpr (stand tok member).flat) read
      obtain ⟨notices, diagnostics⟩ := Checker.flat_check settings.warning kept
      constructor
      case fault => simp [ofReply, Analysis.fault?]
      case notices =>
        exact List.forall_mem_append.mpr ⟨Notice.flat_of_about about.1, notices⟩
      case diagnostics => exact diagnostics

end WinZig
