import WinZig.Proofs.Parsing.Exactness
import WinZig.Proofs.Rendering.Statements

/-!
# Reading what was written

Sections that declare nothing are left out. Every variable has a line of its own, so a program that
shares one type among several names is written differently from how it may have been read, and is
read as the same program.
-/

namespace WinZig.Rendering

open Grammar Lexeme

variable {enabled : Feature → Bool} {visibility : Visibility} {known : List String}

/-! ## Variables -/

/-- The names of predefined types are ordinary names. -/
theorem primitive_renders {text : String} {tag : Ty} (found : (text, tag) ∈ primitives) :
    tag.name = text ∧ written.name text := by
  simp only [primitives, List.mem_cons, Prod.mk.injEq, List.not_mem_nil, or_false] at found
  rcases found with ⟨rfl, rfl⟩ | ⟨rfl, rfl⟩ | ⟨rfl, rfl⟩ <;> refine ⟨rfl, ?_, ?_⟩ <;> decide

/-- References to types are rendered as their names. -/
theorem typeName_renders (legible : ∀ name ∈ known, written.name name) {type : TypeRef}
    (shape : Shape.IsTypeRef known type) : Renders Legible (TypeName known) id [named type.render] type := by
  cases shape with
  | @predefined text tag found =>
    obtain ⟨same, name⟩ := primitive_renders found
    rw [TypeRef.render, same]
    exact .name written_covers name fun tok is spelling => .done (.predefined is (spelling ▸ found)) rfl
  | @declared text other listed =>
    refine .name written_covers (legible text listed) fun tok is spelling => ?_
    subst spelling
    exact .done (.declared is other listed) rfl

/-- Declarations are rendered. -/
theorem declaration_renders (legible : ∀ name ∈ known, written.name name) {declared : Variable}
    (shape : Shape.IsVariable written known visibility declared) :
    Renders Legible (Declaration visibility known) (List.map Variable.unplaced) (declaration declared) [declared] := by
  refine .name written_covers shape.name fun name is spelling => ?_
  refine .word written_covers (by decide) fun _ divided => ?_
  refine (typeName_renders legible shape.type).last fun _ read derived equal => ?_
  refine ⟨[{ name := name.text, type := read, tok := name, visibility }],
    .typed (.one (.token is)) divided derived, ?_⟩
  rw [spelling, show read = declared.type from equal, ← shape.place]
  rfl

/-- Declarations on their lines are rendered. -/
theorem declarationLine_renders (legible : ∀ name ∈ known, written.name name) {declared : Variable}
    (shape : Shape.IsVariable written known visibility declared) :
    Renders Legible (DeclarationLine visibility known) (List.map Variable.unplaced)
      (declaration declared ++ [spelled .semicolon]) [declared] := by
  refine (declaration_renders legible shape).andThen fun _ read derived equal => ?_
  exact .word written_covers (by decide) fun _ ended => .done (.line derived ended) equal

/-- Sections of variables are rendered, and their absence as nothing. -/
theorem variableSection_renders (legible : ∀ name ∈ known, written.name name) {vars : List Variable}
    (shape : ∀ declared ∈ vars, Shape.IsVariable written known visibility declared) :
    Renders Legible (Optional (Variables visibility known)) (List.map Variable.unplaced) (variableSection vars) vars := by
  cases vars with
  | nil => exact .done .absent rfl
  | cons declared vars =>
    obtain ⟨first, others⟩ := List.forall_mem_cons.mp shape
    have lines := repeated_renders (fun declared => declaration declared ++ [spelled .semicolon])
      (fun declared => [declared])
      fun declared member => declarationLine_renders legible (others declared member)
    refine .word written_covers (by decide) fun _ said => ?_
    refine (declarationLine_renders legible first).andThen fun _ read derived equal => ?_
    refine lines.last fun _ lists derivedRest equalRest => ?_
    refine ⟨_, .present (.listed said derived derivedRest), ?_⟩
    rw [List.map_append, equal, flatten_singletons equalRest]
    rfl

/-! ## Types -/

/-- A token as far as its text goes. -/
def textOnly (tok : Token) : Token := { text := tok.text }

/-- Lists of names are rendered. -/
theorem names_renders {names : List String} (some : names ≠ [])
    (legible : ∀ name ∈ names, written.name name) :
    Renders Legible (Separated .comma (Single .identifier)) (List.map textOnly)
      (separated .comma (names.map fun name => [named name]))
      (names.map fun name => { text := name }) := by
  refine separated_renders (fun name => [named name]) (fun name : String => ({ text := name } : Token))
    written_covers (by decide : Kind.comma ∈ _) some fun name member => ?_
  refine .name written_covers (legible name member) fun tok is spelling => .done (.token is) ?_
  rw [textOnly, spelling]
  rfl

/-- Definitions of types are rendered. -/
theorem typeDefinition_renders {definition : TypeDef} (shape : Shape.IsTypeDef written visibility definition) :
    Renders Legible (TypeDefinition visibility) TypeDef.unplaced (typeDefinition definition) definition := by
  refine .name written_covers shape.name fun name is spelling => ?_
  refine .word written_covers (by decide) fun _ signed => ?_
  refine .word written_covers (by decide) fun _ opened => ?_
  refine (names_renders shape.some shape.values).andThen fun _ toks derived equal => ?_
  refine .word written_covers (by decide) fun _ closed => ?_
  refine .word written_covers (by decide) fun _ ended =>
    .done (.enumerated is signed opened derived closed ended) ?_
  have texts : toks.map Token.text = definition.values := by
    have texts := congrArg (List.map Token.text) equal
    simpa [textOnly, Function.comp_def] using texts
  rw [texts, spelling, ← shape.place]
  rfl

/-- Sections of types are rendered, and their absence as nothing. -/
theorem typeSection_renders {types : List TypeDef}
    (shape : ∀ definition ∈ types, Shape.IsTypeDef written visibility definition) :
    Renders Legible (Optional (Types visibility)) (List.map TypeDef.unplaced) (typeSection types) types := by
  cases types with
  | nil => exact .done .absent rfl
  | cons definition types =>
    obtain ⟨head, tail⟩ := List.forall_mem_cons.mp shape
    have others := repeated_renders typeDefinition id
      fun definition member => typeDefinition_renders (tail definition member)
    rw [List.map_id] at others
    refine .word written_covers (by decide) fun _ said => ?_
    refine (typeDefinition_renders head).andThen fun _ read derived equal => ?_
    refine others.last fun _ reads derivedRest equalRest => ?_
    refine ⟨_, .present (.listed said derived derivedRest), ?_⟩
    rw [List.map_cons, equal, equalRest]
    rfl

/-- The tokens of definitions do not matter to the names they define. -/
theorem names_of_unplaced {types types' : List TypeDef}
    (equal : types'.map TypeDef.unplaced = types.map TypeDef.unplaced) :
    types'.map TypeDef.name = types.map TypeDef.name := by
  have names := congrArg (List.map TypeDef.name) equal
  simpa [TypeDef.unplaced, Function.comp_def] using names

/-! ## Functions -/

/-- Lists of parameters are rendered, and their absence as nothing. -/
theorem params_renders (legible : ∀ name ∈ known, written.name name) {params : List Variable}
    (shape : ∀ param ∈ params, Shape.IsVariable written known visibility param) :
    Renders Legible (Optional (Separated .semicolon (Declaration visibility known)))
      (List.map (List.map Variable.unplaced)) (separated .semicolon (params.map declaration))
      (params.map fun param => [param]) := by
  by_cases none : params = []
  · subst none
    exact .done .absent rfl
  · have some := separated_renders declaration (fun param => [param]) written_covers
      (by decide : Kind.semicolon ∈ _) none
      fun param member => declaration_renders legible (shape param member)
    exact some.imp .present

/-- Functions are rendered. -/
theorem function_renders (ordinal : enabled .ordinalFunctions = true)
    (legible : ∀ name ∈ known, written.name name) {func : Function}
    (shape : Shape.IsFunction written known func) :
    Renders Legible (FunctionDefinition enabled known) Function.unplaced (function func) func := by
  have allLegible : ∀ name ∈ func.types.map TypeDef.name ++ known, written.name name := by
    rw [List.forall_mem_append, List.forall_mem_map]
    exact ⟨fun definition member => (shape.types definition member).name, legible⟩
  have body := body_renders fun stmt member => statement_renders ordinal (shape.body stmt member)
  refine .word written_covers (by decide) fun _ said => ?_
  refine .name written_covers shape.name fun _ isName spelling => ?_
  refine .word written_covers (by decide) fun _ opened => ?_
  refine (params_renders legible shape.params).andThen fun _ lists listed paramsEqual => ?_
  refine .word written_covers (by decide) fun _ closed => ?_
  refine .word written_covers (by decide) fun _ divided => ?_
  refine (typeName_renders legible shape.result).andThen fun _ resultRead resulting resultEqual => ?_
  refine .word written_covers (by decide) fun _ headed => ?_
  refine (typeSection_renders shape.types).andThen fun _ typesRead defined typesEqual => ?_
  refine (variableSection_renders allLegible shape.locals).andThen
    fun _ varsRead declared varsEqual => ?_
  -- The names of the types that were read are those of the types that were written.
  rw [← names_of_unplaced typesEqual] at declared
  refine body.andThen fun _ bodyRead performed bodyEqual => ?_
  refine .name written_covers shape.name fun _ isEnd endSpelling => ?_
  refine .word written_covers (by decide) fun _ ended =>
    .done (.function said isName opened listed closed divided resulting headed defined declared
      performed isEnd (endSpelling.trans spelling.symm) ended) ?_
  simp only [Function.unplaced, spelling, show resultRead = func.result from resultEqual,
    flatten_singletons paramsEqual, typesEqual, varsEqual, bodyEqual]

/-! ## Programs -/

/-- Programs are rendered. -/
theorem program_renders (ordinal : enabled .ordinalFunctions = true) {prog : Program}
    (shape : Shape.IsProgram written prog) :
    Renders Legible (ProgramText enabled) Program.unplaced (program prog) prog := by
  have legible : ∀ name ∈ prog.types.map TypeDef.name, written.name name := by
    rw [List.forall_mem_map]
    exact fun definition member => (shape.types definition member).name
  have functions := repeated_renders function id
    fun func member => function_renders ordinal legible (shape.functions func member)
  rw [List.map_id] at functions
  have body := body_renders fun stmt member => statement_renders ordinal (shape.body stmt member)
  refine .word written_covers (by decide) fun _ said => ?_
  refine .name written_covers shape.name fun _ isName spelling => ?_
  refine .word written_covers (by decide) fun _ divided => ?_
  refine (typeSection_renders shape.types).andThen fun _ typesRead defined typesEqual => ?_
  refine (variableSection_renders legible shape.vars).andThen fun _ varsRead listed varsEqual => ?_
  refine functions.andThen fun _ functionsRead declared functionsEqual => ?_
  rw [← names_of_unplaced typesEqual] at listed declared
  refine body.andThen fun _ bodyRead performed bodyEqual => ?_
  refine .name written_covers shape.endName fun _ isEnd endSpelling => ?_
  refine .word written_covers (by decide) fun _ ended =>
    .done (.program said isName divided defined listed declared performed isEnd ended) ?_
  simp only [Program.unplaced, spelling, endSpelling, typesEqual, varsEqual, functionsEqual,
    bodyEqual]

/-- Every program that can be written is read back from its text: from the text with single blanks,
and from any other layout of the same lexemes.

Proof: the lexemes are legible, so scanning gives tokens that say them. The grammar derives the
program from any such tokens, and reading is complete for the grammar. -/
theorem ofTokens_layout (settings : Settings)
    (ordinal : settings.feature .ordinalFunctions = true) (prog : Program) (shape : Shape.IsProgram written prog) :
    Layout (program prog) (spaced (program prog)) ∧
      ∀ scanner : Scanner, Layout (program prog) scanner.rest →
        scanner.fault? = none ∧
        ∃ read cursor, Program.ofTokens settings scanner.tokens = .ok read cursor ∧
          read.unplaced = prog.unplaced := by
  have rendered : Renders Legible (ProgramText settings.feature) Program.unplaced (program prog) prog :=
    program_renders ordinal shape
  refine ⟨layout_spaced _, fun scanner laid => ?_⟩
  obtain ⟨silent, said⟩ := Scanner.reads_of_layout rendered.fits laid scanner rfl rfl
  obtain ⟨read, derived, equal⟩ := rendered.derived scanner.tokens said
  obtain ⟨cursor, run⟩ := Program.ofTokens_of_derived derived
  exact ⟨silent, read, cursor, run, equal⟩

/-- A function that declares a type and a variable of it, behind a variable of the program; a
conditional with an alternative around one without, and operations that need parentheses. -/
def outerElse : Program where
  name := "p"
  endName := "q"
  vars := [⟨"x", .plain .integer, {}, .everywhere⟩]
  functions := [
    { name := "f", result := .plain .char, params := [⟨"x", .plain .integer, {}, .withinFunction⟩]
      types := [⟨"t", ["x"], {}, .withinFunction⟩], locals := [⟨"x", .named "t", {}, .withinFunction⟩]
      body := [.returnOf {} (.character {} .unknown 'c')], tok := {} }]
  body := [
    .conditional {} (.boolean {} .unknown true)
      [.conditional {} (.boolean {} .unknown false)
        [.assign {} (.name {} .unknown "x")
          (.binary {} .unknown .star
            (.binary {} .unknown .minus (.integer {} .unknown 1)
              (.binary {} .unknown .minus (.integer {} .unknown 2) (.integer {} .unknown 3)))
            (.unary {} .unknown .minus (.name {} .unknown "x")))] []]
      [.returnOf {} (.character {} .unknown 'c')]]
  tok := {}

example : String.ofList (spaced (program outerElse)) =
    "program p : var x : integer ; function f ( x : integer ) : char ; type t = ( x ) ; " ++
      "var x : t ; begin return 'c' end f ; begin if true then begin if false then begin " ++
      "x := ( 1 - ( 2 - 3 ) ) * - x end end else begin return 'c' end end q . " := by cbv

/-- The program whose `else` belongs to the outer conditional is one that can be written. -/
theorem outerElse_shape : Shape.IsProgram written outerElse := by
  have x : written.name "x" := ⟨by decide, by decide⟩
  have named : Shape.IsName written (.name {} .unknown "x") := .name x
  have integer (value : Int) (fits : 0 ≤ value ∧ value < 2 ^ 63) :
      Shape.IsExpression written (.integer {} .unknown value) := .literal (.integer fits)
  have difference : Shape.IsExpression written
      (.binary {} .unknown .minus (.integer {} .unknown 2) (.integer {} .unknown 3)) :=
    .binary (by decide : Kind.minus ∈ operators 50) (integer 2 (by decide)) (integer 3 (by decide))
  have product : Shape.IsExpression written
      (.binary {} .unknown .star (.binary {} .unknown .minus (.integer {} .unknown 1)
        (.binary {} .unknown .minus (.integer {} .unknown 2) (.integer {} .unknown 3)))
        (.unary {} .unknown .minus (.name {} .unknown "x"))) :=
    .binary (by decide : Kind.star ∈ operators 60)
      (.binary (by decide : Kind.minus ∈ operators 50) (integer 1 (by decide)) difference)
      (.unary (by decide) (.name named))
  have inner : Shape.IsStatement written
      (.conditional {} (.boolean {} .unknown false)
        [.assign {} (.name {} .unknown "x")
          (.binary {} .unknown .star
            (.binary {} .unknown .minus (.integer {} .unknown 1)
              (.binary {} .unknown .minus (.integer {} .unknown 2) (.integer {} .unknown 3)))
            (.unary {} .unknown .minus (.name {} .unknown "x")))] []) :=
    .conditional (.literal .boolean)
      (List.forall_mem_singleton.mpr (.assignment (.assign named product))) (List.forall_mem_nil _)
  have integerType : Shape.IsTypeRef [] (.plain .integer) :=
    .predefined (by decide : ("integer", Ty.integer) ∈ primitives)
  have function : Shape.IsFunction written [] outerElse.functions[0] := {
    name := ⟨by decide, by decide⟩
    result := .predefined (by decide : ("char", Ty.char) ∈ primitives)
    params := List.forall_mem_singleton.mpr ⟨x, integerType, rfl⟩
    types := List.forall_mem_singleton.mpr
      ⟨⟨by decide, by decide⟩, List.cons_ne_nil _ _, List.forall_mem_singleton.mpr x, rfl⟩
    locals := List.forall_mem_singleton.mpr
      ⟨x, .declared (by simp [primitives]) List.mem_cons_self, rfl⟩
    body := List.forall_mem_singleton.mpr (.returnOf (.literal (.character rfl))) }
  exact {
    name := ⟨by decide, by decide⟩
    endName := ⟨by decide, by decide⟩
    types := List.forall_mem_nil _
    vars := List.forall_mem_singleton.mpr ⟨x, integerType, rfl⟩
    functions := List.forall_mem_singleton.mpr function
    body := List.forall_mem_singleton.mpr
      (.conditional (.literal .boolean) (List.forall_mem_singleton.mpr inner)
        (List.forall_mem_singleton.mpr (.returnOf (.literal (.character rfl))))) }

/-- The alternative is read as that of the outer conditional, as it was written, and every declaration
is visible where it was. -/
theorem ofTokens_layout_outerElse :
    Shape.IsProgram written outerElse ∧
      ∃ read cursor, Program.ofTokens { feature := fun _ => true }
          ({ rest := spaced (program outerElse) } : Scanner).tokens = .ok read cursor ∧
        read.unplaced = outerElse.unplaced := by
  refine ⟨outerElse_shape, ?_⟩
  obtain ⟨laid, reads⟩ := ofTokens_layout { feature := fun _ => true } rfl outerElse outerElse_shape
  exact (reads { rest := spaced (program outerElse) } laid).2

end WinZig.Rendering
