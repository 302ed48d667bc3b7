import Mathlib
import WinZig.Parser.Program

/-!
# The grammar of programs

A rule relates a sequence of tokens to the value it stands for. Every relation here is stated on
tokens alone: no cursor, no order of trial and no look-ahead. What a parser decides by looking at
the next token is left to the derivations, except for one choice that the productions themselves
leave open. A conditional may lack its `else`, so a statement carries a flag that says whether it
may stand directly before an `else`; a conditional without one may not. This is the rule that an
`else` belongs to the nearest conditional that lacks one.

Values are exact: a derivation fixes every token a node is anchored at, and where a declaration is
visible. Type names are resolved against the names known at their place, and the features that are
switched on are a parameter.
-/

namespace WinZig.Grammar

/-- What a sequence of tokens stands for. -/
abbrev Rule (α : Type) := List Token → α → Prop

section Combinators

variable {α : Type}

/-- One or more items with a mark between them. -/
inductive Separated (mark : Kind) (item : Rule α) : Rule (List α)
  | one {tokens value} (only : item tokens value) : Separated mark item tokens [value]
  | more {tokens value tok rest values} (first : item tokens value) (marked : tok.kind = mark)
      (others : Separated mark item rest values) :
      Separated mark item (tokens ++ tok :: rest) (value :: values)

/-- Any number of items, one right behind the other. -/
inductive Repeated (item : Rule α) : Rule (List α)
  | none : Repeated item [] []
  | more {tokens value rest values} (first : item tokens value)
      (others : Repeated item rest values) : Repeated item (tokens ++ rest) (value :: values)

/-- A list that may be left out, which stands for no members. -/
inductive Optional (item : Rule (List α)) : Rule (List α)
  | absent : Optional item [] []
  | present {tokens values} (list : item tokens values) : Optional item tokens values

end Combinators

/-- A single token of a given kind, standing for itself. -/
inductive Single (kind : Kind) : Rule Token
  | token {tok : Token} (spelled : tok.kind = kind) : Single kind [tok] tok

/-- The name of a variable. -/
inductive Name : Rule Node
  | name {tok : Token} (spelled : tok.kind = .identifier) :
      Name [tok] (.name tok .unknown tok.text)

/-- Literals. An integer has to fit in 64 bits; the value of a character stands behind the opening
quote. -/
inductive Literal : Rule Node
  | integer {tok : Token} {value : Int} (spelled : tok.kind = .integer)
      (fits : Text.int64? tok.text = some value) : Literal [tok] (.integer tok .unknown value)
  | character {tok : Token} {quote value : Char} {others : List Char}
      (spelled : tok.kind = .character) (quoted : tok.text.toList = quote :: value :: others) :
      Literal [tok] (.character tok .unknown value)
  | truth {tok : Token} (spelled : tok.kind = .trueWord) : Literal [tok] (.boolean tok .unknown true)
  | falsity {tok : Token} (spelled : tok.kind = .falseWord) :
      Literal [tok] (.boolean tok .unknown false)

/-- The binary operators of each level, from the loosest to the tightest. -/
def operators : (level : Nat) → List Kind
  | 20 => [.orWord]
  | 30 => [.andWord]
  | 40 => [.less, .lessEqual, .greater, .greaterEqual, .equal, .notEqual]
  | 50 => [.plus, .minus]
  | 60 => [.star, .slash, .modWord]
  | _ => []

/-- An operator is read at the level of which it is. -/
theorem mem_operators {kind : Kind} {level : Nat} :
    kind ∈ operators level ↔ kind.level? = some level := by
  constructor
  · intro member
    unfold operators at member
    split at member <;> simp only [List.mem_cons, List.not_mem_nil, or_false] at member
    · exact member ▸ rfl
    · exact member ▸ rfl
    · rcases member with rfl | rfl | rfl | rfl | rfl | rfl <;> rfl
    · rcases member with rfl | rfl <;> rfl
    · rcases member with rfl | rfl | rfl <;> rfl
  · intro binds
    cases kind <;> simp [Kind.level?] at binds <;> subst binds <;> decide

/-- The kinds of prefix operators that the features admit. -/
def isUnary (enabled : Feature → Bool) : Kind → Bool
  | .minus | .plus | .notWord | .succWord | .predWord => true
  | .chrWord | .ordWord => enabled .ordinalFunctions
  | _ => false

mutual

/-- An expression all of whose outer binary operators are of at least the level `floor`. The left
operand of an operator may hold operators of the same level, the right operand only tighter ones:
every level is left associative. -/
inductive Expression (enabled : Feature → Bool) : (floor : Nat) → Rule Node
  | operand {floor tokens node} (only : Operand enabled tokens node) :
      Expression enabled floor tokens node
  | binary {floor level left leftNode op right rightNode} (binds : op.kind ∈ operators level)
      (admitted : floor ≤ level) (before : Expression enabled level left leftNode)
      (behind : Expression enabled (level + 1) right rightNode) :
      Expression enabled floor (left ++ op :: right)
        (.binary op .unknown op.kind leftNode rightNode)

/-- An operand. A prefix operator takes the operand right behind it and nothing more. -/
inductive Operand (enabled : Feature → Bool) : Rule Node
  | literal {tokens node} (written : Literal tokens node) : Operand enabled tokens node
  | endOfFile {tok : Token} (spelled : tok.kind = .eofWord)
      (admitted : enabled .endOfFileLiteral = true) :
      Operand enabled [tok] (.boolean tok .unknown false)
  | name {tokens node} (written : Name tokens node) : Operand enabled tokens node
  | call {callee opening args nodes closing} (named : callee.kind = .identifier)
      (opened : opening.kind = .openParen)
      (given : Optional (Separated .comma (Expression enabled 0)) args nodes)
      (closed : closing.kind = .closeParen) :
      Operand enabled (callee :: opening :: (args ++ [closing]))
        (.call callee .unknown callee.text nodes)
  | group {opening inner node closing} (opened : opening.kind = .openParen)
      (enclosed : Expression enabled 0 inner node) (closed : closing.kind = .closeParen) :
      Operand enabled (opening :: (inner ++ [closing])) node
  | unary {op tokens node} (applies : isUnary enabled op.kind = true)
      (only : Operand enabled tokens node) :
      Operand enabled (op :: tokens) (.unary op .unknown op.kind node)

end

/-- A value that a case clause may name. -/
inductive CaseValue : Rule Node
  | literal {tokens node} (written : Literal tokens node) : CaseValue tokens node
  | name {tokens node} (written : Name tokens node) : CaseValue tokens node

/-- The upper bound of a case clause, missing where the clause names a single value. -/
inductive UpperBound : Rule Node
  | absent : UpperBound [] .missing
  | present {dots bound node} (ranged : dots.kind = .dotDot) (written : CaseValue bound node) :
      UpperBound (dots :: bound) node

/-- An assignment. -/
inductive Assignment (enabled : Feature → Bool) : Rule Node
  | assign {target targetNode sign value node} (named : Name target targetNode)
      (signed : sign.kind = .assign) (written : Expression enabled 0 value node) :
      Assignment enabled (target ++ sign :: value) (.assign sign targetNode node)

mutual

/-- A statement, as the statements it contributes to the list around it: none for the empty one,
its own for a compound one. `beforeElse` says that it may stand directly before an `else`. -/
inductive Statement (enabled : Feature → Bool) : (beforeElse : Bool) → Rule (List Node)
  | empty {beforeElse} : Statement enabled beforeElse [] []
  | assignment {beforeElse tokens node} (assigned : Assignment enabled tokens node) :
      Statement enabled beforeElse tokens [node]
  | exchange {beforeElse left leftNode sign right rightNode} (before : Name left leftNode)
      (signed : sign.kind = .swap) (behind : Name right rightNode) :
      Statement enabled beforeElse (left ++ sign :: right) [.swap sign leftNode rightNode]
  | output {beforeElse word opening args nodes closing} (written : word.kind = .outputWord)
      (opened : opening.kind = .openParen)
      (given : Separated .comma (Expression enabled 0) args nodes)
      (closed : closing.kind = .closeParen) :
      Statement enabled beforeElse (word :: opening :: (args ++ [closing]))
        [.call word .unknown word.text nodes]
  | read {beforeElse word opening args nodes closing} (written : word.kind = .readWord)
      (opened : opening.kind = .openParen) (given : Separated .comma Name args nodes)
      (closed : closing.kind = .closeParen) :
      Statement enabled beforeElse (word :: opening :: (args ++ [closing]))
        [.call word .unknown word.text nodes]
  | ifThen {word condition node consequence body nodes} (written : word.kind = .ifWord)
      (tested : Expression enabled 0 condition node) (follows : consequence.kind = .thenWord)
      (held : Statement enabled false body nodes) :
      Statement enabled false (word :: (condition ++ consequence :: body))
        [.conditional word node nodes []]
  | ifThenElse {beforeElse word condition node consequence body nodes alternative other others}
      (written : word.kind = .ifWord) (tested : Expression enabled 0 condition node)
      (follows : consequence.kind = .thenWord) (held : Statement enabled true body nodes)
      (alternates : alternative.kind = .elseWord)
      (failed : Statement enabled beforeElse other others) :
      Statement enabled beforeElse
        (word :: (condition ++ consequence :: (body ++ alternative :: other)))
        [.conditional word node nodes others]
  | whileLoop {beforeElse word condition node consequence body nodes}
      (written : word.kind = .whileWord) (tested : Expression enabled 0 condition node)
      (follows : consequence.kind = .doWord) (held : Statement enabled beforeElse body nodes) :
      Statement enabled beforeElse (word :: (condition ++ consequence :: body))
        [.whileLoop word node nodes]
  | repeatLoop {beforeElse word body lists closing condition node}
      (written : word.kind = .repeatWord)
      (held : Separated .semicolon (Statement enabled false) body lists)
      (closed : closing.kind = .untilWord) (tested : Expression enabled 0 condition node) :
      Statement enabled beforeElse (word :: (body ++ closing :: condition))
        [.repeatLoop word lists.flatten node]
  | forLoop {beforeElse word opening start startNode first condition node second step stepNode
      closing body nodes} (written : word.kind = .forWord) (opened : opening.kind = .openParen)
      (begun : Assignment enabled start startNode) (divided : first.kind = .semicolon)
      (tested : Expression enabled 0 condition node) (dividedAgain : second.kind = .semicolon)
      (stepped : Assignment enabled step stepNode) (closed : closing.kind = .closeParen)
      (held : Statement enabled beforeElse body nodes) :
      Statement enabled beforeElse
        (word :: opening :: (start ++ first :: (condition ++ second :: (step ++ closing :: body))))
        [.forLoop word startNode node stepNode nodes]
  | caseOf {beforeElse word selector node consequence clauses clauseNodes rest restNodes closing}
      (written : word.kind = .caseWord) (selected : Expression enabled 0 selector node)
      (follows : consequence.kind = .ofWord)
      (listed : Repeated (CaseClause enabled) clauses clauseNodes)
      (remaining : Optional (Otherwise enabled) rest restNodes)
      (closed : closing.kind = .endWord) :
      Statement enabled beforeElse
        (word :: (selector ++ consequence :: (clauses ++ (rest ++ [closing]))))
        [.caseOf word node clauseNodes restNodes]
  | returnOf {beforeElse word value node} (written : word.kind = .returnWord)
      (given : Expression enabled 0 value node) :
      Statement enabled beforeElse (word :: value) [.returnOf word node]
  | compound {beforeElse tokens nodes} (enclosed : Body enabled tokens nodes) :
      Statement enabled beforeElse tokens nodes

/-- A body: statements between `begin` and `end`, flattened. -/
inductive Body (enabled : Feature → Bool) : Rule (List Node)
  | enclosed {opening body lists closing} (opened : opening.kind = .beginWord)
      (held : Separated .semicolon (Statement enabled false) body lists)
      (closed : closing.kind = .endWord) :
      Body enabled (opening :: (body ++ [closing])) lists.flatten

/-- A clause of a case statement. -/
inductive CaseClause (enabled : Feature → Bool) : Rule (Clause Node)
  | clause {low lowNode bound highNode colon body nodes semicolon}
      (value : CaseValue low lowNode) (upper : UpperBound bound highNode)
      (divided : colon.kind = .colon) (held : Statement enabled false body nodes)
      (closed : semicolon.kind = .semicolon) :
      CaseClause enabled (low ++ (bound ++ colon :: (body ++ [semicolon])))
        ⟨lowNode, highNode, nodes⟩

/-- What a case statement does when no clause applies. A semicolon may follow. -/
inductive Otherwise (enabled : Feature → Bool) : Rule (List Node)
  | bare {word body nodes} (written : word.kind = .otherwiseWord)
      (held : Statement enabled false body nodes) : Otherwise enabled (word :: body) nodes
  | closed {word body nodes semicolon} (written : word.kind = .otherwiseWord)
      (held : Statement enabled false body nodes) (ended : semicolon.kind = .semicolon) :
      Otherwise enabled (word :: (body ++ [semicolon])) nodes

end

/-- The types that need no definition. -/
def primitives : List (String × Ty) :=
  [("integer", .integer), ("boolean", .boolean), ("char", .char)]

/-- The primitive types are the predefined names with their types. -/
theorem mem_primitives {text : String} {tag : Ty} :
    (text, tag) ∈ primitives ↔ Ty.predefined? text = some tag := by
  unfold Ty.predefined?
  split <;> simp_all [primitives, eq_comm]

/-- A type name: a predefined type, or one of the known names. -/
inductive TypeName (known : List String) : Rule TypeRef
  | predefined {tok : Token} {tag : Ty} (spelled : tok.kind = .identifier)
      (found : (tok.text, tag) ∈ primitives) : TypeName known [tok] (.plain tag)
  | declared {tok : Token} (spelled : tok.kind = .identifier)
      (other : ∀ tag, (tok.text, tag) ∉ primitives) (listed : tok.text ∈ known) :
      TypeName known [tok] (.named tok.text)

/-- Names with one type, as one declaration for each name. -/
inductive Declaration (visibility : Visibility) (known : List String) : Rule (List Variable)
  | typed {names toks colon typeName type} (listed : Separated .comma (Single .identifier) names toks)
      (divided : colon.kind = .colon) (named : TypeName known typeName type) :
      Declaration visibility known (names ++ colon :: typeName)
        (toks.map fun tok => { name := tok.text, type, tok, visibility })

/-- A declaration closed by a semicolon. -/
inductive DeclarationLine (visibility : Visibility) (known : List String) : Rule (List Variable)
  | line {tokens vars semicolon} (declared : Declaration visibility known tokens vars)
      (ended : semicolon.kind = .semicolon) :
      DeclarationLine visibility known (tokens ++ [semicolon]) vars

/-- A section of variable declarations. -/
inductive Variables (visibility : Visibility) (known : List String) : Rule (List Variable)
  | listed {word first firstVars rest lists} (written : word.kind = .varWord)
      (line : DeclarationLine visibility known first firstVars)
      (lines : Repeated (DeclarationLine visibility known) rest lists) :
      Variables visibility known (word :: (first ++ rest)) (firstVars ++ lists.flatten)

/-- The definition of an enumerated type. -/
inductive TypeDefinition (visibility : Visibility) : Rule TypeDef
  | enumerated {name sign opening values toks closing semicolon} (named : name.kind = .identifier)
      (signed : sign.kind = .equal) (opened : opening.kind = .openParen)
      (listed : Separated .comma (Single .identifier) values toks)
      (closed : closing.kind = .closeParen) (ended : semicolon.kind = .semicolon) :
      TypeDefinition visibility (name :: sign :: opening :: (values ++ [closing, semicolon]))
        { name := name.text, values := toks.map Token.text, tok := name, visibility }

/-- A section of type definitions. -/
inductive Types (visibility : Visibility) : Rule (List TypeDef)
  | listed {word first firstDef rest defs} (written : word.kind = .typeWord)
      (definition : TypeDefinition visibility first firstDef)
      (definitions : Repeated (TypeDefinition visibility) rest defs) :
      Types visibility (word :: (first ++ rest)) (firstDef :: defs)

/-- A function, closed under its own name. Parameters and result may name the types of the program,
variables those of the function as well. -/
inductive FunctionDefinition (enabled : Feature → Bool) (known : List String) : Rule Function
  | function {word name opening params lists closing colon resultName result semicolon typeTokens
      types varTokens locals bodyTokens body endName ending} (written : word.kind = .functionWord)
      (named : name.kind = .identifier) (opened : opening.kind = .openParen)
      (declared : Optional (Separated .semicolon (Declaration .withinFunction known)) params lists)
      (closed : closing.kind = .closeParen) (divided : colon.kind = .colon)
      (resulting : TypeName known resultName result) (headed : semicolon.kind = .semicolon)
      (defined : Optional (Types .withinFunction) typeTokens types)
      (listed : Optional (Variables .withinFunction (types.map TypeDef.name ++ known)) varTokens
        locals)
      (performed : Body enabled bodyTokens body) (closedAs : endName.kind = .identifier)
      (same : endName.text = name.text) (ended : ending.kind = .semicolon) :
      FunctionDefinition enabled known
        (word :: name :: opening :: (params ++ closing :: colon :: (resultName ++ semicolon ::
          (typeTokens ++ (varTokens ++ (bodyTokens ++ [endName, ending]))))))
        { name := name.text, result, params := lists.flatten, types, locals, body, tok := name }

/-- A whole program. The name after its last `end` is free. -/
inductive ProgramText (enabled : Feature → Bool) : Rule Program
  | program {word name colon typeTokens types varTokens vars functionTokens functions bodyTokens
      body endName dot} (written : word.kind = .programWord) (named : name.kind = .identifier)
      (divided : colon.kind = .colon) (defined : Optional (Types .everywhere) typeTokens types)
      (listed : Optional (Variables .everywhere (types.map TypeDef.name)) varTokens vars)
      (declared : Repeated (FunctionDefinition enabled (types.map TypeDef.name)) functionTokens
        functions)
      (performed : Body enabled bodyTokens body) (closedAs : endName.kind = .identifier)
      (ended : dot.kind = .dot) :
      ProgramText enabled
        (word :: name :: colon :: (typeTokens ++ (varTokens ++ (functionTokens ++
          (bodyTokens ++ [endName, dot])))))
        { name := name.text, endName := endName.text, types, vars, functions, body, tok := name }

end WinZig.Grammar
