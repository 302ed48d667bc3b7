import WinZig.Proofs.Parsing.Completeness.Expression
import WinZig.Proofs.Relabelling
import WinZig.Proofs.Rendering.Steps

/-!
# Climbing reads back what was printed

An expression is printed with parentheses only where an operand binds too loosely for its place: a
left operand if its operator binds weaker than the one behind it, a right operand if it binds weaker
or equally, the operand of a prefix operator if it is an operation. Any tokens that say what was
printed are derived as that expression, and climbing follows the derivation, so what is read differs
from what was printed only in its tokens.

Texts of names and characters do not matter to a reader of tokens. They are not restricted here to
those that can be scanned.
-/

namespace WinZig.Rendering

open Grammar Lexeme

/-- What tokens can say: integers of 63 bits, and names and characters of any kind. -/
def sayable : Shape.Lexicon where
  name _ := True
  integer value := 0 ≤ value ∧ value < 2 ^ 63
  character _ := True
  output _ := True
  read _ := True

/-- A decimal is read as the number that it was written for. -/
theorem int64?_toString {value : Int} (fits : 0 ≤ value ∧ value < 2 ^ 63) :
    Text.int64? (toString value.toNat) = some value := by
  have digits : ∀ c ∈ Nat.toDigits 10 value.toNat, c.isDigit = true :=
    fun c member => Nat.isDigit_of_mem_toDigits (by decide) (by decide) member
  have number : Text.digitsValue? (Nat.toDigits 10 value.toNat) = some value.toNat := by
    rw [Text.digitsValue?, if_neg (by simpa [Nat.toDigits_ne_nil] using digits)]
    exact congrArg some (Nat.ofDigitChars_toDigits (by decide) (by decide))
  have signed : Text.signedValue? (Nat.toDigits 10 value.toNat) = some value := by
    unfold Text.signedValue?
    split
    · next rest same => exact absurd (digits '+' (by simp [same])) (by decide)
    · next rest same => exact absurd (digits '-' (by simp [same])) (by decide)
    · rw [number, Option.map_some, Int.ofNat_eq_natCast, Int.toNat_of_nonneg fits.1]
  rw [Text.int64?, Nat.toString_eq_repr, Nat.toList_repr, signed, Option.filter_some, if_pos]
  have bound : Int.pow 2 63 = 2 ^ 63 := rfl
  rw [bound, decide_eq_true_iff]
  omega

/-! ## Leaves -/

section Derivations

variable {fit : Lexeme → Prop} {lexicon : Shape.Lexicon} {enabled : Feature → Bool}
  (covers : Covers fit lexicon)

include covers

/-- A name is derived from what is printed for it. -/
theorem name_renders {node : Node} (shape : Shape.IsName lexicon node) (floor : Nat) :
    Renders fit Name Node.unplaced (expression floor node) node := by
  cases shape with
  | name spelled =>
    refine .name covers spelled fun tok is spelling => .done (.name is) ?_
    rw [spelling]
    rfl

/-- A literal is derived from what is printed for it. -/
theorem literal_renders {node : Node} (shape : Shape.IsLiteral lexicon node) (floor : Nat) :
    Renders fit Literal Node.unplaced (expression floor node) node := by
  cases shape with
  | @integer _ value within =>
    refine .token (covers.integer within) fun tok said => ?_
    have text : tok.text = toString value.toNat := congrArg Lexeme.text said
    exact .done (.integer (congrArg kind said) (text ▸ int64?_toString (covers.bound within))) rfl
  | @character _ value quoted =>
    refine .token (covers.character quoted) fun tok said => ?_
    have text : tok.text.toList = ['\'', value, '\''] := by
      rw [show tok.text = _ from congrArg Lexeme.text said, String.toList_ofList]
    exact .done (.character (congrArg kind said) text) rfl
  | @boolean _ value =>
    cases value with
    | true => exact .word covers (by decide) fun tok is => .done (.truth is) rfl
    | false => exact .word covers (by decide) fun tok is => .done (.falsity is) rfl

/-! ## Operations and calls -/

omit covers in
/-- Expressions in a list are printed one by one. -/
theorem expressions_eq_map (nodes : List Node) : expressions nodes = nodes.map (expression 0) := by
  induction nodes with
  | nil => rfl
  | cons node nodes ih => rw [expressions, ih, List.map_cons]

/-- Something in parentheses is an operand. -/
theorem group_renders {lexemes : List Lexeme} {node : Node}
    (inner : Renders fit (Expression enabled 0) Node.unplaced lexemes node) :
    Renders fit (Operand enabled) Node.unplaced (grouped lexemes) node := by
  refine .word covers (by decide) fun _ opened => ?_
  refine inner.andThen fun _ read derived equal => ?_
  exact .word covers (by decide) fun _ closed => .done (.group opened derived closed) equal

/-- An operation stands wherever operators of its level may. -/
theorem binary_renders {tok : Token} {op : Kind} {level floor : Nat} {before behind : List Lexeme}
    {left right : Node} (binds : op ∈ operators level) (admitted : floor ≤ level)
    (first : Renders fit (Expression enabled level) Node.unplaced before left)
    (second : Renders fit (Expression enabled (level + 1)) Node.unplaced behind right) :
    Renders fit (Expression enabled floor) Node.unplaced (before ++ spelled op :: behind)
      (.binary tok .unknown op left right) := by
  have known : op ∈ Kind.reserved ++ marks := by
    have level? := mem_operators.mp binds
    cases op <;> first | decide | exact absurd level? (by simp [Kind.level?])
  refine first.andThen fun _ leftRead leftDerived leftEqual => ?_
  refine .word covers known fun sign is => ?_
  subst is
  refine second.last fun _ rightRead rightDerived rightEqual => ?_
  refine ⟨_, .binary binds admitted leftDerived rightDerived, ?_⟩
  simp only [Node.unplaced] at leftEqual rightEqual
  simp only [Node.unplaced, Node.relabel, leftEqual, rightEqual]

omit covers in
/-- Every prefix operator is admitted if the ordinal functions are. -/
theorem isUnary_of_prefixes {op : Kind} (ordinal : enabled .ordinalFunctions = true)
    (applies : op ∈ Shape.prefixes) : isUnary enabled op = true := by
  cases op with
  | minus | plus | notWord | succWord | predWord => rfl
  | chrWord | ordWord => exact ordinal
  | _ => exact absurd applies (by decide)

/-- A prefix operator in front of an operand is an operand. -/
theorem unary_renders {tok : Token} {op : Kind} {lexemes : List Lexeme} {operand : Node}
    (ordinal : enabled .ordinalFunctions = true) (applies : op ∈ Shape.prefixes)
    (only : Renders fit (Operand enabled) Node.unplaced lexemes operand) :
    Renders fit (Operand enabled) Node.unplaced (spelled op :: lexemes)
      (.unary tok .unknown op operand) := by
  have known : ∀ kind ∈ Shape.prefixes, kind ∈ Kind.reserved ++ marks := by decide
  refine .word covers (known op applies) fun sign is => ?_
  subst is
  refine only.last fun _ read derived equal => ?_
  refine ⟨_, .unary (isUnary_of_prefixes ordinal applies) derived, ?_⟩
  simp only [Node.unplaced] at equal
  simp only [Node.unplaced, Node.relabel, equal]

/-- Arguments are printed with commas between them, whatever they are read by. -/
theorem arguments_renders {item : Rule Node} {args : List Node} (some : args ≠ [])
    (each : ∀ arg ∈ args, Renders fit item Node.unplaced (expression 0 arg) arg) :
    Renders fit (Separated .comma item) (List.map Node.unplaced)
      (separated .comma (expressions args)) args := by
  have listed := separated_renders (expression 0) id covers (by decide : Kind.comma ∈ _) some each
  rwa [← expressions_eq_map, List.map_id] at listed

/-- A call is derived from what is printed for it. -/
theorem call_renders {tok : Token} {callee : String} {args : List Node}
    (named : lexicon.name callee)
    (each : ∀ arg ∈ args, Renders fit (Expression enabled 0) Node.unplaced (expression 0 arg) arg) :
    Renders fit (Operand enabled) Node.unplaced
      (Rendering.named callee :: grouped (separated .comma (expressions args)))
      (.call tok .unknown callee args) := by
  have given : Renders fit (Optional (Separated .comma (Expression enabled 0)))
      (List.map Node.unplaced) (separated .comma (expressions args)) args := by
    by_cases none : args = []
    · subst none
      exact .done .absent rfl
    · exact (arguments_renders covers none each).imp .present
  refine .name covers named fun name is spelling => ?_
  refine .word covers (by decide) fun _ opened => ?_
  refine given.andThen fun _ read derived equal => ?_
  refine .word covers (by decide) fun _ closed => .done (.call is opened derived closed) ?_
  simp only [Node.unplaced, Node.relabel, Node.relabelAll_eq_map] at equal ⊢
  rw [spelling, equal]

/-! ## Expressions -/

/-- Every expression is derived from what is printed for it, and as an operand where the place wants
the tightest level.

Proof: by induction on the expression. An operation that is too loose for its place is put in
parentheses, and no operation is tight enough for the place of an operand. -/
theorem expression_operand_render (ordinal : enabled .ordinalFunctions = true) {node : Node}
    (shape : Shape.IsExpression lexicon node) :
    (∀ floor, Renders fit (Expression enabled floor) Node.unplaced (expression floor node) node) ∧
      Renders fit (Operand enabled) Node.unplaced (expression tightest node) node := by
  have both {node : Node}
      (only : ∀ floor, Renders fit (Operand enabled) Node.unplaced (expression floor node) node) :
      (∀ floor, Renders fit (Expression enabled floor) Node.unplaced (expression floor node) node) ∧
        Renders fit (Operand enabled) Node.unplaced (expression tightest node) node :=
    ⟨fun floor => (only floor).imp .operand, only tightest⟩
  induction shape with
  | literal written => exact both fun floor => (literal_renders covers written floor).imp .literal
  | name written => exact both fun floor => (name_renders covers written floor).imp .name
  | call named given ih =>
    exact both fun floor => call_renders covers named fun arg member => (ih arg member).1 0
  | unary applies only ih => exact both fun floor => unary_renders covers ordinal applies ih.2
  | @binary tok op level left right binds before behind ihBefore ihBehind =>
    have level? : op.level? = some level := mem_operators.mp binds
    have operation {floor : Nat} (admitted : floor ≤ level) :
        Renders fit (Expression enabled floor) Node.unplaced
          (expression level left ++ spelled op :: expression (level + 1) right)
          (.binary tok .unknown op left right) :=
      binary_renders covers binds admitted (ihBefore.1 level) (ihBehind.1 (level + 1))
    have grouped := group_renders covers (operation (Nat.zero_le level))
    have loose : ¬ tightest ≤ level := by
      cases op <;> simp [Kind.level?] at level? <;> subst level? <;> decide
    constructor
    · intro floor
      simp only [expression, level?, Option.getD_some]
      split
      · next admitted => exact operation admitted
      · exact grouped.imp .operand
    · simp only [expression, level?, Option.getD_some, if_neg loose]
      exact grouped

/-- Every expression is derived from what is printed for it. -/
theorem expression_renders (ordinal : enabled .ordinalFunctions = true) {node : Node}
    (shape : Shape.IsExpression lexicon node) (floor : Nat) :
    Renders fit (Expression enabled floor) Node.unplaced (expression floor node) node :=
  (expression_operand_render covers ordinal shape).1 floor

end Derivations

/-- A reader of tokens takes whatever they say. -/
theorem sayable_covers : Covers (fun _ => True) sayable where
  word _ := trivial
  name _ := trivial
  bound admitted := admitted
  integer _ := trivial
  character _ := trivial

/-- What is printed for an expression is read back by climbing: in front of any token that is neither
a binary operator nor an opening parenthesis, exactly the printed tokens are read, wherever they
stand, and what is read differs from the expression only in its tokens. -/
theorem expression_read_back (enabled : Feature → Bool)
    (ordinal : enabled .ordinalFunctions = true) (node : Node)
    (shape : Shape.IsExpression sayable node) (tokens rest : List Token) (cursor : Cursor)
    (said : tokens.map Token.lexeme = expression 0 node) (ahead : cursor.rest = tokens ++ rest)
    (ends : Parser.closesExpression (rest.headD cursor.stop).kind) :
    ∃ read behind, Parser.expression enabled cursor = .ok read behind ∧ behind.rest = rest ∧
      behind.stop = cursor.stop ∧ read.unplaced = node.unplaced := by
  obtain ⟨read, derived, equal⟩ :=
    (expression_renders sayable_covers ordinal shape 0).derived tokens said
  obtain ⟨behind, run, left, stop⟩ :=
    Parser.expression_accepts derived cursor rest ahead ends (Nat.lt_succ_self _)
  exact ⟨read, behind, run, left, stop, equal⟩

/-- Operations that need parentheses as a right operand and behind a prefix operator. One name and the
character are none that could be scanned. -/
def nestedOperations : Node :=
  .binary {} .unknown .orWord
    (.binary {} .unknown .minus (.integer {} .unknown 1)
      (.binary {} .unknown .minus (.name {} .unknown "end") (.character {} .unknown '\'')))
    (.unary {} .unknown .notWord (.binary {} .unknown .andWord
      (.call {} .unknown "f" [.boolean {} .unknown true, .name {} .unknown "x"])
      (.binary {} .unknown .orWord (.boolean {} .unknown false) (.name {} .unknown "y"))))

example : (expression 0 nestedOperations).map Lexeme.text =
    ["1", "-", "(", "end", "-", "'''", ")", "or", "not", "(", "f", "(", "true", ",", "x", ")", "and",
      "(", "false", "or", "y", ")", ")"] := by cbv

/-- The nested operations are an expression whose names can be said. -/
theorem nestedOperations_shape : Shape.IsExpression sayable nestedOperations := by
  have named (text : String) : Shape.IsExpression sayable (.name {} .unknown text) :=
    .name (.name trivial)
  have boolean (value : Bool) : Shape.IsExpression sayable (.boolean {} .unknown value) :=
    .literal .boolean
  have one : (0 : Int) ≤ 1 ∧ (1 : Int) < 2 ^ 63 := by decide
  have called : Shape.IsExpression sayable
      (.call {} .unknown "f" [.boolean {} .unknown true, .name {} .unknown "x"]) := by
    refine .call trivial ?_
    rw [List.forall_mem_cons, List.forall_mem_singleton]
    exact ⟨boolean true, named "x"⟩
  have difference : Shape.IsExpression sayable
      (.binary {} .unknown .minus (.name {} .unknown "end") (.character {} .unknown '\'')) :=
    .binary (by decide : Kind.minus ∈ operators 50) (named "end") (.literal (.character trivial))
  exact .binary (by decide : Kind.orWord ∈ operators 20)
    (.binary (by decide : Kind.minus ∈ operators 50) (.literal (.integer one)) difference)
    (.unary (by decide) (.binary (by decide : Kind.andWord ∈ operators 30) called
      (.binary (by decide : Kind.orWord ∈ operators 20) (boolean false) (named "y"))))

/-- The operations are read back with the features that are on to begin with, in front of a
semicolon. -/
theorem expression_read_back_nestedOperations :
    Shape.IsExpression sayable nestedOperations ∧
      ∃ read behind,
        Parser.expression Feature.initial
            { rest := (expression 0 nestedOperations).map Lexeme.token ++ [{ kind := .semicolon }]
              stop := {} } = .ok read behind ∧
          behind.rest = [{ kind := .semicolon }] ∧ read.unplaced = nestedOperations.unplaced := by
  refine ⟨nestedOperations_shape, ?_⟩
  obtain ⟨read, behind, run, left, -, equal⟩ :=
    expression_read_back Feature.initial rfl nestedOperations nestedOperations_shape _
      [{ kind := .semicolon }] { rest := _, stop := {} } (map_lexeme_token _) rfl (by decide)
  exact ⟨read, behind, run, left, equal⟩

end WinZig.Rendering
