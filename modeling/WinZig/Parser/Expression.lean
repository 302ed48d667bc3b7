import WinZig.Parser.Basic
import WinZig.Text.Decimal
import WinZig.Tree.Node

/-!
# Expressions

Binary operators come in five levels, all left associative. Prefix operators bind to the operand
right behind them, tighter than any binary operator. An expression is read by climbing: an operand,
then operators of at least the level asked for, each followed by an operand of a higher level.

Reading an operand or an operator consumes a token before anything nested is read, so the number of
remaining tokens bounds the depth of the recursion.
-/

namespace WinZig

/-- The level of a binary operator; operators of a higher level bind tighter. -/
def Kind.level? : Kind → Option Nat
  | .star | .slash | .modWord => some 60
  | .plus | .minus => some 50
  | .less | .lessEqual | .greater | .greaterEqual | .equal | .notEqual => some 40
  | .andWord => some 30
  | .orWord => some 20
  | _ => none

namespace Parser

/-- The largest integer that fits in 32 bits. -/
def widestInteger : Int := Int.pow 2 31 - 1

/-- An integer literal. -/
def integer : Parser Node := do
  let tok ← shift
  match Text.int64? tok.text with
  | none => failLast .integerRange
  | some value =>
    if widestInteger < value then note tok (.wideInteger tok.text)
    return .integer tok .unknown value

/-- A character literal; its value stands behind the opening quote. -/
def character : Parser Node := do
  let tok ← shift
  match tok.text.toList[1]? with
  | none => crash tok
  | some value => return .character tok .unknown value

/-- A boolean literal with a given value. -/
def boolean (value : Bool) : Parser Node := do
  let tok ← shift
  return .boolean tok .unknown value

/-- The name of a variable. -/
def identifier : Parser Node := do
  let tok ← expect .identifier
  return .name tok .unknown tok.text

/-- Fails at the current token if a feature is off. -/
def require (enabled : Feature → Bool) (feature : Feature) : Parser Unit :=
  if enabled feature then return () else fail (.forbidden feature)

mutual

/-- An operand: a literal, a variable, a call, an expression in parentheses, or a prefix operator
with its operand. -/
def operand (enabled : Feature → Bool) : (bound : Nat) → Parser Node
  | 0 => fail .noExpression
  | bound + 1 => do
    let tok ← current
    match tok.kind with
    | .minus | .plus | .notWord | .succWord | .predWord =>
      let op ← shift
      return .unary op .unknown op.kind (← operand enabled bound)
    | .chrWord | .ordWord =>
      require enabled .ordinalFunctions
      let op ← shift
      return .unary op .unknown op.kind (← operand enabled bound)
    | .integer => integer
    | .character => character
    | .trueWord => boolean true
    | .falseWord => boolean false
    | .eofWord =>
      require enabled .endOfFileLiteral
      boolean false
    | .identifier =>
      if (← following).kind = .openParen then
        let callee ← shift
        let _ ← shift
        let args ←
          if ← check .closeParen then pure []
          else separated .comma do climb enabled bound 0 (← operand enabled bound)
        let _ ← expect .argumentsClose
        return .call callee .unknown callee.text args
      else
        identifier
    | .openParen =>
      let _ ← shift
      let inner ← climb enabled bound 0 (← operand enabled bound)
      let _ ← expect .groupClose
      return inner
    | .text => fail .textOperand
    | _ => fail .noExpression

/-- The expression that starts with `left` and goes on with operators of at least the level
`floor`. -/
def climb (enabled : Feature → Bool) : (bound floor : Nat) → (left : Node) → Parser Node
  | 0, _, left => return left
  | bound + 1, floor, left => do
    match (← current).kind.level? with
    | none => return left
    | some level =>
      if level < floor then return left
      let op ← shift
      let right ← climb enabled bound (level + 1) (← operand enabled bound)
      climb enabled bound floor (.binary op .unknown op.kind left right)

end

/-- An expression. -/
def expression (enabled : Feature → Bool) : Parser Node := fun cursor =>
  (do climb enabled (cursor.rest.length + 1) 0 (← operand enabled (cursor.rest.length + 1))) cursor

end Parser

end WinZig
