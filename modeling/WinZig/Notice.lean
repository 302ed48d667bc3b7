import WinZig.Token.Basic
import WinZig.Settings.Switch

/-!
# Notices

A notice remarks on something that is accepted. It belongs to a warning, and parsing and checking
raise it only if that warning is on. The notices that were raised are collected, in order, and all of
them are reported.
-/

namespace WinZig

/-- What is remarked on. -/
inductive Remark where
  /-- The program is closed under another name than its own. -/
  | programClosedAs (opened closed : String)
  /-- An integer literal does not fit in 32 bits. -/
  | wideInteger (literal : String)
  /-- A bound of a case range is not a literal. -/
  | looseRange
  /-- A local name hides a global variable. -/
  | shadows (name : String)
  /-- A function has no return statement. -/
  | noReturn (function : String)
deriving DecidableEq, Repr

namespace Remark

/-- The warning a remark belongs to. -/
def warning : Remark → Warning
  | programClosedAs .. => .programName
  | wideInteger _ => .overflow
  | looseRange => .caseRange
  | shadows _ => .shadow
  | noReturn _ => .extra

/-- How a remark reads. -/
def message : Remark → String
  | programClosedAs opened closed => s!"Program '{opened}' closed as '{closed}'"
  | wideInteger literal => s!"Integer literal '{literal}' does not fit in 32 bits"
  | looseRange => "Case range bounds should be literal values"
  | shadows name => s!"'{name}' shadows a global variable"
  | noReturn function => s!"Function '{function}' has no return statement"

end Remark

/-- A remark and the token it is made on. -/
structure Notice where
  token : Token
  remark : Remark
deriving DecidableEq, Repr

/-- The notice on a token, if the warning it belongs to is on. -/
def Notice.raised (shown : Warning → Bool) (tok : Token) (remark : Remark) : List Notice :=
  if shown remark.warning then [⟨tok, remark⟩] else []

/-- With fewer warnings on, what is raised is what is left of a notice raised with more of them on. -/
theorem Notice.raised_and (shown only : Warning → Bool) (tok : Token) (remark : Remark) :
    raised (fun warning => shown warning && only warning) tok remark =
      (raised shown tok remark).filter fun notice => only notice.remark.warning := by
  unfold raised
  cases first : shown remark.warning <;> cases second : only remark.warning <;>
    simp [first, second]

end WinZig
