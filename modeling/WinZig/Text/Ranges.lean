/-!
# Sets of characters given by ranges

A property of characters that a standard fixes by enumeration is stored as a list of inclusive
ranges of code points. The lists ascend and their members do not touch, so the first range that
does not end before a code point already decides whether the code point belongs to the set.

Nothing here says which property a list stands for; the tables live in modules of their own.
-/

namespace WinZig.Text

/-- Inclusive ranges of code points, in ascending order. -/
abbrev Ranges := List (Nat × Nat)

/-- Membership in an ascending list of ranges: the first range that does not end before the code
point decides. -/
def Ranges.contains : Ranges → Nat → Bool
  | [], _ => false
  | (first, last) :: rest, code =>
    if code ≤ last then decide (first ≤ code) else Ranges.contains rest code

end WinZig.Text
