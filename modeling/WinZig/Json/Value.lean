/-!
# JSON values

Numbers are kept as they are written. The fields of an object keep their order, and a name may occur
more than once.
-/

namespace WinZig

/-- JSON values. -/
inductive Json where
  | null
  | boolean (value : Bool)
  | number (written : String)
  | text (value : String)
  | array (items : List Json)
  | object (fields : List (String × Json))
deriving Repr, Inhabited

end WinZig
