import WinZig.Golden.Result
import WinZig.Json.Reader
import WinZig.Text.Decimal

/-!
# Recorded results

Results and reports are read back from JSON. A field is known by its name in any case; fields that
are not known are passed over. A field may be given several values, one after another. `null` leaves
a field as it is, or empties it where it may be empty. Anything of the wrong kind makes the whole text
unreadable.

A list is read into places that are used again: a further list overwrites them from the first one on,
and those behind its end keep their texts, though they do not count. A `null` in a list takes up a
place and leaves the text that is there.
-/

namespace WinZig.Golden

/-- A character without its case. Two characters outside ASCII are cases of letters in it. -/
def foldCase (c : Char) : Char :=
  if c = '\u212a' then 'k' else if c = '\u017f' then 's' else c.toLower

/-- A name without its case. -/
def foldName (name : String) : String := String.ofList (name.toList.map foldCase)

/-! ## Fields -/

/-- The fields of some objects, given one after another for the same thing. -/
def fieldsOf (objects : List Json) : Option (List (String × Json)) :=
  (objects.mapM fun (object : Json) =>
    match object with
    | .null => some []
    | .object fields => some fields
    | _ => none).map List.flatten

/-- The values a field is given. -/
def given (name : String) (fields : List (String × Json)) : List Json :=
  (fields.filter fun field => foldName field.1 = name).map Prod.snd

/-- The last of some values that is not `null`, or what there is at first. -/
def latest {α : Type} (read : Json → Option α) (initial : α) (values : List Json) : Option α :=
  values.foldlM (fun old value =>
    match value with
    | .null => some old
    | value => read value) initial

/-- A text. -/
def text? : Json → Option String
  | .text value => some value
  | _ => none

/-- An integer. -/
def integer? : Json → Option Int
  | .number written => Text.int64? written
  | _ => none

/-- A truth value. -/
def boolean? : Json → Option Bool
  | .boolean value => some value
  | _ => none

/-! ## Lists -/

/-- Places for texts, of which the first ones count. -/
structure Shelf where
  places : List String := []
  count : Nat := 0
deriving DecidableEq, Repr

namespace Shelf

/-- The texts that count. -/
def texts (shelf : Shelf) : List String := shelf.places.take shelf.count

/-- What an item of a list puts in a place. -/
def putIn (text : String) : Json → Option String
  | .null => some text
  | item => text? item

/-- The places after a list is read into them. `null` and the empty list clear them. -/
def fill (shelf : Shelf) : Json → Option Shelf
  | .null | .array [] => some {}
  | .array items => do
    let empty := List.replicate items.length ""
    let filled ← ((shelf.places ++ empty).zip items).mapM fun (text, item) => putIn text item
    return ⟨filled ++ shelf.places.drop items.length, items.length⟩
  | _ => none

end Shelf

/-- The texts that some lists, given one after another, leave. -/
def texts? (values : List Json) : Option (List String) :=
  (values.foldlM Shelf.fill {}).map Shelf.texts

/-! ## Results -/

/-- A run. -/
def readExecution (values : List Json) : Option Execution := do
  let fields ← fieldsOf values
  return {
    stdout := ← latest text? "" (given "stdout" fields)
    stderr := ← latest text? "" (given "stderr" fields)
    exitCode := ← latest integer? 0 (given "exitcode" fields)
    duration := ← latest integer? 0 (given "duration" fields)
    timedOut := ← latest boolean? false (given "timed_out" fields)
    unstable := ← latest boolean? false (given "unstable_output" fields) }

/-- A result. -/
def readResult (values : List Json) : Option CompileResult := do
  let fields ← fieldsOf values
  return {
    source := ← latest text? "" (given "source" fields)
    args := ← texts? (given "args" fields)
    result := ← readExecution (given "result" fields)
    diagnostics := ← texts? (given "diagnostics" fields) }

/-- Whether a value is `null`. -/
def isNull : Json → Bool
  | .null => true
  | _ => false

/-- The values after the last `null`. -/
def afterNull (values : List Json) : List Json :=
  (values.reverse.takeWhile fun value => !isNull value).reverse

/-- A result that may be missing: `null` takes it away, and what follows starts anew. -/
def readResult? (values : List Json) : Option (Option CompileResult) := do
  let _ ← readResult values
  let values := afterNull values
  if values.isEmpty then return none
  return some (← readResult values)

/-- A verdict. -/
def readVerdict (value : Json) : Option Verdict := do
  let fields ← fieldsOf [value]
  return {
    file := ← latest text? "" (given "file" fields)
    status := .ofName (← latest text? "" (given "status" fields))
    message := ← latest text? "" (given "message" fields)
    diff := ← latest text? "" (given "diff" fields)
    reference := ← readResult? (given "reference" fields)
    target := ← readResult? (given "target" fields) }

/-- A recorded result. -/
def CompileResult.ofText? (text : List Char) : Option CompileResult :=
  (Json.read? text).bind fun value => readResult [value]

/-- The verdicts of a report, by file; a later one of the same file counts. -/
def readReport : Json → Option (List (String × Verdict))
  | .null => some []
  | .object fields =>
    (fields.mapM fun entry : String × Json =>
      (readVerdict entry.2).map fun verdict => (entry.1, verdict)).map List.reverse
  | _ => none

/-- The verdicts of a report. -/
def reportOfText? (text : List Char) : Option (List (String × Verdict)) :=
  (Json.read? text).bind readReport

end WinZig.Golden
