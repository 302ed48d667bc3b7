import WinZig.Settings.Basic
import WinZig.Text.Blank
import WinZig.Text.Cut

/-!
# Directives

A word such as `Wshadow`, `Wno-shadow` or `Fno-eof-literal` directs one switch, or all warnings, to
be on or off. A word without a family letter names a warning to switch on. Words that name nothing
direct nothing.

In a sequence of words the ones that direct all warnings by their full spelling act first, and the
others after them, each group in its own order. So a single warning can be excepted from all of
them wherever the exception stands.
-/

namespace WinZig

open Text

/-- What a word directs. -/
inductive Directive where
  | allWarnings (on : Bool)
  | warning (warning : Warning) (on : Bool)
  | feature (feature : Feature) (on : Bool)
  | nothing
deriving DecidableEq, Repr

namespace Directive

/-- A directive about warnings. -/
def aboutWarnings (name : List Char) (on : Bool) : Directive :=
  if name = "all".toList then allWarnings on
  else match Warning.ofName? (String.ofList name) with
    | some found => warning found on
    | none => nothing

/-- A directive about features. -/
def aboutFeatures (name : List Char) (on : Bool) : Directive :=
  match Feature.ofName? (String.ofList name) with
  | some found => feature found on
  | none => nothing

/-- What a word directs. The family letter comes first, then `no-` to switch off, then the name. -/
def ofWord (word : List Char) : Directive :=
  match word with
  | 'W' :: rest =>
    match after? "no-".toList rest with
    | some name => aboutWarnings name false
    | none => aboutWarnings rest true
  | 'F' :: rest =>
    match after? "no-".toList rest with
    | some name => aboutFeatures name false
    | none => aboutFeatures rest true
  | _ => aboutWarnings word true

/-- Settings after a directive. -/
def apply (settings : Settings) : Directive → Settings
  | allWarnings on => settings.setAllWarnings on
  | warning found on => settings.setWarning found on
  | feature found on => settings.setFeature found on
  | nothing => settings

end Directive

namespace Settings

/-- Whether a word directs all warnings by its full spelling. -/
def isSweeping (word : List Char) : Bool := word = "Wall".toList ∨ word = "Wno-all".toList

/-- Settings after one word. -/
def applyWord (settings : Settings) (word : List Char) : Settings :=
  (Directive.ofWord word).apply settings

/-- Settings after a sequence of words: first those that direct all warnings, then the others. -/
def applyWords (settings : Settings) (words : List (List Char)) : Settings :=
  (words.filter (!isSweeping ·)).foldl applyWord ((words.filter isSweeping).foldl applyWord settings)

/-- Settings after the words of a text, each with at most one leading hyphen taken off. -/
def applyText (settings : Settings) (text : String) : Settings :=
  settings.applyWords ((Text.words text.toList).map (dropFront ['-']))

end Settings

end WinZig
