import WinZig.Files.Path
import WinZig.Golden.Location
import WinZig.Text.Cut

/-!
# Outputs made comparable

Two outputs are compared after lines that are to be ignored are taken out, and after the path of the
source, and then its last name, are replaced by a fixed word. So an output can be compared with one
that was recorded in another directory.
-/

namespace WinZig.Golden

/-- The word that stands for the path of a source. -/
def placeholder : String := "__SOURCE__"

/-- The texts to ignore lines by, listed with commas between them. -/
def ignoredTexts (listed : String) : List String :=
  if listed = "" then [] else (listed.toList.splitOn ',').map String.ofList

/-- Whether a line is to be ignored: it holds one of some texts. An empty text ignores nothing. -/
def isIgnored (ignored : List String) (line : String) : Bool :=
  ignored.any fun text => text != "" && Text.occursIn text.toList line.toList

/-- An output without the lines to be ignored. -/
def withoutIgnored (ignored : List String) (output : String) : String :=
  String.intercalate "\n" ((lines output).filter fun line => !isIgnored ignored line)

/-- A text in which another is replaced wherever it occurs. -/
def substitute (part replacement text : String) : String :=
  String.ofList (Text.replaceAll part.toList replacement.toList text.toList)

/-- An output made comparable. -/
def normalize (source : String) (ignored : List String) (output : String) : String :=
  let output := withoutIgnored ignored output
  if source = "" then output
  else substitute (Path.base source) placeholder (substitute source placeholder output)

/-- Lines made comparable; those of which nothing is left are dropped. -/
def normalizeLines (source : String) (ignored : List String) (list : List String) : List String :=
  (list.map (normalize source ignored)).filter (· != "")

end WinZig.Golden
