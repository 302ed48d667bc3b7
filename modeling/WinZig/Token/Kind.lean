/-!
# Kinds of tokens

A token is of one of sixty-four kinds: the classes that carry a text of their own (names, literals,
layout), the reserved words, and the marks. Each kind has a number, its place in `Kind.listed`, and
a name: reserved words and marks are named by their spelling, the other kinds by a description.

A kind number outside the list is admitted where token streams are supplied from elsewhere. All of
them are read as `Kind.foreign`, which no rule of the grammar accepts.
-/

namespace WinZig

/-- The kinds of tokens. -/
inductive Kind where
  /-- The end of the source. -/
  | endOfInput
  /-- A character that starts no token. -/
  | unknown
  | blank
  | lineComment
  | blockComment
  | newline
  | identifier
  | integer
  | character
  | text
  | programWord
  | varWord
  | constWord
  | typeWord
  | functionWord
  | returnWord
  | beginWord
  | endWord
  | outputWord
  | ifWord
  | thenWord
  | elseWord
  | whileWord
  | doWord
  | caseWord
  | ofWord
  | otherwiseWord
  | repeatWord
  | forWord
  | untilWord
  | loopWord
  | poolWord
  | exitWord
  | modWord
  | orWord
  | andWord
  | notWord
  | readWord
  | succWord
  | predWord
  | chrWord
  | ordWord
  | eofWord
  | trueWord
  | falseWord
  | swap
  | assign
  | dotDot
  | lessEqual
  | notEqual
  | greaterEqual
  | colon
  | dot
  | less
  | greater
  | equal
  | semicolon
  | comma
  | openParen
  | closeParen
  | plus
  | minus
  | star
  | slash
  /-- A kind number that stands for nothing here. -/
  | foreign
deriving DecidableEq, Repr, Inhabited

namespace Kind

/-- The kinds in the order of their numbers. -/
def listed : List Kind := [
  endOfInput, unknown, blank, lineComment, blockComment, newline, identifier, integer, character,
  text, programWord, varWord, constWord, typeWord, functionWord, returnWord, beginWord, endWord,
  outputWord, ifWord, thenWord, elseWord, whileWord, doWord, caseWord, ofWord, otherwiseWord,
  repeatWord, forWord, untilWord, loopWord, poolWord, exitWord, modWord, orWord, andWord, notWord,
  readWord, succWord, predWord, chrWord, ordWord, eofWord, trueWord, falseWord, swap, assign,
  dotDot, lessEqual, notEqual, greaterEqual, colon, dot, less, greater, equal, semicolon, comma,
  openParen, closeParen, plus, minus, star, slash]

/-- The kind with a given number; numbers outside the list all give `foreign`. -/
def ofNumber : Int → Kind
  | .ofNat n => listed.getD n foreign
  | .negSucc _ => foreign

/-- The number of a listed kind. -/
def number (kind : Kind) : Nat := listed.idxOf kind

/-- The name of a kind: the spelling of a reserved word or a mark, a description of any other. -/
def name : Kind → String
  | endOfInput => "end of program"
  | unknown => "unknown"
  | blank => "whitespace"
  | lineComment => "line comment"
  | blockComment => "block comment"
  | newline => "newline"
  | identifier => "identifier"
  | integer => "integer literal"
  | character => "char literal"
  | text => "string literal"
  | programWord => "program"
  | varWord => "var"
  | constWord => "const"
  | typeWord => "type"
  | functionWord => "function"
  | returnWord => "return"
  | beginWord => "begin"
  | endWord => "end"
  | outputWord => "output"
  | ifWord => "if"
  | thenWord => "then"
  | elseWord => "else"
  | whileWord => "while"
  | doWord => "do"
  | caseWord => "case"
  | ofWord => "of"
  | otherwiseWord => "otherwise"
  | repeatWord => "repeat"
  | forWord => "for"
  | untilWord => "until"
  | loopWord => "loop"
  | poolWord => "pool"
  | exitWord => "exit"
  | modWord => "mod"
  | orWord => "or"
  | andWord => "and"
  | notWord => "not"
  | readWord => "read"
  | succWord => "succ"
  | predWord => "pred"
  | chrWord => "chr"
  | ordWord => "ord"
  | eofWord => "eof"
  | trueWord => "true"
  | falseWord => "false"
  | swap => ":=:"
  | assign => ":="
  | dotDot => ".."
  | lessEqual => "<="
  | notEqual => "<>"
  | greaterEqual => ">="
  | colon => ":"
  | dot => "."
  | less => "<"
  | greater => ">"
  | equal => "="
  | semicolon => ";"
  | comma => ","
  | openParen => "("
  | closeParen => ")"
  | plus => "+"
  | minus => "-"
  | star => "*"
  | slash => "/"
  | foreign => "token"

/-- The reserved words. -/
def reserved : List Kind := [
  programWord, varWord, constWord, typeWord, functionWord, returnWord, beginWord, endWord,
  outputWord, ifWord, thenWord, elseWord, whileWord, doWord, caseWord, ofWord, otherwiseWord,
  repeatWord, forWord, untilWord, loopWord, poolWord, exitWord, modWord, orWord, andWord, notWord,
  readWord, succWord, predWord, chrWord, ordWord, eofWord, trueWord, falseWord]

/-- The reserved word with a given spelling. Spelling is case sensitive. -/
def reservedWord? (spelling : String) : Option Kind :=
  reserved.find? (fun kind => kind.name == spelling)

/-- The kinds that scanning recognises and does not hand on: layout, comments and the end. -/
def isInternal : Kind → Bool
  | blank | lineComment | blockComment | newline | endOfInput => true
  | _ => false

end Kind

end WinZig
