import WinZig.Compiler.Analysis
import WinZig.Proofs.Parsing.Moving
import WinZig.Proofs.Scanning.Composition
import WinZig.Proofs.Typing.Moving

/-!
# Which source a finding is attributed to

Every token carries the index of its source, and what is found in a source is attributed to the
source of a token. A source can be analysed under any index: what is found is the same, with the
index in all tokens.

There is one exception. A source without tokens is refused at the end of its stream, and the end of
an empty stream knows no token to take an index from. So its fault carries the index zero whatever
the index of the source is.

Besides, what is found is anchored in the source: at one of the tokens it was scanned into, or at the
end of their stream, which is a column of the line of the last one.
-/

namespace WinZig

/-- A token as it is read from the source of a given index. -/
def Token.within (index : Int) (tok : Token) : Token := { tok with file := index }

/-- Moving a token to a file keeps its kind and text. -/
theorem Token.keepsSpelling_within (index : Int) : KeepsSpelling (Token.within index) :=
  ⟨fun _ => rfl, fun _ => rfl⟩

/-! ## Scanning under another index -/

/-- The outcome of a step as it is for the source of a given index. -/
def Scanned.within (index : Int) (scanned : Scanned) : Scanned :=
  { scanned with token := scanned.token.within index }

namespace Scanner

variable (index : Int)

/-- A scanner for the source of a given index. -/
def within (scanner : Scanner) : Scanner := { scanner with file := index }

/-- A scanner that stands in a file reads the tokens of that file. -/
theorem next_within (scanner : Scanner) :
    (scanner.within index).next =
      (scanner.next.1.within index, scanner.next.2.within index) := by
  have stamped (file : Int) (before behind : Place) (piece : Piece) :
      stamp index before behind piece = (stamp file before behind piece).within index := by
    unfold stamp
    dsimp only
    split
    · rfl
    · split <;> rfl
  unfold next
  cases ahead : scanner.rest with
  | nil => simp [within, ahead, Scanned.within, Token.within]
  | cons c rest =>
    simp only [within, ahead, Scanned.within]
    rw [stamped scanner.file]

/-- The tokens of a scanner that stands in a file all stand in it. -/
theorem steps_within (scanner : Scanner) :
    (scanner.within index).steps = scanner.steps.map (Scanned.within index) :=
  steps_carried (within index) (fun _ => rfl) (next_within index) scanner

/-- The tokens of a source under another index. -/
theorem tokens_within (scanner : Scanner) :
    (scanner.within index).tokens = scanner.tokens.map (Token.within index) :=
  (tokens_carried (Token.keepsSpelling_within index).kind (steps_within index scanner)).1

/-- The fault of a source under another index. -/
theorem fault?_within (scanner : Scanner) :
    (scanner.within index).fault? = scanner.fault?.map (Fault.moved (Token.within index)) :=
  (tokens_carried (Token.keepsSpelling_within index).kind (steps_within index scanner)).2

end Scanner

/-! ## Analysis under another index -/

namespace Analysis

/-- What is found in a source moves with its tokens. -/
structure Moves (onToken : Token → Token) (before behind : Analysis) : Prop where
  fault : behind.fault? = before.fault?.map (Fault.moved onToken)
  notices : behind.notices = before.notices.map (Notice.moved onToken)
  diagnostics : Typing.ComplaintsMove onToken before.diagnostics behind.diagnostics

/-- The analysis of a stream by what it was read as, with some warnings on. -/
def ofReply (shown : Warning → Bool) (tokens : List Token) : Reply Program → Analysis
  | .failed fault _ notices => .unparsed tokens fault notices
  | .crashed literal notices => .crashed tokens literal notices
  | .ok program cursor =>
    .checked tokens (Checker.check { shown } program).1 cursor.notices
      (Checker.check { shown } program).2

/-- What is found in a stream moves with what it was read as. -/
theorem moves_ofReply (onToken : Token → Token) (shown : Warning → Bool)
    (tokens tokens' : List Token) (reply : Reply Program) :
    Moves onToken (ofReply shown tokens reply)
      (ofReply shown tokens' (reply.moved onToken (Program.moved onToken))) := by
  cases reply with
  | failed | crashed => exact ⟨rfl, rfl, .nil⟩
  | ok program cursor =>
    obtain ⟨-, checked⟩ := Typing.check_moved onToken { shown } program
    have notices := (congrArg (cursor.notices.map (Notice.moved onToken) ++ ·) checked.notices).trans
      List.map_append.symm
    exact ⟨rfl, notices, checked.diagnostics⟩

/-- Whether a source is scanned into no tokens at all, and nothing in it is at fault. -/
def IsBlank (enabled : Feature → Bool) (source : SourceFile) : Prop :=
  (Scanner.ofSource 0 (enabled .nestedComments) source).fault? = none ∧
    (Scanner.ofSource 0 (enabled .nestedComments) source).tokens = []

/-- The fault of a blank source: it does not begin with the word of programs. -/
def blankFault : Fault := ⟨{ line := 1, column := 1 }, .unfilled .programWord⟩

section Sources

variable {settings : Settings} {index : Int} {source : SourceFile}

/-- A source without a fault is analysed as its stream of tokens. -/
theorem ofSource_of_sound
    (sound : (Scanner.ofSource index (settings.feature .nestedComments) source).fault? = none) :
    ofSource settings index source.content =
      ofReply settings.warning
        (Scanner.ofSource index (settings.feature .nestedComments) source).tokens (Program.ofTokens settings
          (Scanner.ofSource index (settings.feature .nestedComments) source).tokens) := by
  unfold Scanner.ofSource at sound ⊢
  unfold ofSource
  simp only [sound]
  cases Program.ofTokens settings _ <;> rfl

/-- A source at fault is analysed no further. -/
theorem ofSource_of_fault {fault : Fault}
    (wrong : (Scanner.ofSource index (settings.feature .nestedComments) source).fault? = some fault) :
    ofSource settings index source.content =
      .unscanned (Scanner.ofSource index (settings.feature .nestedComments) source).tokens fault := by
  unfold Scanner.ofSource at wrong ⊢
  unfold ofSource
  simp only [wrong]

/-- Reading a source does not crash: the character literals of a source have a character in them. -/
theorem ofSource_ne_crashed (tokens : List Token) (literal : Token) (notices : List Notice) :
    ofSource settings index source.content ≠ .crashed tokens literal notices := by
  cases found : (Scanner.ofSource index (settings.feature .nestedComments) source).fault? with
  | some fault =>
    rw [ofSource_of_fault found]
    exact nofun
  | none =>
    rw [ofSource_of_sound found]
    cases run : Program.ofTokens settings
        (Scanner.ofSource index (settings.feature .nestedComments) source).tokens with
    | failed | ok => exact nofun
    | crashed literal notices =>
      obtain ⟨member, kind, short⟩ := Program.hollow_of_crashed run
      exact absurd (Scanner.tokens_legible _ literal member kind) (Nat.not_le_of_lt short)

/-- Nothing is wrong with a source exactly if nothing is at fault and nothing is complained about. -/
theorem isClean_ofSource : (ofSource settings index source.content).isClean =
    ((ofSource settings index source.content).fault?.isNone &&
      (ofSource settings index source.content).diagnostics.isEmpty) := by
  cases found : ofSource settings index source.content with
  | unscanned | unparsed | checked => rfl
  | crashed => exact absurd found (ofSource_ne_crashed _ _ _)

/-- Under another index, the end of a stream moves as its tokens do. -/
theorem stop_within {tokens : List Token} (some : tokens ≠ []) :
    (Cursor.ofTokens (tokens.map (Token.within index))).stop =
      (Cursor.ofTokens tokens).stop.within index := by
  obtain ⟨last, found⟩ := Option.ne_none_iff_exists'.mp
    (mt List.getLast?_eq_none_iff.mp some)
  simp only [Cursor.ofTokens, List.getLast?_map, found, Option.map_some]
  rfl

/-- What is found in a source is the same under any index, unless the source is blank. -/
theorem ofSource_within (some : ¬ IsBlank settings.feature source) (index : Int) :
    Moves (Token.within index) (ofSource settings 0 source.content)
      (ofSource settings index source.content) := by
  have fault := Scanner.fault?_within index (.ofSource 0 (settings.feature .nestedComments) source)
  have tokens := Scanner.tokens_within index (.ofSource 0 (settings.feature .nestedComments) source)
  change (Scanner.ofSource index (settings.feature .nestedComments) source).fault? = _ at fault
  change (Scanner.ofSource index (settings.feature .nestedComments) source).tokens = _ at tokens
  cases found : (Scanner.ofSource 0 (settings.feature .nestedComments) source).fault? with
  | some blamed =>
    rw [found] at fault
    rw [ofSource_of_fault found, ofSource_of_fault fault]
    exact ⟨rfl, rfl, .nil⟩
  | none =>
    have read := Program.ofTokens_moved (Token.keepsSpelling_within index) settings
      (stop_within fun none => some ⟨found, none⟩)
    rw [found] at fault
    rw [ofSource_of_sound found, ofSource_of_sound fault, tokens, read]
    exact moves_ofReply ..

/-- A blank source is refused at its start, and the index in the fault is zero. -/
theorem ofSource_blank (blank : IsBlank settings.feature source) (index : Int) :
    ofSource settings index source.content = .unparsed [] blankFault [] := by
  have fault := Scanner.fault?_within index (.ofSource 0 (settings.feature .nestedComments) source)
  have tokens := Scanner.tokens_within index (.ofSource 0 (settings.feature .nestedComments) source)
  rw [blank.1] at fault
  rw [blank.2] at tokens
  change (Scanner.ofSource index (settings.feature .nestedComments) source).fault? = none at fault
  change (Scanner.ofSource index (settings.feature .nestedComments) source).tokens = [] at tokens
  rw [ofSource_of_sound fault, tokens]
  rfl

end Sources

/-! ## Anchors -/

end Analysis

/-- The token is at a place of a source: its line is one of the source. -/
structure Token.Points (source : SourceFile) (tok : Token) : Prop where
  first : 1 ≤ tok.firstColumn
  last : 1 ≤ tok.column
  line : ∃ line, source.line? tok.line = some line

/-- A token read from a source points into it. -/
theorem Token.StandsIn.points {source : SourceFile} {tok : Token} (stands : tok.StandsIn source) :
    tok.Points source where
  first := stands.first
  last := Int.le_trans stands.first stands.last
  line := stands.shown.imp fun _ => And.left

/-- Every source has a first line. -/
theorem exists_first_line (source : SourceFile) : ∃ line, source.line? 1 = some line := by
  have lines : source.content.splitOn '\n' ≠ [] := List.splitOn_ne_nil _ _
  obtain ⟨first, others, split⟩ := List.exists_cons_of_ne_nil lines
  exact ⟨first, by simp [SourceFile.line?, split]⟩

/-- The end of a stream is a column of the line of its last token, or of the first line. -/
theorem points_stop {source : SourceFile} {tokens : List Token}
    (each : ∀ tok ∈ tokens, tok.StandsIn source) : (Cursor.ofTokens tokens).stop.Points source := by
  cases last : tokens.getLast? with
  | none =>
    have stop : (Cursor.ofTokens tokens).stop = { line := 1, column := 1 } := by
      simp [Cursor.ofTokens, last]
    rw [stop]
    exact ⟨by decide, by decide, exists_first_line source⟩
  | some tok =>
    have stop : (Cursor.ofTokens tokens).stop =
        { file := tok.file, line := tok.line, column := tok.column + 1 } := by
      simp [Cursor.ofTokens, last]
    have stands := (each tok (List.mem_of_getLast? last)).points
    have column := stands.last
    rw [stop]
    constructor
    case first =>
      simp only [Token.firstColumn, if_true]
      omega
    case last =>
      dsimp only
      omega
    case line => exact stands.line

/-- The tokens of a list as they are, and all others changed. -/
def Token.outside (kept : List Token) (tok : Token) : Token :=
  if tok ∈ kept then tok else { tok with file := tok.file + 1 }

section Outside

variable {kept : List Token}

/-- Marking the tokens outside a list keeps their kinds and texts. -/
theorem Token.keepsSpelling_outside : KeepsSpelling (Token.outside kept) := by
  constructor
  · intro tok
    unfold Token.outside
    split <;> rfl
  · intro tok
    unfold Token.outside
    split <;> rfl

/-- A token of the list is not marked. -/
theorem Token.outside_of_mem {tok : Token} (member : tok ∈ kept) : tok.outside kept = tok :=
  if_pos member

/-- A token that is not marked belongs to the list. -/
theorem Token.mem_of_outside {tok : Token} (fixed : tok.outside kept = tok) : tok ∈ kept := by
  by_contra other
  rw [Token.outside, if_neg other] at fixed
  have file := congrArg Token.file fixed
  dsimp only at file
  omega

end Outside

namespace Analysis

/-- What is found in a source is found at tokens of which the property holds. -/
structure Anchored (holds : Token → Prop) (analysis : Analysis) : Prop where
  fault : ∀ fault ∈ analysis.fault?, holds fault.token
  notices : ∀ notice ∈ analysis.notices, holds notice.token
  diagnostics : ∀ diagnostic ∈ analysis.diagnostics, holds diagnostic.token ∧
    (diagnostic.position = diagnostic.token.start ∨ diagnostic.position = diagnostic.token.finish)

/-- What does not move when its tokens do is anchored at tokens that stay where they are. -/
theorem anchored_of_moves {onToken : Token → Token} {analysis : Analysis}
    (moves : Moves onToken analysis analysis) : Anchored (fun tok => onToken tok = tok) analysis := by
  constructor
  case fault =>
    intro fault found
    have fixed := moves.fault
    rw [Option.mem_def.mp found] at fixed
    exact (congrArg Fault.token (Option.some.inj fixed)).symm
  case notices =>
    intro notice member
    have same := moves.notices.symm.trans (List.map_id _).symm
    exact congrArg Notice.token (List.map_eq_map_iff.mp same notice member)
  case diagnostics =>
    intro diagnostic member
    obtain ⟨fixed, -, position⟩ := List.forall₂_same.mp moves.diagnostics diagnostic member
    exact ⟨fixed.symm, position.imp And.left And.left⟩

/-- What holds of more tokens holds of those at which something is found. -/
theorem Anchored.imp {holds holds' : Token → Prop} {analysis : Analysis}
    (anchored : Anchored holds analysis) (weaker : ∀ tok, holds tok → holds' tok) :
    Anchored holds' analysis where
  fault fault found := weaker _ (anchored.fault fault found)
  notices notice member := weaker _ (anchored.notices notice member)
  diagnostics diagnostic member :=
    (anchored.diagnostics diagnostic member).imp_left (weaker _)

/-- What is found in a stream is found at its tokens or at its end.

Proof: move all other tokens. The stream stays the same, so what is found in it stays the same as
well; but it moves with its tokens, so these are not among the others. -/
theorem anchored_ofReply (settings : Settings) (tokens : List Token) :
    Anchored (· ∈ (Cursor.ofTokens tokens).stop :: tokens)
      (ofReply settings.warning tokens (Program.ofTokens settings tokens)) := by
  let kept := (Cursor.ofTokens tokens).stop :: tokens
  have fixed : tokens.map (Token.outside kept) = tokens := by
    rw [List.map_congr_left fun tok member => Token.outside_of_mem (List.mem_cons_of_mem _ member),
      List.map_id']
  have stop : (Cursor.ofTokens (tokens.map (Token.outside kept))).stop =
      (Cursor.ofTokens tokens).stop.outside kept := by
    rw [fixed, Token.outside_of_mem List.mem_cons_self]
  have read := Program.ofTokens_moved Token.keepsSpelling_outside settings stop
  have moves := moves_ofReply (Token.outside kept) settings.warning tokens tokens
    (Program.ofTokens settings tokens)
  rw [← read, fixed] at moves
  exact (anchored_of_moves moves).imp fun _ => Token.mem_of_outside

/-- The fault of scanning stands in the source. -/
theorem fault_standsIn {nested : Bool} {index : Int} {source : SourceFile} {fault : Fault}
    (wrong : (Scanner.ofSource index nested source).fault? = some fault) :
    fault.token.StandsIn source := by
  obtain ⟨count, -, -, -, -, last⟩ := Scanner.exists_stop (.ofSource index nested source)
  obtain ⟨cause, blamed, rfl⟩ := Option.map_eq_some_iff.mp (last.symm.trans wrong)
  exact Scanner.call_standsIn index nested source count (.inl (by simp [blamed]))

/-- What is found in a source is found at places of the source. -/
theorem ofSource_points (settings : Settings) (index : Int) (source : SourceFile) :
    Anchored (Token.Points source) (ofSource settings index source.content) := by
  cases found : (Scanner.ofSource index (settings.feature .nestedComments) source).fault? with
  | some fault =>
    rw [ofSource_of_fault found]
    constructor
    case fault =>
      rintro _ ⟨rfl⟩
      exact (fault_standsIn found).points
    case notices => simp [notices]
    case diagnostics => simp [diagnostics]
  | none =>
    have stand := Scanner.tokens_standIn index (settings.feature .nestedComments) source
    rw [ofSource_of_sound found]
    apply (anchored_ofReply settings _).imp
    exact List.forall_mem_cons.mpr ⟨points_stop stand, fun tok member => (stand tok member).points⟩

/-- What has moved is anchored at moved tokens. -/
theorem Moves.anchored {onToken : Token → Token} {before behind : Analysis}
    (moves : Moves onToken before behind) :
    Anchored (fun tok => ∃ origin, onToken origin = tok) behind := by
  constructor
  case fault =>
    intro fault found
    rw [moves.fault] at found
    obtain ⟨origin, -, rfl⟩ := Option.map_eq_some_iff.mp (Option.mem_def.mp found)
    exact ⟨origin.token, rfl⟩
  case notices =>
    intro notice member
    rw [moves.notices] at member
    obtain ⟨origin, -, rfl⟩ := List.mem_map.mp member
    exact ⟨origin.token, rfl⟩
  case diagnostics =>
    have moved := moves.diagnostics
    generalize before.diagnostics = earlier, behind.diagnostics = later at moved ⊢
    induction moved with
    | nil => exact List.forall_mem_nil _
    | cons first _ inductionHypothesis =>
      exact List.forall_mem_cons.mpr
        ⟨⟨⟨_, first.token.symm⟩, first.position.imp And.right And.right⟩, inductionHypothesis⟩

/-- What is found in a source carries the index of the source, or zero if the source is blank. -/
theorem ofSource_attributed (settings : Settings) (index : Int) (source : SourceFile) :
    Anchored (fun tok => tok.file = 0 ∨ tok.file = index) (ofSource settings index source.content) := by
  by_cases blank : IsBlank settings.feature source
  · rw [ofSource_blank blank]
    constructor
    case fault =>
      rintro _ ⟨rfl⟩
      exact .inl rfl
    case notices => simp [notices]
    case diagnostics => simp [diagnostics]
  · apply (ofSource_within blank index).anchored.imp
    rintro _ ⟨origin, rfl⟩
    exact .inr rfl

/-- What is found in a source under the index zero carries that index, blank or not. -/
theorem ofSource_file (settings : Settings) (source : SourceFile) :
    Anchored (fun tok => tok.file = 0) (ofSource settings 0 source.content) :=
  (ofSource_attributed settings 0 source).imp fun _ attributed => attributed.elim id id

end Analysis

end WinZig
