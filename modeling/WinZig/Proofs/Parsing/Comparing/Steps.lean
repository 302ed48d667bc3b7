import WinZig.Proofs.Parsing.Soundness.Expression

/-!
# Two runs side by side

Several things that are known of parsers are known of two runs: when the tokens stand elsewhere the
same is read elsewhere, when a feature is switched off the run is the same up to the first word of
the feature, when warnings are switched off nothing changes but the notices. In each case the two
runs take the same steps, and what is said of their cursors is kept by every step.

A `Comparison` says when two cursors correspond and proves it of single steps: of a token that is
consumed, of a word that a feature guards, of a remark. Everything else that a parser does depends
on the kinds and the texts of tokens only, and these are the same in both runs. So the parsers are
followed once, for all comparisons, and what comes out is that corresponding cursors lead to
corresponding outcomes.

The second run may stop where the first goes on, at a word that its features do not admit. From then
on nothing is said of the first run.

A run is also compared with itself. This is how an invariant of a single run is proved.
-/

namespace WinZig

/-- The kinds of words that a feature admits in expressions. -/
def Feature.words : Feature → List Kind
  | nestedComments => []
  | ordinalFunctions => [.chrWord, .ordWord]
  | endOfFileLiteral => [.eofWord]

/-- A kind of tokens that are consumed whatever the features are. -/
def Kind.isPlain : Kind → Bool
  | .endOfInput | .chrWord | .ordWord | .eofWord => false
  | _ => true

/-- Operators are consumed whatever the features are. -/
theorem Kind.isPlain_of_level {kind : Kind} {level : Nat} (binds : kind.level? = some level) :
    kind.isPlain = true := by
  cases kind <;> first | rfl | cases binds

/-- What fills a slot is consumed whatever the features are. -/
theorem Slot.isPlain_kind (slot : Slot) : slot.kind.isPlain = true := by
  cases slot <;> rfl

/-- What is consumed whatever the features are is not the end. -/
theorem Kind.real_of_isPlain {kind : Kind} (plain : kind.isPlain = true) : kind ≠ .endOfInput := by
  rintro rfl
  cases plain

/-- A word of a feature is not the end. -/
theorem Feature.real_of_mem_words {feature : Feature} {kind : Kind} (word : kind ∈ feature.words) :
    kind ≠ .endOfInput := by
  rintro rfl
  cases feature <;> simp [words] at word

/-- The texts that a remark quotes. -/
def Remark.quotes : Remark → List String
  | programClosedAs opened closed => [opened, closed]
  | wideInteger literal => [literal]
  | looseRange => []
  | shadows name => [name]
  | noReturn function => [function]

/-- The texts that a cause quotes, beside that of the blamed token. -/
def Cause.quotes : Cause → List String
  | unknownCharacter c => [String.singleton c]
  | unfilled (.assignSign target) => [target]
  | closedAs opened => [opened]
  | _ => []

/-- A token may stand elsewhere but is of the same kind and has the same text. -/
structure Token.KeepsSpelling (onToken : Token → Token) : Prop where
  kind : ∀ tok, (onToken tok).kind = tok.kind
  text : ∀ tok, (onToken tok).text = tok.text

/-- A token that stays where it is. -/
theorem Token.keepsSpelling_id : KeepsSpelling id := ⟨fun _ => rfl, fun _ => rfl⟩

/-- A literal for a character that has none. -/
structure Token.IsHollow (literal : Token) : Prop where
  kind : literal.kind = .character
  short : literal.text.toList.length < 2

/-- How the cursors of two runs correspond, in terms of the steps that parsers take. -/
structure Comparison where
  /-- The features of the first run. -/
  enabled : Feature → Bool
  /-- The features of the second run. -/
  enabled' : Feature → Bool
  /-- The token of the second run in the place of a token of the first. -/
  onToken : Token → Token
  keeps : Token.KeepsSpelling onToken
  /-- The tokens that the first run comes across. -/
  Known : Token → Prop
  /-- The cursors of the two runs correspond. -/
  Near : Cursor → Cursor → Prop
  /-- The second run may stop in this way, whatever the first run does. -/
  Stops : Fault → Nat → List Notice → Prop
  ends : ∀ {cursor cursor'}, Near cursor cursor' → cursor.stop.kind = .endOfInput
  rest : ∀ {cursor cursor'}, Near cursor cursor' → cursor'.rest = cursor.rest.map onToken
  stop : ∀ {cursor cursor'}, Near cursor cursor' → cursor'.stop = onToken cursor.stop
  last : ∀ {cursor cursor'}, Near cursor cursor' → cursor'.last = onToken cursor.last
  known : ∀ {cursor cursor'}, Near cursor cursor' →
    Known cursor.last ∧ Known cursor.stop ∧ ∀ tok ∈ cursor.rest, Known tok
  advance : ∀ {cursor cursor' tok rest}, Near cursor cursor' → cursor.rest = tok :: rest →
    tok.kind.isPlain = true →
    Near (cursor.advanced tok rest) (cursor'.advanced (onToken tok) (rest.map onToken))
  guard : ∀ {cursor cursor' tok rest feature}, Near cursor cursor' → cursor.rest = tok :: rest →
    tok.kind ∈ Feature.words feature →
    enabled' feature = enabled feature ∧ (enabled feature = true →
      Near (cursor.advanced tok rest) (cursor'.advanced (onToken tok) (rest.map onToken))) ∨
    enabled feature = true ∧ enabled' feature = false ∧
      Stops ⟨onToken tok, .forbidden feature⟩ cursor'.index cursor'.notices
  note : ∀ {cursor cursor' tok remark}, Near cursor cursor' → Known tok →
    (∀ text ∈ Remark.quotes remark, ∃ tok, Known tok ∧ tok.text = text) →
    Near (cursor.noted tok remark) (cursor'.noted (onToken tok) remark)

namespace Comparison

variable (comparison : Comparison)

/-- The text of a token that the first run comes across. -/
def Spells (text : String) : Prop := ∃ tok, comparison.Known tok ∧ tok.text = text

/-- A token in the place of another one. -/
abbrev Instead (tok tok' : Token) : Prop := tok' = comparison.onToken tok ∧ comparison.Known tok

/-- Outcomes that come of corresponding cursors. -/
inductive Replies {α β : Type} (given : α → β → Prop) : Reply α → Reply β → Prop
  | ok {value value' cursor cursor'} (near : comparison.Near cursor cursor')
      (held : given value value') : Replies given (.ok value cursor) (.ok value' cursor')
  | failed {cause cursor cursor'} (near : comparison.Near cursor cursor')
      (quotes : ∀ text ∈ Cause.quotes cause, comparison.Spells text) :
      Replies given (.failed ⟨cursor.current, cause⟩ cursor.index cursor.notices)
        (.failed ⟨cursor'.current, cause⟩ cursor'.index cursor'.notices)
  | failedLast {cause cursor cursor'} (near : comparison.Near cursor cursor')
      (quotes : ∀ text ∈ Cause.quotes cause, comparison.Spells text) :
      Replies given (.failed ⟨cursor.last, cause⟩ (cursor.index - 1) cursor.notices)
        (.failed ⟨cursor'.last, cause⟩ (cursor'.index - 1) cursor'.notices)
  | crashed {literal cursor cursor'} (near : comparison.Near cursor cursor')
      (known : comparison.Known literal) (hollow : Token.IsHollow literal) :
      Replies given (.crashed literal cursor.notices)
        (.crashed (comparison.onToken literal) cursor'.notices)
  | stopped {outcome fault index notices} (stops : comparison.Stops fault index notices) :
      Replies given outcome (.failed fault index notices)

/-- Corresponding cursors in front of a token of a kind in `start` lead to corresponding outcomes. -/
def Runs {α β : Type} (start : Kind → Prop) (given : α → β → Prop) (parser : Parser α)
    (parser' : Parser β) : Prop :=
  ∀ cursor cursor', comparison.Near cursor cursor' → start cursor.current.kind →
    comparison.Replies given (parser cursor) (parser' cursor')

/-- Corresponding cursors lead to outcomes with the second value made of the first. -/
abbrev RunsTo {α β : Type} (start : Kind → Prop) (onValue : α → β) (parser : Parser α)
    (parser' : Parser β) : Prop :=
  comparison.Runs start (fun value value' => value' = onValue value) parser parser'

/-- The same in front of any token. -/
abbrev Follows {α β : Type} (onValue : α → β) (parser : Parser α) (parser' : Parser β) : Prop :=
  comparison.RunsTo (fun _ => True) onValue parser parser'

variable {comparison} {α β γ δ : Type} {start : Kind → Prop} {given : α → β → Prop}
  {given' : γ → δ → Prop} {cursor cursor' : Cursor}

/-! ## Cursors -/

/-- The current tokens of corresponding cursors. -/
theorem current (near : comparison.Near cursor cursor') :
    comparison.Instead cursor.current cursor'.current := by
  obtain ⟨-, stop, rest⟩ := comparison.known near
  rw [Cursor.current, Cursor.current, comparison.rest near, comparison.stop near]
  cases ahead : cursor.rest with
  | nil => exact ⟨rfl, stop⟩
  | cons tok others => exact ⟨rfl, rest tok (by simp [ahead])⟩

/-- The tokens after the current ones. -/
theorem following (near : comparison.Near cursor cursor') :
    comparison.Instead cursor.following cursor'.following := by
  obtain ⟨-, stop, rest⟩ := comparison.known near
  rw [Cursor.following, Cursor.following, comparison.rest near, comparison.stop near]
  cases ahead : cursor.rest with
  | nil => exact ⟨rfl, stop⟩
  | cons tok others =>
    cases others with
    | nil => exact ⟨rfl, stop⟩
    | cons next further => exact ⟨rfl, rest next (by simp [ahead])⟩

/-- Cursors that are near each other stand at the same kind. -/
theorem kind_current (near : comparison.Near cursor cursor') :
    cursor'.current.kind = cursor.current.kind := by
  rw [(current near).1, comparison.keeps.kind]

/-- Both runs have as many tokens ahead, and so the same bounds. -/
theorem length_rest (near : comparison.Near cursor cursor') :
    cursor'.rest.length = cursor.rest.length := by
  rw [comparison.rest near, List.length_map]

/-! ## Steps -/

namespace Runs

/-- Values that are related are given alike. -/
theorem pure {value : α} {value' : β} (held : given value value') :
    comparison.Runs start given (Pure.pure value) (Pure.pure value') :=
  fun _ _ near _ => .ok near held

/-- Failures run alike if what they quote is spelled alike. -/
theorem fail {cause : Cause} (quotes : ∀ text ∈ cause.quotes, comparison.Spells text) :
    comparison.Runs start given (Parser.fail cause) (Parser.fail cause) :=
  fun _ _ near _ => .failed near quotes

/-- Failures at the last token run alike if what they quote is spelled alike. -/
theorem failLast {cause : Cause} (quotes : ∀ text ∈ cause.quotes, comparison.Spells text) :
    comparison.Runs start given (Parser.failLast cause) (Parser.failLast cause) :=
  fun _ _ near _ => .failedLast near quotes

/-- A crash on a literal without a value. -/
theorem crash {literal : Token} (known : comparison.Known literal) (hollow : literal.IsHollow) :
    comparison.Runs start given (Parser.crash literal)
      (Parser.crash (comparison.onToken literal)) :=
  fun _ _ near _ => .crashed near known hollow

/-- What is known everywhere is known anywhere. -/
theorem narrow {start' : Kind → Prop} {parser : Parser α} {parser' : Parser β}
    (known : comparison.Runs start given parser parser') (within : ∀ kind, start' kind → start kind) :
    comparison.Runs start' given parser parser' :=
  fun _ _ near starts => known _ _ near (within _ starts)

/-- What is known of the values may be forgotten. -/
theorem weaken {other : α → β → Prop} {parser : Parser α} {parser' : Parser β}
    (known : comparison.Runs start given parser parser')
    (follows : ∀ value value', given value value' → other value value') :
    comparison.Runs start other parser parser' := by
  intro cursor cursor' near starts
  have outcome := known _ _ near starts
  generalize parser cursor = reply, parser' cursor' = reply' at outcome
  cases outcome with
  | ok near held => exact .ok near (follows _ _ held)
  | failed near quotes => exact .failed near quotes
  | failedLast near quotes => exact .failedLast near quotes
  | crashed near known hollow => exact .crashed near known hollow
  | stopped stops => exact .stopped stops

/-- One after another. -/
theorem andThen {first : Parser α} {first' : Parser β} {second : α → Parser γ}
    {second' : β → Parser δ} (before : comparison.Runs start given first first')
    (behind : ∀ value value', given value value' →
      comparison.Runs (fun _ => True) given' (second value) (second' value')) :
    comparison.Runs start given' (first >>= second) (first' >>= second') := by
  intro cursor cursor' near starts
  have front := before _ _ near starts
  change comparison.Replies given' (Parser.andThen first second cursor)
    (Parser.andThen first' second' cursor')
  unfold Parser.andThen
  generalize first cursor = reply, first' cursor' = reply' at front
  cases front with
  | ok near held => exact behind _ _ held _ _ near trivial
  | failed near quotes => exact .failed near quotes
  | failedLast near quotes => exact .failedLast near quotes
  | crashed near known hollow => exact .crashed near known hollow
  | stopped stops => exact .stopped stops

/-- A value that is changed in the end. -/
theorem map {change : α → γ} {change' : β → δ} {parser : Parser α} {parser' : Parser β}
    (known : comparison.Runs start given parser parser')
    (changed : ∀ value value', given value value' → given' (change value) (change' value')) :
    comparison.Runs start given' (parser >>= fun value => Pure.pure (change value))
      (parser' >>= fun value => Pure.pure (change' value)) :=
  known.andThen fun value value' held => .pure (changed value value' held)

/-- A choice that comes out the same in both runs. -/
theorem ite {condition : Prop} [Decidable condition] {parser other : Parser α}
    {parser' other' : Parser β} (holding : condition → comparison.Runs start given parser parser')
    (failing : ¬condition → comparison.Runs start given other other') :
    comparison.Runs start given (if condition then parser else other)
      (if condition then parser' else other') := by
  by_cases held : condition
  · rw [if_pos held, if_pos held]
    exact holding held
  · rw [if_neg held, if_neg held]
    exact failing held

/-- A choice of what comes first, whatever comes behind it. -/
theorem either {condition : Prop} [Decidable condition] {parser other : Parser α}
    {parser' other' : Parser β} {second : α → Parser γ} {second' : β → Parser δ}
    (holding : comparison.Runs start given parser parser')
    (failing : comparison.Runs start given other other')
    (behind : ∀ value value', given value value' →
      comparison.Runs (fun _ => True) given' (second value) (second' value')) :
    comparison.Runs start given' (if condition then parser >>= second else other >>= second)
      (if condition then parser' >>= second' else other' >>= second') :=
  .ite (fun _ => holding.andThen behind) fun _ => failing.andThen behind

/-- Parsers that do the same in front of the tokens in question. -/
theorem congr {parser other : Parser α} {parser' other' : Parser β} (real : ¬ start .endOfInput)
    (known : comparison.Runs start given other other') (same : Parser.Agree start parser other)
    (same' : Parser.Agree start parser' other') :
    comparison.Runs start given parser parser' := by
  intro cursor cursor' near starts
  obtain ⟨rest, ahead⟩ := Cursor.exists_rest_of_stops (comparison.ends near)
    fun atEnd => real (atEnd ▸ starts)
  have ahead' : cursor'.rest = comparison.onToken cursor.current :: rest.map comparison.onToken := by
    rw [comparison.rest near, ahead, List.map_cons]
  rw [same _ _ _ ahead starts, same' _ _ _ ahead' (by rwa [comparison.keeps.kind])]
  exact known _ _ near starts

/-- A choice on the current token. -/
theorem current {second : Token → Parser γ} {second' : Token → Parser δ}
    (behind : ∀ tok, comparison.Known tok → start tok.kind →
      comparison.Runs (· = tok.kind) given' (second tok) (second' (comparison.onToken tok))) :
    comparison.Runs start given' (Parser.current >>= second) (Parser.current >>= second') := by
  intro cursor cursor' near starts
  obtain ⟨same, known⟩ := Comparison.current near
  have outcome := behind cursor.current known starts _ _ near rfl
  rw [← same] at outcome
  exact outcome

/-- The token read last. -/
theorem last : comparison.Runs start comparison.Instead Parser.last Parser.last :=
  fun _ _ near _ => .ok near ⟨comparison.last near, (comparison.known near).1⟩

/-- A remark on a token, which quotes only what stands in the stream. -/
theorem note {tok : Token} {remark : Remark} (known : comparison.Known tok)
    (quotes : ∀ text ∈ remark.quotes, comparison.Spells text) :
    comparison.Runs start (fun _ _ => True) (Parser.note tok remark)
      (Parser.note (comparison.onToken tok) remark) :=
  fun _ _ near _ => .ok (comparison.note near known quotes) trivial

/-- A token is consumed that no feature has to do with. -/
theorem shift (plain : ∀ kind, start kind → kind.isPlain = true) :
    comparison.Runs start (fun tok tok' => comparison.Instead tok tok' ∧ start tok.kind)
      Parser.shift Parser.shift := by
  intro cursor cursor' near starts
  have here := plain _ starts
  obtain ⟨rest, ahead⟩ := Cursor.exists_rest_of_stops (comparison.ends near)
    (Kind.real_of_isPlain here)
  have ahead' : cursor'.rest = comparison.onToken cursor.current :: rest.map comparison.onToken := by
    rw [comparison.rest near, ahead, List.map_cons]
  rw [Parser.shift_of_rest ahead, Parser.shift_of_rest ahead']
  exact .ok (comparison.advance near ahead here) ⟨⟨rfl, (Comparison.current near).2⟩, starts⟩

/-- A token of a given kind is consumed first. -/
theorem shiftKind {kind : Kind} (plain : kind.isPlain = true) {second : Token → Parser γ}
    {second' : Token → Parser δ}
    (behind : ∀ tok, comparison.Known tok → tok.kind = kind →
      comparison.Runs (fun _ => True) given' (second tok) (second' (comparison.onToken tok))) :
    comparison.Runs (· = kind) given' (Parser.shift >>= second) (Parser.shift >>= second') := by
  have first : comparison.Runs (· = kind) _ Parser.shift Parser.shift :=
    .shift fun _ same => same ▸ plain
  apply first.andThen
  rintro tok _ ⟨⟨rfl, known⟩, spelled⟩
  exact behind tok known spelled

/-- A word is consumed behind the test of its feature. The test comes out the same in both runs, or
the second run stops here. -/
theorem guarded {feature : Feature} {kind : Kind} (word : kind ∈ feature.words)
    {second : Token → Parser γ} {second' : Token → Parser δ}
    (behind : ∀ tok, comparison.Known tok → tok.kind = kind →
      comparison.Runs (fun _ => True) given' (second tok) (second' (comparison.onToken tok))) :
    comparison.Runs (· = kind) given'
      (Parser.require comparison.enabled feature >>= fun _ => Parser.shift >>= second)
      (Parser.require comparison.enabled' feature >>= fun _ => Parser.shift >>= second') := by
  intro cursor cursor' near starts
  have used : cursor.current.kind ∈ feature.words := starts ▸ word
  obtain ⟨rest, ahead⟩ := Cursor.exists_rest_of_stops (comparison.ends near)
    (Feature.real_of_mem_words used)
  have ahead' : cursor'.rest = comparison.onToken cursor.current :: rest.map comparison.onToken := by
    rw [comparison.rest near, ahead, List.map_cons]
  have refused {enabled : Feature → Bool} (off : enabled feature = false) :
      Parser.require enabled feature = Parser.fail (.forbidden feature) := by
    rw [Parser.require, off]
    rfl
  have admitted {enabled : Feature → Bool} (on : enabled feature = true) :
      Parser.require enabled feature = Pure.pure () := if_pos on
  rcases comparison.guard near ahead used with ⟨same, steps⟩ | ⟨on, off, stops⟩
  · cases on : comparison.enabled feature with
    | true =>
      rw [admitted on, admitted (same.trans on), pure_bind, pure_bind,
        Parser.bind_of_ok (Parser.shift_of_rest ahead),
        Parser.bind_of_ok (Parser.shift_of_rest ahead')]
      exact behind _ (Comparison.current near).2 starts _ _ (steps on) trivial
    | false =>
      rw [refused on, refused (same.trans on), Parser.fail_bind, Parser.fail_bind]
      exact .failed near (List.forall_mem_nil _)
  · rw [refused off, Parser.fail_bind]
    rw [← Cursor.current_eq_of_rest ahead'] at stops
    exact .stopped stops

/-- The kinds of the current tokens are compared with a given one. -/
theorem check (kind : Kind) :
    comparison.Runs start (fun found found' => found' = found) (Parser.check kind)
      (Parser.check kind) := by
  intro cursor cursor' near _
  rw [Parser.check, Parser.check, kind_current near]
  exact .ok near rfl

/-- A token that may be left out. -/
theorem accept {kind : Kind} (plain : kind.isPlain = true) :
    comparison.Runs start (fun found found' => found' = found) (Parser.accept kind)
      (Parser.accept kind) := by
  rw [← bind_pure (Parser.accept kind), Parser.accept_bind]
  apply current
  intro tok _ _
  rw [comparison.keeps.kind]
  apply ite
  · rintro rfl
    exact .shiftKind plain fun _ _ _ => .pure rfl
  · exact fun _ => .pure rfl

/-- A slot that is filled by a token, or not. -/
theorem expect {slot : Slot} (quotes : ∀ text ∈ (Cause.unfilled slot).quotes, comparison.Spells text) :
    comparison.Runs start comparison.Instead (Parser.expect slot) (Parser.expect slot) := by
  apply current
  intro tok _ _
  rw [comparison.keeps.kind]
  apply ite
  · intro fills
    exact (Runs.shift fun kind same => by rw [same, fills, slot.isPlain_kind]).weaken
      fun _ _ => And.left
  · exact fun _ => .fail quotes

/-- A slot that is named without a text. -/
theorem fixed {slot : Slot} (named : (Cause.unfilled slot).quotes = []) :
    comparison.Runs start comparison.Instead (Parser.expect slot) (Parser.expect slot) :=
  expect (by simp [named])

/-- Lists with marks follow one another if their items do. -/
theorem separatedUpTo {onValue : α → β} {item : Parser α} {item' : Parser β} {mark : Kind}
    (plain : mark.isPlain = true) (known : comparison.Follows onValue item item') (bound : Nat) :
    comparison.Follows (List.map onValue) (Parser.separatedUpTo mark item bound)
      (Parser.separatedUpTo mark item' bound) := by
  induction bound with
  | zero => exact .pure rfl
  | succ bound inductionHypothesis =>
    apply known.andThen
    rintro first _ rfl
    apply (accept plain).andThen
    rintro more _ rfl
    apply ite
    · intro _
      apply inductionHypothesis.map
      rintro others _ rfl
      rfl
    · exact fun _ => .pure rfl

/-- One or more items with a mark between them. -/
theorem separated {onValue : α → β} {item : Parser α} {item' : Parser β} {mark : Kind}
    (plain : mark.isPlain = true) (known : comparison.Follows onValue item item') :
    comparison.Follows (List.map onValue) (Parser.separated mark item)
      (Parser.separated mark item') := by
  intro cursor cursor' near starts
  rw [Parser.separated, Parser.separated, length_rest near]
  exact separatedUpTo plain known _ _ _ near starts

/-- Lists without marks follow one another if their items do. -/
theorem manyUpTo {onValue : α → β} {item : Parser α} {item' : Parser β} {more : Kind → Bool}
    (known : comparison.RunsTo (more · = true) onValue item item') (bound : Nat) :
    comparison.Follows (List.map onValue) (Parser.manyUpTo more item bound)
      (Parser.manyUpTo more item' bound) := by
  induction bound with
  | zero => exact .pure rfl
  | succ bound inductionHypothesis =>
    apply current
    intro tok _ _
    rw [comparison.keeps.kind]
    apply ite
    · intro goesOn
      apply (known.narrow fun kind same => by rw [same, goesOn]).andThen
      rintro first _ rfl
      apply inductionHypothesis.map
      rintro others _ rfl
      rfl
    · exact fun _ => .pure rfl

/-- Any number of items. -/
theorem many {onValue : α → β} {item : Parser α} {item' : Parser β} {more : Kind → Bool}
    (known : comparison.RunsTo (more · = true) onValue item item') :
    comparison.Follows (List.map onValue) (Parser.many more item) (Parser.many more item') := by
  intro cursor cursor' near starts
  rw [Parser.many, Parser.many, length_rest near]
  exact manyUpTo known _ _ _ near starts

end Runs

end Comparison

end WinZig
