import WinZig.Proofs.Parsing.Exactness

/-!
# Parsing tokens that stand elsewhere

A parser decides by the kinds and the texts of tokens. Everything else of a token is only passed on,
into trees, faults and notices. So when the tokens ahead are moved, what is read from them moves in
the same way, and nothing else changes: not whether they are read, nor how many.
-/

namespace WinZig

section Moved

variable (onToken : Token → Token)

/-- A cursor in front of, and behind, tokens elsewhere. -/
def Cursor.moved (cursor : Cursor) : Cursor where
  rest := cursor.rest.map onToken
  stop := onToken cursor.stop
  last := onToken cursor.last
  index := cursor.index
  shown := cursor.shown
  notices := cursor.notices.map (Notice.moved onToken)

/-- The outcome of a parser with its tokens elsewhere. -/
def Reply.moved {α β : Type} (onValue : α → β) : Reply α → Reply β
  | .ok value cursor => .ok (onValue value) (cursor.moved onToken)
  | .failed fault index notices =>
    .failed (fault.moved onToken) index (notices.map (Notice.moved onToken))
  | .crashed literal notices => .crashed (onToken literal) (notices.map (Notice.moved onToken))

end Moved

variable {onToken : Token → Token}

/-- The current token elsewhere. -/
theorem Cursor.current_moved (cursor : Cursor) :
    (cursor.moved onToken).current = onToken cursor.current := by
  cases rest : cursor.rest <;> simp [current, moved, rest]

/-- A run on some tokens, and a run on the same tokens elsewhere. -/
def Comparison.moving (keeps : Token.KeepsSpelling onToken) (enabled : Feature → Bool) :
    Comparison where
  enabled := enabled
  enabled' := enabled
  onToken := onToken
  keeps := keeps
  Known _ := True
  Near cursor cursor' := cursor' = cursor.moved onToken ∧ cursor.stop.kind = .endOfInput
  Stops _ _ _ := False
  ends near := near.2
  rest near := near.1 ▸ rfl
  stop near := near.1 ▸ rfl
  last near := near.1 ▸ rfl
  known _ := ⟨trivial, trivial, fun _ _ => trivial⟩
  advance near _ _ := ⟨near.1 ▸ rfl, near.2⟩
  guard near _ _ := .inl ⟨rfl, fun _ => ⟨near.1 ▸ rfl, near.2⟩⟩
  note {cursor _ tok remark} near _ _ := by
    obtain ⟨rfl, ends⟩ := near
    refine ⟨?_, ends⟩
    simp only [Cursor.moved, Cursor.noted, List.map_append, Notice.raised_moved]

/-- Outcomes that correspond are the same outcome, here and elsewhere. -/
theorem Comparison.eq_of_moving {α β : Type} {keeps : Token.KeepsSpelling onToken}
    {enabled : Feature → Bool} {onValue : α → β} {reply : Reply α} {reply' : Reply β}
    (outcome : (moving keeps enabled).Replies (fun value value' => value' = onValue value) reply
      reply') : reply' = reply.moved onToken onValue := by
  cases outcome with
  | ok near held => rw [near.1, held, Reply.moved]
  | failed near => rw [near.1, Cursor.current_moved]; rfl
  | failedLast near => rw [near.1]; rfl
  | crashed near => rw [near.1]; rfl
  | stopped stops => exact stops.elim

/-- The first thing to be read is a word, so it does not matter what was read before. -/
theorem Parser.program_afresh (enabled : Feature → Bool) {cursor : Cursor}
    (stops : cursor.stop.kind = .endOfInput) (before : Token) :
    program enabled { cursor with last := before } = program enabled cursor := by
  unfold program
  rw [expect_bind]
  cases rest : cursor.rest with
  | nil =>
    have refused : cursor.stop.kind ≠ Slot.programWord.kind := by
      rw [stops]
      decide
    simp [bind, andThen, current, Cursor.current, rest, refused, fail]
  | cons tok rest =>
    by_cases word : tok.kind = Slot.programWord.kind
    · simp [bind, andThen, current, Cursor.current, rest, word, shift]
    · simp [bind, andThen, current, Cursor.current, rest, word, fail]

/-- When the tokens of a stream and its end are moved, so is what is read from the stream. -/
theorem Program.ofTokens_moved (keeps : Token.KeepsSpelling onToken) (settings : Settings)
    {tokens : List Token}
    (stop : (Cursor.ofTokens (tokens.map onToken)).stop = onToken (Cursor.ofTokens tokens).stop) :
    ofTokens settings (tokens.map onToken) =
      (ofTokens settings tokens).moved onToken (Program.moved onToken) := by
  have start : (Cursor.ofTokens tokens settings.warning).moved onToken =
      { Cursor.ofTokens (tokens.map onToken) settings.warning with last := onToken {} } := by
    have same : (Cursor.ofTokens (tokens.map onToken) settings.warning).stop =
        onToken (Cursor.ofTokens tokens settings.warning).stop := stop
    simp only [Cursor.moved, same]
    rfl
  have outcome := Comparison.eq_of_moving ((Comparison.moving keeps settings.feature).program_follows
    _ _ ⟨rfl, ofTokens_stops tokens settings.warning⟩ trivial)
  rw [start] at outcome
  exact (Parser.program_afresh _ (ofTokens_stops _ _) _).symm.trans outcome

end WinZig
