import WinZig.Proofs.Parsing.Comparing.Program

/-!
# What parsers speak of

A parser speaks of the tokens of its stream and of nothing else. Its notices are on such tokens, a
fault blames one, and what a notice or the cause of a fault quotes is the text of one. It never reads
what stands for the end. These are invariants of a single run: the run is compared with itself.

A run also says what it crashes on: a token of the stream that is of the kind of character literals
and has no character in it.
-/

namespace WinZig

/-- Some notices are on known tokens and quote the texts of such. -/
def Notice.AllAbout (known : Token → Prop) (notices : List Notice) : Prop :=
  ∀ notice ∈ notices, known notice.token ∧
    ∀ text ∈ notice.remark.quotes, ∃ tok, known tok ∧ tok.text = text

/-- A cursor among known tokens. It got there by reading tokens that do not stand for the end. -/
structure Cursor.Within (known : Token → Prop) (cursor start : Cursor) : Prop where
  ends : cursor.stop.kind = .endOfInput
  last : known cursor.last
  stop : known cursor.stop
  rest : ∀ tok ∈ cursor.rest, known tok
  notices : Notice.AllAbout known cursor.notices
  real : ∃ read, start.Past read cursor ∧ ∀ tok ∈ read, tok.kind ≠ .endOfInput

namespace Cursor.Within

variable {known : Token → Prop} {start cursor : Cursor}

/-- The next token is one of those ahead. -/
theorem advanced (within : cursor.Within known start) {tok : Token} {rest : List Token}
    (ahead : cursor.rest = tok :: rest) (real : tok.kind ≠ .endOfInput) :
    (cursor.advanced tok rest).Within known start := by
  have each := within.rest
  rw [ahead, List.forall_mem_cons] at each
  obtain ⟨read, past, before⟩ := within.real
  have step : cursor.Past [tok] (cursor.advanced tok rest) := ⟨ahead, rfl, rfl⟩
  refine ⟨within.ends, each.1, within.stop, each.2, within.notices, _, past.trans step, ?_⟩
  exact List.forall_mem_append.mpr ⟨before, List.forall_mem_singleton.mpr real⟩

/-- A remark on a known token that quotes the texts of such. -/
theorem noted (within : cursor.Within known start) {tok : Token} {remark : Remark} (on : known tok)
    (quotes : ∀ text ∈ remark.quotes, ∃ tok, known tok ∧ tok.text = text) :
    (cursor.noted tok remark).Within known start := by
  obtain ⟨read, past, before⟩ := within.real
  refine ⟨within.ends, within.last, within.stop, within.rest, ?_, read,
    ⟨past.rest, past.stop, past.index⟩, before⟩
  refine List.forall_mem_append.mpr ⟨within.notices, fun notice raised => ?_⟩
  unfold Notice.raised at raised
  split at raised
  · obtain rfl := List.mem_singleton.mp raised
    exact ⟨on, quotes⟩
  · exact absurd raised List.not_mem_nil

/-- The current token is known. -/
theorem current (within : cursor.Within known start) : known cursor.current := by
  unfold Cursor.current
  cases ahead : cursor.rest with
  | nil => exact within.stop
  | cons tok rest => exact within.rest tok (by simp [ahead])

end Cursor.Within

/-- A run among known tokens, compared with itself. -/
def Comparison.alone (known : Token → Prop) (start : Cursor) (enabled : Feature → Bool) :
    Comparison where
  enabled := enabled
  enabled' := enabled
  onToken := id
  keeps := Token.keepsSpelling_id
  Known := known
  Near cursor cursor' := cursor' = cursor ∧ cursor.Within known start
  Stops _ _ _ := False
  ends near := near.2.ends
  rest near := near.1 ▸ (List.map_id _).symm
  stop near := near.1 ▸ rfl
  last near := near.1 ▸ rfl
  known near := ⟨near.2.last, near.2.stop, near.2.rest⟩
  advance near ahead plain := by
    obtain ⟨rfl, within⟩ := near
    rw [List.map_id]
    exact ⟨rfl, within.advanced ahead (Kind.real_of_isPlain plain)⟩
  guard near ahead word := by
    obtain ⟨rfl, within⟩ := near
    rw [List.map_id]
    exact .inl ⟨rfl, fun _ => ⟨rfl, within.advanced ahead (Feature.real_of_mem_words word)⟩⟩
  note near on quotes := by
    obtain ⟨rfl, within⟩ := near
    exact ⟨rfl, within.noted on quotes⟩

/-- An outcome that speaks of known tokens. If it is a value, the tokens read for it do not stand for
the end. -/
def Reply.About {α : Type} (known : Token → Prop) (start : Cursor) : Reply α → Prop
  | .ok _ cursor => Notice.AllAbout known cursor.notices ∧
    ∃ read, start.Past read cursor ∧ ∀ tok ∈ read, tok.kind ≠ .endOfInput
  | .failed fault _ notices =>
    known fault.token ∧ (∀ text ∈ fault.cause.quotes, ∃ tok, known tok ∧ tok.text = text) ∧
      Notice.AllAbout known notices
  | .crashed literal notices =>
    known literal ∧ literal.IsHollow ∧ Notice.AllAbout known notices

/-- What comes of a run that is compared with itself speaks of known tokens. -/
theorem Comparison.about_of_alone {α : Type} {known : Token → Prop} {start : Cursor}
    {enabled : Feature → Bool} {given : α → α → Prop} {reply reply' : Reply α}
    (outcome : (alone known start enabled).Replies given reply reply') :
    reply.About known start := by
  cases outcome with
  | ok near _ => exact ⟨near.2.notices, near.2.real⟩
  | failed near quotes => exact ⟨near.2.current, quotes, near.2.notices⟩
  | failedLast near quotes => exact ⟨near.2.last, quotes, near.2.notices⟩
  | crashed near on hollow => exact ⟨on, hollow, near.2.notices⟩
  | stopped stops => exact stops.elim

namespace Program

/-- The token that stands for the end is of the kind of the end. -/
theorem ofTokens_stops (tokens : List Token) (shown : Warning → Bool) :
    (Cursor.ofTokens tokens shown).stop.kind = .endOfInput := by
  unfold Cursor.ofTokens
  split <;> rfl

/-- The end of a stream has no text. -/
theorem ofTokens_stop_text (tokens : List Token) (shown : Warning → Bool) :
    (Cursor.ofTokens tokens shown).stop.text = "" := by
  unfold Cursor.ofTokens
  split <;> rfl

/-- Reading a stream speaks of its tokens, and of what stands for the end and the start of it. -/
theorem ofTokens_about (known : Token → Prop) {tokens : List Token} (settings : Settings)
    (each : ∀ tok ∈ tokens, known tok)
    (stop : known (Cursor.ofTokens tokens settings.warning).stop) (blank : known {}) :
    (ofTokens settings tokens).About known (Cursor.ofTokens tokens settings.warning) := by
  have start : (Cursor.ofTokens tokens settings.warning).Within known
      (Cursor.ofTokens tokens settings.warning) :=
    ⟨ofTokens_stops tokens _, blank, stop, each, List.forall_mem_nil _, [], .refl _,
      List.forall_mem_nil _⟩
  exact Comparison.about_of_alone
    ((Comparison.alone known _ settings.feature).program_follows _ _ ⟨rfl, start⟩ trivial)

/-- What is read as a program are tokens that do not stand for the end. -/
theorem real_of_read {settings : Settings} {tokens : List Token} {program : Program}
    {cursor : Cursor} (run : ofTokens settings tokens = .ok program cursor) :
    ∃ read, (Cursor.ofTokens tokens settings.warning).Past read cursor ∧
      ∀ tok ∈ read, tok.kind ≠ .endOfInput := by
  have about := ofTokens_about (fun _ => True) settings (fun tok (_ : tok ∈ tokens) => trivial)
    trivial trivial
  rw [run] at about
  exact about.2

/-- Reading crashes only on a character literal of the stream that has no character in it. -/
theorem hollow_of_crashed {settings : Settings} {tokens : List Token} {literal : Token}
    {notices : List Notice} (run : ofTokens settings tokens = .crashed literal notices) :
    literal ∈ tokens ∧ literal.IsHollow := by
  have about := ofTokens_about (fun tok => tok ∈ tokens ∨ tok.kind = .endOfInput) settings
    (fun _ => .inl) (.inr (ofTokens_stops tokens _)) (.inr rfl)
  rw [run] at about
  obtain ⟨member | atEnd, hollow, -⟩ := about
  · exact ⟨member, hollow⟩
  · exact absurd (atEnd.symm.trans hollow.kind) (by decide)

end Program

end WinZig
