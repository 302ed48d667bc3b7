import WinZig.Proofs.Parsing.Exactness

/-!
# Switching a feature off

A feature admits a few words, and nothing else depends on it. So a parser that works without the
feature does what it does with it until it comes to the first of these words, and there it fails.

The runs with and without the feature are compared. Their cursors are the same as long as no word of
the feature has been read. The words are read in one place only, behind the test of the feature, and
there the run without it stops.
-/

namespace WinZig

/-- No word belongs to two features. -/
theorem Feature.eq_of_words {feature other : Feature} {kind : Kind} (word : kind ∈ feature.words)
    (word' : kind ∈ other.words) : feature = other := by
  cases feature <;> cases other <;> simp_all [words]

/-- The second choice of features is the first one without a given feature. -/
structure Feature.SwitchedOff (feature : Feature) (enabled enabled' : Feature → Bool) : Prop where
  before : enabled feature = true
  behind : enabled' feature = false
  others : ∀ other, other ≠ feature → enabled' other = enabled other

/-- A kind of tokens that can be read, and that a feature has nothing to do with. -/
structure Kind.Plain (feature : Feature) (kind : Kind) : Prop where
  real : kind ≠ .endOfInput
  free : kind ∉ feature.words

/-- What is consumed whatever the features are is plain. -/
theorem Kind.Plain.of_isPlain {feature : Feature} {kind : Kind} (plain : kind.isPlain = true) :
    kind.Plain feature where
  real := real_of_isPlain plain
  free word := by cases feature <;> cases kind <;> simp_all [Feature.words, isPlain]

/-- Words of other features are plain. -/
theorem Kind.Plain.of_word {feature other : Feature} {kind : Kind} (different : other ≠ feature)
    (word : kind ∈ other.words) : kind.Plain feature where
  real := Feature.real_of_mem_words word
  free own := different (Feature.eq_of_words word own)

/-- A cursor that got where it is by reading plain tokens only. -/
structure Cursor.Plainly (feature : Feature) (cursor start : Cursor) : Prop where
  ends : cursor.stop.kind = .endOfInput
  plain : ∃ read, start.Past read cursor ∧ ∀ tok ∈ read, tok.kind.Plain feature

/-- One more plain token is read. -/
theorem Cursor.Plainly.advanced {feature : Feature} {cursor start : Cursor} {tok : Token}
    {rest : List Token} (plainly : cursor.Plainly feature start) (ahead : cursor.rest = tok :: rest)
    (plain : tok.kind.Plain feature) : (cursor.advanced tok rest).Plainly feature start := by
  obtain ⟨read, past, before⟩ := plainly.plain
  have step : cursor.Past [tok] (cursor.advanced tok rest) := ⟨ahead, rfl, rfl⟩
  refine ⟨plainly.ends, _, past.trans step, ?_⟩
  exact List.forall_mem_append.mpr ⟨before, List.forall_mem_singleton.mpr plain⟩

/-- The first word of a feature is blamed. -/
def Feature.Blames (feature : Feature) (start : Cursor) (fault : Fault) (index : Nat) : Prop :=
  ∃ front word rest, start.rest = front ++ word :: rest ∧ index = start.index + front.length ∧
    (∀ tok ∈ front, tok.kind.Plain feature) ∧ word.kind ∈ feature.words ∧
    fault = ⟨word, .forbidden feature⟩

/-- A run with a feature and a run without it. -/
def Comparison.restricting {feature : Feature} {enabled enabled' : Feature → Bool}
    (switched : feature.SwitchedOff enabled enabled') (start : Cursor) : Comparison where
  enabled := enabled
  enabled' := enabled'
  onToken := id
  keeps := Token.keepsSpelling_id
  Known _ := True
  Near cursor cursor' := cursor' = cursor ∧ cursor.Plainly feature start
  Stops fault index _ := feature.Blames start fault index
  ends near := near.2.ends
  rest near := near.1 ▸ (List.map_id _).symm
  stop near := near.1 ▸ rfl
  last near := near.1 ▸ rfl
  known _ := ⟨trivial, trivial, fun _ _ => trivial⟩
  advance near ahead plain := by
    obtain ⟨rfl, plainly⟩ := near
    rw [List.map_id]
    exact ⟨rfl, plainly.advanced ahead (.of_isPlain plain)⟩
  guard {_ _ tok rest other} near ahead word := by
    obtain ⟨rfl, plainly⟩ := near
    rw [List.map_id]
    by_cases same : other = feature
    · -- The run without the feature stops here.
      subst same
      obtain ⟨read, past, before⟩ := plainly.plain
      refine .inr ⟨switched.before, switched.behind, read, tok, rest, ?_, past.index, before, word,
        rfl⟩
      rw [past.rest, ahead]
    · exact .inl ⟨switched.others other same,
        fun _ => ⟨rfl, plainly.advanced ahead (.of_word same word)⟩⟩
  note near _ _ := by
    obtain ⟨rfl, ends, read, past, before⟩ := near
    exact ⟨rfl, ends, read, ⟨past.rest, past.stop, past.index⟩, before⟩

/-- Outcomes that correspond are the same, and then no word of the feature was read for them, or the
first such word is blamed. -/
theorem Comparison.cases_of_restricting {α : Type} {feature : Feature}
    {enabled enabled' : Feature → Bool} {switched : feature.SwitchedOff enabled enabled'}
    {start : Cursor} {reply reply' : Reply α}
    (outcome : (restricting switched start).Replies (fun value value' => value' = value) reply
      reply') :
    reply' = reply ∧ (∀ value cursor, reply = .ok value cursor → cursor.Plainly feature start) ∨
      ∃ fault index notices, reply' = .failed fault index notices ∧
        feature.Blames start fault index := by
  cases outcome with
  | ok near held =>
    obtain ⟨rfl, plainly⟩ := near
    refine .inl ⟨congrArg (Reply.ok · _) held, fun value cursor same => ?_⟩
    obtain ⟨-, rfl⟩ := Reply.ok.inj same
    exact plainly
  | failed near => exact .inl ⟨by rw [near.1], fun _ _ same => nomatch same⟩
  | failedLast near => exact .inl ⟨by rw [near.1], fun _ _ same => nomatch same⟩
  | crashed near => exact .inl ⟨by rw [near.1]; rfl, fun _ _ same => nomatch same⟩
  | stopped stops => exact .inr ⟨_, _, _, rfl, stops⟩

namespace Program

open Grammar

variable {settings : Settings} {tokens : List Token}

/-- A derived program is a text with a dot behind it. -/
theorem exists_dot {enabled : Feature → Bool} {program : Program}
    (derived : ProgramText enabled tokens program) :
    ∃ text dot, tokens = text ++ [dot] ∧ dot.kind = .dot := by
  cases derived with
  | @program word name colon typeTokens _ varTokens _ functionTokens _ bodyTokens _ endName dot _ _ _
      _ _ _ _ _ ended =>
    refine ⟨word :: name :: colon :: (typeTokens ++ (varTokens ++ (functionTokens ++
      (bodyTokens ++ [endName])))), dot, ?_, ended⟩
    simp

/-- How the refusal of a word reads. -/
theorem message_forbidden (feature : Feature) (word : Token) :
    Fault.message ⟨word, .forbidden feature⟩ =
      "'" ++ (if feature = .endOfFileLiteral then "eof" else word.text) ++
        "' is forbidden by the current feature set (-Fno-" ++ feature.name ++ ")." := by
  cases feature <;> rfl

/-- The outcomes of reading a stream with a feature and without it: they are the same, and then no
word of the feature was read, or the first such word is blamed. -/
theorem ofTokens_restricted (settings : Settings) (feature : Feature) (tokens : List Token) :
    ofTokens (settings.setFeature feature false) tokens =
        ofTokens (settings.setFeature feature true) tokens ∧
      (∀ program cursor, ofTokens (settings.setFeature feature true) tokens = .ok program cursor →
        ∃ read, tokens = read ++ cursor.rest ∧ ∀ tok ∈ read, tok.kind.Plain feature) ∨
    ∃ front word rest notices, tokens = front ++ word :: rest ∧
      (∀ tok ∈ front, tok.kind.Plain feature) ∧ word.kind ∈ feature.words ∧
      ofTokens (settings.setFeature feature false) tokens =
        .failed ⟨word, .forbidden feature⟩ front.length notices := by
  have switched : feature.SwitchedOff (settings.setFeature feature true).feature
      (settings.setFeature feature false).feature :=
    ⟨if_pos rfl, if_pos rfl, fun other different => by simp [Settings.setFeature, different]⟩
  have start : (Cursor.ofTokens tokens settings.warning).Plainly feature
      (Cursor.ofTokens tokens settings.warning) :=
    ⟨ofTokens_stops tokens _, [], .refl _, List.forall_mem_nil _⟩
  have outcome := (Comparison.restricting switched _).program_follows _ _ ⟨rfl, start⟩ trivial
  have onto : Program.moved (Comparison.restricting switched
      (Cursor.ofTokens tokens settings.warning)).onToken = id := moved_id
  rw [onto] at outcome
  rcases Comparison.cases_of_restricting outcome with ⟨same, plain⟩ |
    ⟨_, _, notices, without, front, word, rest, whole, rfl, plain, used, rfl⟩
  · refine .inl ⟨same, fun program cursor accepted => ?_⟩
    obtain ⟨read, past, each⟩ := (plain program cursor accepted).plain
    exact ⟨read, past.rest, each⟩
  · refine .inr ⟨front, word, rest, notices, whole, plain, used, without.trans ?_⟩
    exact congrArg (Reply.failed _ · notices) (Nat.zero_add front.length)

/-- The first word of a feature that is blamed in a stream stands in the program that is read from
the stream with the feature. Neither the dot nor what stands for the end is such a word. -/
theorem blamed_within {feature : Feature} {text rest front others : List Token} {dot word : Token}
    (whole : text ++ dot :: rest = front ++ word :: others) (dotted : dot.kind = .dot)
    (atEnd : ∀ tok ∈ rest.head?, tok.kind = .endOfInput)
    (plain : ∀ tok ∈ front, tok.kind.Plain feature) (used : word.kind ∈ feature.words) :
    ∃ more, text = front ++ word :: more := by
  have undotted : dot ≠ word := by
    rintro rfl
    rw [dotted] at used
    cases feature <;> simp [Feature.words] at used
  rcases List.append_eq_append_iff.mp whole with ⟨more, before, behind⟩ | ⟨more, before, behind⟩
  · -- What is blamed would stand behind the text.
    cases more with
    | nil => exact absurd (List.cons.inj behind).1 undotted
    | cons first more =>
      obtain ⟨rfl, rfl⟩ := List.cons.inj behind
      cases more with
      | nil =>
        have ending := atEnd word rfl
        exact absurd ending (Feature.real_of_mem_words used)
      | cons tok more =>
        have ending := atEnd tok rfl
        exact absurd ending (plain tok (by simp [before])).real
  · cases more with
    | nil => exact absurd (List.cons.inj behind).1.symm undotted
    | cons first more =>
      obtain ⟨rfl, -⟩ := List.cons.inj behind
      exact ⟨more, before⟩

/-- Switching a feature off only restricts. What is refused with the feature is refused without it,
and what crashes with it crashes without it unless it is refused. What is read as a program with the
feature is a text with a dot behind it, at the end of the stream: if no word of the feature stands in
the text, the same program is read without the feature, and otherwise the first such word is refused
as forbidden.

Proof: the run without the feature is the same or blames the first word of the feature. The tokens
that the accepting run has read are the text and the dot. The dot is no word of a feature, so the
first such word stands in the text. -/
theorem features_restrict (settings : Settings) (feature : Feature) (tokens : List Token) :
    let on := settings.setFeature feature true
    let off := settings.setFeature feature false
    (∀ fault index notices, ofTokens on tokens = .failed fault index notices →
      ∃ fault' index' notices', ofTokens off tokens = .failed fault' index' notices') ∧
    (∀ literal notices, ofTokens on tokens = .crashed literal notices →
      ofTokens off tokens = .crashed literal notices ∨
        ∃ fault index notices', ofTokens off tokens = .failed fault index notices') ∧
    ∀ program cursor, ofTokens on tokens = .ok program cursor →
      ∃ text dot rest, tokens = text ++ dot :: rest ∧ dot.kind = .dot ∧
        (∀ tok ∈ text, tok.kind ≠ .endOfInput) ∧ (∀ tok ∈ rest.head?, tok.kind = .endOfInput) ∧
        ((∀ tok ∈ text, tok.kind ∉ feature.words) ∧ ofTokens off tokens = .ok program cursor ∨
          ∃ front word others, text = front ++ word :: others ∧
            (∀ tok ∈ front, tok.kind ∉ feature.words) ∧ word.kind ∈ feature.words ∧
            ∃ fault notices, ofTokens off tokens = .failed fault front.length notices ∧
              fault.token = word ∧
              fault.message = "'" ++ (if feature = .endOfFileLiteral then "eof" else word.text) ++
                "' is forbidden by the current feature set (-Fno-" ++ feature.name ++ ").") := by
  intro on off
  have outcome := ofTokens_restricted settings feature tokens
  change ofTokens off tokens = ofTokens on tokens ∧
    (∀ program cursor, ofTokens on tokens = .ok program cursor → _) ∨ _ at outcome
  refine ⟨fun fault index notices refused => ?_, fun literal notices crashed => ?_,
    fun program cursor accepted => ?_⟩
  · rcases outcome with ⟨same, -⟩ | ⟨_, word, _, notices', -, -, -, without⟩
    · exact ⟨fault, index, notices, same.trans refused⟩
    · exact ⟨_, _, notices', without⟩
  · rcases outcome with ⟨same, -⟩ | ⟨_, word, _, notices', -, -, -, without⟩
    · exact .inl (same.trans crashed)
    · exact .inr ⟨_, _, notices', without⟩
  · obtain ⟨_, whole, derived, real, atEnd⟩ := derived_of_read accepted
    obtain ⟨text, dot, rfl, dotted⟩ := exists_dot derived
    rw [List.append_assoc, List.singleton_append] at whole
    refine ⟨text, dot, cursor.rest, whole, dotted, fun tok member => real tok (by simp [member]),
      atEnd, ?_⟩
    rcases outcome with ⟨same, plain⟩ | ⟨front, word, others, notices, split, plain, used, without⟩
    · obtain ⟨read, split, plain⟩ := plain program cursor accepted
      have read_eq : text ++ [dot] = read := by
        apply List.append_cancel_right
        rw [← split, List.append_assoc, List.singleton_append, ← whole]
      refine .inl ⟨fun tok member => (plain tok ?_).free, same.trans accepted⟩
      rw [← read_eq]
      exact List.mem_append_left _ member
    · obtain ⟨more, within⟩ := blamed_within (whole.symm.trans split) dotted atEnd plain used
      exact .inr ⟨front, word, more, within, fun tok member => (plain tok member).free, used,
        ⟨word, .forbidden feature⟩, notices, without, rfl, message_forbidden feature word⟩

/-- A program with words of two features in it. -/
def converting : List Token := [
  { kind := .programWord }, { kind := .identifier, text := "p" }, { kind := .colon },
  { kind := .beginWord }, { kind := .identifier, text := "x" }, { kind := .assign },
  { kind := .ordWord, text := "ord" }, { kind := .chrWord, text := "chr" },
  { kind := .integer, text := "65" }, { kind := .semicolon }, { kind := .identifier, text := "b" },
  { kind := .assign }, { kind := .eofWord, text := "eof" }, { kind := .endWord },
  { kind := .identifier, text := "p" }, { kind := .dot }]

/-- The program is read with the conversions, and without them it is refused at `ord`, the first
one. A stream that breaks off is refused either way. -/
theorem features_restrict_converting :
    let on := ({} : Settings).setFeature .ordinalFunctions true
    let off := ({} : Settings).setFeature .ordinalFunctions false
    (∃ fault, ofTokens on (converting.take 6) = .failed fault 6 [] ∧
      ∃ fault' index' notices', ofTokens off (converting.take 6) = .failed fault' index' notices') ∧
    ∃ program cursor, ofTokens on converting = .ok program cursor ∧
      ∃ fault notices, ofTokens off converting = .failed fault 6 notices ∧
        fault.message = "'ord' is forbidden by the current feature set (-Fno-ordinal-funcs)." := by
  intro on off
  have broken :
      ofTokens on (converting.take 6) = .failed ⟨{ column := 1 }, .noExpression⟩ 6 [] := by
    cbv
  have accepted : ∃ program cursor, ofTokens on converting = .ok program cursor := ⟨_, _, by cbv⟩
  obtain ⟨program, cursor, run⟩ := accepted
  refine ⟨⟨_, broken, (features_restrict {} _ (converting.take 6)).1 _ _ _ broken⟩, program, cursor,
    run, ?_⟩
  obtain ⟨text, dot, rest, whole, dotted, -, -, outcome⟩ :=
    (features_restrict {} .ordinalFunctions converting).2.2 program cursor run
  have size : text.length = 15 := by
    have only : ∀ place < 16, converting[place]?.map Token.kind = some .dot → place = 15 := by
      decide
    apply only text.length
    · have total : converting.length = 16 := rfl
      rw [whole, List.length_append, List.length_cons] at total
      omega
    · simp [whole, dotted]
  have cut : text = converting.take 15 := by rw [whole, ← size, List.take_left]
  rcases outcome with ⟨free, -⟩ | ⟨front, word, others, split, free, used, fault, notices, refused,
    blamed, message⟩
  · rw [cut] at free
    exact absurd free (by decide)
  · have first : ∀ place < 15, (∀ tok ∈ (converting.take 15).take place,
        tok.kind ∉ Feature.ordinalFunctions.words) →
        (∃ tok ∈ (converting.take 15)[place]?, tok.kind ∈ Feature.ordinalFunctions.words) →
        place = 6 ∧ (converting.take 15)[place]? = some { kind := .ordWord, text := "ord" } := by
      decide
    rw [← cut, split] at first
    have short : front.length < 15 := by simp [← size, split]
    have here : (front ++ word :: others)[front.length]? = some word := by simp
    obtain ⟨place, ordinal⟩ := first _ short (by rwa [List.take_left]) ⟨word, here, used⟩
    rw [here, Option.some_inj] at ordinal
    rw [place] at refused
    rw [ordinal] at message
    exact ⟨fault, notices, refused, message⟩

end Program

end WinZig
