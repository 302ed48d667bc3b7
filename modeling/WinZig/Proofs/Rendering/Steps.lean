import WinZig.Proofs.Parsing.Shape
import WinZig.Proofs.Rendering.Layout

/-!
# From lexemes to derivations, step by step

Lexemes stand for a value if the grammar derives the value from any tokens that say them. What is
derived differs from the value only in what is forgotten, such as the tokens that a tree is anchored
at. Besides, every lexeme has to be fit for its reader. A reader of tokens takes whatever they say; a
reader of text has to be able to tell one lexeme from the next.

A production is followed from left to right. After each lexeme, and after each part that stands for
a value of its own, what is left of the production is a rule for the lexemes that are left.
-/

namespace WinZig.Rendering

open Grammar Lexeme

/-- Lexemes stand for a value: they are fit, and any tokens that say the same are derived as that
value, up to what is forgotten. -/
structure Renders (fit : Lexeme → Prop) {α : Type} (rule : Rule α) (forget : α → α)
    (lexemes : List Lexeme) (value : α) : Prop where
  fits : ∀ lexeme ∈ lexemes, fit lexeme
  derived : ∀ tokens : List Token, tokens.map Token.lexeme = lexemes →
    ∃ read, rule tokens read ∧ forget read = forget value

/-- What a lexicon admits, and every reserved word and mark, is fit. Integers have 63 bits. -/
structure Covers (fit : Lexeme → Prop) (lexicon : Shape.Lexicon) : Prop where
  word {kind : Kind} (known : kind ∈ Kind.reserved ++ marks) : fit (spelled kind)
  name {text : String} (admitted : lexicon.name text) : fit (named text)
  bound {value : Int} (admitted : lexicon.integer value) : 0 ≤ value ∧ value < 2 ^ 63
  integer {value : Int} (admitted : lexicon.integer value) : fit ⟨.integer, toString value.toNat⟩
  character {value : Char} (admitted : lexicon.character value) :
    fit ⟨.character, String.ofList ['\'', value, '\'']⟩

section Steps

variable {fit : Lexeme → Prop} {lexicon : Shape.Lexicon} {α β : Type} {rule : Rule α}
  {forget : α → α} {value : α} {lexemes more : List Lexeme} {item : Rule β} {forget' : β → β}
  {part : β}

/-- Nothing is left. -/
theorem Renders.done {read : α} (derived : rule [] read) (equal : forget read = forget value) :
    Renders fit rule forget [] value where
  fits := List.forall_mem_nil _
  derived tokens same := by
    obtain rfl := List.map_eq_nil_iff.mp same
    exact ⟨read, derived, equal⟩

/-- A lexeme, then the rest. -/
theorem Renders.token {lexeme : Lexeme} (fits : fit lexeme)
    (next : ∀ tok : Token, tok.lexeme = lexeme →
      Renders fit (fun tokens => rule (tok :: tokens)) forget lexemes value) :
    Renders fit rule forget (lexeme :: lexemes) value where
  fits := List.forall_mem_cons.mpr ⟨fits, (next lexeme.token rfl).fits⟩
  derived tokens same := by
    obtain ⟨tok, rest, rfl, said, saidRest⟩ := List.map_eq_cons_iff.mp same
    exact (next tok said).derived rest saidRest

/-- A reserved word or a mark, then the rest. -/
theorem Renders.word (covers : Covers fit lexicon) {kind : Kind}
    (known : kind ∈ Kind.reserved ++ marks)
    (next : ∀ tok : Token, tok.kind = kind →
      Renders fit (fun tokens => rule (tok :: tokens)) forget lexemes value) :
    Renders fit rule forget (spelled kind :: lexemes) value :=
  .token (covers.word known) fun tok said => next tok (congrArg Lexeme.kind said)

/-- A name, then the rest. -/
theorem Renders.name (covers : Covers fit lexicon) {text : String} (admitted : lexicon.name text)
    (next : ∀ tok : Token, tok.kind = .identifier → tok.text = text →
      Renders fit (fun tokens => rule (tok :: tokens)) forget lexemes value) :
    Renders fit rule forget (named text :: lexemes) value :=
  .token (covers.name admitted) fun tok said =>
    next tok (congrArg Lexeme.kind said) (congrArg Lexeme.text said)

/-- A part that stands for a value of its own, then the rest. -/
theorem Renders.andThen (first : Renders fit item forget' lexemes part)
    (next : ∀ before read, item before read → forget' read = forget' part →
      Renders fit (fun tokens => rule (before ++ tokens)) forget more value) :
    Renders fit rule forget (lexemes ++ more) value where
  fits := by
    obtain ⟨read, derived, equal⟩ := first.derived _ (map_lexeme_token lexemes)
    exact List.forall_mem_append.mpr ⟨first.fits, (next _ read derived equal).fits⟩
  derived tokens same := by
    obtain ⟨before, behind, rfl, said, saidBehind⟩ := List.map_eq_append_iff.mp same
    obtain ⟨read, derived, equal⟩ := first.derived before said
    exact (next before read derived equal).derived behind saidBehind

/-- A part behind which nothing is left. -/
theorem Renders.last (first : Renders fit item forget' lexemes part)
    (next : ∀ tokens read, item tokens read → forget' read = forget' part →
      ∃ result, rule tokens result ∧ forget result = forget value) :
    Renders fit rule forget lexemes value where
  fits := first.fits
  derived tokens same := by
    obtain ⟨read, derived, equal⟩ := first.derived tokens same
    exact next tokens read derived equal

/-- What is derived by one rule is derived by a weaker one. -/
theorem Renders.imp {other : Rule α} (weaker : ∀ {tokens read}, rule tokens read → other tokens read)
    (rendered : Renders fit rule forget lexemes value) : Renders fit other forget lexemes value :=
  rendered.last fun _ read derived equal => ⟨read, weaker derived, equal⟩

end Steps

/-! ## Lists -/

section Lists

variable {fit : Lexeme → Prop} {lexicon : Shape.Lexicon} {α β : Type} {item : Rule α}
  {forget : α → α} (render : β → List Lexeme) (value : β → α)

/-- Values that stand on their own, with a mark between them. -/
theorem separated_renders (covers : Covers fit lexicon) {mark : Kind}
    (marked : mark ∈ Kind.reserved ++ marks) {inputs : List β} (some : inputs ≠ [])
    (each : ∀ input ∈ inputs, Renders fit item forget (render input) (value input)) :
    Renders fit (Separated mark item) (List.map forget) (separated mark (inputs.map render))
      (inputs.map value) := by
  induction inputs with
  | nil => exact absurd rfl some
  | cons first others ih =>
    obtain ⟨head, tail⟩ := List.forall_mem_cons.mp each
    cases others with
    | nil => exact head.last fun _ read derived equal => ⟨[read], .one derived, by simp [equal]⟩
    | cons second others =>
      refine head.andThen fun _ read derived equal => ?_
      refine .word covers marked fun tok is => ?_
      refine (ih (by simp) tail).last fun _ reads derivedRest equalRest => ?_
      refine ⟨read :: reads, .more derived is derivedRest, ?_⟩
      rw [List.map_cons, equal, equalRest]
      rfl

/-- Values that stand on their own, one right behind the other. -/
theorem repeated_renders {inputs : List β}
    (each : ∀ input ∈ inputs, Renders fit item forget (render input) (value input)) :
    Renders fit (Repeated item) (List.map forget) (inputs.flatMap render) (inputs.map value) := by
  induction inputs with
  | nil => exact .done .none rfl
  | cons first others ih =>
    obtain ⟨head, tail⟩ := List.forall_mem_cons.mp each
    refine head.andThen fun _ read derived equal => ?_
    refine (ih tail).last fun _ reads derivedRest equalRest => ?_
    refine ⟨read :: reads, .more derived derivedRest, ?_⟩
    rw [List.map_cons, equal, equalRest]
    rfl

/-- Lists that hold one member each, taken together, are the list of the members. -/
theorem flatten_singletons {lists : List (List α)} {members : List α}
    (equal : lists.map (List.map forget) = (members.map fun member => [member]).map (List.map forget)) :
    lists.flatten.map forget = members.map forget := by
  rw [List.map_flatten, equal, ← List.map_flatten, ← List.flatMap_def, List.flatMap_singleton']

end Lists

end WinZig.Rendering
