import WinZig.Proofs.Parsing.Steps

/-!
# What is read as an expression

What is read as an expression is derived as one, and where reading fails, what was read is the start
of an expression. Climbing looks at the token behind an operand: an expression of a given level ends
in front of an operator that binds more loosely.
-/

namespace WinZig.Parser

open Grammar

variable {limit limit' : Nat}

/-! ## Literals and names -/

/-- There is a literal. -/
theorem literal_completes : ∃ tokens value, Literal tokens value :=
  ⟨[{ kind := .trueWord }], _, .truth rfl⟩

/-- An integer literal that does not fit is blamed, and nothing of it counts as read. -/
theorem integer_reads : Reads (· = .integer) limit limit' integer integer Literal.free Literal := by
  refine (Reads.shiftOr (by decide) fun tok spelled => ?_).lower (Nat.le_succ _) (Nat.le_succ _)
  cases fits : Text.int64? tok.text with
  | none => exact .inl ⟨.integerRange, rfl, rfl, literal_completes⟩
  | some value =>
    have derived : Literal [tok] (.integer tok .unknown value) := .integer spelled fits
    refine .inr ?_
    by_cases wide : widestInteger < value
    · simp only [wide, ↓reduceIte]
      exact .note (.pure fun _ _ => derived)
    · simp only [wide, ↓reduceIte]
      exact .pure fun _ _ => derived

/-- The value of a character literal is its second character. -/
theorem character_reads :
    Reads (· = .character) limit limit' character character Literal.free Literal := by
  refine (Reads.shift (by decide) fun tok spelled => ?_).lower (Nat.le_succ _) (Nat.le_succ _)
  match chars : tok.text.toList with
  | [] => exact .crash
  | [_] => exact .crash
  | _ :: value :: _ => exact .pure fun _ _ => .character spelled chars

/-- A word that stands for a boolean. -/
theorem boolean_reads {kind : Kind} {value : Bool} {rule : Rule Node} (real : kind ≠ .endOfInput)
    (derived : ∀ tok : Token, tok.kind = kind → rule [tok] (.boolean tok .unknown value)) :
    Reads (· = kind) limit limit' (boolean value) (boolean value) rule.free rule := by
  refine (Reads.shift real.symm fun tok spelled => ?_).lower (Nat.le_succ _) (Nat.le_succ _)
  exact .pure fun _ _ => derived tok spelled

/-- Names are parsed. -/
theorem identifier_parses : Parses limit limit' identifier identifier Name.free Name :=
  .expect fun _ spelled => .pure (fun _ => .name spelled) (.name spelled)

/-- In front of an identifier, reading the name is shifting the token. -/
theorem Agree.identifier {α : Type} (second : Node → Parser α) :
    Agree (· = .identifier) (Parser.identifier >>= second)
      (shift >>= fun tok => second (.name tok .unknown tok.text)) := by
  simp only [Parser.identifier, bind_assoc, pure_bind]
  exact .expect .identifier _

/-! ## Expressions -/

section Expressions

variable {enabled : Feature → Bool}

/-- An expression may be asked for at a lower level than it is of. -/
theorem Expression_lower {floor level : Nat} {tokens : List Token} {node : Node}
    (derived : Expression enabled level tokens node) (lower : floor ≤ level) :
    Expression enabled floor tokens node := by
  cases derived with
  | operand only => exact .operand only
  | binary binds admitted before behind =>
    exact .binary binds (Nat.le_trans lower admitted) before behind

/-- There is no level above the one of the multiplying operators. -/
theorem level_le {kind : Kind} {level : Nat} (binds : kind.level? = some level) : level ≤ 60 := by
  cases kind <;> simp [Kind.level?] at binds <;> omega

/-- There is an operand. -/
theorem operand_completes : ∃ tokens node, Operand enabled tokens node :=
  ⟨[{ kind := .trueWord }], _, .literal (.truth rfl)⟩

/-- An expression of at least a given level, in front of a token that does not continue it. -/
def ended (enabled : Feature → Bool) (floor : Nat) : Language Node := fun tokens node next =>
  Expression enabled floor tokens node ∧ ∀ level, next.level? = some level → level < floor

/-- What is known of climbing under a bound: it goes on with any expression whose operators bind at
least as tight as the next one. -/
def Climbs (enabled : Feature → Bool) (bound bound' : Nat) : Prop :=
  ∀ {floor top : Nat} {before : List Token} {left : Node}, Expression enabled top before left →
    floor ≤ top →
    Reads (fun kind => ∀ level, kind.level? = some level → level ≤ top) bound bound'
      (climb enabled bound floor left) (climb enabled bound' floor left)
      ((ended enabled floor).after before) ((Expression enabled floor).after before)

/-- An operand and what climbing adds to it are an expression. -/
theorem expressionUpTo_parses {bound bound' : Nat} (floor : Nat)
    (operands : Parses bound bound' (operand enabled bound) (operand enabled bound')
      (Operand enabled).free (Operand enabled)) (climbs : Climbs enabled bound bound') :
    Parses bound bound' (operand enabled bound >>= climb enabled bound floor)
      (operand enabled bound' >>= climb enabled bound' floor) (ended enabled floor)
      (Expression enabled floor) where
  toReads := by
    refine operands.toReads.andThen bound bound' (fun read node next derived => ?_)
      (fun read node derived => ⟨[], node, ?_⟩) (fun _ _ _ _ => by omega)
    · have left : Expression enabled (max floor 60) read node := .operand derived
      refine (climbs left (Nat.le_max_left _ _)).narrow fun kind _ level binds => ?_
      exact Nat.le_trans (level_le binds) (Nat.le_max_right _ _)
    · rw [List.append_nil]
      exact .operand derived
  completes := by
    obtain ⟨tokens, node, derived⟩ := operands.completes
    exact ⟨tokens, node, .operand derived⟩

/-- Climbing over one operator: the operand behind it takes every tighter operator, so the next one
binds no tighter than this one, and the left operand may grow by it. -/
theorem climb_step {bound bound' : Nat}
    (operands : Parses bound bound' (operand enabled bound) (operand enabled bound')
      (Operand enabled).free (Operand enabled)) (climbs : Climbs enabled bound bound') :
    Climbs enabled (bound + 1) (bound' + 1) := by
  intro floor top before left derived below
  rw [climb, climb]
  refine .current fun tok starts => ?_
  cases binds : tok.kind.level? with
  | none =>
    refine .pure fun next same => ⟨?_, fun level binds' => ?_⟩
    · simpa using Expression_lower derived below
    · rw [same, binds] at binds'
      exact nomatch binds'
  | some level =>
    by_cases loose : level < floor
    · simp only [loose, ↓reduceIte]
      refine .pure fun next same => ⟨?_, fun level' binds' => ?_⟩
      · simpa using Expression_lower derived below
      · rw [same, binds] at binds'
        exact Option.some.inj binds' ▸ loose
    · simp only [loose, ↓reduceIte]
      refine .shift (fun same => ?_) fun op same => ?_
      · rw [← same] at binds
        exact nomatch binds
      have opBinds : op.kind ∈ operators level := mem_operators.mpr (by rw [same, binds])
      have tight : floor ≤ level := Nat.le_of_not_lt loose
      have whole {right : List Token} {node : Node}
          (behind : Expression enabled (level + 1) right node) :
          Expression enabled level (before ++ op :: right) (.binary op .unknown op.kind left node) :=
        .binary opBinds (Nat.le_refl _) (Expression_lower derived (starts level binds)) behind
      simp only [← bind_assoc]
      refine (expressionUpTo_parses (level + 1) operands climbs).toReads.andThen bound bound'
        (fun right node next found => ?_)
        (fun right node found => ⟨[], .binary op .unknown op.kind left node, ?_⟩)
        (fun _ _ _ _ => by omega)
      · obtain ⟨behind, looser⟩ := found
        refine ((climbs (whole behind) tight).narrow fun kind same level' binds' => ?_).widen
          (fun tokens value next found => ?_) (fun tokens value found => ?_)
        · exact Nat.le_of_lt_succ (looser level' (same ▸ binds'))
        · simpa [Language.after] using found
        · simpa [Rule.after] using found
      · simpa [Rule.after] using Expression_lower (whole found) tight

/-- An operand: each alternative consumes a token before anything nested is read. -/
theorem operand_step {bound bound' : Nat}
    (operands : Parses bound bound' (operand enabled bound) (operand enabled bound')
      (Operand enabled).free (Operand enabled)) (climbs : Climbs enabled bound bound') :
    Parses (bound + 1) (bound' + 1) (operand enabled (bound + 1)) (operand enabled (bound' + 1))
      (Operand enabled).free (Operand enabled) := by
  refine ⟨?_, operand_completes⟩
  have nested : Parses bound bound' (operand enabled bound >>= climb enabled bound 0)
      (operand enabled bound' >>= climb enabled bound' 0) (Expression enabled 0).free
      (Expression enabled 0) :=
    (expressionUpTo_parses 0 operands climbs).widen (fun _ _ _ found => found.1) fun _ _ => id
  have unary {kind : Kind} (applies : isUnary enabled kind = true) :
      Reads (· = kind) (bound + 1) (bound' + 1)
        (do let op ← shift; return .unary op .unknown op.kind (← operand enabled bound))
        (do let op ← shift; return .unary op .unknown op.kind (← operand enabled bound'))
        (Operand enabled).free (Operand enabled) := by
    refine .shift (fun same => ?_) fun op spelled => ?_
    · rw [← same] at applies
      exact nomatch applies
    · refine (operands.andThen fun tokens node derived => ?_).toReads
      exact .finish (.unary (by rw [spelled, applies]) derived)
  rw [operand, operand]
  refine .current fun tok _ => ?_
  generalize tok.kind = kind
  cases kind with
  | minus | plus | notWord | succWord | predWord => exact unary rfl
  | chrWord | ordWord =>
    by_cases admitted : enabled .ordinalFunctions = true
    · simp only [require, admitted]
      exact unary admitted
    · simp only [require, admitted]
      exact .fail operand_completes
  | integer => exact integer_reads.widen (fun _ _ _ => .literal) fun _ _ => .literal
  | character => exact character_reads.widen (fun _ _ _ => .literal) fun _ _ => .literal
  | trueWord => exact boolean_reads (by decide) fun _ spelled => .literal (.truth spelled)
  | falseWord => exact boolean_reads (by decide) fun _ spelled => .literal (.falsity spelled)
  | eofWord =>
    by_cases admitted : enabled .endOfFileLiteral = true
    · simp only [require, admitted]
      exact boolean_reads (by decide) fun _ spelled => .endOfFile spelled admitted
    · simp only [require, admitted]
      exact .fail operand_completes
  | identifier =>
    rw [← bind_pure identifier]
    refine .congr (by decide) (.shift (by decide) fun callee named => .current fun next _ => ?_)
      (.following (fun _ _ _ _ _ => rfl) (.identifier _))
      (.following (fun _ _ _ _ _ => rfl) (.identifier _))
    by_cases opens : next.kind = .openParen
    · simp only [opens, ↓reduceIte]
      refine Reads.lower (.shift (by decide) fun opening opened => ?_) (Nat.le_succ _) (Nat.le_succ _)
      refine (Parses.optional (nested.separated (by decide)) fun args nodes given => ?_).toReads
      exact .expect fun closing closed => .finish (.call named opened given closed)
    · simp only [opens, ↓reduceIte]
      exact (Parses.finish (.name (.name named))).toReads.narrow fun _ _ => trivial
  | openParen =>
    refine .shift (by decide) fun opening opened => ?_
    simp only [← bind_assoc]
    refine (nested.andThen fun inner node enclosed => ?_).toReads
    refine .expect fun closing closed => ?_
    exact .finish (.group opened enclosed closed)
  | _ => exact .fail operand_completes

/-- Operands are parsed, and operators climbed, by induction on the bounds. -/
theorem operand_climb_parses (enabled : Feature → Bool) (bound bound' : Nat) :
    Parses bound bound' (operand enabled bound) (operand enabled bound') (Operand enabled).free
      (Operand enabled) ∧ Climbs enabled bound bound' := by
  induction bound, bound' using bound_induction with
  | zero bound' => exact ⟨⟨.vacuous, operand_completes⟩, fun _ _ => .vacuous⟩
  | drop bound ih =>
    obtain ⟨operands, climbs⟩ := ih
    exact ⟨operands.anyTwin.lower (Nat.le_refl _) (Nat.zero_le _),
      fun derived below => (climbs derived below).anyTwin.lower (Nat.le_refl _) (Nat.zero_le _)⟩
  | step bound bound' ih =>
    obtain ⟨operands, climbs⟩ := ih
    exact ⟨operand_step operands climbs, climb_step operands climbs⟩

/-- Expressions are parsed. -/
theorem expression_parses :
    Parses limit limit' (expression enabled) (expression enabled) (Expression enabled 0).free
      (Expression enabled 0) where
  toReads := .ofBounded fun bound bound' _ _ => by
    obtain ⟨operands, climbs⟩ := operand_climb_parses enabled bound bound'
    exact ((expressionUpTo_parses 0 operands climbs).widen (fun _ _ _ found => found.1)
      fun _ _ => id).toReads
  completes := by
    obtain ⟨tokens, node, derived⟩ : ∃ tokens node, Operand enabled tokens node := operand_completes
    exact ⟨tokens, node, .operand derived⟩

end Expressions

end WinZig.Parser
