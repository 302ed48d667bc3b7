import WinZig.Proofs.Parsing.Wording

/-!
# Parsing with fewer warnings on

A parser remarks on what it reads and goes on. Whether a remark is kept depends on the warnings that
are on, and nothing depends on the remarks that were kept. So the run with fewer warnings on is the run
with more of them on, without the notices that belong to the others.
-/

namespace WinZig

/-- The notices that belong to some warnings, in order. -/
def Notice.restricted (only : Warning → Bool) (notices : List Notice) : List Notice :=
  notices.filter fun notice => only notice.remark.warning

/-- A cursor for which only some warnings are on, of those that were. -/
def Cursor.restricted (only : Warning → Bool) (cursor : Cursor) : Cursor :=
  { cursor with
    shown := fun warning => cursor.shown warning && only warning
    notices := Notice.restricted only cursor.notices }

/-- The outcome of a parser for which only some warnings are on, of those that were. -/
def Reply.restricted {α : Type} (only : Warning → Bool) : Reply α → Reply α
  | .ok value cursor => .ok value (cursor.restricted only)
  | .failed fault index notices => .failed fault index (Notice.restricted only notices)
  | .crashed literal notices => .crashed literal (Notice.restricted only notices)

/-- A run with some warnings on, and a run with only some of these. -/
def Comparison.quieting (only : Warning → Bool) (enabled : Feature → Bool) : Comparison where
  enabled := enabled
  enabled' := enabled
  onToken := id
  keeps := Token.keepsSpelling_id
  Known _ := True
  Near cursor cursor' := cursor' = cursor.restricted only ∧ cursor.stop.kind = .endOfInput
  Stops _ _ _ := False
  ends near := near.2
  rest near := near.1 ▸ (List.map_id _).symm
  stop near := near.1 ▸ rfl
  last near := near.1 ▸ rfl
  known _ := ⟨trivial, trivial, fun _ _ => trivial⟩
  advance near _ _ := by
    obtain ⟨rfl, ends⟩ := near
    rw [List.map_id]
    exact ⟨rfl, ends⟩
  guard near _ _ := by
    obtain ⟨rfl, ends⟩ := near
    rw [List.map_id]
    exact .inl ⟨rfl, fun _ => ⟨rfl, ends⟩⟩
  note near _ _ := by
    obtain ⟨rfl, ends⟩ := near
    refine ⟨?_, ends⟩
    simp only [Cursor.noted, Cursor.restricted, Notice.restricted, Notice.raised_and,
      List.filter_append, id]

/-- Outcomes that correspond are the same outcome, with all notices and with some of them. -/
theorem Comparison.eq_of_quieting {α : Type} {only : Warning → Bool} {enabled : Feature → Bool}
    {reply reply' : Reply α}
    (outcome : (quieting only enabled).Replies (fun value value' => value' = value) reply reply') :
    reply' = reply.restricted only := by
  cases outcome with
  | ok near held => rw [near.1, held, Reply.restricted]
  | failed near => rw [near.1]; rfl
  | failedLast near => rw [near.1]; rfl
  | crashed near => rw [near.1]; rfl
  | stopped stops => exact stops.elim

/-- A stream is read in the same way whichever warnings are on: it is read as with all warnings on, and
then the notices are left out that belong to the others. -/
theorem Program.ofTokens_eq_restricted (settings : Settings) (tokens : List Token) :
    ofTokens settings tokens =
      (ofTokens { settings with warning := fun _ => true } tokens).restricted settings.warning := by
  have start : Cursor.ofTokens tokens settings.warning =
      (Cursor.ofTokens tokens fun _ => true).restricted settings.warning := by
    simp [Cursor.ofTokens, Cursor.restricted, Notice.restricted]
  have follows := (Comparison.quieting settings.warning settings.feature).program_follows
  have unmoved : Program.moved
      (Comparison.quieting settings.warning settings.feature).onToken = id := moved_id
  rw [unmoved] at follows
  exact Comparison.eq_of_quieting
    (follows _ _ ⟨start, ofTokens_stops tokens fun _ => true⟩ trivial)

end WinZig
