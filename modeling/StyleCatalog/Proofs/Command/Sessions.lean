import StyleCatalog.Command.Run
import StyleCatalog.Proofs.Files.Writing

/-! # What a run leaves of its session

The parts of a build that read leave the files and the output as they are, whether they give a
result or fail. Such parts can be put one after the other.
-/

namespace StyleCatalog

/-- The files are the same, and nothing went out. The log may have grown. -/
structure Session.Kept (before after : Session) : Prop where
  disk : after.disk = before.disk
  printed : after.printed = before.printed
  written : after.written = before.written

theorem Session.Kept.refl (session : Session) : session.Kept session := ⟨rfl, rfl, rfl⟩

theorem Session.Kept.trans {first second third : Session} (one : first.Kept second)
    (two : second.Kept third) : first.Kept third where
  disk := two.disk.trans one.disk
  printed := two.printed.trans one.printed
  written := two.written.trans one.written

namespace Run

variable {α β : Type}

/-- The result of a part of a run by its outcome and the session after it. -/
def resultOf (outcome : Except CommandError α) (after : Session) :
    EStateM.Result CommandError Session α :=
  match outcome with
  | .ok result => .ok result after
  | .error error => .error error after

/-- A part of a run has an outcome, and the session is kept whatever that is. -/
def Ends (part : Run α) (session : Session) (outcome : Except CommandError α) : Prop :=
  ∃ after, part session = resultOf outcome after ∧ session.Kept after

abbrev Gives (part : Run α) (session : Session) (result : α) : Prop :=
  part.Ends session (.ok result)

abbrev Stops (part : Run α) (session : Session) (error : CommandError) : Prop :=
  part.Ends session (.error error)

variable {part : Run α} {next : α → Run β} {session : Session} {result : α}
  {outcome : Except CommandError β} {error : CommandError}

/-! ## One part after another -/

theorem bind_of_ok {after : Session} (ran : part session = .ok result after) :
    (part >>= next) session = next result after := by
  simp only [Bind.bind, EStateM.bind, ran]

theorem Gives.bind (gives : part.Gives session result)
    (later : ∀ after, session.Kept after → (next result).Ends after outcome) :
    Ends (part >>= next) session outcome := by
  rcases gives with ⟨between, first, kept⟩
  rcases later between kept with ⟨after, second, alsoKept⟩
  exact ⟨after, (bind_of_ok first).trans second, kept.trans alsoKept⟩

theorem Stops.bind (stops : part.Stops session error) : Stops (part >>= next) session error := by
  rcases stops with ⟨after, failed, kept⟩
  refine ⟨after, ?_, kept⟩
  simp only [Bind.bind, EStateM.bind, failed, resultOf]

/-! ## Parts that keep the session -/

end Run

end StyleCatalog
