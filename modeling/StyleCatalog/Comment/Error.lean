import StyleCatalog.Text.Basic

/-! # Faults of a comment

What can be wrong with a comment that documents a section.
-/

namespace StyleCatalog

inductive CommentError where
  | missingReference
  | invalidWeight (value : Text)
  | invalidFlag (name value : Text)
  deriving DecidableEq, Repr

def CommentError.message : CommentError → Text
  | .missingReference => "Styleguide reference is empty".toList
  | .invalidWeight value => "Invalid weight '".toList ++ value ++ "': expected an integer".toList
  | .invalidFlag name value =>
    "Invalid value '".toList ++ value ++ "' for '".toList ++ name ++
      "': expected true or false".toList

theorem exists_of_map_eq_ok {α β ε : Type} {result : Except ε α} {f : α → β} {b : β}
    (success : result.map f = .ok b) : ∃ a, result = .ok a ∧ f a = b := by
  cases result with
  | error fault => cases success
  | ok a => exact ⟨a, rfl, Except.ok.inj success⟩

theorem cases_of_map_eq_map {α β γ ε : Type} {result : Except ε α} {other : Except ε β}
    {f : α → γ} {g : β → γ} (same : result.map f = other.map g) :
    (∃ fault, result = .error fault ∧ other = .error fault) ∨
      ∃ a b, result = .ok a ∧ other = .ok b ∧ f a = g b := by
  cases result with
  | error fault =>
      cases other with
      | error otherFault =>
          cases same
          exact .inl ⟨fault, rfl, rfl⟩
      | ok b => cases same
  | ok a =>
      cases other with
      | error otherFault => cases same
      | ok b => exact .inr ⟨a, b, rfl, rfl, Except.ok.inj same⟩

end StyleCatalog
