import StyleCatalog.Text.Word

/-! # Keywords

Comment keywords are written in any letter case. Two characters beyond ASCII count as a case of an
ASCII letter: the long s and the Kelvin sign.
-/

namespace StyleCatalog

def isCaseOf (letter c : Char) : Bool :=
  c.toLower = letter || (letter = 's' && c = 'ſ') || (letter = 'k' && c = '\u212A')

namespace Text

/-- What follows `keyword`, written in any letter case, at the start of a text. The keyword itself
is given in small letters. -/
def afterKeyword? : Text → Text → Option Text
  | [], t => some t
  | _ :: _, [] => none
  | letter :: keyword, c :: rest =>
    if isCaseOf letter c then afterKeyword? keyword rest else none

/-- What follows `keyword` at the start of a text when the keyword ends there as a word. -/
def afterWord? (keyword t : Text) : Option Text :=
  match afterKeyword? keyword t with
  | some (c :: rest) => if isWord c then none else some (c :: rest)
  | other => other

end Text

end StyleCatalog
