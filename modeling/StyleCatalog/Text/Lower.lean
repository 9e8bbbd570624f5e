import StyleCatalog.Text.LetterCase

/-! # Lower case

Lowering a text letter by letter, with the two exceptions that a single letter does not decide:
the dotted capital I becomes two characters, and a capital sigma at the end of a word becomes the
final sigma.
-/

namespace StyleCatalog

/-- The small letter of a character, when it has a single one; otherwise the character itself. -/
def lowerChar (c : Char) : Char :=
  if c.toNat < 128 then c.toLower
  else match capitalRuns.find? fun run => run.holds c.toNat with
    | some run => Char.ofNat (Int.toNat (c.toNat + run.shift))
    | none => c

namespace Text

/-- Whether the nearest character that case distinctions do not look through is cased. -/
def meetsCased (t : Text) : Bool :=
  match t.dropWhile isCaseIgnorable with
  | c :: _ => isCased c
  | [] => false

/-- The small letters of one character, given the text before it (nearest first) and after it. -/
def lowerAt (before : Text) (c : Char) (after : Text) : Text :=
  if c = 'Σ' then
    if meetsCased before && !meetsCased after then ['ς'] else ['σ']
  else if c = 'İ' then ['i', '\u0307']
  else [lowerChar c]

/-- Lower the rest of a text whose characters `before`, nearest first, have been passed. -/
def lowerFrom (before : Text) : Text → Text
  | [] => []
  | c :: rest => lowerAt before c rest ++ lowerFrom (c :: before) rest

def lower (t : Text) : Text := lowerFrom [] t

end Text

example : Text.lower "ΟΔΟΣ - ΟΔΟΣ.ΑΣ".toList = "οδος - οδοσ.ας".toList := by decide +kernel

end StyleCatalog
