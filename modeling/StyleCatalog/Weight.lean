import StyleCatalog.Text.Basic

/-! # Weights

A weight moves a section among its siblings: lower weights come first. Weights are 32-bit integers.
-/

namespace StyleCatalog

structure Weight where
  value : Int
  atLeast : -2147483648 ≤ value := by omega
  atMost : value ≤ 2147483647 := by omega
  deriving DecidableEq

namespace Weight

def zero : Weight := ⟨0, by decide, by decide⟩

instance : Inhabited Weight := ⟨zero⟩

def ofInt? (n : Int) : Option Weight :=
  if h : -2147483648 ≤ n ∧ n ≤ 2147483647 then some ⟨n, h.1, h.2⟩ else none

def readDigits? (t : Text) : Option Nat :=
  if !t.isEmpty && t.all Char.isDigit then some (Text.digitsValue t) else none

def readInteger? : Text → Option Int
  | '+' :: digits => (readDigits? digits).map Int.ofNat
  | '-' :: digits => (readDigits? digits).map fun n => -Int.ofNat n
  | digits => (readDigits? digits).map Int.ofNat

/-- The weight that a text without surrounding white space denotes. -/
def read? (t : Text) : Option Weight := (readInteger? t).bind ofInt?

def compare (a b : Weight) : Ordering :=
  if a.value < b.value then .lt else if b.value < a.value then .gt else .eq

end Weight

end StyleCatalog
