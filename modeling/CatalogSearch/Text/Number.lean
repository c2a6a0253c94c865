/-!
# Numbers and flags in settings

Whole numbers written in decimal digits, with a plus sign allowed and a minus sign where negative
numbers are, and the two words for truth values. The digits are taken one after the other, so the
first character that is no digit, or the first digit that makes the number too large or too small,
decides what is wrong.
-/

namespace CatalogSearch.Text

/-- What is wrong with the text of a number or a flag. -/
inductive Fault where
  | empty
  | invalidDigit
  | tooLarge
  | tooSmall
  | notBool
  deriving DecidableEq

/-- What is said of a fault. -/
def Fault.message : Fault → String
  | .empty => "cannot parse integer from empty string"
  | .invalidDigit => "invalid digit found in string"
  | .tooLarge => "number too large to fit in target type"
  | .tooSmall => "number too small to fit in target type"
  | .notBool => "provided string was not `true` or `false`"

/-- Add digits to a number that must not pass `limit`; `past` says what passing it is. -/
def addDigits (past : Fault) (limit : Nat) : Nat → List Char → Except Fault Nat
  | n, [] => .ok n
  | n, c :: cs =>
    if c.isDigit then
      let n' := n * 10 + (c.toNat - 48)
      if limit < n' then .error past else addDigits past limit n' cs
    else .error .invalidDigit

/-- A number of at least one digit. -/
def readDigits (past : Fault) (limit : Nat) (cs : List Char) : Except Fault Nat :=
  if cs.isEmpty then .error .invalidDigit else addDigits past limit 0 cs

/-- A natural number of at most `limit`. -/
def readNat (limit : Nat) (s : String) : Except Fault Nat :=
  match s.toList with
  | [] => .error .empty
  | '+' :: cs => readDigits .tooLarge limit cs
  | cs => readDigits .tooLarge limit cs

/-- An integer from `-limit - 1` to `limit`. -/
def readInt (limit : Nat) (s : String) : Except Fault Int :=
  match s.toList with
  | [] => .error .empty
  | '+' :: cs => (readDigits .tooLarge limit cs).map Int.ofNat
  | '-' :: cs => (readDigits .tooSmall (limit + 1) cs).map fun n => -(n : Int)
  | cs => (readDigits .tooLarge limit cs).map Int.ofNat

/-- A truth value. -/
def readBool (s : String) : Except Fault Bool :=
  if s = "true" then .ok true else if s = "false" then .ok false else .error .notBool

end CatalogSearch.Text
