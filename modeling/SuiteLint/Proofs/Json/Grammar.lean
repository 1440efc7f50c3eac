import SuiteLint.Json

/-!
# The grammar of JSON

Which texts are JSON and which values they stand for, in the whole of its grammar: blanks around
every token, the three names, numbers with a fraction and an exponent, strings with all their
escapes, lists and objects. Each notion is a relation `R x s t`: the text `s` starts with a written
form of `x`, and `t` is what stands behind it.
-/

namespace SuiteLint.Json

/-- A value that a JSON text stands for. A number is `mantissa * 10 ^ exponent`. -/
inductive Value where
  | null
  | bool (b : Bool)
  | number (mantissa exponent : Int)
  | text (s : String)
  | list (elements : List Value)
  | object (members : List (String × Value))
deriving Inhabited

/-! ## Blanks -/

/-- A character that may stand between two tokens. -/
def isBlank (c : Char) : Bool := c == ' ' || c == '\t' || c == '\n' || c == '\r'

inductive Blanks : List Char → List Char → Prop where
  | none {t : List Char} : Blanks t t
  | more {c : Char} {s t : List Char} : isBlank c = true → Blanks s t → Blanks (c :: s) t

/-! ## Numbers -/

/-- The digits in front of the point. A zero in front stands alone. -/
inductive Whole : List Char → List Char → List Char → Prop where
  | zero {t : List Char} : Whole ['0'] ('0' :: t) t
  | digits {d : Char} {ds t : List Char} : d ≠ '0' → d.isDigit = true →
      (∀ c ∈ ds, c.isDigit = true) → Whole (d :: ds) (d :: (ds ++ t)) t

/-- The digits behind the point. -/
inductive Fraction : List Char → List Char → List Char → Prop where
  | absent {t : List Char} : Fraction [] t t
  | digits {d : Char} {ds t : List Char} : (∀ c ∈ d :: ds, c.isDigit = true) →
      Fraction (d :: ds) ('.' :: d :: (ds ++ t)) t

/-- An exponent without its mark. -/
inductive Power : Int → List Char → List Char → Prop where
  | bare {d : Char} {ds t : List Char} : (∀ c ∈ d :: ds, c.isDigit = true) →
      Power (Nat.ofDigitChars 10 (d :: ds) 0) (d :: (ds ++ t)) t
  | plus {d : Char} {ds t : List Char} : (∀ c ∈ d :: ds, c.isDigit = true) →
      Power (Nat.ofDigitChars 10 (d :: ds) 0) ('+' :: d :: (ds ++ t)) t
  | minus {d : Char} {ds t : List Char} : (∀ c ∈ d :: ds, c.isDigit = true) →
      Power (-(Nat.ofDigitChars 10 (d :: ds) 0)) ('-' :: d :: (ds ++ t)) t

inductive Exponent : Int → List Char → List Char → Prop where
  | absent {t : List Char} : Exponent 0 t t
  | lower {x : Int} {s t : List Char} : Power x s t → Exponent x ('e' :: s) t
  | upper {x : Int} {s t : List Char} : Power x s t → Exponent x ('E' :: s) t

/-- A number without a sign: its digits form the mantissa, and those behind the point lower the
exponent. -/
inductive Magnitude : Nat → Int → List Char → List Char → Prop where
  | mk {ws fs s u v t : List Char} {x : Int} : Whole ws s u → Fraction fs u v → Exponent x v t →
      Magnitude (Nat.ofDigitChars 10 (ws ++ fs) 0) (x - fs.length) s t

inductive Numeral : Int → Int → List Char → List Char → Prop where
  | positive {m : Nat} {x : Int} {s t : List Char} : Magnitude m x s t → Numeral m x s t
  | negative {m : Nat} {x : Int} {s t : List Char} : Magnitude m x s t →
      Numeral (-m) x ('-' :: s) t

/-! ## Strings -/

/-- The value of a hexadecimal digit. -/
def hexValue? (c : Char) : Option Nat :=
  if '0' ≤ c ∧ c ≤ '9' then some (c.toNat - 48)
  else if 'a' ≤ c ∧ c ≤ 'f' then some (c.toNat - 87)
  else if 'A' ≤ c ∧ c ≤ 'F' then some (c.toNat - 55)
  else none

/-- The code unit that four hexadecimal digits stand for. -/
def unit? (a b c d : Char) : Option Nat := do
  let a ← hexValue? a
  let b ← hexValue? b
  let c ← hexValue? c
  let d ← hexValue? d
  return ((a * 16 + b) * 16 + c) * 16 + d

/-- The character that a letter behind a backslash stands for. -/
def short? (e : Char) : Option Char :=
  if e == '"' || e == '\\' || e == '/' then some e
  else if e == 'b' then some '\x08'
  else if e == 'f' then some '\x0c'
  else if e == 'n' then some '\n'
  else if e == 'r' then some '\r'
  else if e == 't' then some '\t'
  else none

/-- A high and a low surrogate, which together stand for one character. -/
def IsPair (high low : Nat) : Prop :=
  0xD800 ≤ high ∧ high < 0xDC00 ∧ 0xDC00 ≤ low ∧ low < 0xE000

instance (high low : Nat) : Decidable (IsPair high low) :=
  inferInstanceAs (Decidable (_ ∧ _ ∧ _ ∧ _))

/-- The character that a surrogate pair stands for. -/
def pairChar (high low : Nat) : Char :=
  Char.ofNat (0x10000 + (high - 0xD800) * 0x400 + (low - 0xDC00))

/-- The characters of a string up to the quote that closes it. A surrogate outside a pair is no
character. -/
inductive Characters : List Char → List Char → List Char → Prop where
  | close {t : List Char} : Characters [] ('"' :: t) t
  | plain {c : Char} {cs s t : List Char} : 32 ≤ c.toNat → c ≠ '"' → c ≠ '\\' →
      Characters cs s t → Characters (c :: cs) (c :: s) t
  | short {e c : Char} {cs s t : List Char} : short? e = some c →
      Characters cs s t → Characters (c :: cs) ('\\' :: e :: s) t
  | unit {a b c d : Char} {u : Nat} {cs s t : List Char} :
      unit? a b c d = some u → u.isValidChar → Characters cs s t →
      Characters (Char.ofNat u :: cs) ('\\' :: 'u' :: a :: b :: c :: d :: s) t
  | pair {a b c d a' b' c' d' : Char} {high low : Nat} {cs s t : List Char} :
      unit? a b c d = some high → unit? a' b' c' d' = some low → IsPair high low →
      Characters cs s t →
      Characters (pairChar high low :: cs)
        ('\\' :: 'u' :: a :: b :: c :: d :: '\\' :: 'u' :: a' :: b' :: c' :: d' :: s) t

inductive Quoted : String → List Char → List Char → Prop where
  | mk {cs s t : List Char} : Characters cs s t → Quoted (String.ofList cs) ('"' :: s) t

/-! ## Lists and objects -/

section Sequences

variable {α : Type} (item : α → List Char → List Char → Prop) (close : Char)

/-- One item or more with commas between them, and what closes them. -/
inductive Items : List α → List Char → List Char → Prop where
  | last {x : α} {s u t : List Char} : item x s u → Blanks u (close :: t) → Items [x] s t
  | more {x : α} {xs : List α} {s u v w t : List Char} : item x s u → Blanks u (',' :: v) →
      Blanks v w → Items xs w t → Items (x :: xs) s t

/-- What stands behind an opening bracket. -/
inductive Bracketed : List α → List Char → List Char → Prop where
  | empty {s t : List Char} : Blanks s (close :: t) → Bracketed [] s t
  | items {xs : List α} {s u t : List Char} : Blanks s u → Items item close xs u t →
      Bracketed xs s t

end Sequences

inductive Member (value : Value → List Char → List Char → Prop) :
    String × Value → List Char → List Char → Prop where
  | mk {key : String} {v : Value} {s t u w x : List Char} : Quoted key s u →
      Blanks u (':' :: w) → Blanks w x → value v x t → Member value (key, v) s t

inductive Written : Value → List Char → List Char → Prop where
  | null {t : List Char} : Written .null ('n' :: 'u' :: 'l' :: 'l' :: t) t
  | yes {t : List Char} : Written (.bool true) ('t' :: 'r' :: 'u' :: 'e' :: t) t
  | no {t : List Char} : Written (.bool false) ('f' :: 'a' :: 'l' :: 's' :: 'e' :: t) t
  | number {m x : Int} {s t : List Char} : Numeral m x s t → Written (.number m x) s t
  | text {string : String} {s t : List Char} : Quoted string s t → Written (.text string) s t
  | list {vs : List Value} {s t : List Char} : Bracketed Written ']' vs s t →
      Written (.list vs) ('[' :: s) t
  | object {ms : List (String × Value)} {s t : List Char} :
      Bracketed (Member Written) '\x7d' ms s t → Written (.object ms) ('\x7b' :: s) t

/-- The text is a JSON document for a value: the value and blanks around it. -/
def IsText (v : Value) (text : String) : Prop :=
  ∃ s t, Blanks text.toList s ∧ Written v s t ∧ Blanks t []

end SuiteLint.Json
