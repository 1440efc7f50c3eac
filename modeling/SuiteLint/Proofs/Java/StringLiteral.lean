import SuiteLint.Java.StringLiteral
import SuiteLint.Proofs.Text.Split

/-!
# Writing string literals

Two ways to write a text between quotes, and that both are read back. `Spells` says what can stand
for a character between the quotes. Reading undoes every way of writing that keeps to it
(`unescape_flatMap`), so a run of backslashes of any length stays aligned. What is left are the
quotes: three of them are tried first, and a string literal can never be taken for a text block,
since no quote stands bare between its own two.
-/

namespace SuiteLint.Java.StringLiteral

/-! ## Characters between quotes -/

/-- The ways to write a character between quotes. -/
inductive Spells : Char → List Char → Prop
  | plain {c : Char} (h : c ≠ '\\') : Spells c [c]
  | escape (c : Char) : Spells (escaped c) ['\\', c]

theorem unescape_cons {c : Char} (h : c ≠ '\\') (rest : List Char) :
    unescape (c :: rest) = c :: unescape rest := by
  rw [unescape]
  intro d tail hd
  exact absurd hd h

theorem Spells.unescape_append {c : Char} {form : List Char} (h : Spells c form)
    (rest : List Char) : unescape (form ++ rest) = c :: unescape rest := by
  cases h with
  | plain h => exact unescape_cons h rest
  | escape c => rfl

/-- Reading undoes every way of writing. -/
theorem unescape_flatMap {write : Char → List Char} (h : ∀ c, Spells c (write c))
    (cs : List Char) : unescape (cs.flatMap write) = cs := by
  induction cs with
  | nil => rfl
  | cons c cs ih => rw [List.flatMap_cons, (h c).unescape_append, ih]

/-- A character of a string literal. Control characters that have an escape of their own, quotes and
backslashes are escaped. -/
def writeInLine (c : Char) : List Char :=
  if c = '\n' then ['\\', 'n']
  else if c = '\t' then ['\\', 't']
  else if c = '\r' then ['\\', 'r']
  else if c = '\\' ∨ c = '"' then ['\\', c]
  else [c]

/-- A character of a text block. -/
def writeInBlock (c : Char) : List Char := if c = '\\' ∨ c = '"' then ['\\', c] else [c]

theorem spells_of_mark {c : Char} (h : c = '\\' ∨ c = '"') : Spells c ['\\', c] := by
  rcases h with rfl | rfl
  · exact .escape '\\'
  · exact .escape '"'

theorem spells_writeInBlock (c : Char) : Spells c (writeInBlock c) := by
  rw [writeInBlock]
  split
  · rename_i h
    exact spells_of_mark h
  · rename_i h
    exact .plain fun hc => h (.inl hc)

theorem spells_writeInLine (c : Char) : Spells c (writeInLine c) := by
  rw [writeInLine]
  split
  · rename_i h
    exact h ▸ .escape 'n'
  split
  · rename_i h
    exact h ▸ .escape 't'
  split
  · rename_i h
    exact h ▸ .escape 'r'
  · exact spells_writeInBlock c

/-- No quote stands bare in a string literal. -/
theorem exists_writeInLine_eq (c : Char) : ∃ d form, writeInLine c = d :: form ∧ d ≠ '"' := by
  have hslash : '\\' ≠ '"' := by decide
  rw [writeInLine]
  split
  · exact ⟨_, _, rfl, hslash⟩
  split
  · exact ⟨_, _, rfl, hslash⟩
  split
  · exact ⟨_, _, rfl, hslash⟩
  split
  · exact ⟨_, _, rfl, hslash⟩
  · rename_i h
    exact ⟨_, _, rfl, fun hc => h (.inr hc)⟩

/-! ## Quotes -/

/-- A text as a string literal. -/
def literal (s : String) : String :=
  String.ofList (['"'] ++ (s.toList.flatMap writeInLine ++ ['"']))

/-- A text as a text block. -/
def textBlock (s : String) : String :=
  String.ofList (['"', '"', '"'] ++ (s.toList.flatMap writeInBlock ++ ['"', '"', '"']))

theorem between?_append (quotes cs : List Char) :
    between? quotes (quotes ++ (cs ++ quotes)) = some cs := by
  rw [between?, Text.dropFront?_append, Option.bind_some, Text.dropBack?_append]

/-- Behind its first quote, a string literal ends or goes on with something else. -/
theorem between?_three_eq_none {cs : List Char} (h : cs.head? ≠ some '"') :
    between? ['"', '"', '"'] (['"'] ++ (cs ++ ['"'])) = none := by
  cases cs with
  | nil => rfl
  | cons c cs =>
      have hc : ('"' == c) = false := beq_eq_false_iff_ne.mpr fun hc => h (by rw [hc]; rfl)
      simp [between?, Text.dropFront?, hc]

theorem head?_flatMap_writeInLine_ne (cs : List Char) :
    (cs.flatMap writeInLine).head? ≠ some '"' := by
  cases cs with
  | nil =>
      intro h
      cases h
  | cons c cs =>
      obtain ⟨d, form, hform, hd⟩ := exists_writeInLine_eq c
      rw [List.flatMap_cons, hform]
      exact fun h => hd (Option.some.inj h)

/-- **String literals are read back.** Every text is the value of the string literal that it is
written as, and of the text block. -/
theorem written_text_reads_back (s : String) : value (literal s) = s ∧ value (textBlock s) = s := by
  constructor
  · have hinner : inner (literal s).toList = s.toList.flatMap writeInLine := by
      rw [inner, literal, String.toList_ofList,
        between?_three_eq_none (head?_flatMap_writeInLine_ne s.toList), between?_append]
      rfl
    rw [value, hinner, unescape_flatMap spells_writeInLine, String.ofList_toList]
  · have hinner : inner (textBlock s).toList = s.toList.flatMap writeInBlock := by
      rw [inner, textBlock, String.toList_ofList, between?_append]
      rfl
    rw [value, hinner, unescape_flatMap spells_writeInBlock, String.ofList_toList]

-- Both ends of these texts are the marks that the quotes could be confused with.
example : literal "\"\\\n" = "\"\\\"\\\\\\n\"" := by decide +kernel

example : textBlock "\n\"" = "\"\"\"\n\\\"\"\"\"" := by decide +kernel

end SuiteLint.Java.StringLiteral
