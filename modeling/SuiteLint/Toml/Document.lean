import SuiteLint.Toml.Lexeme
import SuiteLint.Toml.Value

/-!
# TOML documents

A document is a sequence of lines with headers and values. The readers of nested values take a bound
on their steps, for which the length of the input is always enough, and the number of levels that
arrays and tables may still open.
-/

namespace SuiteLint.Toml

/-- How deep arrays and tables may stand in one another. -/
def maxLevels : Nat := 80

mutual

/-- Reads a value. -/
def readValue : Nat → Nat → List Char → Option (Value × List Char)
  | 0, _, _ => none
  | n + 1, levels, cs =>
    match cs with
    | '[' :: rest =>
      if levels == 0 then none
      else (readElements n (levels - 1) rest).map fun r => (.array r.1, r.2)
    | '\x7b' :: rest =>
      if levels == 0 then none
      else (readMembers n (levels - 1) Item.empty rest).map fun r => (r.1.toValue, r.2)
    | '"' :: _ => (readString cs).map fun r => (.string r.1, r.2)
    | '\'' :: _ => (readString cs).map fun r => (.string r.1, r.2)
    | _ => (readScalar cs).map fun r => (.scalar r.1, r.2)

/-- Reads the elements of an array behind its opening bracket or behind a comma. -/
def readElements : Nat → Nat → List Char → Option (List Value × List Char)
  | 0, _, _ => none
  | n + 1, levels, cs =>
    match skipLines cs with
    | ']' :: rest => some ([], rest)
    | cs => do
      let (v, rest) ← readValue n levels cs
      match skipLines rest with
      | ',' :: rest =>
        let (vs, rest) ← readElements n levels rest
        return (v :: vs, rest)
      | ']' :: rest => return ([v], rest)
      | _ => none

/-- Reads the members of a table behind its opening brace or behind a comma. -/
def readMembers : Nat → Nat → Item → List Char → Option (Item × List Char)
  | 0, _, _, _ => none
  | n + 1, levels, item, cs =>
    match skipLines cs with
    | '\x7d' :: rest => some (item, rest)
    | cs => do
      let ((path, key), rest) ← readKey cs
      match rest with
      | '=' :: rest =>
        let (v, rest) ← readValue n levels (skipSpaces rest)
        let item ← item.addValue path key v
        match skipLines rest with
        | ',' :: rest => readMembers n levels item rest
        | '\x7d' :: rest => return (item, rest)
        | _ => none
      | _ => none

end

/-- A document that is being read. -/
structure Draft where
  root : Item := Item.empty
  /-- The keys of the last header. -/
  header : List String := []

/-- Reads the header of a table behind its opening bracket. -/
def readHeader (d : Draft) (cs : List Char) : Option (Draft × List Char) := do
  let ((path, key), rest) ← readKey cs
  match rest with
  | ']' :: rest => return ({ root := ← d.root.openTable path key, header := path ++ [key] }, rest)
  | _ => none

/-- Reads the header of an element behind its opening brackets. -/
def readElementHeader (d : Draft) (cs : List Char) : Option (Draft × List Char) := do
  let ((path, key), rest) ← readKey cs
  match rest with
  | ']' :: ']' :: rest =>
    return ({ root := ← d.root.openElement path key, header := path ++ [key] }, rest)
  | _ => none

/-- Reads a key with its value. -/
def readPair (d : Draft) (cs : List Char) : Option (Draft × List Char) := do
  let ((path, key), rest) ← readKey cs
  match rest with
  | '=' :: rest =>
    let (v, rest) ← readValue (2 * rest.length + 2) maxLevels (skipSpaces rest)
    let root ← d.root.modifyAt false (Item.addValue path key v) d.header
    return ({ d with root }, rest)
  | _ => none

/-- Reads what stands on a line. -/
def readStatement (d : Draft) (cs : List Char) : Option (Draft × List Char) :=
  match cs with
  | '[' :: '[' :: rest => readElementHeader d rest
  | '[' :: rest => readHeader d rest
  | _ => readPair d cs

/-- Reads at most `n` lines. -/
def readLinesWithin : Nat → Draft → List Char → Option Draft
  | 0, _, _ => none
  | n + 1, d, cs =>
    match skipLines cs with
    | [] => some d
    | cs => do
      let (d, rest) ← readStatement d cs
      readLinesWithin n d (← finishLine rest)

/-- The table that a document describes. A byte order mark at its front is skipped. -/
def parse (document : String) : Option Value :=
  let cs := document.toList
  let cs := if cs.head? == some (Char.ofNat 0xFEFF) then cs.drop 1 else cs
  (readLinesWithin (cs.length + 1) {} cs).map fun d => d.root.toValue

end SuiteLint.Toml
