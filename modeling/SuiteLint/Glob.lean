import SuiteLint.Text.Utf8

/-!
# Glob patterns

A pattern is read into a sequence of parts and matched against the bytes of a path. A question mark
stands for one byte and a star for any number of them, separators included. Two stars between
separators stand for any number of whole components. Square brackets hold the bytes of which one is
meant, braces hold alternatives, and a backslash takes the meaning from the next character.

Matching carries a row of flags along the path: flag `i` says whether the parts so far can end after
`i` bytes. Each part turns one row into the next one, so that no choice is ever taken back.
-/

namespace SuiteLint.Glob

/-- The bytes between two bounds. -/
structure ByteRange where
  low : UInt8
  high : UInt8
deriving Repr, DecidableEq

/-- Whether a byte lies between the bounds. -/
def ByteRange.contains (r : ByteRange) (b : UInt8) : Bool := r.low ≤ b && b ≤ r.high

/-- A part of a pattern. -/
inductive Part where
  /-- A character that stands for itself. -/
  | literal (c : Char)
  /-- One byte. -/
  | any
  /-- Any number of bytes. -/
  | star
  /-- Components in front of the rest of the pattern. -/
  | leading
  /-- A separator and all that follows. -/
  | trailing
  /-- A separator, or components between two of them. -/
  | between
  /-- One byte of a class, or one outside of it. -/
  | oneOf (negated : Bool) (ranges : List ByteRange)
  /-- One of several patterns. -/
  | group (alternatives : List (List Part))
deriving Repr, Inhabited

/-- A pattern is a sequence of parts. -/
abbrev Pattern : Type := List Part

/-! ## Reading classes -/

/-- Why a pattern cannot be read. -/
inductive Fault where
  | unclosedClass
  | invalidRange (low high : Char)
  | unopenedGroup
  | unclosedGroup
  | danglingEscape
deriving Repr, DecidableEq

/-- The bytes of a character. -/
def charBytes (c : Char) : List UInt8 := Text.Utf8.encode (String.singleton c)

/-- The byte ranges of a range of characters. The range runs from the last byte of the lower bound
to the first byte of the upper one; their other bytes are members on their own. -/
def byteRanges (low high : Char) : List ByteRange :=
  let single := fun b => ByteRange.mk b b
  if low == high then (charBytes low).map single
  else
    let front := charBytes low
    let back := charBytes high
    front.dropLast.map single ++ [⟨front.getLastD 0, back.headD 0⟩] ++ back.tail.map single

/-- A class that is being read. -/
structure ClassDraft where
  /-- The ranges so far, the last one first. -/
  ranges : List (Char × Char) := []
  /-- Whether a hyphen waits for its upper bound. -/
  inRange : Bool := false

namespace ClassDraft

/-- Adds a character on its own. -/
def add (d : ClassDraft) (c : Char) : ClassDraft := { ranges := (c, c) :: d.ranges }

/-- Makes a character the upper bound of the last range. -/
def extend (d : ClassDraft) (c : Char) : Except Fault ClassDraft :=
  match d.ranges with
  | (low, _) :: rest =>
    if c < low then .error (.invalidRange low c) else .ok { ranges := (low, c) :: rest }
  | [] => .ok (d.add c)

/-- The ranges of a class whose bracket has closed. A hyphen at its end stands for itself. -/
def finish (d : ClassDraft) : List ByteRange :=
  let ranges := if d.inRange then ('-', '-') :: d.ranges else d.ranges
  ranges.reverse.flatMap fun r => byteRanges r.1 r.2

/-- Reads a class up to its closing bracket; a bracket or hyphen that comes first stands for itself.
Returns the ranges and the number of characters read. -/
def read (first : Bool) (d : ClassDraft) (used : Nat) :
    List Char → Except Fault (List ByteRange × Nat)
  | [] => .error .unclosedClass
  | c :: cs =>
    if c == ']' && !first then .ok (d.finish, used + 1)
    else if c == '-' && !first && !d.inRange then
      read false { d with inRange := true } (used + 1) cs
    else if d.inRange then
      match d.extend c with
      | .error fault => .error fault
      | .ok d => read false d (used + 1) cs
    else read false (d.add c) (used + 1) cs

end ClassDraft

/-- Reads a class behind its opening bracket: the part and the number of characters read. -/
def readClass (cs : List Char) : Except Fault (Part × Nat) :=
  let negated := cs.head? == some '!' || cs.head? == some '^'
  let start := if negated then 1 else 0
  match ClassDraft.read true {} start (cs.drop start) with
  | .error fault => .error fault
  | .ok (ranges, used) => .ok (.oneOf negated ranges, used)

/-! ## Reading patterns -/

/-- A pattern that is being read. -/
structure Draft where
  /-- The parts of the innermost sequence, the last one first. -/
  parts : List Part := []
  /-- The open groups, innermost first: their finished alternatives, the last one first, and the
  parts in front of the group. -/
  groups : List (List (List Part) × List Part) := []

namespace Draft

/-- Adds a part. -/
def push (d : Draft) (p : Part) : Draft := { d with parts := p :: d.parts }

/-- Whether a group is open. -/
def inGroup (d : Draft) : Bool := !d.groups.isEmpty

/-- Two stars that are nothing special. -/
def pushStars (d : Draft) : Draft := (d.push .star).push .star

/-- Opens a group. -/
def openGroup (d : Draft) : Draft := { parts := [], groups := ([], d.parts) :: d.groups }

/-- A comma: it ends an alternative inside a group and stands for itself elsewhere. -/
def comma (d : Draft) : Draft :=
  match d.groups with
  | [] => d.push (.literal ',')
  | (done, outer) :: rest => { parts := [], groups := (d.parts.reverse :: done, outer) :: rest }

/-- Closes the innermost group. -/
def closeGroup (d : Draft) : Except Fault Draft :=
  match d.groups with
  | [] => .error .unopenedGroup
  | (done, outer) :: rest =>
    .ok { parts := .group (d.parts.reverse :: done).reverse :: outer, groups := rest }

/-- Puts a part for whole components in the place of the separator before it. -/
def replaceSeparator (d : Draft) (p : Part) : Draft :=
  match d.parts with
  | .leading :: _ => d
  | .trailing :: _ => d
  | _ :: rest => { d with parts := p :: rest }
  | [] => { d with parts := [p] }

/-- Two stars behind the character `prev` and before `next`. Says also whether the separator behind
them is taken along. -/
def doubleStar (d : Draft) (prev next : Option Char) : Draft × Bool :=
  if d.parts.isEmpty then
    match next with
    | none => (d.push .leading, false)
    | some c => if c == '/' then (d.push .leading, true) else (d.pushStars, false)
  else if prev != some '/' && !(d.inGroup && (prev == some ',' || prev == some '\x7b')) then
    (d.pushStars, false)
  else
    match next with
    | none => (d.replaceSeparator .trailing, false)
    | some c =>
      if (c == ',' || c == '\x7d') && d.inGroup then (d.replaceSeparator .trailing, false)
      else if c == '/' then (d.replaceSeparator .between, true)
      else (d.pushStars, false)

/-- The pattern that has been read; all groups must be closed. -/
def finish (d : Draft) : Except Fault Pattern :=
  match d.groups with
  | [] => .ok d.parts.reverse
  | _ :: _ => .error .unclosedGroup

end Draft

/-- Reads the characters of a pattern behind the character `prev`. -/
def readParts (prev : Option Char) (d : Draft) : List Char → Except Fault Draft
  | [] => .ok d
  | c :: cs =>
    if c == '?' then readParts (some c) (d.push .any) cs
    else if c == '*' then
      if cs.head? == some '*' then
        let behind := cs.drop 1
        match d.doubleStar prev behind.head? with
        | (d, true) => readParts (some '/') d (behind.drop 1)
        | (d, false) => readParts (some '*') d behind
      else readParts (some c) (d.push .star) cs
    else if c == '[' then
      match readClass cs with
      | .error fault => .error fault
      | .ok (part, used) => readParts (some ']') (d.push part) (cs.drop used)
    else if c == '\x7b' then readParts (some c) d.openGroup cs
    else if c == '\x7d' then
      match d.closeGroup with
      | .error fault => .error fault
      | .ok d => readParts (some c) d cs
    else if c == ',' then readParts (some c) d.comma cs
    else if c == '\\' then
      match cs.head? with
      | none => .error .danglingEscape
      | some e => readParts (some e) (d.push (.literal e)) (cs.drop 1)
    else readParts (some c) (d.push (.literal c)) cs
termination_by cs => cs.length
decreasing_by all_goals (simp only [List.length_drop, List.length_cons]; omega)

/-- Reads a pattern. -/
def parse (pattern : String) : Except Fault Pattern :=
  match readParts none {} pattern.toList with
  | .error fault => .error fault
  | .ok d => d.finish

/-! ## Matching -/

/-- For every position of a path, whether a match may have come there. -/
abbrev Reached : Type := List Bool

/-- The row for an empty sequence of parts: only the start of the path. -/
def start (path : List UInt8) : Reached := true :: path.map fun _ => false

/-- Moves on by one byte that satisfies `p`. -/
def advance (p : UInt8 → Bool) (path : List UInt8) (row : Reached) : Reached :=
  false :: path.zipWith (fun b reached => reached && p b) row

/-- Moves on by any number of bytes. -/
def spread : Bool → Reached → Reached
  | _, [] => []
  | seen, reached :: row => (seen || reached) :: spread (seen || reached) row

/-- What one of two rows reaches. -/
def union (row other : Reached) : Reached := row.zipWith (· || ·) other

/-- Moves on by a separator. -/
def separator (path : List UInt8) (row : Reached) : Reached := advance (· == 47) path row

mutual

/-- Whether a part stands for nothing at all: a group whose alternatives are all empty. -/
def Part.isVoid : Part → Bool
  | .group alternatives => allVoid alternatives
  | _ => false

/-- Whether all alternatives stand for nothing. -/
def allVoid : List (List Part) → Bool
  | [] => true
  | parts :: rest => isVoid parts && allVoid rest

/-- Whether a sequence stands for nothing. -/
def isVoid : List Part → Bool
  | [] => true
  | part :: rest => part.isVoid && isVoid rest

end

mutual

/-- The row after a part. -/
def Part.step (path : List UInt8) (row : Reached) : Part → Reached
  | .literal c => (charBytes c).foldl (fun row b => advance (· == b) path row) row
  | .any => advance (fun _ => true) path row
  | .star => spread false row
  | .leading => union row (separator path (spread false row))
  | .trailing => spread false (separator path row)
  | .between =>
    let behind := separator path row
    union behind (separator path (spread false behind))
  | .oneOf negated ranges => advance (fun b => ranges.any (·.contains b) != negated) path row
  | .group alternatives =>
    if allVoid alternatives then row else stepAny path row alternatives

/-- The row after one of several sequences; an alternative that stands for nothing is left out. -/
def stepAny (path : List UInt8) (row : Reached) : List (List Part) → Reached
  | [] => row.map fun _ => false
  | parts :: rest =>
    if isVoid parts then stepAny path row rest
    else union (stepAll path row parts) (stepAny path row rest)

/-- The row after a sequence of parts. -/
def stepAll (path : List UInt8) (row : Reached) : List Part → Reached
  | [] => row
  | part :: rest => stepAll path (part.step path row) rest

end

/-! ### Patterns that ask for a file name

A path whose last component is `..` names a directory and no file. Patterns that end in a plain file
name or in an extension never match such a path, even where their parts would. -/

/-- The character of a part that stands for itself. -/
def Part.literal? : Part → Option Char
  | .literal c => some c
  | _ => none

/-- Whether all parts of a sequence stand for themselves. -/
def allLiteral (parts : List Part) : Bool := parts.all (·.literal?.isSome)

/-- Whether a part is a separator written out. -/
def Part.isSeparator (p : Part) : Bool := p.literal? == some '/'

/-- Whether a part is a dot written out. -/
def Part.isDot (p : Part) : Bool := p.literal? == some '.'

/-- The parts behind the leading components, if there are any such. -/
def afterLeading : Pattern → Pattern
  | .leading :: rest => rest
  | parts => parts

/-- Whether a pattern is a file name in any directory, as in `**/pom.xml`. -/
def isFileName : Pattern → Bool
  | .leading :: rest => !rest.isEmpty && allLiteral rest && !rest.any Part.isSeparator
  | _ => false

/-- Whether a pattern is any name with an extension, as in `*.java`. -/
def isExtension (pattern : Pattern) : Bool :=
  match afterLeading pattern with
  | .star :: dot :: rest =>
    dot.isDot && allLiteral rest && !rest.any fun p => p.isSeparator || p.isDot
  | _ => false

/-- Whether a pattern is a text at the start of a path, as in `build/**`. -/
def isInitial (pattern : Pattern) : Bool :=
  match pattern.getLast? with
  | some .star => pattern.length != 1 && allLiteral pattern.dropLast
  | some .trailing => allLiteral pattern.dropLast
  | _ => !pattern.isEmpty && allLiteral pattern

/-- Whether a pattern is a text at the end of a path, as in `*Test.java`. -/
def isFinal (pattern : Pattern) : Bool :=
  let rest := match afterLeading pattern with
    | .star :: rest => rest
    | rest => rest
  !rest.isEmpty && allLiteral rest

/-- Whether a pattern ends in an extension written out. -/
def endsInExtension (pattern : Pattern) : Bool :=
  let back := pattern.reverse
  let name := back.takeWhile fun p => p.literal?.isSome && !p.isSeparator && !p.isDot
  ((back.drop name.length).head?.map Part.isDot).getD false

/-- Whether a pattern only matches paths that name a file. -/
def needsFileName (pattern : Pattern) : Bool :=
  isFileName pattern ||
    (!allLiteral pattern &&
      (isExtension pattern ||
        (!isInitial pattern && !isFinal pattern && endsInExtension pattern)))

/-- Whether a path names a file: its last component is not the parent directory. -/
def namesFile (path : List UInt8) : Bool :=
  (path.reverse.takeWhile (· != 47)) != [46, 46]

/-- Whether a pattern matches a whole path. Two stars alone match every path. -/
def matchesBytes (pattern : Pattern) (path : List UInt8) : Bool :=
  match pattern with
  | [.leading] => true
  | _ =>
    (!needsFileName pattern || namesFile path) && (stepAll path (start path) pattern).getLastD false

/-- Whether some pattern matches a path. -/
def anyMatches (patterns : List Pattern) (path : String) : Bool :=
  let bytes := Text.Utf8.encode path
  patterns.any fun p => matchesBytes p bytes

end SuiteLint.Glob
