import SuiteLint.KeyedList
import SuiteLint.Pos.Tag
import SuiteLint.Text.Casing
import SuiteLint.Text.CharClass
import SuiteLint.Text.Split
import SuiteLint.Text.Utf8

/-!
# The lexicon and its tagger

A model is UTF-8 text: a header line, then one entry per line. An entry gives a word and its
possible tags in order of preference, or a suffix, marked by a tilde, and the tags of words that
end in it. Empty lines and lines that start with `#` are skipped.

`Lexicon.candidates` gives the possible tags of a token, `Lexicon.tag` chooses one tag for each
token of a phrase with regard to the tag chosen before it.
-/

namespace SuiteLint.Pos

/-- The line that a model starts with. -/
def modelHeader : String := "#!testcop-pos 1"

/-- Words and suffixes with their possible tags. -/
structure Lexicon where
  /-- Each word once, in the order of first appearance. -/
  words : List (String × List Tag)
  /-- Longest suffix first, suffixes of one length in the order of their text. -/
  suffixes : List (String × List Tag)
deriving Repr, Inhabited

/-- Why a model cannot be used. -/
inductive ModelFault where
  | notUtf8 (fault : Text.Utf8.Fault)
  | noHeader
  /-- The entry on a line, counted from one, has no tags. -/
  | noTags (line : Nat)
deriving Repr, DecidableEq

/-- The wording of a fault. -/
def ModelFault.message : ModelFault → String
  | .notUtf8 fault => s!"model is not UTF-8: {fault.message}"
  | .noHeader => "model header is missing"
  | .noTags line => s!"model entry on line {line} has no tags"

/-! ## Reading -/

/-- What a line of a model says. -/
inductive ModelLine where
  | skipped
  /-- A word or a suffix without tags. -/
  | bare
  | word (key : String) (tags : List Tag)
  | suffix (text : String) (tags : List Tag)

/-- Reads a line behind the header. -/
def ModelLine.read (line : String) : ModelLine :=
  let line := Text.trim line
  if line == "" || Text.startsWith "#" line then skipped
  else
    match Text.fields line with
    | [] => skipped
    | [_] => bare
    | key :: labels =>
      let tags := labels.map Tag.ofLabel
      match Text.stripFront? "~" key with
      | some text => suffix text tags
      | none => word (Text.lowerText key) tags

namespace Lexicon

/-- The lexicon without entries. -/
def empty : Lexicon := ⟨[], []⟩

/-- Adds the entries of lines, the first of which has the number `line`. -/
def addLines (line : Nat) (lexicon : Lexicon) : List String → Except ModelFault Lexicon
  | [] => .ok lexicon
  | text :: rest =>
    match ModelLine.read text with
    | .skipped => addLines (line + 1) lexicon rest
    | .bare => .error (.noTags line)
    | .word key tags =>
      addLines (line + 1) { lexicon with words := KeyedList.set key tags lexicon.words } rest
    | .suffix text tags =>
      addLines (line + 1) { lexicon with suffixes := lexicon.suffixes ++ [(text, tags)] } rest

/-- The order in which suffixes are tried: longer ones first, lengths in bytes. -/
def suffixBefore (a b : String × List Tag) : Bool :=
  b.1.utf8ByteSize < a.1.utf8ByteSize
    || (a.1.utf8ByteSize == b.1.utf8ByteSize && a.1 ≤ b.1)

/-- The lexicon with its suffixes in the order in which they are tried. -/
def sortSuffixes (lexicon : Lexicon) : Lexicon :=
  { lexicon with suffixes := lexicon.suffixes.mergeSort suffixBefore }

/-- Reads the text of a model. -/
def ofText (text : String) : Except ModelFault Lexicon :=
  match Text.lines text with
  | [] => .error .noHeader
  | first :: rest =>
    if Text.trim first == modelHeader then (addLines 2 empty rest).map sortSuffixes
    else .error .noHeader

/-- Reads the bytes of a model. -/
def ofBytes (bytes : List UInt8) : Except ModelFault Lexicon :=
  match Text.Utf8.decode bytes with
  | .ok text => ofText text
  | .error fault => .error (.notUtf8 fault)

/-- The number of words. -/
def size (lexicon : Lexicon) : Nat := lexicon.words.length

/-! ## Tagging -/

/-- Whether a token is written in ASCII digits only. -/
def isNumeral (token : String) : Bool :=
  token != "" && token.toList.all Text.isAsciiDigit

/-- Whether a token is longer than a suffix and ends in it. -/
def hasSuffix (token suffix : String) : Bool :=
  suffix.utf8ByteSize < token.utf8ByteSize && Text.endsWith suffix token

/-- The possible tags of a token: those of a number, of the word, of the longest suffix, or those of
a noun. -/
def candidates (lexicon : Lexicon) (token : String) : List Tag :=
  if isNumeral token then [.cd]
  else
    match KeyedList.get? token lexicon.words with
    | some tags => tags
    | none =>
      match lexicon.suffixes.find? fun entry => hasSuffix token entry.1 with
      | some entry => entry.2
      | none => [.nn]

/-- Chooses among at least two tags behind the tag `prev`: a verb behind a plural subject takes its
plural form, a noun is followed by a verb in the third person, a modal by a base form, and a noun is
expected behind determiners, adjectives, prepositions and verbs. -/
def chooseAfter (prev first : Tag) (tags : List Tag) : Tag :=
  match prev with
  | .prp | .nns | .nnps =>
    if first != .nns && (tags.contains .vbp || tags.contains .vb) then .vbp else first
  | .nn | .nnp => if tags.contains .vbz then .vbz else first
  | .md | .toWord => if tags.contains .vb then .vb else first
  | .dt | .jj | .prpPossessive | .inWord | .vb | .vbp | .vbz | .vbd | .vbg =>
    (tags.find? fun t => t == .nn || t == .nns).getD first
  | _ => first

/-- Chooses one of the possible tags of a token behind the tag `prev`. -/
def disambiguate (tags : List Tag) (prev : Option Tag) : Tag :=
  match tags, prev with
  | [], _ => .unknown
  | [first], _ => first
  | first :: _, none => first
  | first :: _, some prev => chooseAfter prev first tags

/-- Tags the tokens behind the tag `prev`. -/
def tagFrom (lexicon : Lexicon) (prev : Option Tag) : List String → List Tag
  | [] => []
  | token :: rest =>
    let chosen := disambiguate (lexicon.candidates token) prev
    chosen :: lexicon.tagFrom (some chosen) rest

/-- One tag for each token of a phrase. -/
def tag (lexicon : Lexicon) (tokens : List String) : List Tag := lexicon.tagFrom none tokens

end Lexicon

end SuiteLint.Pos
