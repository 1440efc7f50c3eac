import SuiteLint.Name.Tense
import SuiteLint.Name.Words
import SuiteLint.Pos.Lexicon

/-!
# Present simple by tags

A name reads as present simple if its first word ends in `s`, or if its words, with the pronoun `i`
put in front, start with a plural subject that a verb follows.
-/

namespace SuiteLint.Pos

/-- The pronoun in front of the words of a name. -/
def subjectAnchor : String := "i"

/-- The tags that the check for a plural subject looks at. -/
def isSubjectOrVerb : Tag → Bool
  | .prp | .vb | .vbp | .nns => true
  | _ => false

/-- Whether two tags open a phrase with a plural subject. -/
def opensPlural : Tag → Tag → Bool
  | _, .nns => true
  | .prp, .prp => true
  | _, _ => false

/-- Whether tags read as a plural subject with its verb: of the pronouns, base forms and plural
nouns there are at least three, one of them is a verb or a plural noun, and the first two open the
phrase. -/
def pluralSubject (tags : List Tag) : Bool :=
  match tags.filter isSubjectOrVerb with
  | first :: second :: third :: rest =>
    (first :: second :: third :: rest).any (fun t => t.isVerb || t == .nns)
      && opensPlural first second
  | _ => false

/-- The tokens that a name is tagged as. -/
def phrase (name : String) : List String := subjectAnchor :: Name.words name

/-- Whether a name reads as present simple. -/
def Lexicon.isPresentSimple (lexicon : Lexicon) (name : String) : Bool :=
  Name.isPresentTense name || pluralSubject (lexicon.tag (phrase name))

end SuiteLint.Pos
