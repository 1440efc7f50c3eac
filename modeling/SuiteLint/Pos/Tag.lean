/-!
# Part-of-speech tags

The tags of the Penn Treebank set that the lexicon uses, two verb tags of a finer set, and one tag
for everything else. Tags are ordered as they are listed.
-/

namespace SuiteLint.Pos

/-- A part of speech. -/
inductive Tag where
  /-- A personal pronoun. -/
  | prp
  /-- A possessive pronoun. -/
  | prpPossessive
  /-- A noun in the singular. -/
  | nn
  /-- A noun in the plural. -/
  | nns
  /-- A proper noun in the singular. -/
  | nnp
  /-- A proper noun in the plural. -/
  | nnps
  /-- The base form of a verb. -/
  | vb
  /-- A verb in the present, not third person singular. -/
  | vbp
  /-- A verb in the third person singular present. -/
  | vbz
  /-- A verb in the past tense. -/
  | vbd
  /-- A gerund or present participle. -/
  | vbg
  /-- A past participle. -/
  | vbn
  /-- An adjective. -/
  | jj
  /-- A comparative adjective. -/
  | jjr
  /-- A superlative adjective. -/
  | jjs
  /-- An adverb. -/
  | rb
  /-- A comparative adverb. -/
  | rbr
  /-- A particle. -/
  | rp
  /-- A modal verb. -/
  | md
  /-- A determiner. -/
  | dt
  /-- A coordinating conjunction. -/
  | cc
  /-- A preposition or subordinating conjunction. -/
  | inWord
  /-- The word `to`. -/
  | toWord
  /-- A cardinal number. -/
  | cd
  /-- Existential `there`. -/
  | ex
  /-- An interjection. -/
  | uh
  /-- A wh-determiner. -/
  | wdt
  /-- A wh-pronoun. -/
  | wp
  /-- A wh-adverb. -/
  | wrb
  /-- A possessive ending. -/
  | pos
  /-- The base form of a lexical verb. -/
  | vv
  /-- The word `have` in the present, not third person singular. -/
  | vhp
  /-- A tag outside the set. -/
  | unknown
deriving Repr, DecidableEq, Inhabited

namespace Tag

/-- All tags in their order. -/
def all : List Tag :=
  [ .prp, .prpPossessive, .nn, .nns, .nnp, .nnps, .vb, .vbp, .vbz, .vbd, .vbg, .vbn, .jj,
    .jjr, .jjs, .rb, .rbr, .rp, .md, .dt, .cc, .inWord, .toWord, .cd, .ex, .uh, .wdt, .wp, .wrb,
    .pos, .vv, .vhp, .unknown ]

/-- The label of a tag. -/
def label : Tag → String
  | prp => "PRP"
  | prpPossessive => "PRP$"
  | nn => "NN"
  | nns => "NNS"
  | nnp => "NNP"
  | nnps => "NNPS"
  | vb => "VB"
  | vbp => "VBP"
  | vbz => "VBZ"
  | vbd => "VBD"
  | vbg => "VBG"
  | vbn => "VBN"
  | jj => "JJ"
  | jjr => "JJR"
  | jjs => "JJS"
  | rb => "RB"
  | rbr => "RBR"
  | rp => "RP"
  | md => "MD"
  | dt => "DT"
  | cc => "CC"
  | inWord => "IN"
  | toWord => "TO"
  | cd => "CD"
  | ex => "EX"
  | uh => "UH"
  | wdt => "WDT"
  | wp => "WP"
  | wrb => "WRB"
  | pos => "POS"
  | vv => "VV"
  | vhp => "VHP"
  | unknown => "UNKNOWN"

/-- The tag with a label; a label that no tag has gives `unknown`. -/
def ofLabel (label : String) : Tag :=
  (all.find? fun t => t.label == label).getD unknown

/-- The place of a tag in the order. -/
def rank (t : Tag) : Nat := all.idxOf t

/-- The order of tags. -/
def le (s t : Tag) : Bool := s.rank ≤ t.rank

/-- Whether a tag is one of the verb forms. -/
def isVerb : Tag → Bool
  | vb | vbp | vbz | vbd | vbg | vbn => true
  | _ => false

end Tag

end SuiteLint.Pos
