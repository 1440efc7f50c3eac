/-!
# The bundled model

An English lexicon for the words of test names, used when no other model is named. Each line gives a
word, or a suffix behind a tilde, and its tags in order of preference.
-/

namespace SuiteLint.Pos

/-- The lines of the bundled model. -/
def bundledLines : List String :=
  [ "#!testcop-pos 1", "# Bundled English lexicon for test-name tagging.",
    "# Format: word TAG [TAG...]  (candidates in preference order)",
    "#         ~suffix TAG [TAG...] (fallback for words missing from the lexicon)", "",
    "# pronouns", "i PRP", "you PRP", "we PRP", "they PRP", "he PRP", "she PRP", "it PRP",
    "me PRP", "us PRP", "them PRP", "him PRP", "itself PRP", "themselves PRP", "my PRP$",
    "your PRP$", "our PRP$", "their PRP$", "his PRP$ PRP", "her PRP$ PRP", "its PRP$", "",
    "# determiners", "the DT", "a DT", "an DT", "this DT", "that DT IN", "these DT", "those DT",
    "every DT", "each DT", "some DT", "any DT", "no DT", "all DT", "both DT", "another DT",
    "either DT", "neither DT", "", "# prepositions, conjunctions, particles", "in IN", "on IN",
    "at IN", "by IN", "with IN", "without IN", "of IN", "for IN", "from IN", "into IN",
    "onto IN", "over IN", "under IN", "after IN", "before IN", "about IN", "through IN",
    "between IN", "against IN", "during IN", "since IN", "until IN", "upon IN", "via IN",
    "within IN", "across IN", "per IN", "than IN", "like IN VB", "because IN", "if IN",
    "when WRB", "where WRB", "why WRB", "how WRB", "which WDT", "who WP", "whom WP", "what WP",
    "and CC", "or CC", "but CC", "nor CC", "yet CC RB", "to TO", "there EX RB", "up RP RB",
    "down RP RB", "out RP RB", "off RP RB", "", "# modals", "can MD NN", "could MD",
    "will MD NN", "would MD", "shall MD", "should MD", "may MD", "might MD", "must MD", "",
    "# adverbs", "not RB", "never RB", "always RB", "already RB", "also RB", "just RB",
    "only RB", "still RB", "very RB", "again RB", "often RB", "here RB", "now RB", "then RB",
    "too RB", "well RB", "back RB", "instantly RB", "smoothly RB", "quickly RB", "correctly RB",
    "properly RB", "silently RB", "twice RB", "once RB", "", "# adjectives", "true JJ",
    "false JJ", "good JJ", "bad JJ", "new JJ", "old JJ", "empty JJ", "full JJ", "valid JJ",
    "invalid JJ", "correct JJ", "wrong JJ", "common JJ NN", "same JJ", "different JJ", "null JJ",
    "outdated JJ", "absent JJ", "open JJ VB", "closed JJ VBD", "blank JJ", "unknown JJ",
    "simple JJ", "large JJ", "small JJ", "", "# auxiliaries and irregular verbs", "be VB",
    "is VBZ", "are VBP", "am VBP", "was VBD", "were VBD", "been VBN", "being VBG", "have VBP VB",
    "has VBZ", "had VBD VBN", "do VBP VB", "does VBZ", "did VBD", "done VBN", "get VB VBP",
    "gets VBZ", "got VBD VBN", "go VB", "goes VBZ", "went VBD", "make VB NN", "makes VBZ NNS",
    "made VBD VBN", "take VB", "takes VBZ", "took VBD", "say VB", "says VBZ", "said VBD",
    "give VB", "gives VBZ", "keep VB", "keeps VBZ", "let VB", "lets VBZ", "",
    "# verbs with a noun reading", "build VB NN", "builds VBZ NNS", "building NN VBG",
    "pass VB NN", "passes VBZ NNS", "serve VB", "craft VB NN", "learn VB", "trust VB NN",
    "predict VB", "receive VB", "handle VB NN", "submit VB", "sync VB NN", "respond VB",
    "complete VB JJ", "run VB NN", "generate VB", "manage VB", "drive VB NN", "drives NNS VBZ",
    "process VB NN", "bark VB NN", "purr VB NN", "sing VB", "swim VB NN", "grow VB",
    "flow VB NN", "race VB NN", "play VB NN", "study VB NN", "check VB NN", "create VB",
    "remove VB", "add VB", "stop VB NN", "lock VB NN", "unlock VB", "reply VB NN", "validate VB",
    "prevent VB", "close VB", "leave VB", "reject VB", "exist VB", "deny VB", "answer VB NN",
    "render VB", "touch VB NN", "throw VB", "return VB NN", "find VB NN", "read VB", "write VB",
    "parse VB", "load VB NN", "save VB", "send VB", "fail VB", "work VB NN", "use VB NN",
    "call VB NN", "show VB NN", "start VB NN", "count VB NN", "update VB NN", "delete VB",
    "store VB NN", "print VB", "contain VB", "match VB NN", "compare VB", "convert VB",
    "accept VB", "need VB NN", "want VB", "help VB NN", "move VB NN", "set VB NN", "put VB",
    "try VB NN", "look VB NN", "hold VB", "bring VB", "begin VB", "seem VB", "turn VB NN",
    "mean VB", "become VB", "include VB", "continue VB", "change VB NN", "lead VB NN",
    "understand VB", "watch VB NN", "follow VB", "speak VB", "allow VB", "support VB NN",
    "test NN VB", "pack NN VB", "model NN VB", "report NN VB", "request NN VB", "name NN VB",
    "list NN VB", "map NN VB", "result NN VB", "value NN VB", "record NN VB", "file NN VB",
    "branch NN VB", "tag NN VB", "release NN VB", "version NN VB", "", "# nouns", "chicken NN",
    "chickens NNS", "dog NN", "dogs NNS", "cat NN", "cats NNS", "bird NN", "birds NNS",
    "tree NN", "trees NNS", "river NN", "rivers NNS", "car NN", "cars NNS", "robot NN",
    "robots NNS", "human NN", "humans NNS", "machine NN", "machines NNS", "user NN", "users NNS",
    "algorithm NN", "algorithms NNS", "client NN", "clients NNS", "server NN", "servers NNS",
    "employee NN", "employees NNS", "device NN", "devices NNS", "bot NN", "bots NNS",
    "student NN", "students NNS", "application NN", "applications NNS", "task NN", "tasks NNS",
    "administrator NN", "administrators NNS", "system NN", "systems NNS", "programmer NN",
    "programmers NNS", "document NN", "documents NNS", "child NN", "children NNS", "people NNS",
    "person NN", "man NN", "men NNS", "woman NN", "women NNS", "mouse NN", "mice NNS", "foot NN",
    "feet NNS", "tooth NN", "teeth NNS", "sheep NNS NN", "fish NNS NN VB", "data NNS NN",
    "criteria NNS", "item NN", "items NNS", "author NN", "solution NN", "solutions NNS",
    "pattern NN", "patterns NNS", "outcome NN", "notification NN", "notifications NNS",
    "input NN", "assignment NN", "assignments NNS", "access NN VB", "decision NN",
    "decisions NNS", "risk NN", "risks NNS", "something NN", "nothing NN", "everything NN",
    "message NN", "messages NNS", "assertion NN", "assertions NNS", "exception NN",
    "exceptions NNS", "comma NN", "delimiter NN", "asset NN", "assets NNS", "friend NN",
    "friends NNS", "page NN", "pages NNS", "link NN VB", "revision NN", "comment NN VB",
    "comments NNS VBZ", "post NN VB", "mode NN", "spam NN", "ci NN", "github NNP", "pull NN VB",
    "rebase NN VB", "wire NN VB", "req NN", "reference NN", "entry NN", "string NN", "number NN",
    "class NN", "method NN", "field NN", "object NN", "array NN", "collection NN", "",
    "# suffix fallbacks", "~ing VBG NN", "~ed VBD VBN", "~ly RB", "~ies NNS VBZ", "~ses NNS VBZ",
    "~es NNS VBZ", "~ss NN", "~us NN", "~is NN", "~s NNS VBZ", "~ous JJ", "~ful JJ", "~able JJ",
    "~ible JJ", "~ive JJ", "~al JJ", "~ic JJ", "~less JJ", "~tion NN", "~sion NN", "~ment NN",
    "~ness NN", "~ity NN", "~er NN", "~or NN", "~ist NN", "~ism NN", "~ize VB", "~ise VB",
    "~ify VB", "~ate VB NN" ]

/-- The text of the bundled model: every line ends in a line feed. -/
def bundledText : String := String.join (bundledLines.map fun line => line ++ "\n")

end SuiteLint.Pos
