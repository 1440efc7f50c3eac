import SuiteLint.Evaluation
import SuiteLint.Ingest
import SuiteLint.Model.Source

/-!
# Analyses

An analysis reads a project, runs the selected rules over it and reports what they find. The model
is loaded only if some rule asks for it; its cache is the only thing that an analysis writes.
-/

namespace SuiteLint

/-- Whether a rule asks for the model. -/
def Rule.usesModel (r : Rule) : Bool := r.id == Rule.presentSimple.id

/-- Whether some rule that is not silenced asks for the model when it checks a project. -/
def demandsModel (rules : List Rule) (everywhere : OrderedSet String) (p : Project) : Bool :=
  rules.any fun r => r.usesModel && p.testClasses.any fun c =>
    c.cases.any fun k => !Suppression.silences everywhere k.suppressed r.id

/-- The model for a project, with what loading it did to the file system. -/
def modelFor (source : Model.Source) (demanded : Bool) (fs : FileSystem) :
    Except String Pos.Lexicon × FileSystem :=
  if demanded then
    let outcome := source.bytes fs
    (Model.load outcome.answer, outcome.files)
  else (.error "no model source configured", fs)

/-- Analyzes a project and returns the report and the file system afterwards. -/
def analyze (env : Model.Environment) (fs : FileSystem) (sources classes : Path) (o : Options) :
    Except Failure Report × FileSystem :=
  match o.resolveRules with
  | .error failure => (.error failure, fs)
  | .ok rules =>
    match ingest fs sources classes o.exclude with
    | .error failure => (.error failure, fs)
    | .ok ingested =>
      let demanded := demandsModel rules o.suppressions ingested.project
      let (model, fs) := modelFor (env.source o) demanded fs
      let context := Context.new model o.allowedParents.toList
      let complaints := evaluate rules context o.suppressions ingested.project
      (.ok { complaints, diagnostics := ingested.diagnostics }, fs)

end SuiteLint
