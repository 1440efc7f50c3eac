import SuiteLint.Proofs.Filtering
import SuiteLint.Proofs.Text.Split

/-!
# What influences which rule

Two runs that differ in one input are compared. Of the compiled view of a class only the rules about
parents and about nullable fields see anything, of the model only the rule that tags names, and of
the allowed parents only the rule about parents. All of this comes from one lemma about the registry
(`Rule.complaints_congr`), which says what each registered rule may tell apart. Reports are compared
after they are arranged, which keeps complaints of different rules apart
(`evaluate_filter_congr`).

`compiled_view_influences` is about one class with and without its compiled view, and
`context_influences` about a whole project under different contexts.
-/

namespace SuiteLint

/-! ## Rules that see no difference -/

/-- Two classes that are alike but for what a compiled view brings. -/
structure TestClass.SameSource (c c' : TestClass) : Prop where
  name : c.name = c'.name
  package : c.package = c'.package
  path : c.path = c'.path
  line : c.line = c'.line
  cases : c.cases = c'.cases
  suppressed : c.suppressed = c'.suppressed

theorem TestClass.SameSource.refl (c : TestClass) : c.SameSource c := ⟨rfl, rfl, rfl, rfl, rfl, rfl⟩

theorem TestClass.sameSource_mergeCompiled (c compiled : TestClass) :
    (c.mergeCompiled compiled).SameSource c := ⟨rfl, rfl, rfl, rfl, rfl, rfl⟩

namespace Rule

/-- A registered rule tells two contexts or two views of a class apart only by what it is about:
the rule that tags names by the model, the rule about parents by the allowed parents and the
characteristics, the rule about nullable fields by the fields. -/
theorem complaints_congr {r : Rule} (hr : r ∈ registry) {context context' : Context}
    {c c' : TestClass} (hc : c.SameSource c')
    (hmodel : r.id = presentSimple.id → context.model = context'.model)
    (hparents : r.id = inheritanceInTests.id →
      context.allowedParents = context'.allowedParents ∧ c.characteristics = c'.characteristics)
    (hfields : r.id = nullableAnnotation.id → c.fields = c'.fields)
    (everywhere : OrderedSet String) :
    r.complaints context everywhere c = r.complaints context' everywhere c' := by
  obtain ⟨name, package, path, line, cases, fields, suppressed, characteristics, origin⟩ := c
  obtain ⟨_, _, _, _, _, fields', _, characteristics', origin'⟩ := c'
  obtain ⟨rfl, rfl, rfl, rfl, rfl, rfl⟩ := hc
  obtain ⟨model, allowed⟩ := context
  obtain ⟨model', allowed'⟩ := context'
  simp only [registry, List.mem_cons, List.not_mem_nil, or_false] at hr
  -- Twelve rules, in the order of the registry.
  rcases hr with rfl | rfl | rfl | rfl | rfl | rfl | rfl | rfl | rfl | rfl | rfl | rfl
  · rfl
  · rfl
  · cases hmodel rfl
    rfl
  · rfl
  · rfl
  · rfl
  · rfl
  · rfl
  · obtain ⟨hallowed, hcharacteristics⟩ := hparents rfl
    cases hallowed
    cases hcharacteristics
    rfl
  · rfl
  · rfl
  · cases hfields rfl
    rfl

theorem eq_of_id {r r' : Rule} (hr : r ∈ registry) (hr' : r' ∈ registry) (h : r.id = r'.id) :
    r = r' := by
  have hnodup : (registry.map Rule.id).Nodup := by decide
  exact List.inj_on_of_nodup_map hnodup hr hr' h

end Rule

section

variable {rules : List Rule} {context context' : Context} {everywhere : OrderedSet String}

theorem classComplaints_filter_congr {c c' : TestClass} (keep : String → Bool)
    (h : ∀ r ∈ rules, keep r.id = true →
      r.complaints context everywhere c = r.complaints context' everywhere c') :
    (classComplaints rules context everywhere c).filter (fun x => keep x.rule)
      = (classComplaints rules context' everywhere c').filter fun x => keep x.rule := by
  rw [← classComplaints_filter, ← classComplaints_filter, classComplaints, classComplaints]
  refine List.flatMap_congr fun r hr => ?_
  obtain ⟨hr, hkeep⟩ := List.mem_filter.mp hr
  exact h r hr hkeep

/-- Contexts that a rule cannot tell apart give it the same complaints in the report. -/
theorem evaluate_filter_congr {p : Project} (keep : String → Bool)
    (h : ∀ r ∈ rules, keep r.id = true → ∀ c : TestClass,
      r.complaints context everywhere c = r.complaints context' everywhere c) :
    (evaluate rules context everywhere p).filter (fun x => keep x.rule)
      = (evaluate rules context' everywhere p).filter fun x => keep x.rule := by
  have hrespects : Complaint.Respects fun x => keep x.rule := Complaint.respects_rule keep
  rw [evaluate, evaluate, ← Complaint.arrange_filter hrespects,
    ← Complaint.arrange_filter hrespects, List.filter_flatMap, List.filter_flatMap]
  refine congrArg Complaint.arrange (List.flatMap_congr fun c _ => ?_)
  exact classComplaints_filter_congr keep fun r hr hkeep => h r hr hkeep c

end

/-! ## Lists that are filtered -/

/-- A list of what is made keeps what is kept of it. -/
theorem Lists.filter {made : Complaint → Prop} {out : List Complaint} {keep : Complaint → Bool}
    (h : Lists made out) (hkeep : Complaint.Respects keep) :
    Lists (fun x => made x ∧ keep x = true) (out.filter keep) where
  increasing := List.Pairwise.filter keep h.increasing
  members x := by
    constructor
    · rintro ⟨d, hd, hdx⟩
      obtain ⟨hd, hk⟩ := List.mem_filter.mp hd
      obtain ⟨e, he, hed⟩ := (h.members d).mp ⟨d, hd, Complaint.same_refl d⟩
      exact ⟨e, ⟨he, (hkeep e d hed).trans hk⟩, Complaint.same_trans hed hdx⟩
    · rintro ⟨d, ⟨hd, hk⟩, hdx⟩
      obtain ⟨e, he, hed⟩ := (h.members d).mpr ⟨d, hd, Complaint.same_refl d⟩
      exact ⟨e, List.mem_filter.mpr ⟨he, (hkeep e d hed).trans hk⟩, Complaint.same_trans hed hdx⟩

/-! ## The compiled view of a class -/

/-- The message about a parent. -/
def parentMessage (parent : String) : String := s!"test class extends '{parent}'"

theorem Rule.inheritanceInTests_complaints (context : Context) (everywhere : OrderedSet String)
    (c : TestClass) :
    inheritanceInTests.complaints context everywhere c =
      if Suppression.silences everywhere c.suppressed inheritanceInTests.id then []
      else if c.characteristics.isExtension || c.characteristics.parent == ""
        || context.allowsParent c.characteristics.parent then []
      else
        [Complaint.onClass inheritanceInTests.id c (parentMessage c.characteristics.parent)] := by
  show (if _ then [] else List.map _ (if _ then [] else _)) = _
  split
  · rfl
  · split <;> rfl

/-- What the rule about parents says of a class depends on where the class stands, on what it
suppresses and on its characteristics. -/
theorem Rule.inheritanceInTests_congr {context : Context} {everywhere : OrderedSet String}
    {c c' : TestClass} (hpath : c'.path = c.path) (hline : c'.line = c.line)
    (hname : c'.name = c.name) (hsuppressed : c'.suppressed = c.suppressed)
    (hcharacteristics : c'.characteristics = c.characteristics) :
    inheritanceInTests.complaints context everywhere c'
      = inheritanceInTests.complaints context everywhere c := by
  simp only [inheritanceInTests_complaints, Complaint.onClass, hpath, hline, hname, hsuppressed,
    hcharacteristics]

/-- **The compiled view of a class influences two rules.** What all other registered rules say about
a class is the same, complaint by complaint, with the compiled view and without it. What the rule
about parents says about the joined class is the same for every source with that path, line, name
and suppressions and every compiled view with those characteristics. -/
theorem compiled_view_influences (rules : List Rule) (hrules : ∀ r ∈ rules, r ∈ Rule.registry)
    (context : Context) (everywhere : OrderedSet String) (c compiled : TestClass) :
    (classComplaints rules context everywhere (c.mergeCompiled compiled)).filter
        (fun x => x.rule != Rule.inheritanceInTests.id && x.rule != Rule.nullableAnnotation.id)
      = (classComplaints rules context everywhere c).filter
          (fun x => x.rule != Rule.inheritanceInTests.id && x.rule != Rule.nullableAnnotation.id)
    ∧ ∀ c' compiled' : TestClass, c'.path = c.path → c'.line = c.line → c'.name = c.name →
        c'.suppressed = c.suppressed → compiled'.characteristics = compiled.characteristics →
        (classComplaints rules context everywhere (c'.mergeCompiled compiled')).filter
            (fun x => x.rule == Rule.inheritanceInTests.id)
          = (classComplaints rules context everywhere (c.mergeCompiled compiled)).filter
              fun x => x.rule == Rule.inheritanceInTests.id := by
  constructor
  · refine classComplaints_filter_congr
      (fun id => id != Rule.inheritanceInTests.id && id != Rule.nullableAnnotation.id)
      fun r hr hkeep => ?_
    rw [Bool.and_eq_true, bne_iff_ne, bne_iff_ne] at hkeep
    exact Rule.complaints_congr (hrules r hr) (c.sameSource_mergeCompiled compiled)
      (fun _ => rfl) (fun hid => absurd hid hkeep.1) (fun hid => absurd hid hkeep.2) everywhere
  · intro c' compiled' hpath hline hname hsuppressed hcharacteristics
    refine classComplaints_filter_congr (· == Rule.inheritanceInTests.id)
      fun r hr hkeep => ?_
    obtain rfl := Rule.eq_of_id (hrules r hr) (by simp [Rule.registry]) (beq_iff_eq.mp hkeep)
    exact Rule.inheritanceInTests_congr hpath hline hname hsuppressed hcharacteristics

/-- A class with a case. -/
def TestClass.shop : TestClass := (fake.withPackage "shop").withCases [.named "remove"]

/-- A compiled view with a parent and a nullable field. -/
def TestClass.shopView : TestClass :=
  ((fakeNamed "View").withCharacteristics { parent := "Base" }).withFields
    [{ name := "price", type := "int", annotations := ["Nullable"] }]

/-- The class is joined with its view, and one of the same name, without package and cases, with
another view that has the same parent. -/
theorem compiled_view_influences_shop :
    (∀ r ∈ Rule.registry, r ∈ Rule.registry)
    ∧ (classComplaints Rule.registry (Context.new (.error "no model") []) ∅
          (TestClass.shop.mergeCompiled .shopView)).filter
        (fun x => x.rule != Rule.inheritanceInTests.id && x.rule != Rule.nullableAnnotation.id)
      = (classComplaints Rule.registry (Context.new (.error "no model") []) ∅ .shop).filter
          (fun x => x.rule != Rule.inheritanceInTests.id && x.rule != Rule.nullableAnnotation.id)
    ∧ (classComplaints Rule.registry (Context.new (.error "no model") []) ∅
          (TestClass.fake.mergeCompiled (.withCharacteristics .fake { parent := "Base" }))).filter
        (fun x => x.rule == Rule.inheritanceInTests.id)
      = (classComplaints Rule.registry (Context.new (.error "no model") []) ∅
          (TestClass.shop.mergeCompiled .shopView)).filter
            fun x => x.rule == Rule.inheritanceInTests.id := by
  have hrules : ∀ r ∈ Rule.registry, r ∈ Rule.registry := fun _ hr => hr
  have h := compiled_view_influences Rule.registry hrules (Context.new (.error "no model") []) ∅
    .shop .shopView
  exact ⟨hrules, h.1, h.2 .fake _ rfl rfl rfl rfl rfl⟩

/-! ## The model -/

namespace Rule

theorem complaints_withModel {r : Rule} (hr : r ∈ registry) (hid : r.id ≠ presentSimple.id)
    (context : Context) (model : Except String Pos.Lexicon) (everywhere : OrderedSet String)
    (c : TestClass) :
    r.complaints { context with model } everywhere c = r.complaints context everywhere c := by
  refine complaints_congr hr (.refl c) (fun h => absurd h hid) (fun _ => ?_) (fun _ => rfl)
    everywhere
  exact ⟨rfl, rfl⟩

/-- Without a model, the rule that tags names says the same of every case. -/
theorem presentSimple_complaints_of_error {context : Context} {reason : String}
    (hmodel : context.model = .error reason) (everywhere : OrderedSet String) (c : TestClass) :
    presentSimple.complaints context everywhere c =
      (c.cases.filter fun k => !Suppression.silences everywhere k.suppressed presentSimpleId).map
        fun k => Complaint.onCase presentSimpleId c k "RulePresentSimpleMl unavailable" := by
  rw [filter_map_eq_flatMap]
  refine List.flatMap_congr fun k _ => ?_
  simp only [hmodel]
  show (if Suppression.silences everywhere k.suppressed presentSimpleId then _ else _) = _
  cases Suppression.silences everywhere k.suppressed presentSimpleId <;> rfl

/-- The complaints that the rule that tags names makes of a project without a model. -/
def Unavailable (rules : List Rule) (everywhere : OrderedSet String) (p : Project)
    (x : Complaint) : Prop :=
  presentSimple ∈ rules ∧ ∃ c ∈ p.testClasses, ∃ k ∈ c.cases,
    Suppression.silences everywhere k.suppressed presentSimpleId = false
      ∧ x = Complaint.onCase presentSimpleId c k "RulePresentSimpleMl unavailable"

theorem arises_iff_unavailable {rules : List Rule} (hrules : ∀ r ∈ rules, r ∈ registry)
    {context : Context} {reason : String} (hmodel : context.model = .error reason)
    {everywhere : OrderedSet String} {p : Project} {x : Complaint} :
    Arises rules context everywhere p x ∧ (x.rule == presentSimpleId) = true ↔
      Unavailable rules everywhere p x := by
  constructor
  · rintro ⟨⟨r, hr, c, hc, hx⟩, hrule⟩
    rw [← mem_complaints] at hx
    have hid : r.id = presentSimple.id :=
      (rule_of_mem_complaints context everywhere c hx).symm.trans (beq_iff_eq.mp hrule)
    obtain rfl := eq_of_id (hrules r hr) (by simp [registry]) hid
    rw [presentSimple_complaints_of_error hmodel] at hx
    obtain ⟨k, hk, rfl⟩ := List.mem_map.mp hx
    obtain ⟨hk, hloud⟩ := List.mem_filter.mp hk
    exact ⟨hr, c, hc, k, hk, by simpa using hloud, rfl⟩
  · rintro ⟨hr, c, hc, k, hk, hloud, rfl⟩
    refine ⟨⟨presentSimple, hr, c, hc, mem_complaints.mp ?_⟩, beq_self_eq_true _⟩
    rw [presentSimple_complaints_of_error hmodel]
    exact List.mem_map_of_mem (List.mem_filter.mpr ⟨hk, by simp [hloud]⟩)

end Rule

/-! ## Allowed parents -/

/-- The context with more allowed parents. -/
def Context.allowing (context : Context) (parents : List String) : Context :=
  { context with allowedParents := context.allowedParents.insertAll parents }

theorem Context.allowsParent_allowing {context : Context} {parents : List String} {parent : String}
    (h : context.allowsParent parent = true) :
    (context.allowing parents).allowsParent parent = true := by
  simp only [allowsParent, OrderedSet.contains, allowing, Bool.or_eq_true, decide_eq_true_eq,
    OrderedSet.mem_insertAll] at h ⊢
  exact h.imp Or.inl Or.inl

/-- The parent that a message is about. -/
def parentIn? (message : String) : Option String :=
  (Text.stripFront? "test class extends '" message).bind (Text.stripBack? "'")

theorem parentIn?_parentMessage (parent : String) :
    parentIn? (parentMessage parent) = some parent := by
  have hmessage : parentMessage parent = "test class extends '" ++ (parent ++ "'") :=
    String.append_assoc ..
  rw [parentIn?, hmessage, Text.stripFront?_append]
  exact Text.stripBack?_append parent "'"

/-- Whether a complaint is about a parent that a context allows. -/
def Context.pardons (context : Context) (x : Complaint) : Bool :=
  x.rule == Rule.inheritanceInTests.id && (parentIn? x.message).any context.allowsParent

theorem Context.respects_pardons (context : Context) :
    Complaint.Respects fun x => !context.pardons x := by
  intro a b h
  simp only [Complaint.same, Bool.and_eq_true, beq_iff_eq] at h
  simp only [pardons, h.1.1.1.1.1, h.2]

section

variable (context : Context) (parents : List String) (everywhere : OrderedSet String)

theorem Rule.complaints_allowing {r : Rule} (hr : r ∈ registry)
    (hid : r.id ≠ inheritanceInTests.id) (c : TestClass) :
    r.complaints (context.allowing parents) everywhere c = r.complaints context everywhere c := by
  refine complaints_congr hr (.refl c) (fun _ => ?_) (fun h => absurd h hid) (fun _ => rfl)
    everywhere
  rfl

theorem Rule.inheritanceInTests_allowing (c : TestClass) :
    inheritanceInTests.complaints (context.allowing parents) everywhere c
      = (inheritanceInTests.complaints context everywhere c).filter
          fun x => !(context.allowing parents).pardons x := by
  have hpardons : (context.allowing parents).pardons (Complaint.onClass inheritanceInTests.id c
      (parentMessage c.characteristics.parent))
        = (context.allowing parents).allowsParent c.characteristics.parent := by
    rw [Context.pardons, Complaint.onClass, parentIn?_parentMessage]
    simp
  rw [inheritanceInTests_complaints, inheritanceInTests_complaints]
  split
  · rfl
  · cases hold : context.allowsParent c.characteristics.parent with
    | true => simp [Context.allowsParent_allowing hold]
    | false =>
        -- The old context complains unless the class is exempt, so the new one decides.
        cases c.characteristics.isExtension || c.characteristics.parent == "" with
        | true => simp
        | false =>
            cases hnew : (context.allowing parents).allowsParent c.characteristics.parent <;>
              simp [hpardons, hnew]

theorem classComplaints_allowing {rules : List Rule} (hrules : ∀ r ∈ rules, r ∈ Rule.registry)
    (c : TestClass) :
    classComplaints rules (context.allowing parents) everywhere c
      = (classComplaints rules context everywhere c).filter
          fun x => !(context.allowing parents).pardons x := by
  rw [classComplaints, classComplaints, List.filter_flatMap]
  refine List.flatMap_congr fun r hr => ?_
  by_cases hid : r.id = Rule.inheritanceInTests.id
  · obtain rfl := Rule.eq_of_id (hrules r hr) (by simp [Rule.registry]) hid
    exact Rule.inheritanceInTests_allowing context parents everywhere c
  · rw [Rule.complaints_allowing context parents everywhere (hrules r hr) hid,
      List.filter_eq_self.mpr]
    intro x hx
    have hrule : x.rule ≠ Rule.inheritanceInTests.id :=
      Rule.rule_of_mem_complaints context everywhere c hx ▸ hid
    simp [Context.pardons, hrule]

/-- More allowed parents strike the complaints about them from the report, and no other. -/
theorem evaluate_allowing {rules : List Rule} (hrules : ∀ r ∈ rules, r ∈ Rule.registry)
    (p : Project) :
    evaluate rules (context.allowing parents) everywhere p
      = (evaluate rules context everywhere p).filter
          fun x => !(context.allowing parents).pardons x :=
  evaluate_eq_filter_of_respects rules context everywhere p
    (context.allowing parents).respects_pardons
    (classComplaints_allowing context parents everywhere hrules)

end

/-- **The context influences two rules.** Another model, or none, changes no complaint of a report
but those of the rule that tags names; without a model the report holds for this rule just one
complaint for each case at which it is not silenced, that it is unavailable. More allowed parents
change no complaint but those of the rule about parents, and only take complaints away. -/
theorem context_influences (rules : List Rule) (hrules : ∀ r ∈ rules, r ∈ Rule.registry)
    (context : Context) (everywhere : OrderedSet String) (p : Project) :
    (∀ model, (evaluate rules { context with model } everywhere p).filter
          (fun x => x.rule != Rule.presentSimple.id)
        = (evaluate rules context everywhere p).filter fun x => x.rule != Rule.presentSimple.id)
    ∧ (∀ reason, Lists (Rule.Unavailable rules everywhere p)
        ((evaluate rules { context with model := .error reason } everywhere p).filter
          fun x => x.rule == Rule.presentSimple.id))
    ∧ (∀ parents, (evaluate rules (context.allowing parents) everywhere p).filter
          (fun x => x.rule != Rule.inheritanceInTests.id)
        = (evaluate rules context everywhere p).filter
            fun x => x.rule != Rule.inheritanceInTests.id)
    ∧ ∀ parents, (evaluate rules (context.allowing parents) everywhere p).Sublist
        (evaluate rules context everywhere p) := by
  refine ⟨fun model => ?_, fun reason => ?_, fun parents => ?_, fun parents => ?_⟩
  · refine evaluate_filter_congr (· != Rule.presentSimple.id) fun r hr hkeep c => ?_
    exact Rule.complaints_withModel (hrules r hr) (bne_iff_ne.mp hkeep) context model everywhere c
  · have hlists :=
      (evaluate_lists rules { context with model := .error reason } everywhere p).filter
        (Complaint.respects_rule (· == Rule.presentSimpleId))
    have hmade : (fun x => Arises rules { context with model := .error reason } everywhere p x
        ∧ (x.rule == Rule.presentSimpleId) = true) = Rule.Unavailable rules everywhere p :=
      funext fun x => propext (Rule.arises_iff_unavailable hrules rfl)
    rwa [hmade] at hlists
  · refine evaluate_filter_congr (· != Rule.inheritanceInTests.id) fun r hr hkeep c => ?_
    exact Rule.complaints_allowing context parents everywhere (hrules r hr) (bne_iff_ne.mp hkeep) c
  · rw [evaluate_allowing context parents everywhere hrules]
    exact List.filter_sublist

/-- A class with two cases, of which one suppresses the rule that tags names, and whose parent
becomes allowed by its simple name. -/
theorem context_influences_shop :
    (∀ r ∈ Rule.registry, r ∈ Rule.registry)
    ∧ Lists (Rule.Unavailable Rule.registry ∅
        ⟨[TestClass.fake.withCases
          [.named "removes", (TestCase.named "adds").withSuppressed ["RulePresentSimpleMl"]]], []⟩)
        ((evaluate Rule.registry (Context.new (.error "offline") []) ∅
          ⟨[TestClass.fake.withCases
            [.named "removes", (TestCase.named "adds").withSuppressed ["RulePresentSimpleMl"]]],
            []⟩).filter fun x => x.rule == Rule.presentSimple.id)
    ∧ (evaluate Rule.registry ((Context.new (.error "offline") []).allowing ["Base"]) ∅
        ⟨[TestClass.fake.withCharacteristics { parent := "shop.Base" }], []⟩).Sublist
      (evaluate Rule.registry (Context.new (.error "offline") []) ∅
        ⟨[TestClass.fake.withCharacteristics { parent := "shop.Base" }], []⟩) := by
  have hrules : ∀ r ∈ Rule.registry, r ∈ Rule.registry := fun _ hr => hr
  have h := fun p => context_influences Rule.registry hrules (Context.new (.error "offline") []) ∅ p
  exact ⟨hrules, (h _).2.1 "offline", (h _).2.2.2 ["Base"]⟩

end SuiteLint
