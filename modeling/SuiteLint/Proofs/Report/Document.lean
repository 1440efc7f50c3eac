import Mathlib.Data.List.Forall2
import SuiteLint.Proofs.Json.Printing
import SuiteLint.Report.Format

/-!
# Reports read back

A report in its JSON form is a JSON text. What the text stands for holds the report and nothing
else, whatever characters the strings of the report are made of.
-/

namespace SuiteLint

namespace Json.Value

/-- An object with each member of `fields` that has a value, and with no other. -/
def IsObjectOf (fields : List (String × Option Value)) (v : Value) : Prop :=
  ∃ ms, v = .object ms ∧ (ms.map Prod.fst).Nodup ∧
    ∀ key w, (key, w) ∈ ms ↔ (key, some w) ∈ fields

def present (fields : List (String × Option Value)) : List (String × Value) :=
  fields.filterMap fun field => field.2.map (field.1, ·)

theorem keys_present_sublist (fields : List (String × Option Value)) :
    ((present fields).map Prod.fst).Sublist (fields.map Prod.fst) := by
  induction fields with
  | nil => exact .slnil
  | cons field fields ih =>
    obtain ⟨key, v⟩ := field
    cases v with
    | none => exact ih.cons key
    | some w => exact ih.cons_cons key

theorem isObjectOf_present {fields : List (String × Option Value)}
    (h : (fields.map Prod.fst).Nodup) : (object (present fields)).IsObjectOf fields := by
  refine ⟨present fields, rfl, h.sublist (keys_present_sublist fields), ?_⟩
  intro key w
  constructor
  · intro hmem
    obtain ⟨⟨key', v⟩, hfield, hv⟩ := List.mem_filterMap.1 hmem
    obtain ⟨w', rfl, heq⟩ := Option.map_eq_some_iff.1 hv
    obtain ⟨rfl, rfl⟩ := Prod.mk.inj heq
    exact hfield
  · intro hfield
    exact List.mem_filterMap.2 ⟨_, hfield, rfl⟩

end Json.Value

namespace Report

open Json (Value)

/-! ## What a value tells -/

def complaintFields (root : Option Path) (c : Complaint) : List (String × Option Value) :=
  [ ("rule", some (.text c.rule)),
    ("path", some (.text (c.path.shown root))),
    ("line", c.line.map fun n : Nat => .number n 0),
    ("class", some (.text c.className)),
    ("method", c.method.map .text),
    ("message", some (.text c.message)) ]

def diagnosticFields (root : Option Path) (d : Diagnostic) : List (String × Option Value) :=
  [("path", some (.text (d.path.shown root))), ("reason", some (.text d.reason))]

def summaryFields (r : Report) : List (String × Option Value) :=
  [ ("complaints", some (.number r.complaints.length 0)),
    ("diagnostics", some (.number r.diagnostics.length 0)) ]

/-- The value holds the report: how many complaints and diagnostics there are, and each of them in
its place. -/
def Tells (root : Option Path) (r : Report) (v : Value) : Prop :=
  ∃ summary complaints diagnostics,
    v.IsObjectOf
      [ ("summary", some summary), ("complaints", some (.list complaints)),
        ("diagnostics", some (.list diagnostics)) ] ∧
    summary.IsObjectOf r.summaryFields ∧
    List.Forall₂ (fun c w => w.IsObjectOf (complaintFields root c)) r.complaints complaints ∧
    List.Forall₂ (fun d w => w.IsObjectOf (diagnosticFields root d)) r.diagnostics diagnostics

/-! ## What a document stands for -/

theorem value_complaintDocument (root : Option Path) (c : Complaint) :
    (complaintDocument root c).value = .object (Value.present (complaintFields root c)) := by
  cases hline : c.line <;> cases hmethod : c.method <;>
    simp [complaintDocument, optionalMember, complaintFields, Value.present, Json.value, hline,
      hmethod]

theorem value_diagnosticDocument (root : Option Path) (d : Diagnostic) :
    (diagnosticDocument root d).value = .object (Value.present (diagnosticFields root d)) := by
  simp [diagnosticDocument, diagnosticFields, Value.present, Json.value]

theorem isObjectOf_complaintDocument (root : Option Path) (c : Complaint) :
    (complaintDocument root c).value.IsObjectOf (complaintFields root c) := by
  rw [value_complaintDocument]
  have hkeys : (complaintFields root c).map Prod.fst
      = ["rule", "path", "line", "class", "method", "message"] := rfl
  exact Value.isObjectOf_present (hkeys ▸ by decide)

theorem isObjectOf_diagnosticDocument (root : Option Path) (d : Diagnostic) :
    (diagnosticDocument root d).value.IsObjectOf (diagnosticFields root d) := by
  rw [value_diagnosticDocument]
  have hkeys : (diagnosticFields root d).map Prod.fst = ["path", "reason"] := rfl
  exact Value.isObjectOf_present (hkeys ▸ by decide)

theorem forall₂_value_map {α : Type} {f : α → Json} {fields : α → List (String × Option Value)}
    (h : ∀ a, (f a).value.IsObjectOf (fields a)) (as : List α) :
    List.Forall₂ (fun a w => w.IsObjectOf (fields a)) as ((as.map f).map Json.value) := by
  rw [List.map_map, List.forall₂_map_right_iff]
  exact List.forall₂_same.2 fun a _ => h a

theorem tells_document (root : Option Path) (r : Report) : Tells root r (r.document root).value := by
  refine ⟨.object (Value.present r.summaryFields),
    (r.complaints.map (complaintDocument root)).map Json.value,
    (r.diagnostics.map (diagnosticDocument root)).map Json.value, ?_, ?_,
    forall₂_value_map (isObjectOf_complaintDocument root) r.complaints,
    forall₂_value_map (isObjectOf_diagnosticDocument root) r.diagnostics⟩
  · have hvalue : (r.document root).value = .object (Value.present
        [ ("summary", some (.object (Value.present r.summaryFields))),
          ("complaints", some (.list ((r.complaints.map (complaintDocument root)).map Json.value))),
          ("diagnostics",
            some (.list ((r.diagnostics.map (diagnosticDocument root)).map Json.value))) ]) := by
      simp [document, summaryFields, Value.present, Json.value]
    rw [hvalue]
    exact Value.isObjectOf_present (by simp)
  · exact Value.isObjectOf_present (by simp [summaryFields])

/-! ## The written report -/

/-- **A report in JSON is faithful.** Its text is JSON for one value and no other, which is the one
that the reader gives, and that value holds the report. -/
theorem written_json_tells_report (colors : ColorMode) (root : Option Path) (r : Report) :
    ∃ v, (∀ w, Json.IsText w (r.write .json colors root) ↔ w = v) ∧
      Json.parse? (r.write .json colors root) = some v ∧ Tells root r v := by
  have htext : Json.IsText (r.document root).value (r.write .json colors root) :=
    Json.isText_pretty (r.document root)
  refine ⟨(r.document root).value, fun w => ⟨fun hw => hw.eq htext, ?_⟩,
    Json.parse?_of_isText htext, tells_document root r⟩
  rintro rfl
  exact htext

end Report

end SuiteLint
