import SuiteLint.Proofs.Text.Escapes
import SuiteLint.Report.Format

/-!
# Colors in reports

A report with colors is laid out piece by piece like one without, and a color puts one escape
sequence in front of a piece and one behind it. So if nothing in the report holds an escape
character, erasing the sequences gives the report without colors (`erases_render`). Paths are shown
in part only, but what is shown of a path holds no character that is not in it, slashes and dots
apart (`mem_shown`).

Without colors, the line of a complaint is its text, with the path as it is shown
(`complaintLine_plain`).
-/

namespace SuiteLint

open Text

/-! ## Characters of shown paths -/

namespace Path

theorem mem_of_mem_split {text piece : String} {c : Char} (sep : Char → Bool)
    (hpiece : piece ∈ split sep text) (hc : c ∈ piece.toList) : c ∈ text.toList := by
  obtain ⟨chars, hchars, rfl⟩ := List.mem_map.mp hpiece
  rw [String.toList_ofList] at hc
  have hflat : c ∈ (splitChars sep text.toList).flatten := List.mem_flatten_of_mem hchars hc
  rw [flatten_splitChars] at hflat
  exact (List.mem_filter.mp hflat).1

theorem mem_intercalate {pieces : List String} {c : Char}
    (h : c ∈ ("/".intercalate pieces).toList) : c = '/' ∨ ∃ piece ∈ pieces, c ∈ piece.toList := by
  rw [String.toList_intercalate, show "/".toList = ['/'] from rfl] at h
  induction pieces with
  | nil => cases h
  | cons piece pieces ih =>
      cases pieces with
      | nil => exact Or.inr ⟨piece, List.mem_cons_self, by simpa using h⟩
      | cons next rest =>
          rw [List.map_cons, List.map_cons, List.intercalate_cons_cons, List.mem_append,
            List.mem_append] at h
          rcases h with (hpiece | hsep) | hrest
          · exact Or.inr ⟨piece, List.mem_cons_self, hpiece⟩
          · exact Or.inl (List.mem_singleton.mp hsep)
          · rcases ih hrest with hslash | ⟨other, hother, hc⟩
            · exact Or.inl hslash
            · exact Or.inr ⟨other, List.mem_cons_of_mem piece hother, hc⟩

theorem dropSteps_suffix (n : Nat) (pieces : List String) : dropSteps n pieces <:+ pieces := by
  induction pieces generalizing n with
  | nil => cases n <;> exact List.suffix_rfl
  | cons piece pieces ih =>
      cases n with
      | zero => exact List.suffix_rfl
      | succ n =>
          rw [dropSteps]
          split
          · exact (ih n).trans (List.suffix_cons piece pieces)
          · exact (ih (n + 1)).trans (List.suffix_cons piece pieces)

theorem trimEnd_subset (pieces : List String) : trimEnd pieces ⊆ pieces := by
  have hkept : trimEnd pieces <+: pieces := by
    rw [trimEnd, ← List.reverse_suffix, List.reverse_reverse]
    exact List.dropWhile_suffix _
  exact hkept.subset

theorem mem_of_pieces {p : Path} {pieces : List String} {c : Char}
    (hpieces : pieces ⊆ split (· == '/') p.text) (h : c ∈ ("/".intercalate pieces).toList) :
    c ∈ p.text.toList ∨ c = '/' := by
  rcases mem_intercalate h with hslash | ⟨piece, hpiece, hc⟩
  · exact Or.inr hslash
  · exact Or.inl (mem_of_mem_split _ (hpieces hpiece) hc)

theorem mem_textAfter {p : Path} {n : Nat} {c : Char} (h : c ∈ (p.textAfter n).toList) :
    c ∈ p.text.toList ∨ c = '/' := by
  unfold textAfter at h
  refine mem_of_pieces (List.Subset.trans (trimEnd_subset _) ?_) h
  refine List.Subset.trans (List.dropWhile_suffix _).subset ?_
  split
  · exact (dropSteps_suffix _ _).subset
  · exact List.Subset.trans (dropSteps_suffix _ _).subset (List.drop_subset 1 _)
  · exact (dropSteps_suffix _ _).subset

theorem mem_withoutTail {p : Path} {c : Char} (h : c ∈ p.withoutTail.text.toList) :
    c ∈ p.text.toList ∨ c = '/' ∨ c = '.' := by
  unfold withoutTail at h
  split at h
  · exact Or.inr (Or.inl (List.mem_singleton.mp h))
  · exact Or.inr (Or.inr (List.mem_singleton.mp h))
  · exact (mem_of_pieces (trimEnd_subset _) h).imp_right Or.inl

theorem mem_relativeTo? {base p q : Path} {c : Char} (hq : base.relativeTo? p = some q)
    (h : c ∈ q.text.toList) : c ∈ p.text.toList ∨ c = '/' ∨ c = '.' := by
  rw [relativeTo?] at hq
  split at hq
  · cases hq
  · split at hq
    · obtain rfl := Option.some.inj hq
      exact mem_withoutTail h
    · obtain rfl := Option.some.inj hq
      exact (mem_textAfter h).imp_right Or.inl

theorem mem_shown {root : Option Path} {p : Path} {c : Char} (h : c ∈ (p.shown root).toList) :
    c ∈ p.text.toList ∨ c = '/' ∨ c = '.' := by
  have hpart : ∀ d ∈ ((root.bind fun r => relativeTo? r p).getD p).text.toList,
      d ∈ p.text.toList ∨ d = '/' ∨ d = '.' := by
    intro d hd
    cases hroot : root.bind fun r => relativeTo? r p with
    | none =>
        rw [hroot] at hd
        exact Or.inl hd
    | some q =>
        obtain ⟨r, -, hq⟩ := Option.bind_eq_some_iff.mp hroot
        rw [hroot] at hd
        exact mem_relativeTo? hq hd
  simp only [shown] at h
  split at h
  · exact Or.inr (Or.inr (List.mem_singleton.mp h))
  · rw [replaceChar, String.toList_map] at h
    obtain ⟨d, hd, rfl⟩ := List.mem_map.mp h
    split
    · exact Or.inr (Or.inl rfl)
    · exact hpart d hd

/-- Without a root, a path is shown as it is, unless it is empty or has to be turned. -/
theorem shown_none {p : Path} (hne : p.text ≠ "") (hslash : '\\' ∉ p.text.toList) :
    p.shown none = p.text := by
  have hsame : replaceChar '\\' '/' p.text = p.text := by
    have hid : ∀ c ∈ p.text.toList, (if c == '\\' then '/' else c) = id c := by
      intro c hc
      refine if_neg ?_
      rw [beq_iff_eq]
      rintro rfl
      exact hslash hc
    rw [replaceChar, ← String.toList_inj, String.toList_map, List.map_congr_left hid, List.map_id]
  have hempty : (p.text == "") = false := beq_eq_false_iff_ne.mpr hne
  simp only [shown, Option.bind_none, Option.getD_none, hsame, hempty, Bool.false_eq_true, if_false]

end Path

/-! ## Texts of reports -/

/-- No text of a complaint holds an escape character. -/
structure Complaint.Escapeless (c : Complaint) : Prop where
  rule : escape ∉ c.rule.toList
  path : escape ∉ c.path.text.toList
  className : escape ∉ c.className.toList
  method : ∀ m ∈ c.method, escape ∉ m.toList
  message : escape ∉ c.message.toList

/-- No text of a diagnostic holds an escape character. -/
structure Diagnostic.Escapeless (d : Diagnostic) : Prop where
  path : escape ∉ d.path.text.toList
  reason : escape ∉ d.reason.toList

/-- No text of a report holds an escape character. -/
structure Report.Escapeless (r : Report) : Prop where
  complaints : ∀ c ∈ r.complaints, c.Escapeless
  diagnostics : ∀ d ∈ r.diagnostics, d.Escapeless

theorem escape_not_mem_shown {root : Option Path} {p : Path} (h : escape ∉ p.text.toList) :
    escape ∉ (p.shown root).toList := by
  intro hmem
  rcases Path.mem_shown hmem with hpath | hslash | hdot
  · exact h hpath
  · cases hslash
  · cases hdot

theorem escape_not_mem_toString (n : Nat) : escape ∉ (toString n).toList := by
  intro hmem
  have hdigits : escape ∈ Nat.toDigits 10 n := by simpa using hmem
  have hdigit := Nat.isDigit_of_mem_toDigits (by decide) (by decide) hdigits
  cases hdigit

theorem escape_not_mem_append {s t : String} (hs : escape ∉ s.toList) (ht : escape ∉ t.toList) :
    escape ∉ (s ++ t).toList := by
  rw [String.toList_append, List.mem_append, not_or]
  exact ⟨hs, ht⟩

namespace Complaint

theorem escape_not_mem_location {place : String} (h : escape ∉ place.toList) (line : Option Nat) :
    escape ∉ (location place line).toList := by
  cases line with
  | none => exact h
  | some n =>
      have hcolon : escape ∉ ":".toList := by decide
      exact escape_not_mem_append (escape_not_mem_append h hcolon) (escape_not_mem_toString n)

theorem Escapeless.target {c : Complaint} (h : c.Escapeless) : escape ∉ c.target.toList := by
  rw [Complaint.target]
  split
  · rename_i m hm
    have hdot : escape ∉ ".".toList := by decide
    exact escape_not_mem_append (escape_not_mem_append h.className hdot) (h.method m hm)
  · exact h.className

end Complaint

namespace Report

/-! ## Erasing colors -/

theorem isSequence_escapeSequence (n : Nat) : IsSequence (escapeSequence n).toList := by
  refine ⟨Nat.toDigits 10 n, Nat.toDigits_ne_nil, fun d hd =>
    Nat.isDigit_of_mem_toDigits (by decide) (by decide) hd, ?_⟩
  have htext : escapeSequence n = "\x1b[" ++ toString n ++ "m" := rfl
  rw [htext]
  simp [escape]

theorem erases_newline : Erases "\n" "\n" := erases_of_not_mem (by decide)

theorem erases_colon : Erases ": " ": " := erases_of_not_mem (by decide)

section Erasing

variable (root : Option Path)

/-- A colored piece between two sequences comes out as the piece. -/
theorem erases_paint (color : Color) {piece : String} (h : escape ∉ piece.toList) :
    Erases (TextStyle.paint ⟨true, root⟩ color piece) (TextStyle.paint ⟨false, root⟩ color piece) := by
  have hfront := erases_of_isSequence (isSequence_escapeSequence color.code)
  have hback := erases_of_isSequence (isSequence_escapeSequence 0)
  have hall := (hfront.append (erases_of_not_mem h)).append hback
  simpa [TextStyle.paint] using hall

theorem erases_complaintLine {c : Complaint} (h : c.Escapeless) :
    Erases (TextStyle.complaintLine ⟨true, root⟩ c) (TextStyle.complaintLine ⟨false, root⟩ c) := by
  have hshown : escape ∉ (c.path.shown root).toList := escape_not_mem_shown h.path
  have hplace := erases_paint root .cyan (Complaint.escape_not_mem_location hshown c.line)
  have hrule : escape ∉ ("(" ++ c.rule ++ ")").toList :=
    escape_not_mem_append (escape_not_mem_append (by decide) h.rule) (by decide)
  have htarget := (hplace.append erases_colon).append (erases_of_not_mem h.target)
  have hmessage := (htarget.append erases_colon).append (erases_of_not_mem h.message)
  have hblank : Erases " " " " := erases_of_not_mem (by decide)
  exact ((hmessage.append hblank).append (erases_paint root .yellow hrule)).append erases_newline

theorem erases_diagnosticLine {d : Diagnostic} (h : d.Escapeless) :
    Erases (TextStyle.diagnosticLine ⟨true, root⟩ d) (TextStyle.diagnosticLine ⟨false, root⟩ d) := by
  have hskipped : escape ∉ "skipped".toList := by decide
  have hshown : escape ∉ (d.path.shown root).toList := escape_not_mem_shown h.path
  have hpath := ((erases_paint root .yellow hskipped).append erases_colon).append
    (erases_of_not_mem hshown)
  exact ((hpath.append erases_colon).append (erases_of_not_mem h.reason)).append erases_newline

/-- The last line holds no text of the report, only how much there is of it. -/
theorem erases_summaryLine (r : Report) :
    Erases (TextStyle.summaryLine ⟨true, root⟩ r) (TextStyle.summaryLine ⟨false, root⟩ r) := by
  have hhead : Erases "Summary: " "Summary: " := erases_of_not_mem (by decide)
  have hcount (color : Color) :=
    hhead.append (erases_paint root color (escape_not_mem_toString r.complaints.length))
  have hblank : Erases " " " " := erases_of_not_mem (by decide)
  have hnoun : ∀ b : Bool, Erases (if b then "complaint" else "complaints")
      (if b then "complaint" else "complaints") := by
    intro b
    cases b <;> exact erases_of_not_mem (by decide)
  have hskipped : Erases
      (if r.diagnostics.isEmpty then "" else ", " ++ TextStyle.paint ⟨true, root⟩ .yellow
        (toString r.diagnostics.length) ++ " files not analyzed")
      (if r.diagnostics.isEmpty then "" else ", " ++ TextStyle.paint ⟨false, root⟩ .yellow
        (toString r.diagnostics.length) ++ " files not analyzed") := by
    split
    · exact erases_of_not_mem (by decide)
    · have hcomma : Erases ", " ", " := erases_of_not_mem (by decide)
      have hfiles : Erases " files not analyzed" " files not analyzed" :=
        erases_of_not_mem (by decide)
      exact (hcomma.append (erases_paint root .yellow (escape_not_mem_toString _))).append hfiles
  exact ((((hcount _).append hblank).append (hnoun _)).append hskipped).append erases_newline

theorem erases_gap (b : Bool) : Erases (if b then "" else "\n") (if b then "" else "\n") := by
  cases b
  · exact erases_newline
  · exact erases_of_not_mem (by decide)

theorem erases_body {r : Report} (h : r.Escapeless) :
    Erases (TextStyle.body ⟨true, root⟩ r) (TextStyle.body ⟨false, root⟩ r) := by
  have hcomplaints := erases_join fun c hc => erases_complaintLine root (h.complaints c hc)
  have hdiagnostics := erases_join fun d hd => erases_diagnosticLine root (h.diagnostics d hd)
  exact (hcomplaints.append (erases_gap (r.complaints.isEmpty || r.diagnostics.isEmpty))).append
    hdiagnostics

/-- A report with colors comes out of erasing as the same report without. -/
theorem erases_render {r : Report} (h : r.Escapeless) :
    Erases (TextStyle.render ⟨true, root⟩ r) (TextStyle.render ⟨false, root⟩ r) :=
  ((erases_body root h).append (erases_gap _)).append (erases_summaryLine root r)

/-! ## Lines without colors -/

/-- A complaint with its path as it is shown. -/
def shownComplaint (c : Complaint) : Complaint := { c with path := ⟨c.path.shown root⟩ }

/-- Without colors, the line of a complaint is its text. -/
theorem complaintLine_plain (c : Complaint) :
    TextStyle.complaintLine ⟨false, root⟩ c = (shownComplaint root c).text ++ "\n" := by
  have htext : (shownComplaint root c).text = Complaint.location (c.path.shown root) c.line ++ ": "
      ++ c.target ++ ": " ++ c.message ++ " (" ++ c.rule ++ ")" := rfl
  rw [htext, ← String.toList_inj]
  simp [TextStyle.complaintLine, TextStyle.paint]

end Erasing

theorem shownComplaint_none {c : Complaint} (hne : c.path.text ≠ "")
    (hslash : '\\' ∉ c.path.text.toList) : shownComplaint none c = c := by
  rw [shownComplaint, Path.shown_none hne hslash]

namespace TextStyle

/-- What follows the lines of the complaints. -/
def closing (style : TextStyle) (r : Report) : String :=
  (if r.complaints.isEmpty || r.diagnostics.isEmpty then "" else "\n")
    ++ String.join (r.diagnostics.map style.diagnosticLine)
    ++ (if r.complaints.isEmpty && r.diagnostics.isEmpty then "" else "\n") ++ style.summaryLine r

theorem render_eq (style : TextStyle) (r : Report) :
    style.render r = String.join (r.complaints.map style.complaintLine) ++ style.closing r := by
  simp only [render, body, closing, String.append_assoc]

/-- Of the complaints, nothing but their number is to be seen behind their lines. -/
theorem closing_congr (style : TextStyle) {r s : Report}
    (hlength : r.complaints.length = s.complaints.length)
    (hdiagnostics : r.diagnostics = s.diagnostics) : style.closing r = style.closing s := by
  have hempty : r.complaints.isEmpty = s.complaints.isEmpty := by
    rw [Bool.eq_iff_iff, List.isEmpty_iff_length_eq_zero, List.isEmpty_iff_length_eq_zero, hlength]
  simp only [closing, summaryLine, hempty, hlength, hdiagnostics]

end TextStyle

/-- If no text in a report holds an escape character, erasing the escape sequences of the report
with colors gives the report without. Without colors and without a root, a report starts with the
texts of its complaints, in their order and a line each, as far as the paths need not be turned. -/
theorem colors_erasable :
    (∀ (r : Report) (root : Option Path), r.Escapeless →
        eraseSequences (write .text .always root r) = write .text .never root r) ∧
      ∃ closing : Nat → List Diagnostic → String, ∀ r : Report,
        write .text .never none r =
            String.join (r.complaints.map (TextStyle.complaintLine ⟨false, none⟩)) ++
              closing r.complaints.length r.diagnostics ∧
          ∀ c ∈ r.complaints, c.path.text ≠ "" → '\\' ∉ c.path.text.toList →
            TextStyle.complaintLine ⟨false, none⟩ c = c.text ++ "\n" := by
  refine ⟨fun r root h => (erases_render root h).eq, ?_⟩
  refine ⟨fun count diagnostics =>
    TextStyle.closing ⟨false, none⟩ ⟨List.replicate count default, diagnostics⟩, fun r => ⟨?_, ?_⟩⟩
  · have hclosing := TextStyle.closing_congr ⟨false, none⟩ (r := r)
      (s := ⟨List.replicate r.complaints.length default, r.diagnostics⟩)
      (List.length_replicate).symm rfl
    exact (TextStyle.render_eq _ r).trans (congrArg _ hclosing)
  · intro c _ hne hslash
    rw [complaintLine_plain, shownComplaint_none hne hslash]

/-- A complaint with all of its parts. -/
def shopComplaint : Complaint :=
  { rule := "RuleNotSpam", path := ⟨"/shop/CartTest.java"⟩, line := some 12
    className := "CartTest", method := some "aaaa", message := "not spam" }

/-- A report with one complaint and one file that was skipped. -/
def shopReport : Report :=
  { complaints := [shopComplaint], diagnostics := [⟨⟨"/shop/Broken.java"⟩, "syntax error"⟩] }

theorem escapeless_shopReport : shopReport.Escapeless where
  complaints := by
    intro c hc
    obtain rfl := List.mem_singleton.mp hc
    exact ⟨by decide, by decide, by decide, by decide, by decide⟩
  diagnostics := by
    intro d hd
    obtain rfl := List.mem_singleton.mp hd
    exact ⟨by decide, by decide⟩

theorem colors_erasable_shop :
    shopReport.Escapeless ∧
      eraseSequences (write .text .always (some ⟨"/shop"⟩) shopReport) =
        write .text .never (some ⟨"/shop"⟩) shopReport ∧
      TextStyle.complaintLine ⟨false, none⟩ shopComplaint = shopComplaint.text ++ "\n" := by
  obtain ⟨herase, closing, hlines⟩ := colors_erasable
  exact ⟨escapeless_shopReport, herase shopReport _ escapeless_shopReport,
    (hlines shopReport).2 shopComplaint List.mem_cons_self (by decide) (by decide)⟩

end Report

end SuiteLint
