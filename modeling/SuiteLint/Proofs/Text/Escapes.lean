import SuiteLint.Proofs.Text.Split

/-!
# Escape sequences in texts

Terminals take an escape character, a bracket, digits and the letter `m` for a change of color.
`eraseSequences` deletes all such sequences from a text, reading it once from front to back.

A text that comes out of erasing as another one whatever follows it (`Erases`) can be put together
with others of this kind. Texts without an escape character are left as they are
(`erases_of_not_mem`), and a sequence comes out as nothing (`erases_of_isSequence`).
-/

namespace SuiteLint.Text

/-- The character that escape sequences start with. -/
def escape : Char := '\x1b'

/-- An escape sequence that changes the color. -/
def IsSequence (cs : List Char) : Prop :=
  ∃ digits, digits ≠ [] ∧ (∀ d ∈ digits, d.isDigit = true) ∧
    cs = escape :: '[' :: (digits ++ ['m'])

/-- What stands behind an escape sequence at the front of a text. -/
def behindSequence? (cs : List Char) : Option (List Char) := do
  let inner ← dropFront? [escape, '['] cs
  if inner.takeWhile Char.isDigit = [] then none
  else dropFront? ['m'] (inner.dropWhile Char.isDigit)

theorem behindSequence?_eq_some_iff {cs behind : List Char} :
    behindSequence? cs = some behind ↔ ∃ s, IsSequence s ∧ cs = s ++ behind := by
  constructor
  · intro h
    obtain ⟨inner, hinner, h⟩ := Option.bind_eq_some_iff.mp h
    rw [dropFront?_eq_some_iff] at hinner
    split at h
    · cases h
    · rename_i hdigits
      rw [dropFront?_eq_some_iff] at h
      refine ⟨_, ⟨inner.takeWhile Char.isDigit, hdigits, fun d hd => List.mem_takeWhile_imp hd, rfl⟩,
        ?_⟩
      have hsplit : inner.takeWhile Char.isDigit ++ (['m'] ++ behind) = inner := by
        rw [← h, List.takeWhile_append_dropWhile]
      rw [hinner]
      show escape :: '[' :: inner =
        escape :: '[' :: (inner.takeWhile Char.isDigit ++ ['m'] ++ behind)
      rw [List.append_assoc, hsplit]
  · rintro ⟨s, ⟨digits, hne, hdigits, rfl⟩, rfl⟩
    have hinner : dropFront? [escape, '['] (escape :: '[' :: (digits ++ ['m']) ++ behind) =
        some (digits ++ 'm' :: behind) := by
      rw [dropFront?_eq_some_iff]
      simp
    have htake : (digits ++ 'm' :: behind).takeWhile Char.isDigit = digits := by
      rw [List.takeWhile_append_of_pos hdigits]
      exact List.append_nil digits
    have hdrop : (digits ++ 'm' :: behind).dropWhile Char.isDigit = 'm' :: behind := by
      rw [List.dropWhile_append_of_pos hdigits]
      rfl
    rw [behindSequence?, hinner, Option.bind_eq_bind, Option.bind_some, htake, hdrop, if_neg hne]
    rfl

theorem IsSequence.length_pos {cs : List Char} (h : IsSequence cs) : 0 < cs.length := by
  obtain ⟨digits, -, -, rfl⟩ := h
  exact Nat.succ_pos _

theorem length_behindSequence?_lt {cs behind : List Char} (h : behindSequence? cs = some behind) :
    behind.length < cs.length := by
  obtain ⟨s, hs, rfl⟩ := behindSequence?_eq_some_iff.mp h
  have hpos := hs.length_pos
  rw [List.length_append]
  omega

/-- Characters without the escape sequences among them. -/
def eraseChars (cs : List Char) : List Char :=
  match cs with
  | [] => []
  | c :: rest =>
    match h : behindSequence? (c :: rest) with
    | some behind =>
      have := length_behindSequence?_lt h
      eraseChars behind
    | none => c :: eraseChars rest
termination_by cs.length
decreasing_by
  · assumption
  · exact Nat.lt_succ_self rest.length

/-- A text without the escape sequences in it. -/
def eraseSequences (s : String) : String := String.ofList (eraseChars s.toList)

theorem eraseChars_sequence {s : List Char} (h : IsSequence s) (behind : List Char) :
    eraseChars (s ++ behind) = eraseChars behind := by
  have hbehind : behindSequence? (s ++ behind) = some behind :=
    behindSequence?_eq_some_iff.mpr ⟨s, h, rfl⟩
  obtain ⟨digits, -, -, rfl⟩ := h
  rw [List.cons_append] at hbehind ⊢
  rw [eraseChars]
  split
  · rename_i other hother
    obtain rfl := Option.some.inj (hbehind.symm.trans hother)
    rfl
  · rename_i hnone
    rw [hbehind] at hnone
    cases hnone

theorem eraseChars_cons {c : Char} (h : c ≠ escape) (cs : List Char) :
    eraseChars (c :: cs) = c :: eraseChars cs := by
  rw [eraseChars]
  split
  · rename_i behind hbehind
    obtain ⟨s, ⟨digits, -, -, rfl⟩, heq⟩ := behindSequence?_eq_some_iff.mp hbehind
    exact absurd (List.cons.inj heq).1 h
  · rfl

theorem eraseChars_append {cs : List Char} (h : escape ∉ cs) (behind : List Char) :
    eraseChars (cs ++ behind) = cs ++ eraseChars behind := by
  induction cs with
  | nil => rfl
  | cons c cs ih =>
      rw [List.mem_cons, not_or] at h
      rw [List.cons_append, eraseChars_cons (Ne.symm h.1), ih h.2, List.cons_append]

/-! ## Texts put together -/

/-- Whatever follows it, a text comes out of erasing as another one. -/
def Erases (colored plain : String) : Prop :=
  ∀ behind, eraseChars (colored.toList ++ behind) = plain.toList ++ eraseChars behind

theorem Erases.eq {colored plain : String} (h : Erases colored plain) :
    eraseSequences colored = plain := by
  have hall := h []
  rw [List.append_nil, eraseChars, List.append_nil] at hall
  rw [eraseSequences, hall, String.ofList_toList]

theorem Erases.append {a b c d : String} (h : Erases a b) (h' : Erases c d) :
    Erases (a ++ c) (b ++ d) := by
  intro behind
  rw [String.toList_append, String.toList_append, List.append_assoc, h, h', List.append_assoc]

theorem erases_of_not_mem {s : String} (h : escape ∉ s.toList) : Erases s s :=
  eraseChars_append h

theorem erases_of_isSequence {s : String} (h : IsSequence s.toList) : Erases s "" := by
  intro behind
  rw [eraseChars_sequence h]
  rfl

theorem erases_join {α : Type} {colored plain : α → String} {xs : List α}
    (h : ∀ x ∈ xs, Erases (colored x) (plain x)) :
    Erases (String.join (xs.map colored)) (String.join (xs.map plain)) := by
  induction xs with
  | nil => exact fun behind => rfl
  | cons x xs ih =>
      have hx := h x List.mem_cons_self
      have hxs := ih fun y hy => h y (List.mem_cons_of_mem x hy)
      rw [List.map_cons, List.map_cons, String.join_cons, String.join_cons]
      exact hx.append hxs

/-- A sequence goes, whatever its number, and what only looks like one stays. -/
example : eraseSequences "\x1b[36ma\x1b[0m[36mb" = "a[36mb" := by decide +kernel

end SuiteLint.Text
