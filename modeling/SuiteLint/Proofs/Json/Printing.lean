import SuiteLint.Proofs.Json.Reading

/-!
# The printed form is JSON

Whatever its strings hold and however deep it is, the printed form of a value is a JSON text for
that value (`isText_pretty`).
-/

namespace SuiteLint.Json

theorem sizeOf_member_lt {m : String × Json} {ms : List (String × Json)} (h : m ∈ ms) :
    sizeOf m.2 < sizeOf ms := by
  have hlt : sizeOf m < sizeOf ms := List.sizeOf_lt_of_mem h
  have hsize : sizeOf m = 1 + sizeOf m.1 + sizeOf m.2 := rfl
  omega

/-- What a document stands for. -/
def value : Json → Value
  | number n => .number n 0
  | text s => .text s
  | list es => .list (es.map value)
  | object ms => .object (ms.map fun m => (m.1, m.2.value))
decreasing_by
  · have hlt := List.sizeOf_lt_of_mem ‹_ ∈ es›
    simp only [list.sizeOf_spec]
    omega
  · have hlt := sizeOf_member_lt ‹_ ∈ ms›
    simp only [object.sizeOf_spec]
    omega

/-! ## Numbers -/

/-- Digits of a positive number do not start with a zero. -/
theorem toDigits_head {n : Nat} (hn : 0 < n) :
    ∃ d ds, Nat.toDigits 10 n = d :: ds ∧ d ≠ '0' := by
  induction n using Nat.strongRecOn with
  | ind n ih =>
    rcases Nat.lt_or_ge n 10 with hlt | hge
    · refine ⟨n.digitChar, [], Nat.toDigits_of_lt_base hlt, ?_⟩
      have hall : ∀ m : Fin 10, 0 < m.val → m.val.digitChar ≠ '0' := by decide
      exact hall ⟨n, hlt⟩ hn
    · obtain ⟨d, ds, hds, hd⟩ := ih (n / 10) (by omega) (by omega)
      refine ⟨d, ds ++ [(n % 10).digitChar], ?_, hd⟩
      rw [Nat.toDigits_of_base_le (by decide) hge, hds, List.cons_append]

theorem whole_toDigits (n : Nat) (t : List Char) :
    Whole (Nat.toDigits 10 n) (Nat.toDigits 10 n ++ t) t := by
  rcases Nat.eq_zero_or_pos n with rfl | hn
  · exact .zero
  · obtain ⟨d, ds, hds, hd⟩ := toDigits_head hn
    have hdigit : ∀ c ∈ d :: ds, c.isDigit = true := by
      intro c hc
      rw [← hds] at hc
      exact Nat.isDigit_of_mem_toDigits (by decide) (by decide) hc
    rw [List.forall_mem_cons] at hdigit
    rw [hds]
    exact .digits hd hdigit.1 hdigit.2

theorem numeral_toDigits (n : Nat) (t : List Char) : Numeral n 0 (Nat.toDigits 10 n ++ t) t := by
  have h := Numeral.positive (.mk (whole_toDigits n t) .absent .absent)
  simpa [Nat.ofDigitChars_toDigits] using h

/-! ## Strings -/

theorem hexValue?_digit {n : Nat} (hn : n < 16) : hexValue? (Text.Hex.digit n) = some n := by
  have hall : ∀ m : Fin 16, hexValue? (Text.Hex.digit m) = some m.val := by decide
  exact hall ⟨n, hn⟩

theorem unit?_control {n : Nat} (hn : n < 32) :
    unit? '0' '0' (Text.Hex.digit (n / 16)) (Text.Hex.digit (n % 16)) = some n := by
  have hzero : hexValue? '0' = some 0 := by decide
  simp only [unit?, hzero, hexValue?_digit (show n / 16 < 16 by omega),
    hexValue?_digit (show n % 16 < 16 by omega), Option.bind_eq_bind, Option.bind_some,
    Option.pure_def, Option.some.injEq]
  omega

/-- A character of a string reads back from its escape. -/
theorem characters_escape (c : Char) {cs s t : List Char} (h : Characters cs s t) :
    Characters (c :: cs) (escape c ++ s) t := by
  unfold escape
  -- Seven characters have a letter of their own behind the backslash.
  iterate 7
    split
    · next hc =>
      rw [eq_of_beq hc]
      exact .short (by decide) h
  split
  · next hcontrol =>
    have hunit := Characters.unit (unit?_control hcontrol) (.inl (by omega)) h
    rwa [Char.ofNat_toNat] at hunit
  · next hcontrol =>
    have hquote : c ≠ '"' := by simpa using ‹¬ (c == '"') = true›
    have hback : c ≠ '\\' := by simpa using ‹¬ (c == '\\') = true›
    exact .plain (Nat.not_lt.1 hcontrol) hquote hback h

theorem characters_flatMap (cs t : List Char) :
    Characters cs (cs.flatMap escape ++ '"' :: t) t := by
  induction cs with
  | nil => exact .close
  | cons c cs ih =>
    rw [List.flatMap_cons, List.append_assoc]
    exact characters_escape c ih

theorem quoted_quote (s : String) (t : List Char) : Quoted s (quote s ++ t) t := by
  have h : Quoted (String.ofList s.toList) ('"' :: (s.toList.flatMap escape ++ '"' :: t)) t :=
    .mk (characters_flatMap s.toList t)
  simpa [quote, quoteChars] using h

/-! ## Layout -/

theorem blanks_newline (level : Nat) (t : List Char) : Blanks (newline level ++ t) t := by
  have hblanks : ∀ k : Nat, Blanks (List.replicate k ' ' ++ t) t := by
    intro k
    induction k with
    | zero => exact .none
    | succ k ih => exact .more (by decide) ih
  exact .more (by decide) (hblanks (2 * level))

theorem renderElements_eq (level : Nat) (es : List Json) :
    renderElements level es = es.flatMap fun e => ',' :: (newline level ++ render level e) := by
  induction es with
  | nil => rw [renderElements, List.flatMap_nil]
  | cons e es ih => rw [renderElements, List.flatMap_cons, ih, List.cons_append]

theorem renderMembers_eq (level : Nat) (ms : List (String × Json)) :
    renderMembers level ms
      = ms.flatMap fun m => ',' :: (newline level ++ renderMember level m) := by
  induction ms with
  | nil => rw [renderMembers, List.flatMap_nil]
  | cons m ms ih => rw [renderMembers, List.flatMap_cons, ih, List.cons_append]

/-- Items on lines of their own, with a comma behind each but the last. -/
theorem items_lines {α β : Type} {item : α → List Char → List Char → Prop} {close : Char}
    {f : β → α} {shown : β → List Char} {tail t : List Char} (level : Nat)
    (htail : Blanks tail (close :: t)) (x : β) (xs : List β)
    (h : ∀ y ∈ x :: xs, ∀ t, item (f y) (shown y ++ t) t) :
    Items item close ((x :: xs).map f)
      (shown x ++ ((xs.flatMap fun y => ',' :: (newline level ++ shown y)) ++ tail)) t := by
  rw [List.forall_mem_cons] at h
  obtain ⟨hx, hxs⟩ := h
  induction xs generalizing x with
  | nil => exact .last (hx _) htail
  | cons y ys ih =>
    have hys := ih y (hxs y (List.mem_cons_self ..)) fun z hz => hxs z (List.mem_cons_of_mem _ hz)
    rw [List.flatMap_cons, List.append_assoc, List.cons_append, List.append_assoc]
    exact .more (hx _) .none (blanks_newline level _) hys

theorem member_renderMember {m : String × Json} {level : Nat}
    (h : ∀ t, Written m.2.value (render level m.2 ++ t) t) (t : List Char) :
    Member Written (m.1, m.2.value) (renderMember level m ++ t) t := by
  obtain ⟨key, v⟩ := m
  have hmember := Member.mk (quoted_quote key _) .none (.more (c := ' ') (by decide) .none) (h t)
  simpa only [renderMember, List.append_assoc, List.cons_append] using hmember

theorem written_render (j : Json) (level : Nat) (t : List Char) :
    Written j.value (render level j ++ t) t := by
  cases j with
  | number n =>
    rw [value, render]
    exact .number (numeral_toDigits n t)
  | text s =>
    rw [value, render]
    exact .text (quoted_quote s t)
  | list es =>
    rw [value]
    cases es with
    | nil =>
      rw [render]
      exact .list (.empty .none)
    | cons e es =>
      have hitems := items_lines (level + 1) (blanks_newline level (']' :: t)) e es
        fun j hj t => written_render j (level + 1) t
      have h := Written.list (.items (blanks_newline (level + 1) _) hitems)
      simpa only [render, renderElements_eq, List.cons_append, List.append_assoc, List.nil_append]
        using h
  | object ms =>
    rw [value]
    cases ms with
    | nil =>
      rw [render]
      exact .object (.empty .none)
    | cons m ms =>
      have hitems := items_lines (level + 1) (blanks_newline level ('\x7d' :: t)) m ms
        fun m hm t => member_renderMember (fun t => written_render m.2 (level + 1) t) t
      have h := Written.object (.items (blanks_newline (level + 1) _) hitems)
      simpa only [render, renderMembers_eq, List.cons_append, List.append_assoc, List.nil_append]
        using h
termination_by sizeOf j
decreasing_by
  · have hlt := List.sizeOf_lt_of_mem hj
    simp only [list.sizeOf_spec]
    omega
  · have hlt := sizeOf_member_lt hm
    simp only [object.sizeOf_spec]
    omega

theorem isText_pretty (j : Json) : IsText j.value j.pretty := by
  refine ⟨j.pretty.toList, [], .none, ?_, .none⟩
  have h := written_render j 0 []
  rwa [List.append_nil, ← String.toList_ofList (l := render 0 j)] at h

end SuiteLint.Json
