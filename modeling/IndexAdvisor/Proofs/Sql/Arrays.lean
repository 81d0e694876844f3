import IndexAdvisor.Proofs.Sql.ReadBack

/-! # Literals of arrays

An array is written in braces with commas between its elements, and these are not told from the braces and
commas of a text. So one text can stand for any number of elements, an empty text for none, and the text
`None` for a null. Arrays of texts without all that have literals of their own.
-/

namespace IndexAdvisor.Sql

open Text

/-! ## Arrays of texts -/

/-- An element of an array of such texts: a text, a null, or again such an array. -/
inductive OfTexts (allowed : String → Prop) : Value → Prop
  | null : OfTexts allowed .null
  | text {c : String} (fine : allowed c) : OfTexts allowed (.text c)
  | list {vs : List Value} (all : ∀ v ∈ vs, OfTexts allowed v) : OfTexts allowed (.list vs)

theorem ofTexts_list {allowed : String → Prop} {vs : List Value} :
    OfTexts allowed (.list vs) ↔ ∀ v ∈ vs, OfTexts allowed v := by
  constructor
  · rintro (_ | _ | all)
    exact all
  · exact .list

/-- A character that arrays are written with. -/
def isArrayMark (c : Char) : Bool := c = ',' || c = '\x7b' || c = '\x7d'

/-- A text that nothing else in an array is written like. -/
structure PlainText (c : String) : Prop where
  nonempty : c ≠ ""
  named : c ≠ "None"
  unmarked : ∀ d ∈ c.toList, isArrayMark d = false

/-- A text that nothing else is written like where it is the only element. -/
structure LoneText (c : String) : Prop where
  nonempty : c ≠ ""
  named : c ≠ "None"
  unparted : ',' ∉ c.toList
  unbraced : ∀ inner, c ≠ "\x7b" ++ inner ++ "\x7d"

/-! ## The characters of an array -/

def elementChars (v : Value) : List Char := (arrayText v).toList

/-- The characters of elements behind another one. -/
def laterChars (vs : List Value) : List Char := vs.flatMap fun v => ',' :: elementChars v

/-- The characters between the braces of an array. -/
def innerChars : List Value → List Char
  | [] => []
  | v :: vs => elementChars v ++ laterChars vs

theorem elementChars_text (c : String) : elementChars (.text c) = c.toList := rfl

theorem arrayTexts_eq (vs : List Value) : arrayTexts vs = vs.map arrayText := by
  induction vs with
  | nil => rfl
  | cons v vs ih => rw [arrayTexts, ih, List.map_cons]

theorem intercalate_eq (vs : List Value) : [','].intercalate (vs.map elementChars) = innerChars vs := by
  cases vs with
  | nil => rfl
  | cons v vs =>
      induction vs generalizing v with
      | nil => simp [innerChars, laterChars]
      | cons w vs ih =>
          rw [List.map_cons, List.map_cons, List.intercalate_cons_cons, ← List.map_cons, ih w]
          simp [innerChars, laterChars]

theorem elementChars_list (vs : List Value) :
    elementChars (.list vs) = '\x7b' :: (innerChars vs ++ ['\x7d']) := by
  have comma : ",".toList = [','] := rfl
  rw [elementChars, arrayText, arrayTexts_eq, String.toList_append, String.toList_append,
    String.toList_intercalate, List.map_map, comma]
  change '\x7b' :: ([','].intercalate (vs.map elementChars) ++ ['\x7d']) = _
  rw [intercalate_eq]

/-- A quoted literal tells the text between its quotes. -/
theorem renderLiteral_eq_iff {t : SqlType} (quoted : t.needsQuotes) {v w : Value} :
    renderLiteral v t = renderLiteral w t ↔ elementChars v = elementChars w := by
  have rendered (v : Value) : renderLiteral v t = .ok (quoteText (arrayText v)) := by
    unfold SqlType.needsQuotes at quoted
    unfold renderLiteral
    cases family : t.family <;> simp_all
  rw [rendered, rendered, Except.ok.injEq, elementChars, elementChars, String.toList_inj]
  constructor
  · intro same
    obtain ⟨body, whole, content⟩ := (quotes_quoteText (arrayText v)).body
    obtain ⟨body', whole', content'⟩ := (quotes_quoteText (arrayText w)).body
    rw [same, whole'] at whole
    have bodies := List.append_cancel_right (List.cons.inj whole).2
    rw [← bodies, content', Option.some.injEq, String.toList_inj] at content
    exact content.symm
  · exact congrArg quoteText

/-! ## Arrays of plain texts -/

/-- What follows an element: nothing, a comma or a brace. -/
def EndsElement (t : List Char) : Prop := ∀ c ∈ t.head?, isArrayMark c

theorem endsElement_later (vs : List Value) (t : List Char) : EndsElement (laterChars vs ++ '\x7d' :: t) := by
  intro c first
  cases vs with
  | nil =>
      cases first
      rfl
  | cons v vs =>
      cases first
      rfl

/-- A word without marks ends where a mark comes. -/
theorem word_append_inj {a b t u : List Char} (plain : ∀ d ∈ a, isArrayMark d = false)
    (plain' : ∀ d ∈ b, isArrayMark d = false) (ends : EndsElement t) (ends' : EndsElement u)
    (same : a ++ t = b ++ u) : a = b ∧ t = u := by
  -- if one word ended before the other, a character of the longer one would be a mark
  induction a generalizing b with
  | nil =>
      cases b with
      | nil => exact ⟨rfl, same⟩
      | cons d b =>
          subst same
          have mark := ends d rfl
          rw [plain' d List.mem_cons_self] at mark
          exact nomatch mark
  | cons c a ih =>
      cases b with
      | nil =>
          rw [List.nil_append] at same
          subst same
          have mark := ends' c rfl
          rw [plain c List.mem_cons_self] at mark
          exact nomatch mark
      | cons d b =>
          obtain ⟨rfl, rest⟩ := List.cons.inj same
          obtain ⟨rfl, after⟩ := ih (fun d mem => plain d (List.mem_cons_of_mem _ mem))
            (fun d mem => plain' d (List.mem_cons_of_mem _ mem)) rest
          exact ⟨rfl, after⟩

/-- An element that is no array. -/
inductive Single : Value → Prop
  | null : Single .null
  | text {c : String} (plain : PlainText c) : Single (.text c)

namespace Single

variable {v w : Value}

theorem unmarked (single : Single v) : ∀ d ∈ elementChars v, isArrayMark d = false := by
  cases single with
  | null =>
      intro d mem
      have letter : d ∈ ['N', 'o', 'n', 'e'] := mem
      simp only [List.mem_cons, List.not_mem_nil, or_false] at letter
      rcases letter with rfl | rfl | rfl | rfl <;> rfl
  | text plain => exact plain.unmarked

theorem ne_nil (single : Single v) : elementChars v ≠ [] := by
  cases single with
  | null => exact List.cons_ne_nil 'N' ['o', 'n', 'e']
  | text plain =>
      intro empty
      exact plain.nonempty (String.toList_eq_nil_iff.mp empty)

theorem inj (single : Single v) (single' : Single w) (same : elementChars v = elementChars w) : v = w := by
  have texts := String.toList_inj.mp same
  cases single with
  | null =>
      cases single' with
      | null => rfl
      | text plain => exact absurd texts.symm plain.named
  | text plain =>
      cases single' with
      | null => exact absurd texts plain.named
      | text plain' => exact congrArg Value.text texts

theorem head (single : Single v) (t : List Char) :
    ∃ d rest, elementChars v ++ t = d :: rest ∧ isArrayMark d = false := by
  obtain ⟨d, rest, whole⟩ := List.exists_cons_of_ne_nil single.ne_nil
  exact ⟨d, rest ++ t, by rw [whole, List.cons_append], single.unmarked d (by simp [whole])⟩

end Single

theorem OfTexts.cases {v : Value} (made : OfTexts PlainText v) :
    Single v ∨ ∃ vs, v = .list vs ∧ ∀ w ∈ vs, OfTexts PlainText w := by
  cases made with
  | null => exact .inl .null
  | text plain => exact .inl (.text plain)
  | list all => exact .inr ⟨_, rfl, all⟩

theorem OfTexts.head {v : Value} (made : OfTexts PlainText v) (t : List Char) :
    ∃ d rest, elementChars v ++ t = d :: rest ∧ d ≠ '\x7d' := by
  rcases made.cases with single | ⟨vs, rfl, -⟩
  · obtain ⟨d, rest, whole, plain⟩ := single.head t
    refine ⟨d, rest, whole, ?_⟩
    rintro rfl
    exact nomatch plain
  · exact ⟨'\x7b', _, by rw [elementChars_list, List.cons_append], by decide⟩

/-- What an element was is read off the characters it begins, and so is where it ends. -/
def ReadOff (v : Value) : Prop :=
  ∀ w, OfTexts PlainText w → ∀ t u, EndsElement t → EndsElement u →
    elementChars v ++ t = elementChars w ++ u → v = w ∧ t = u

theorem Single.readOff {v : Value} (single : Single v) : ReadOff v := by
  intro w made t u ends ends' same
  rcases made.cases with single' | ⟨ws, rfl, -⟩
  · obtain ⟨chars, after⟩ := word_append_inj single.unmarked single'.unmarked ends ends' same
    exact ⟨single.inj single' chars, after⟩
  · obtain ⟨d, rest, whole, plain⟩ := single.head t
    rw [whole, elementChars_list, List.cons_append] at same
    obtain ⟨rfl, -⟩ := List.cons.inj same
    exact nomatch plain

section

variable {vs ws : List Value} {t u : List Char}

theorem laterChars_append_inj (read : ∀ v ∈ vs, ReadOff v) (made : ∀ w ∈ ws, OfTexts PlainText w)
    (same : laterChars vs ++ '\x7d' :: t = laterChars ws ++ '\x7d' :: u) : vs = ws ∧ t = u := by
  induction vs generalizing ws with
  | nil =>
      cases ws with
      | nil => exact ⟨rfl, (List.cons.inj same).2⟩
      | cons w ws => simp [laterChars] at same
  | cons v vs ih =>
      cases ws with
      | nil => simp [laterChars] at same
      | cons w ws =>
          have rest : elementChars v ++ (laterChars vs ++ '\x7d' :: t)
              = elementChars w ++ (laterChars ws ++ '\x7d' :: u) := by
            simpa [laterChars] using same
          obtain ⟨rfl, later⟩ := read v List.mem_cons_self w (made w List.mem_cons_self) _ _
            (endsElement_later vs t) (endsElement_later ws u) rest
          obtain ⟨rfl, after⟩ := ih (fun v mem => read v (List.mem_cons_of_mem _ mem))
            (fun w mem => made w (List.mem_cons_of_mem _ mem)) later
          exact ⟨rfl, after⟩

theorem innerChars_append_inj (own : ∀ v ∈ vs, OfTexts PlainText v) (read : ∀ v ∈ vs, ReadOff v)
    (made : ∀ w ∈ ws, OfTexts PlainText w)
    (same : innerChars vs ++ '\x7d' :: t = innerChars ws ++ '\x7d' :: u) : vs = ws ∧ t = u := by
  cases vs with
  | nil =>
      cases ws with
      | nil => exact ⟨rfl, (List.cons.inj same).2⟩
      | cons w ws =>
          obtain ⟨d, rest, whole, other⟩ := (made w List.mem_cons_self).head (laterChars ws ++ '\x7d' :: u)
          rw [innerChars, innerChars, List.append_assoc, whole] at same
          exact absurd (List.cons.inj same).1.symm other
  | cons v vs =>
      cases ws with
      | nil =>
          obtain ⟨d, rest, whole, other⟩ := (own v List.mem_cons_self).head (laterChars vs ++ '\x7d' :: t)
          rw [innerChars, innerChars, List.append_assoc, whole] at same
          exact absurd (List.cons.inj same).1 other
      | cons w ws =>
          rw [innerChars, innerChars, List.append_assoc, List.append_assoc] at same
          obtain ⟨rfl, later⟩ := read v List.mem_cons_self w (made w List.mem_cons_self) _ _
            (endsElement_later vs t) (endsElement_later ws u) same
          obtain ⟨rfl, after⟩ := laterChars_append_inj (fun v mem => read v (List.mem_cons_of_mem _ mem))
            (fun w mem => made w (List.mem_cons_of_mem _ mem)) later
          exact ⟨rfl, after⟩

end

theorem readOff {v : Value} (made : OfTexts PlainText v) : ReadOff v := by
  induction made with
  | null => exact Single.null.readOff
  | text plain => exact (Single.text plain).readOff
  | list own read =>
      intro w made' t u ends ends' same
      rcases made'.cases with single | ⟨ws, rfl, all⟩
      · obtain ⟨d, rest, whole, plain⟩ := single.head u
        rw [whole, elementChars_list, List.cons_append] at same
        obtain ⟨rfl, -⟩ := List.cons.inj same
        exact nomatch plain
      · rw [elementChars_list, elementChars_list, List.cons_append, List.cons_append, List.append_assoc,
          List.append_assoc] at same
        obtain ⟨rfl, after⟩ := innerChars_append_inj own read all (List.cons.inj same).2
        exact ⟨rfl, after⟩

theorem elementChars_inj {v w : Value} (made : OfTexts PlainText v) (made' : OfTexts PlainText w)
    (same : elementChars v = elementChars w) : v = w := by
  have ends : EndsElement [] := fun c first => nomatch first
  exact (readOff made w made' [] [] ends ends (by rw [same])).1

/-! ## Arrays of any texts -/

/-- An element of an array of any texts. -/
abbrev OfAnyTexts : Value → Prop := OfTexts fun _ => True

theorem elementChars_list_inj {vs ws : List Value} :
    elementChars (.list vs) = elementChars (.list ws) ↔ innerChars vs = innerChars ws := by
  rw [elementChars_list, elementChars_list, List.cons.injEq, List.append_left_inj]
  exact and_iff_right rfl

theorem LoneText.eq_singleton {c : String} (lone : LoneText c) {ws : List Value}
    (made : ∀ w ∈ ws, OfAnyTexts w) (same : innerChars ws = c.toList) : ws = [.text c] := by
  cases ws with
  | nil => exact absurd (String.toList_eq_nil_iff.mp same.symm) lone.nonempty
  | cons w ws =>
      cases ws with
      | cons x ws =>
          have comma : ',' ∈ innerChars (w :: x :: ws) := by simp [innerChars, laterChars]
          exact absurd (same ▸ comma) lone.unparted
      | nil =>
          have chars : elementChars w = c.toList := by simpa [innerChars, laterChars] using same
          cases made w List.mem_cons_self with
          | null => exact absurd (String.toList_inj.mp chars).symm lone.named
          | @text d => rw [show d = c from String.toList_inj.mp chars]
          | @list us =>
              have braced : c = "\x7b" ++ String.ofList (innerChars us) ++ "\x7d" := by
                apply String.toList_inj.mp
                simp [← chars, elementChars_list]
              exact absurd braced (lone.unbraced _)

/-- The characters of an array are also those of the array of one text. -/
theorem innerChars_lone (vs : List Value) :
    innerChars [.text (String.ofList (innerChars vs))] = innerChars vs := by
  simp [innerChars, laterChars, elementChars_text]

theorem loneText_of_told {c : String}
    (told : ∀ ws, (∀ w ∈ ws, OfAnyTexts w) → innerChars ws = c.toList → ws = [.text c]) : LoneText c where
  nonempty := by
    rintro rfl
    exact nomatch told [] (by simp) rfl
  named := by
    rintro rfl
    exact nomatch told [.null] (by simp [OfTexts.null]) rfl
  unparted := by
    intro comma
    obtain ⟨before, after, whole⟩ := List.append_of_mem comma
    have two : innerChars [.text (String.ofList before), .text (String.ofList after)] = c.toList := by
      simp [innerChars, laterChars, elementChars_text, whole]
    exact nomatch told _ (by simp [OfTexts.text]) two
  unbraced := by
    rintro inner rfl
    have nested : innerChars [.list [.text inner]] = ("\x7b" ++ inner ++ "\x7d").toList := by
      simp [innerChars, laterChars, elementChars_list, elementChars_text]
    have made : OfAnyTexts (.list [.text inner]) := .list (by simp [OfTexts.text])
    exact nomatch told _ (by simpa using made) nested

/-! ## What the literal of an array tells -/

/-- In a column of a quoted type an array of plain texts, nulls and again such arrays is told by its
    literal. Among all arrays of texts only those of one text without commas are, the text being neither
    empty nor `None` nor in braces. -/
theorem arrays_told {t : SqlType} (quoted : t.needsQuotes) :
    (∀ vs ws, OfTexts PlainText (.list vs) → OfTexts PlainText (.list ws) →
      (renderLiteral (.list vs) t = renderLiteral (.list ws) t ↔ vs = ws)) ∧
    ∀ vs, OfAnyTexts (.list vs) →
      ((∀ ws, OfAnyTexts (.list ws) → renderLiteral (.list ws) t = renderLiteral (.list vs) t → ws = vs) ↔
        ∃ c, vs = [.text c] ∧ LoneText c) := by
  have same (vs ws : List Value) :
      renderLiteral (.list vs) t = renderLiteral (.list ws) t ↔ innerChars vs = innerChars ws := by
    rw [renderLiteral_eq_iff quoted, elementChars_list_inj]
  constructor
  · intro vs ws made made'
    rw [renderLiteral_eq_iff quoted]
    constructor
    · intro chars
      exact (Value.list.inj (elementChars_inj made made' chars))
    · rintro rfl
      rfl
  · intro vs made
    simp only [same, ofTexts_list]
    constructor
    · intro told
      have lone := told [.text (String.ofList (innerChars vs))] (by simp [OfTexts.text]) (innerChars_lone vs)
      refine ⟨_, lone.symm, loneText_of_told ?_⟩
      intro ws made chars
      rw [lone]
      exact told ws made (by rw [chars, String.toList_ofList])
    · rintro ⟨c, rfl, lone⟩ ws made chars
      exact lone.eq_singleton made (by simpa [innerChars, laterChars, elementChars_text] using chars)

/-- Two elements with a null, an array in an array, and one text. -/
theorem arrays_told_other :
    (renderLiteral (.list [.text "a", .null]) .other = renderLiteral (.list [.list [.text "a"], .null]) .other
      ↔ [Value.text "a", .null] = [.list [.text "a"], .null]) ∧
    ((∀ ws, OfAnyTexts (.list ws) →
        renderLiteral (.list ws) .other = renderLiteral (.list [.text "a"]) .other → ws = [.text "a"]) ↔
      ∃ c, [Value.text "a"] = [.text c] ∧ LoneText c) := by
  have letter : "a".toList = ['a'] := rfl
  have plain : PlainText "a" := ⟨by decide, by decide, by simp [letter, isArrayMark]⟩
  have flat : OfTexts PlainText (.list [.text "a", .null]) := by
    simp [ofTexts_list, OfTexts.null, OfTexts.text plain]
  have nested : OfTexts PlainText (.list [.list [.text "a"], .null]) := by
    simp [ofTexts_list, OfTexts.null, OfTexts.text plain]
  have lone : OfAnyTexts (.list [.text "a"]) := by simp [ofTexts_list, OfTexts.text]
  have quoted : SqlType.other.needsQuotes := rfl
  exact ⟨(arrays_told quoted).1 _ _ flat nested, (arrays_told quoted).2 _ lone⟩

/-- A comma in a text, an empty text, a text `None` and braces are not told from the writing of the array. -/
theorem arrays_confused :
    ([Value.text "a,b"] ≠ [.text "a", .text "b"] ∧
      renderLiteral (.list [.text "a,b"]) .other = .ok "'\x7ba,b\x7d'" ∧
      renderLiteral (.list [.text "a", .text "b"]) .other = .ok "'\x7ba,b\x7d'") ∧
    ([Value.text ""] ≠ [] ∧
      renderLiteral (.list [.text ""]) .other = .ok "'\x7b\x7d'" ∧
      renderLiteral (.list []) .other = .ok "'\x7b\x7d'") ∧
    ([Value.text "None"] ≠ [.null] ∧
      renderLiteral (.list [.text "None"]) .other = .ok "'\x7bNone\x7d'" ∧
      renderLiteral (.list [.null]) .other = .ok "'\x7bNone\x7d'") ∧
    ([Value.text "\x7ba\x7d"] ≠ [.list [.text "a"]] ∧
      renderLiteral (.list [.text "\x7ba\x7d"]) .other = .ok "'\x7b\x7ba\x7d\x7d'" ∧
      renderLiteral (.list [.list [.text "a"]]) .other = .ok "'\x7b\x7ba\x7d\x7d'") := by
  refine ⟨⟨by simp, ?_⟩, ⟨by simp, ?_⟩, ⟨by simp, ?_⟩, by simp, ?_⟩ <;> decide +kernel

end IndexAdvisor.Sql
