import IndexAdvisor.Proofs.Batch.Closing

/-! # Reading scripts

A driver reads a script line by line, and the type codes and literals of parameters between bars. The query
and the literals are written as they are, so the driver finds them again exactly if the query is on one
line and no literal has a new line or a bar.
-/

namespace IndexAdvisor

open Number
open Sql (SqlType)

namespace Replay

/-! ## Parts of texts -/

/-- The parts of a text between its separators. -/
def partsAt (separator : Char) (text : String) : List String :=
  (text.toList.splitOn separator).map String.ofList

theorem of_mem_splitOn {separator : Char} {cs part : List Char} (mem : part ∈ cs.splitOn separator) :
    separator ∉ part ∧ part ⊆ cs := by
  induction cs generalizing part with
  | nil =>
      obtain rfl : part = [] := by simpa using mem
      exact ⟨List.not_mem_nil, List.Subset.refl _⟩
  | cons c cs ih =>
      rw [List.splitOn_cons_eq_if_modifyHead] at mem
      split at mem
      · rcases List.mem_cons.mp mem with rfl | later
        · exact ⟨List.not_mem_nil, List.nil_subset _⟩
        · exact ⟨(ih later).1, List.subset_cons_of_subset c (ih later).2⟩
      · next other =>
          -- the character is put before the first part of what follows
          obtain ⟨first, rest, split⟩ := List.exists_cons_of_ne_nil (List.splitOn_ne_nil separator cs)
          rw [split] at ih mem
          rcases List.mem_cons.mp mem with rfl | later
          · obtain ⟨without, within⟩ := ih List.mem_cons_self
            refine ⟨fun here => ?_, List.cons_subset_cons c within⟩
            rcases List.mem_cons.mp here with rfl | here
            · exact other (beq_self_eq_true _)
            · exact without here
          · obtain ⟨without, within⟩ := ih (List.mem_cons_of_mem first later)
            exact ⟨without, List.subset_cons_of_subset c within⟩

theorem of_mem_partsAt {separator : Char} {text part : String} (mem : part ∈ partsAt separator text) :
    separator ∉ part.toList ∧ part.toList ⊆ text.toList := by
  obtain ⟨cs, listed, rfl⟩ := List.mem_map.mp mem
  rw [String.toList_ofList]
  exact of_mem_splitOn listed

/-- The lines of a file are what comes before its new lines. -/
theorem partsAt_fileText {lines : List String} (single : ∀ line ∈ lines, '\n' ∉ line.toList) :
    partsAt '\n' (fileText lines) = lines ++ [""] := by
  induction lines with
  | nil => rfl
  | cons line lines ih =>
      obtain ⟨first, others⟩ := List.forall_mem_cons.mp single
      have text : (fileText (line :: lines)).toList = line.toList ++ '\n' :: (fileText lines).toList := by
        simp [fileText]
      rw [partsAt, text, List.splitOn_append_cons_self_of_not_mem first, List.map_cons, String.ofList_toList,
        ← partsAt, ih others, List.cons_append]

/-- What a line lists between bars. If there is nothing to list, it is empty. -/
def Lists (line : String) (items : List String) : Prop :=
  if items = [] then line = "" else partsAt '|' line = items

theorem lists_intercalate {items : List String} (without : ∀ item ∈ items, '|' ∉ item.toList) :
    Lists ("|".intercalate items) items := by
  rw [Lists]
  split
  · next none => rw [none, String.intercalate_nil]
  · next some =>
      have letters : ∀ item ∈ items.map String.toList, '|' ∉ item := List.forall_mem_map.mpr without
      have bar : "|".toList = ['|'] := rfl
      rw [partsAt, String.toList_intercalate, bar,
        List.splitOn_intercalate '|' letters (mt List.map_eq_nil_iff.mp some), List.map_map]
      exact (List.map_congr_left fun item _ => String.ofList_toList).trans (List.map_id _)

theorem Lists.of_mem {line item : String} {items : List String} (lists : Lists line items)
    (mem : item ∈ items) :
    '|' ∉ item.toList ∧ item.toList ⊆ line.toList := by
  rw [Lists, if_neg (List.ne_nil_of_mem mem)] at lists
  exact of_mem_partsAt (lists ▸ mem)

theorem mem_intercalate {c : Char} {separator : String} {items : List String}
    (mem : c ∈ (separator.intercalate items).toList) :
    c ∈ separator.toList ∨ ∃ item ∈ items, c ∈ item.toList := by
  induction items with
  | nil => simp at mem
  | cons first rest ih =>
      cases rest with
      | nil => exact .inr ⟨first, List.mem_cons_self, by simpa using mem⟩
      | cons next rest =>
          rw [String.intercalate_cons_cons, String.toList_append, String.toList_append, List.mem_append,
            List.mem_append] at mem
          rcases mem with (here | between) | later
          · exact .inr ⟨first, List.mem_cons_self, here⟩
          · exact .inl between
          · obtain between | ⟨item, mem, here⟩ := ih later
            · exact .inl between
            · exact .inr ⟨item, List.mem_cons_of_mem first mem, here⟩

/-! ## Literals without quotes -/

/-- What is left of a literal when the quotes around it are taken away, if it has them. -/
inductive Unquotes : String → String → Prop
  | quoted (text : String) : Unquotes ("'" ++ text ++ "'") text
  | bare {literal : String} : (∀ text, literal ≠ "'" ++ text ++ "'") → Unquotes literal literal

theorem toList_quoted (text : String) : ("'" ++ text ++ "'").toList = '\'' :: (text.toList ++ ['\'']) := by
  simp

theorem exists_quoted {cs : List Char} (long : 2 ≤ cs.length) (first : cs.head? = some '\'')
    (last : cs.getLast? = some '\'') : ∃ inner, cs = '\'' :: (inner ++ ['\'']) := by
  obtain ⟨rest, rfl⟩ := List.head?_eq_some_iff.mp first
  rcases List.eq_nil_or_concat rest with rfl | ⟨inner, c, rfl⟩
  · exact absurd long (by decide)
  · rw [List.concat_eq_append, ← List.cons_append, List.getLast?_concat] at last
    obtain rfl := Option.some.inj last
    exact ⟨inner, by rw [List.concat_eq_append]⟩

theorem unquotes_stripQuotes (literal : String) : Unquotes literal (stripQuotes literal) := by
  rw [stripQuotes]
  split
  · next quotes =>
      obtain ⟨inner, letters⟩ := exists_quoted quotes.1 quotes.2.1 quotes.2.2
      obtain rfl : literal = "'" ++ String.ofList inner ++ "'" := by
        rw [← String.toList_inj, toList_quoted, String.toList_ofList, letters]
      rw [letters, List.drop_one, List.tail_cons, List.dropLast_concat]
      exact .quoted _
  · next bare =>
      refine .bare fun text same => bare ?_
      rw [same, toList_quoted]
      exact ⟨by simp, rfl, by rw [← List.cons_append, List.getLast?_concat]⟩

theorem Unquotes.mem_iff {literal text : String} (unquotes : Unquotes literal text) {c : Char}
    (other : c ≠ '\'') :
    c ∈ text.toList ↔ c ∈ literal.toList := by
  cases unquotes with
  | quoted => simp [other]
  | bare => exact Iff.rfl

theorem mem_stripQuotes {literal : String} {c : Char} (other : c ≠ '\'') :
    c ∈ (stripQuotes literal).toList ↔ c ∈ literal.toList :=
  (unquotes_stripQuotes literal).mem_iff other

/-! ## What a driver finds -/

/-- The numbers of the types of parameters, as they are written. -/
def codes (parameters : List (SqlType × String)) : List String :=
  parameters.map fun parameter => toString parameter.1.code

/-- The lines of a script with its query and the type codes and bare literals of its parameters. -/
structure Holds (lines : List String) (query : String) (parameters : List (SqlType × String)) : Prop where
  count : lines.length = 15
  query : lines[8]? = some query
  types : ∃ line, lines[9]? = some line ∧ Lists line (codes parameters)
  values : ∃ line texts, lines[10]? = some line ∧ Lists line texts ∧
    List.Forall₂ Unquotes (parameters.map (·.2)) texts

/-- A driver that reads the script line by line finds a query and its parameters. -/
def Script.Tells (script : Script) (query : String) (parameters : List (SqlType × String)) : Prop :=
  ∃ lines, partsAt '\n' script.content = lines ++ [""] ∧ Holds lines query parameters

/-- A query and literals that are written into lines and between bars as they are. -/
structure Plain (query : String) (parameters : List (SqlType × String)) : Prop where
  query : '\n' ∉ query.toList
  line : ∀ parameter ∈ parameters, '\n' ∉ parameter.2.toList
  bar : ∀ parameter ∈ parameters, '|' ∉ parameter.2.toList

theorem Script.Tells.plain {script : Script} {query : String} {parameters : List (SqlType × String)}
    (tells : script.Tells query parameters) : Plain query parameters := by
  obtain ⟨lines, parts, -, told, -, line, texts, values, lists, unquoted⟩ := tells
  -- What was read lies in one line, and each text of the eleventh in one part of it.
  have single {line : String} {n : Nat} (found : lines[n]? = some line) : '\n' ∉ line.toList := by
    have mem : line ∈ partsAt '\n' script.content :=
      parts ▸ List.mem_append_left _ (List.mem_of_getElem? found)
    exact (of_mem_partsAt mem).1
  have bare : ∀ parameter ∈ parameters, ∃ text ∈ texts, Unquotes parameter.2 text := by
    rw [List.forall₂_map_left_iff] at unquoted
    intro parameter mem
    obtain ⟨n, bound, rfl⟩ := List.mem_iff_getElem.mp mem
    have bound' : n < texts.length := unquoted.length_eq ▸ bound
    exact ⟨texts[n], List.getElem_mem bound', unquoted.get bound bound'⟩
  refine ⟨single told, fun parameter mem here => ?_, fun parameter mem here => ?_⟩
  · obtain ⟨text, listed, unquotes⟩ := bare parameter mem
    exact single values ((lists.of_mem listed).2 ((unquotes.mem_iff (by decide)).mpr here))
  · obtain ⟨text, listed, unquotes⟩ := bare parameter mem
    exact (lists.of_mem listed).1 ((unquotes.mem_iff (by decide)).mpr here)

/-! ## The lines of a script -/

theorem scriptLines_eq (id query : String) (parameters : List (SqlType × String)) :
    scriptLines id query (parameters.map (·.1.code)) (parameters.map (·.2)) =
      ["#", "# " ++ id, "#", "P", "BEGIN", "", "", "P", query,
        "|".intercalate (codes parameters),
        "|".intercalate (parameters.map fun parameter => stripQuotes parameter.2),
        "P", ((kindOf? id).map Kind.closing).getD "ROLLBACK", "", ""] := by
  -- Nothing joined is the empty line that stands where there are no parameters.
  cases parameters with
  | nil => rfl
  | cons first rest => simp [scriptLines, codes, Function.comp_def]

theorem plain_code (type : SqlType) :
    '\n' ∉ (toString type.code).toList ∧ '|' ∉ (toString type.code).toList := by
  cases type <;> decide

theorem newline_not_mem_closing (id : String) :
    '\n' ∉ (((kindOf? id).map Kind.closing).getD "ROLLBACK").toList := by
  cases found : kindOf? id with
  | none => decide
  | some kind => exact closing_line kind (kindOf?_eq_some_iff.mp found).1

theorem newline_not_mem_intercalate {items : List String} (single : ∀ item ∈ items, '\n' ∉ item.toList) :
    '\n' ∉ ("|".intercalate items).toList := by
  intro mem
  obtain between | ⟨item, listed, here⟩ := mem_intercalate mem
  · exact absurd between (by decide)
  · exact single item listed here

theorem Plain.single {id query : String} {parameters : List (SqlType × String)}
    (plain : Plain query parameters) (named : '\n' ∉ id.toList) :
    ∀ line ∈ scriptLines id query (parameters.map (·.1.code)) (parameters.map (·.2)), '\n' ∉ line.toList := by
  have title : '\n' ∉ ("# " ++ id).toList := by simpa using named
  have types : '\n' ∉ ("|".intercalate (codes parameters)).toList :=
    newline_not_mem_intercalate (List.forall_mem_map.mpr fun parameter _ => (plain_code parameter.1).1)
  have bare : ∀ parameter ∈ parameters, '\n' ∉ (stripQuotes parameter.2).toList := by
    intro parameter mem here
    exact plain.line parameter mem ((mem_stripQuotes (by decide)).mp here)
  have values := newline_not_mem_intercalate (List.forall_mem_map.mpr bare)
  have closing := newline_not_mem_closing id
  rw [scriptLines_eq]
  simp only [List.forall_mem_cons]
  exact ⟨by decide, title, by decide, by decide, by decide, by decide, by decide, by decide, plain.query,
    types, values, by decide, closing, by decide, by decide, List.forall_mem_nil _⟩

theorem Plain.holds {query : String} {parameters : List (SqlType × String)} (plain : Plain query parameters)
    (id : String) :
    Holds (scriptLines id query (parameters.map (·.1.code)) (parameters.map (·.2))) query parameters := by
  have bare : ∀ parameter ∈ parameters, '|' ∉ (stripQuotes parameter.2).toList := by
    intro parameter mem here
    exact plain.bar parameter mem ((mem_stripQuotes (by decide)).mp here)
  have unquoted : List.Forall₂ Unquotes (parameters.map (·.2))
      (parameters.map fun parameter => stripQuotes parameter.2) := by
    rw [List.forall₂_map_left_iff, List.forall₂_map_right_iff]
    exact List.forall₂_same.mpr fun parameter _ => unquotes_stripQuotes parameter.2
  rw [scriptLines_eq]
  refine ⟨rfl, rfl, ⟨_, rfl, ?_⟩, ⟨_, _, rfl, ?_, unquoted⟩⟩
  · exact lists_intercalate (List.forall_mem_map.mpr fun parameter _ => (plain_code parameter.1).2)
  · exact lists_intercalate (List.forall_mem_map.mpr bare)

/-- A query gets a script exactly if its id has a number and the name of the file is not too long. -/
theorem script?_eq_some_iff {folder : Path} {id query : String} {types : List Int} {values : List String}
    {script : Script} : script? folder id query types values = .ok (some script) ↔
      (∃ kind, Numbered kind id) ∧ (fileName (scriptNumber id)).utf8ByteSize ≤ Path.longestName ∧
      script = ⟨fileName (scriptNumber id), fileText (scriptLines id query types values)⟩ := by
  constructor
  · intro made
    obtain ⟨kind, numbered⟩ := (belongs_of_script? made).numbered
    rw [script?_of_numbered numbered] at made
    split at made
    · exact nomatch made
    · next text written =>
        obtain rfl := writeWhole_ok written
        split at made
        · exact nomatch made
        · next fits =>
            obtain rfl := Option.some.inj (Except.ok.inj made)
            exact ⟨⟨kind, numbered⟩, Nat.le_of_not_lt fits, rfl⟩
  · rintro ⟨⟨kind, numbered⟩, fits, rfl⟩
    rw [script?_of_numbered numbered]
    cases written : writeWhole (scriptNumber id) with
    | error cause => exact absurd (long_of_writeWhole written) (Nat.not_lt.mpr fits)
    | ok text =>
        obtain rfl := writeWhole_ok written
        exact if_neg (Nat.not_lt.mpr fits)

/-- A driver finds the query and the parameters of a script exactly if the query is on one line and no
    literal has a new line or a bar. -/
theorem script_tells_iff (folder : Path) (id query : String) (parameters : List (SqlType × String)) :
    let made := script? folder id query (parameters.map (·.1.code)) (parameters.map (·.2))
    ((∃ script, made = .ok (some script)) ↔
      (∃ kind, Numbered kind id) ∧ (fileName (scriptNumber id)).utf8ByteSize ≤ Path.longestName) ∧
    ∀ script, made = .ok (some script) → (script.Tells query parameters ↔
      '\n' ∉ query.toList ∧
      ∀ parameter ∈ parameters, '\n' ∉ parameter.2.toList ∧ '|' ∉ parameter.2.toList) := by
  refine ⟨⟨?_, ?_⟩, fun script made => ?_⟩
  · rintro ⟨script, made⟩
    obtain ⟨numbered, fits, -⟩ := script?_eq_some_iff.mp made
    exact ⟨numbered, fits⟩
  · rintro ⟨numbered, fits⟩
    exact ⟨_, script?_eq_some_iff.mpr ⟨numbered, fits, rfl⟩⟩
  · obtain ⟨⟨kind, numbered⟩, -, rfl⟩ := script?_eq_some_iff.mp made
    constructor
    · intro tells
      have plain := tells.plain
      exact ⟨plain.query, fun parameter mem => ⟨plain.line parameter mem, plain.bar parameter mem⟩⟩
    · rintro ⟨single, each⟩
      have plain : Plain query parameters :=
        ⟨single, fun parameter mem => (each parameter mem).1, fun parameter mem => (each parameter mem).2⟩
      exact ⟨_, partsAt_fileText (plain.single (newline_not_mem numbered.toNamed)), plain.holds id⟩

theorem script_tells_iff_open :
    let folder : Path := ⟨"", ["replay"]⟩
    let query := "SELECT id FROM jobs WHERE state = ? AND id = ?"
    let parameters := [(SqlType.varchar, "'open'"), (SqlType.integer, "7")]
    ∃ script, script.Tells query parameters ∧
      script? folder "query.select.001" query (parameters.map (·.1.code)) (parameters.map (·.2))
        = .ok (some script) := by
  intro folder query parameters
  have told := (script_tells_iff folder "query.select.001" query parameters).2
  let lines := scriptLines "query.select.001" query (parameters.map (·.1.code)) (parameters.map (·.2))
  have made : script? folder "query.select.001" query (parameters.map (·.1.code)) (parameters.map (·.2))
      = .ok (some ⟨"2001.cli", fileText lines⟩) := by decide +kernel
  exact ⟨_, (told _ made).mpr ⟨by decide, by decide⟩, made⟩

/-! ## Scripts that are misread -/

/-- A query is bound and gets a script in which a driver does not find it with its parameters. -/
def Misread (setting : Setting) (id query : String) : Prop :=
  ∃ parsed result bound s script, Parsed.read query = .ok parsed ∧
    Step.Gives (Step.bind setting id parsed) .start result s ∧ result.binding = .bound bound ∧
    script? Run.replayFolder id query (bound.parameters.map (·.1.code)) (bound.parameters.map (·.2))
      = .ok (some script) ∧
    ¬script.Tells query bound.parameters

theorem misread_of_any {setting : Setting} {id query : String}
    (runs : (Parsed.read query).toOption.any fun parsed =>
      ((Step.bind setting id parsed).outcome .start).1.toOption.any fun result =>
        match result.binding with
        | .unsupported _ => false
        | .bound bound =>
          (script? Run.replayFolder id query (bound.parameters.map (·.1.code))
            (bound.parameters.map (·.2))).toOption.any Option.isSome &&
          (query.toList.contains '\n' ||
            bound.parameters.any fun parameter => parameter.2.toList.contains '|')) :
    Misread setting id query := by
  obtain ⟨parsed, read, runs⟩ := Parsed.exists_of_any runs
  obtain ⟨result, s, given, runs⟩ := Step.exists_gives_of_any runs
  cases binding : result.binding with
  | unsupported reason => simp [binding] at runs
  | bound bound =>
      simp only [binding, Bool.and_eq_true, Bool.or_eq_true, List.any_eq_true, List.contains_iff_mem] at runs
      obtain ⟨scripted, apart⟩ := runs
      cases made : script? Run.replayFolder id query (bound.parameters.map (·.1.code))
          (bound.parameters.map (·.2)) with
      | error cause => simp [made, Except.toOption] at scripted
      | ok found =>
          obtain ⟨script, rfl⟩ : ∃ script, found = some script := by
            simpa [made, Except.toOption, Option.isSome_iff_exists] using scripted
          refine ⟨parsed, result, bound, s, script, read, given, binding, made, fun tells => ?_⟩
          rcases apart with newline | ⟨parameter, mem, bar⟩
          · exact tells.plain.query newline
          · exact tells.plain.bar parameter mem bar

/-- A database of jobs with labels, one of which has a bar. -/
def labelled : Setting where
  database := .ofTables [("jobs", [("label", "text")], [("label", .text "a|b")])]
  schema := "public"
  now := ⟨⟨2024, 1, 1⟩, ⟨0, 0, 0, 0, none⟩⟩

/-- A query on two lines is misread, and so is a sampled text with a bar. -/
theorem misread_scripts :
    Misread .shop "query.select.001" "SELECT id\nFROM users WHERE id = 1" ∧
      Misread labelled "query.select.001" "SELECT label FROM jobs WHERE label = ?" :=
  ⟨misread_of_any (by decide +kernel), misread_of_any (by decide +kernel)⟩

end Replay

end IndexAdvisor
