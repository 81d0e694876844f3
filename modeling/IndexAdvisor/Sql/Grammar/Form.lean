import IndexAdvisor.Sql.Grammar.Call

/-! # Reading forms of SQL/XML and SQL/JSON

Forms that look like calls but tell their operands apart by words. A form is kept as its parts,
with the words as they are printed.
-/

namespace IndexAdvisor.Sql.Grammar

open Parse

/-! ## Parts -/

/-- An operand that the form is an operation on. -/
def directOperand (g : Nested) : Parse Part := return .operand true (← g.any)

/-- An operand that belongs to a part of the form. -/
def innerOperand (g : Nested) : Parse Part := return .operand false (← g.any)

/-- Parts that follow a word, if the word is next. -/
def after? (w : String) (parts : Parse (List Part)) : Parse (List Part) := do
  if ← word? w then parts else return []

/-- The words of the one of several phrases that is next, nothing if none is. The first words of
    the phrases differ. -/
def phraseOf? (phrases : List (String × List String)) : Parse (Option String) := do
  match ← peek with
  | .keyword w _ =>
    match phrases.lookup w with
    | some rest =>
      advance
      rest.forM fun v => word v
      return some (" ".intercalate (w :: rest))
    | none => return none
  | _ => return none

/-! ## SQL/XML -/

def documentOrContent : Parse String := oneOf ["document", "content"]

def labelledOperand (g : Nested) : Parse Part := do
  let value ← innerOperand g
  if ← word? "as" then return .group [value, .words " AS ", .name (← label)] else return value

def xmlElement (g : Nested) : Parse (List Part) := inParentheses do
  word "name"
  let name ← label
  let attributes : Parse Part := do
    word "xmlattributes"
    let items ← inParentheses (commaList (labelledOperand g))
    return .group [.words "xmlattributes(", .list items, .words ")"]
  let first ← if ← symbol? "," then do
      if isWord "xmlattributes" (← peek) then pure [← attributes] else commaList (directOperand g)
    else pure []
  let more ← match first with
    | [.group _] => if ← symbol? "," then commaList (directOperand g) else pure []
    | _ => pure []
  let items := .group [.words "name ", .name name] :: first ++ more
  return [.words "xmlelement(", .list items, .words ")"]

def xmlParse (g : Nested) : Parse (List Part) := inParentheses do
  let kind ← documentOrContent
  let value ← directOperand g
  let blanks ← phraseOf? [("preserve", ["whitespace"]), ("strip", ["whitespace"])]
  let kept := if blanks = some "preserve whitespace" then " preserve whitespace" else ""
  return [.words s!"xmlparse({kind} ", value, .words s!"{kept})"]

def xmlInstruction (g : Nested) : Parse (List Part) := inParentheses do
  word "name"
  let name ← label
  let content ← if ← symbol? "," then do pure [Part.words ", ", ← directOperand g] else pure []
  return [.words "xmlpi(name ", .name name] ++ content ++ [.words ")"]

def xmlRoot (g : Nested) : Parse (List Part) := inParentheses do
  let value ← directOperand g
  symbol ","
  word "version"
  let version ← match ← phraseOf? [("no", ["value"])] with
    | some text => pure (Part.words text)
    | none => directOperand g
  let standalone ← if ← symbol? "," then do
      word "standalone"
      if ← word? "yes" then pure ", standalone yes"
      else do
        word "no"
        if ← word? "value" then pure ", standalone no value" else pure ", standalone no"
    else pure ""
  return [.words "xmlroot(", value, .words ", version ", version, .words s!"{standalone})"]

def xmlSerialize (g : Nested) : Parse (List Part) := inParentheses do
  let kind ← documentOrContent
  let value ← directOperand g
  word "as"
  let type ← typeName g
  let indent ← if ← word? "indent" then pure " INDENT" else do
    let _ ← phraseOf? [("no", ["indent"])]
    pure ""
  return [.words s!"xmlserialize({kind} ", value, .words " AS ", .type type, .words s!"{indent})"]

/-- How the value of an XML form is passed, if it is said. -/
def passedBy? : Parse Unit := do
  if ← word? "by" then
    let _ ← oneOf ["ref", "value"]

def atom (g : Nested) : Parse Expr := g.expr Precedence.atom false

/-- The value that an XML form is passed. -/
def passed (g : Nested) : Parse Expr := do
  word "passing"
  passedBy?
  let document ← atom g
  passedBy?
  return document

def xmlExists (g : Nested) : Parse Expr := inParentheses do
  let path ← atom g
  return systemCall "xmlexists" [path, ← passed g]

/-! ## SQL/JSON -/

def jsonEncodings : List String := ["utf8", "utf16", "utf32"]

def jsonFormat? : Parse (List Part) := do
  if isJoined "format" (← peek) then
    advance
    word "json"
    if ← word? "encoding" then
      let place := (← next).start
      let name ← columnName
      unless jsonEncodings.contains name.toLower do
        impossible (.refused s!"unrecognized JSON encoding: {name}") place
      return [.words (" FORMAT JSON ENCODING " ++ name.toUpper)]
    else return [.words " FORMAT JSON"]
  else return []

def jsonValue (g : Nested) : Parse Part := do
  let value ← innerOperand g
  return .group (value :: (← jsonFormat?))

def jsonReturning? (g : Nested) : Parse (List Part) := after? "returning" do
  let type ← typeName g
  return [.words " RETURNING ", .type type] ++ (← jsonFormat?)

/-- What is done about nulls, if it is said; the given word is what is done otherwise. -/
def jsonNulls? (otherwise : String) : Parse (List Part) := do
  match ← phraseOf? [("null", ["on", "null"]), ("absent", ["on", "null"])] with
  | some text => return if text.startsWith otherwise then [] else [.words (" " ++ text.toUpper)]
  | none => return []

def jsonUnique? : Parse (List Part) := do
  let lexeme ← peek
  if (isWord "with" lexeme || isWord "without" lexeme) && isWord "unique" (← peekSecond) then
    advance
    advance
    let _ ← word? "keys"
    return if isWord "with" lexeme then [.words " WITH UNIQUE"] else []
  else return []

/-- The rest of an entry of a JSON object, after its key. -/
def jsonEntryOf (g : Nested) (key : Expr) : Parse Part := do
  if !(← word? "value") then symbol ":"
  return .group [.operand false key, .words ": ", ← jsonValue g]

def jsonEntry (g : Nested) : Parse Part := do jsonEntryOf g (← g.any)

/-- `JSON_OBJECT` after its keyword: the form, or a call of the function. -/
def jsonObject (g : Nested) : Parse Expr := inParentheses do
  let lexeme ← peek
  let ahead ← peekSecond
  if isSymbol ")" lexeme || isWord "returning" lexeme then
    return .form ([.words "json_object("] ++ (← jsonReturning? g) ++ [.words ")"])
  else
    let byName := isSymbol ":=" ahead || isSymbol "=>" ahead
    let first ← argument g
    if !byName && (isSymbol ":" (← peek) || isWord "value" (← peek)) then
      let entry ← jsonEntryOf g first
      let more ← repeated (fun (found : List Part) => do
        if ← symbol? "," then return some ((← jsonEntry g) :: found) else return none) []
      let nulls ← jsonNulls? "null"
      let unique ← jsonUnique?
      return .form ([.words "json_object(", .list (entry :: more.reverse)] ++ nulls ++ unique
        ++ (← jsonReturning? g) ++ [.words ")"])
    else
      let more ← repeated (fun (found : List Expr) => do
        if ← symbol? "," then return some ((← argument g) :: found) else return none) []
      return systemCall "json_object" (first :: more.reverse)

def jsonArray (g : Nested) : Parse (List Part) := inParentheses do
  let lexeme ← peek
  if isSymbol ")" lexeme || isWord "returning" lexeme then
    return [.words "json_array("] ++ (← jsonReturning? g) ++ [.words ")"]
  else if ← queryAhead then
    let query ← g.query
    let format ← jsonFormat?
    return [.words "json_array(", .query query] ++ format ++ (← jsonReturning? g)
      ++ [.words ")"]
  else
    let items ← commaList (jsonValue g)
    let nulls ← jsonNulls? "absent"
    return [.words "json_array(", .list items] ++ nulls ++ (← jsonReturning? g) ++ [.words ")"]

def jsonScalar (g : Nested) : Parse (List Part) := inParentheses do
  return [.words "json_scalar(", ← directOperand g, .words ")"]

def jsonSerialize (g : Nested) : Parse (List Part) := inParentheses do
  let value ← jsonValue g
  return [.words "json_serialize(", value] ++ (← jsonReturning? g) ++ [.words ")"]

def jsonParse (g : Nested) : Parse (List Part) := inParentheses do
  let value ← jsonValue g
  return [.words "json(", value] ++ (← jsonUnique?) ++ [.words ")"]

def jsonPassing? (g : Nested) : Parse (List Part) := after? "passing" do
  let items ← commaList do
    let value ← jsonValue g
    word "as"
    return .group [value, .words " AS ", .name (← label)]
  return [.words " PASSING ", .list items]

def jsonWrapper? : Parse (List Part) := do
  match ← oneOf? ["with", "without"] with
  | none => return []
  | some "with" =>
    let condition ← oneOf? ["conditional", "unconditional"]
    let _ ← word? "array"
    word "wrapper"
    return [.words (" WITH " ++ (condition.getD "unconditional").toUpper ++ " WRAPPER")]
  | some _ =>
    let _ ← word? "array"
    word "wrapper"
    return [.words " WITHOUT WRAPPER"]

def jsonQuotes? : Parse (List Part) := do
  match ← oneOf? ["keep", "omit"] with
  | none => return []
  | some w =>
    word "quotes"
    let _ ← phraseOf? [("on", ["scalar", "string"])]
    return [.words (" " ++ w.toUpper ++ " QUOTES")]

/-- What is done in one case, before `ON`. -/
def jsonBehavior? (g : Nested) : Parse (Option (List Part)) := do
  if ← word? "default" then
    return some [.words " DEFAULT ", ← innerOperand g]
  else if ← word? "empty" then
    let kind ← oneOf? ["array", "object"]
    return some [.words (" EMPTY " ++ (kind.getD "array").toUpper)]
  else
    match ← oneOf? ["error", "null", "true", "false", "unknown"] with
    | some w => return some [.words (" " ++ w.toUpper)]
    | none => return none

/-- What is done about an empty result and about an error, if it is said. -/
def jsonBehaviors? (g : Nested) (cases : List String) : Parse (List Part) := do
  match ← jsonBehavior? g with
  | none => return []
  | some first =>
    word "on"
    let kind ← oneOf cases
    let found := first ++ [.words (" ON " ++ kind.toUpper)]
    if kind = "error" then return found
    else
      match ← jsonBehavior? g with
      | none => return found
      | some second =>
        word "on"
        word "error"
        return found ++ second ++ [.words " ON ERROR"]

def jsonPlace (g : Nested) : Parse (List Part) := do
  let value ← jsonValue g
  symbol ","
  let path ← innerOperand g
  return [value, .words ", ", path] ++ (← jsonPassing? g)

def jsonExists (g : Nested) : Parse (List Part) := inParentheses do
  let place ← jsonPlace g
  return [.words "json_exists("] ++ place ++ (← jsonBehaviors? g ["error"]) ++ [.words ")"]

def jsonQuery (g : Nested) : Parse (List Part) := inParentheses do
  let place ← jsonPlace g
  let returning ← jsonReturning? g
  let wrapper ← jsonWrapper?
  let quotes ← jsonQuotes?
  return [.words "json_query("] ++ place ++ returning ++ wrapper ++ quotes
    ++ (← jsonBehaviors? g ["empty", "error"]) ++ [.words ")"]

def jsonScalarAt (g : Nested) : Parse (List Part) := inParentheses do
  let place ← jsonPlace g
  let returning ← jsonReturning? g
  return [.words "json_value("] ++ place ++ returning
    ++ (← jsonBehaviors? g ["empty", "error"]) ++ [.words ")"]

def aggregateOptions (g : Nested) : Parse (List Part) := do
  let filter ← match ← filter? g with
    | some condition =>
      pure [Part.words " FILTER (WHERE ", .operand false condition, .words ")"]
    | none => pure []
  return filter ++ [.window (← over? g)]

def jsonObjectAggregate (g : Nested) : Parse (List Part) := do
  let inner ← inParentheses do
    let entry ← jsonEntry g
    let nulls ← jsonNulls? "null"
    let unique ← jsonUnique?
    return [entry] ++ nulls ++ unique ++ (← jsonReturning? g)
  return [.words "json_objectagg("] ++ inner ++ [.words ")"] ++ (← aggregateOptions g)

def jsonArrayAggregate (g : Nested) : Parse (List Part) := do
  let inner ← inParentheses do
    let value ← jsonValue g
    let order ← sortKeys? g
    let sorted := if order.isEmpty then [] else [Part.words " ORDER BY ", .order order]
    let nulls ← jsonNulls? "absent"
    return [value] ++ sorted ++ nulls ++ (← jsonReturning? g)
  return [.words "json_arrayagg("] ++ inner ++ [.words ")"] ++ (← aggregateOptions g)

def jsonTest (left : Expr) : Parse Expr := do
  let kind ← oneOf? ["value", "array", "object", "scalar"]
  let unique ← jsonUnique?
  let words := match kind with
    | some "value" | none => " IS JSON"
    | some w => " IS JSON " ++ w.toUpper
  return .form ([.operand true left, .words words] ++ unique)

/-! ## Forms by their keywords -/

/-- The forms that keywords before an opening parenthesis stand for. -/
def formOf? (g : Nested) (w : String) : Option (Parse Expr) :=
  let form (parts : Parse (List Part)) : Option (Parse Expr) := some do return .form (← parts)
  let listed (name : String) (item : Parse Part) : Option (Parse Expr) := form do
    let items ← inParentheses (commaList item)
    return [.words (name ++ "("), .list items, .words ")"]
  match w with
  | "xmlelement" => form (xmlElement g)
  | "xmlconcat" => listed "xmlconcat" (directOperand g)
  | "xmlforest" => listed "xmlforest" (labelledOperand g)
  | "xmlparse" => form (xmlParse g)
  | "xmlpi" => form (xmlInstruction g)
  | "xmlroot" => form (xmlRoot g)
  | "xmlserialize" => form (xmlSerialize g)
  | "xmlexists" => some (xmlExists g)
  | "json_object" => some (jsonObject g)
  | "json_array" => form (jsonArray g)
  | "json_scalar" => form (jsonScalar g)
  | "json_serialize" => form (jsonSerialize g)
  | "json" => form (jsonParse g)
  | "json_exists" => form (jsonExists g)
  | "json_query" => form (jsonQuery g)
  | "json_value" => form (jsonScalarAt g)
  | "json_objectagg" => form (jsonObjectAggregate g)
  | "json_arrayagg" => form (jsonArrayAggregate g)
  | "merge_action" => form do
    symbol "("
    symbol ")"
    return [.words "merge_action()"]
  | _ => none

end IndexAdvisor.Sql.Grammar
