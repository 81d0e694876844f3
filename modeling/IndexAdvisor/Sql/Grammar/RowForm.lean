import IndexAdvisor.Sql.Grammar.Value

/-! # Reading forms that make rows

`XMLTABLE` and `JSON_TABLE`, which stand in `FROM` and say the columns of their rows.
-/

namespace IndexAdvisor.Sql.Grammar

open Parse

/-! ## `XMLTABLE` -/

structure XmlColumnOption where
  /-- What the option says; both words about nulls say the same kind of thing. -/
  kind : String
  place : Nat
  parts : List Part

/-- An option of a column of `XMLTABLE`, if one is next. Any name is read as one. -/
def xmlColumnOption? (g : Nested) : Parse (Option XmlColumnOption) := do
  let operand : Parse Part := return .operand false (← g.operand Precedence.lowest)
  let place := (← next).start
  match ← phraseOf? [("not", ["null"]), ("null", [])] with
  | some text => return some ⟨"null", place, if text = "null" then [] else [.words " NOT NULL"]⟩
  | none =>
    match ← oneOf? ["default", "path"] with
    | some w => return some ⟨w, place, [.words (" " ++ w.toUpper ++ " "), ← operand]⟩
    | none =>
      match ← peek with
      | .identifier name =>
        advance
        return some ⟨name, place, [← operand]⟩
      | _ => return none

/-- What is wrong with an option of a column, given the kinds of the ones before it. -/
def xmlOptionFault? (column : String) (before : List String) (kind : String) : Option String :=
  let again := before.contains kind
  match kind with
  | "default" => if again then some "only one DEFAULT value is allowed" else none
  | "path" => if again then some "only one PATH value per column is allowed" else none
  | "null" =>
    if again then
      some s!"conflicting or redundant NULL / NOT NULL declarations for column \"{column}\""
    else none
  | kind => some s!"unrecognized column option \"{kind}\""

def checkXmlOptions (column : String) : List String → List XmlColumnOption → Parse Unit
  | _, [] => return
  | before, option :: rest => do
    match xmlOptionFault? column before option.kind with
    | some words => impossible (.refused words) option.place
    | none => checkXmlOptions column (option.kind :: before) rest

def xmlColumn (g : Nested) : Parse Part := do
  let name ← columnName
  if (← phraseOf? [("for", ["ordinality"])]).isSome then
    return .group [.name name, .words " FOR ORDINALITY"]
  else
    let type ← typeName g
    let options ← repeated (fun (found : List XmlColumnOption) => do
      match ← xmlColumnOption? g with
      | some option => return some (option :: found)
      | none => return none) []
    checkXmlOptions name [] options.reverse
    return .group ([.name name, .words " ", .type type] ++ options.reverse.flatMap (·.parts))

def xmlNamespaces? (g : Nested) : Parse (List Part) := do
  if ← word? "xmlnamespaces" then
    let items ← inParentheses (commaList do
      let standard ← word? "default"
      let value := Part.operand false (← g.operand Precedence.lowest)
      if standard then return Part.group [.words "DEFAULT ", value]
      else
        word "as"
        return Part.group [value, .words " AS ", .name (← label)])
    symbol ","
    return [.words "xmlnamespaces(", .list items, .words "), "]
  else return []

def xmlTable (g : Nested) : Parse (List Part) := inParentheses do
  let spaces ← xmlNamespaces? g
  let path ← atom g
  let document ← passed g
  word "columns"
  let columns ← commaList (xmlColumn g)
  return [.words "xmltable("] ++ spaces ++ [.operand false path, .words " PASSING ",
    .operand false document, .words " COLUMNS ", .list columns, .words ")"]

/-! ## `JSON_TABLE` -/

def textPart : Parse Part := do
  match ← peek with
  | .text content => advance; return .operand false (.constant (.text content))
  | _ => unexpected

def jsonPath? : Parse (List Part) := after? "path" do return [.words " PATH ", ← textPart]

def jsonTypedColumn (g : Nested) (name : String) : Parse Part := do
  let type ← typeName g
  let head := [Part.name name, .words " ", .type type]
  if ← word? "exists" then
    let path ← jsonPath?
    return .group (head ++ [.words " EXISTS"] ++ path ++ (← jsonBehaviors? g ["error"]))
  else
    let format ← jsonFormat?
    let path ← jsonPath?
    let wrapper ← jsonWrapper?
    let quotes ← jsonQuotes?
    return .group (head ++ format ++ path ++ wrapper ++ quotes
      ++ (← jsonBehaviors? g ["empty", "error"]))

/-- The columns of `JSON_TABLE`, in parentheses; columns inside columns are at most `fuel` deep. -/
def jsonColumns (g : Nested) : Nat → Parse (List Part)
  | 0 => unexpected
  | fuel + 1 => inParentheses do
    let nested : Parse Part := do
      advance
      let _ ← word? "path"
      let path ← textPart
      let name ← after? "as" do return [.words " AS ", .name (← columnName)]
      word "columns"
      return .group ([.words "NESTED PATH ", path] ++ name ++ [.words " COLUMNS "]
        ++ (← jsonColumns g fuel))
    let items ← commaList do
      let ahead ← peekSecond
      let isNested := match ahead with
        | .text _ => true
        | _ => isWord "path" ahead
      if isWord "nested" (← peek) && isNested then nested
      else
        let name ← columnName
        if (← phraseOf? [("for", ["ordinality"])]).isSome then
          return .group [.name name, .words " FOR ORDINALITY"]
        else jsonTypedColumn g name
    return [.words "(", .list items, .words ")"]

def jsonTable (g : Nested) : Parse (List Part) := do
  symbol "("
  let value ← jsonValue g
  symbol ","
  let place := (← next).start
  let path ← g.any
  let name ← after? "as" do return [.words " AS ", .name (← columnName)]
  let passing ← jsonPassing? g
  word "columns"
  let columns ← jsonColumns g (← get).length
  let behaviors ← jsonBehaviors? g ["error"]
  symbol ")"
  unless path matches .constant (.text _) do
    impossible (.refused "only string constants are supported in JSON_TABLE path specification")
      place
  return [.words "json_table(", value, .words ", ", .operand false path] ++ name ++ passing
    ++ [.words " COLUMNS "] ++ columns ++ behaviors ++ [.words ")"]

def rowsForm (g : Nested) : Parse (List Part) := do
  if (← oneOf ["xmltable", "json_table"]) = "xmltable" then xmlTable g else jsonTable g

end IndexAdvisor.Sql.Grammar
