import IndexAdvisor.Sql.Grammar.Change
import IndexAdvisor.Sql.Utility.Shape

/-! # Parts of statements

The parts that many kinds of statements have in common: names, numbers, expressions, queries,
options and routines.
-/

namespace IndexAdvisor.Sql.Utility

open Parse Shape

/-! ## Names -/

def named (sort : Lexeme → Option String) : Shape :=
  .part (fun lexeme => (sort lexeme).isSome) fun _ => discard (Parse.named sort)

/-- The name of a column, a table or another thing. -/
def name : Shape := named columnName?

/-- A name where any keyword may stand. -/
def label : Shape := named label?

def typeWord : Shape := named functionName?

def freeWord? : Lexeme → Option String := nameOf? [.unreserved, .columnName, .functionName]

def freeWord : Shape := named freeWord?

def plainName : Shape := named (nameOf? [])

/-- One of several words that are names, but no keywords; any other one is refused. -/
def knownWord (words : List String) (complaint : String → String) : Shape :=
  .part (fun lexeme => (nameOf? [] lexeme).isSome) fun _ => do
    let place := (← next).start
    let found ← Parse.named (nameOf? [])
    unless words.contains found do impossible (.refused (complaint found)) place

def path : Shape := seq [name, .many (seq [".", label])]

def table : Shape :=
  .part (fun lexeme => (columnName? lexeme).isSome) fun g => discard (Grammar.tableName g)

/-- A table, perhaps without those that inherit from it. -/
def relation : Shape :=
  .part (fun lexeme => (columnName? lexeme).isSome || isWord "only" lexeme) fun g =>
    discard (Grammar.relation g)

def ownRoles : List String := ["current_role", "current_user", "session_user"]

/-- A role; what names of roles are refused depends on `isNew`. -/
def roleWhere (isNew : Bool) : Shape :=
  .part (fun lexeme => (freeWord? lexeme).isSome || ownRoles.any (isWord · lexeme)) fun _ => do
    let place := (← next).start
    match ← Parse.oneOf? ownRoles with
    | some own =>
      if isNew then
        impossible (.refused s!"{own.toUpper} cannot be used as a role name here") place
    | none =>
      let found ← Parse.named freeWord?
      if found = "none" || (isNew && found = "public") then
        impossible (.refused s!"role name \"{found}\" is reserved") place

def role : Shape := roleWhere false

def newRole : Shape := roleWhere true

def roles : Shape := list role

def columns : Shape := group [list name]

/-! ## Literals -/

def isText : Lexeme → Bool
  | .text _ => true
  | _ => false

def text : Shape := .part isText fun _ => advance

def whole : Shape :=
  .part (fun | .integer _ => true | _ => false) fun _ => advance

def isMagnitude : Lexeme → Bool
  | .integer _ | .number _ => true
  | _ => false

def magnitude : Shape := .part isMagnitude fun _ => advance

def sign : Shape := option [oneOf ["+", "-"]]

def number : Shape := seq [sign, magnitude]

def signedWhole : Shape := seq [sign, whole]

def wordOrText : Shape := oneOf [freeWord, text]

/-- A truth value, a word or a text. -/
def setting : Shape := oneOf [keywords "true false on", freeWord, text]

/-! ## Expressions and queries -/

def expr : Shape := .part (fun _ => true) fun g => discard g.any

def operand : Shape := .part (fun _ => true) fun g => discard (g.operand Precedence.lowest)

def typeKeywords : List String :=
  ["bigint", "bit", "boolean", "char", "character", "dec", "decimal", "float", "int", "integer",
   "interval", "json", "national", "nchar", "numeric", "real", "setof", "smallint", "time",
   "timestamp", "varchar"]

def beginsType (lexeme : Lexeme) : Bool :=
  (functionName? lexeme).isSome || typeKeywords.any (isWord · lexeme)

def type : Shape := .part beginsType fun g => discard (Grammar.typeName g)

def columnType : Shape := seq [type, option ["% type"]]

def beginsQuery (lexeme : Lexeme) : Bool :=
  ["select", "values", "table", "with"].any (isWord · lexeme) || isJoined "with" lexeme
    || isSymbol "(" lexeme

def query : Shape := .part beginsQuery fun g => discard g.query

/-- A query or another statement that works on rows. -/
def rows : Shape :=
  .part (fun lexeme => beginsQuery lexeme
      || ["insert", "update", "delete", "merge"].any (isWord · lexeme)) fun g =>
    discard g.rows

def anyStatement : Shape :=
  .part (fun lexeme => (label? lexeme).isSome || isSymbol "(" lexeme) fun g =>
    discard g.statement

def sources : Shape := list (.part (fun _ => true) fun g => discard g.source)

def condition : Shape := option ["where", expr]

def groupedCondition : Shape := option ["where", group [expr]]

def collation : Shape := option ["collate", path]

def indexKey : Shape := .part (fun _ => true) fun g => discard (Grammar.indexKey g)

def call : Shape := .part (fun _ => true) fun g => discard (Grammar.sourceFunction g)

/-! ## Operators -/

def operatorMarks : List String :=
  ["+", "-", "*", "/", "%", "^", "<", ">", "=", "<=", ">=", "<>"]

def bareOperator : Shape :=
  .part (fun | .operator _ => true | .symbol m => operatorMarks.contains m | _ => false) fun _ =>
    discard Grammar.operatorName

def operator : Shape := seq [.many (seq [name, "."]), bareOperator]

def optionOperator : Shape := oneOf [seq ["operator", group [operator]], bareOperator]

/-! ## Conditions of statements -/

/-- The word before a thing that may be missing. -/
def ifExists : Shape := ifNext "if exists" "if exists" .nothing

/-- The words before a thing that may be there already. -/
def ifNotExists : Shape := ifNext "if not" "if not exists" .nothing

/-- What becomes of all that depends on a thing. -/
def behavior : Shape := option [keywords "cascade restrict"]

def withWord : Shape := option [oneOf ["with", .joined "with"]]

/-! ## Options -/

def isReserved : Lexeme → Bool
  | .keyword _ standing => standing = .reserved
  | _ => false

def reserved : Shape := .part isReserved fun _ => advance

/-- Whether a number with a sign comes next. -/
def isSigned : List Lexeme → Bool
  | .symbol m :: .integer _ :: _ | .symbol m :: .number _ :: _ => m = "+" || m = "-"
  | _ => false

def optionValue : Shape :=
  oneOf [text, magnitude, "none", reserved,
    .given isSigned number
      (.given (fun ahead => areNext ["operator"] ahead && ahead[1]?.any (isSymbol "("))
        optionOperator (oneOf [columnType, bareOperator]))]

def definition : Shape := group [list (seq [label, option ["=", optionValue]])]

def withDefinition : Shape := option ["with", definition]

def storageOptions : Shape :=
  group [list (seq [label, option [".", label], option ["=", optionValue]])]

/-- Options of how a thing is stored, after their keyword, if there are any. -/
def withStorage : Shape := option ["with", storageOptions]

def foreignOptions : Shape := option ["options", group [list (seq [label, text])]]

def changedOptions : Shape :=
  seq ["options", group [list
    (ifSecond isText (seq [label, text])
      (oneOf [seq [keywords "set add", label, text], seq ["drop", label], seq [label, text]]))]]

def commandOptions : Shape :=
  group [list (seq [oneOf [freeWord, keywords "analyze analyse", .joined "format"],
    option [oneOf [setting, number]]])]

/-! ## Routines -/

def routineName : Shape :=
  .part (fun lexeme => (freeWord? lexeme).isSome) fun g => do
    let lexeme ← peek
    if (functionName? lexeme).isNone && !isSymbol "." (← peekSecond) then
      advance
      unexpected
    else
      let first ← Parse.label
      discard (Grammar.namePath first (← Grammar.steps g))

def routineCall : Shape :=
  seq [routineName, .part (isSymbol "(") fun g => discard (Grammar.arguments g)]

def passing : Shape := oneOf [seq ["in", option ["out"]], "out", "inout", "variadic"]

/-- Whether the name that comes next is the name of a parameter, before its type. -/
def namesParameter (ahead : List Lexeme) : Bool :=
  match ahead with
  | first :: second :: _ =>
    (functionName? first).isSome && !(isWord "double" first && isWord "precision" second)
      && (beginsType second || ["in", "out", "inout", "variadic"].any (isWord · second))
  | _ => false

def parameter : Shape :=
  oneOf [
    seq [passing, .given namesParameter (seq [typeWord, columnType]) columnType],
    .given namesParameter (seq [typeWord, option [passing], columnType]) columnType]

def parameters : Shape := group [option [list parameter]]

def routine : Shape :=
  .given (fun ahead => ahead.head?.any fun lexeme => (functionName? lexeme).isNone
      && !ahead[1]?.any (isSymbol ".")) name (seq [routineName, option [parameters]])

def aggregateParameters : Shape :=
  group [oneOf ["*", seq ["order by", list parameter],
    seq [list parameter, option ["order by", list parameter]]]]

def aggregate : Shape := seq [routineName, aggregateParameters]

def operandTypes : Shape :=
  group [oneOf [seq ["none ,", type], seq [type, ",", oneOf ["none", type]]]]

def typedOperator : Shape := seq [operator, operandTypes]

def operatorGroup : Shape := seq [keywords "class family", path, "using", name]

/-- A name of a routine that handles something. -/
def handler : Shape := path

end IndexAdvisor.Sql.Utility
