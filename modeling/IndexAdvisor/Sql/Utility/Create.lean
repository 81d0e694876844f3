import IndexAdvisor.Sql.Utility.Control
import IndexAdvisor.Sql.Utility.Element
import IndexAdvisor.Sql.Utility.Privilege

/-! # Statements that create

What `CREATE` makes, each shape from the word for the thing on.
-/

namespace IndexAdvisor.Sql.Utility

open Parse Shape

/-! ## Tables and views -/

/-- What becomes of the rows of a temporary table when a transaction ends, if it is told. -/
def onCommit : Shape :=
  option ["on commit", oneOf ["drop", seq [keywords "delete preserve", "rows"]]]

def space : Shape := option ["tablespace", name]

def storage : Shape :=
  seq [accessMethod, option [oneOf [seq ["with", storageOptions], "without oids"]], onCommit, space]

/-- Whether the rows of a query are stored, if it is told. -/
def withData : Shape := option ["with", option ["no"], "data"]

def tableQuery : Shape :=
  seq ["as", oneOf [execution, query], withData, .kind "CreateTableAsStmt"]

/-- Whether names of columns without types come next. -/
def namesColumns (ahead : List Lexeme) : Bool :=
  ahead.head?.any (isSymbol "(") && ahead[1]?.any (fun lexeme => (columnName? lexeme).isSome)
    && ahead[2]?.any fun lexeme => isSymbol "," lexeme || isSymbol ")" lexeme

def inheritance : Shape := option ["inherits", group [list table]]

def newTable : Shape :=
  seq ["table", ifNotExists, table, .kind "CreateStmt", oneOf [
    seq ["of", path, typedElements, partitioning, storage],
    seq ["partition of", table, typedElements, partitionBound, partitioning, storage],
    .given namesColumns (seq [columns, storage, tableQuery])
      (oneOf [seq [elements, inheritance, partitioning, storage], seq [storage, tableQuery]])]]

def newTableOfQuery : Shape :=
  seq ["table", ifNotExists, table, option [columns], storage, tableQuery]

def newStoredView : Shape :=
  seq ["materialized view", ifNotExists, table, option [columns], accessMethod, withStorage, space,
    "as", query, withData, .kind "CreateTableAsStmt"]

/-- What is checked of the rows that are written through a view, if anything. -/
def checkOption : Shape := option ["with", option [keywords "cascaded local"], "check option"]

def newView : Shape :=
  oneOf [
    seq ["view", table, option [columns], withStorage, "as", query, checkOption,
      .kind "ViewStmt"],
    seq ["recursive view", table, columns, withStorage, "as", query,
      option [.refused "WITH CHECK OPTION not supported on recursive views" (seq ["with",
        option [keywords "cascaded local"], "check option"])], .kind "ViewStmt"]]

def newForeignTable : Shape :=
  seq ["table", ifNotExists, table, oneOf [
    seq ["partition of", table, typedElements, partitionBound],
    seq [elements, inheritance]], "server", name, foreignOptions,
    .kind "CreateForeignTableStmt"]

def newSequence : Shape :=
  seq ["sequence", ifNotExists, table, .many sequenceOption, .kind "CreateSeqStmt"]

def newIndex : Shape :=
  seq ["index", option ["concurrently"], ifNext "if not" (seq ["if not exists", name])
    (option [name]), "on", relation, accessMethod, group [list indexKey],
    option ["include", group [list indexKey]], nullTreatment, withStorage, space, condition,
    .kind "IndexStmt"]

/-- The words for things that last as long as a session. -/
def temporary : Shape :=
  oneOf [keywords "temporary temp", seq [keywords "local global", keywords "temporary temp"]]

/-! ## Routines -/

def routineTrait : Shape :=
  oneOf [
    "called on null input", "returns null on null input",
    keywords "strict immutable stable volatile leakproof", "not leakproof",
    seq [option ["external"], "security", keywords "definer invoker"],
    seq ["cost", number], seq ["rows", number], seq ["support", path],
    ownSetting routineSetting, seq ["parallel", name]]

def newRoutineTrait : Shape :=
  oneOf [
    seq ["as", text, option [",", text]], seq ["language", wordOrText],
    seq ["transform", list (seq ["for type", type])], "window", routineTrait]

def bodyStatement : Shape :=
  .given (fun ahead => ahead.head?.any fun lexeme => isWord "end" lexeme || isWord "begin" lexeme)
    .nothing (oneOf [seq ["return", expr], anyStatement])

def routineBody : Shape :=
  option [oneOf [
    seq ["return", expr],
    seq ["begin atomic", .many (oneOf [";", seq [bodyStatement, ";"]]), "end"]]]

/-- The parameters of a routine that is made, with their values in absence. -/
def newParameters : Shape :=
  group [option [list (seq [parameter, option [oneOf ["default", "="], expr]])]]

def newRoutine : Shape :=
  oneOf [
    seq ["function", routineName, newParameters,
      ifNext "returns null" .nothing (option ["returns", oneOf [
        seq ["table", group [list (seq [typeWord, columnType])]], columnType]]),
      .many newRoutineTrait, routineBody, .kind "CreateFunctionStmt"],
    seq ["procedure", routineName, newParameters, .many newRoutineTrait, routineBody,
      .kind "CreateFunctionStmt"]]

/-- Whether the parts of an aggregate come next, in place of its parameters. -/
def namesParts (ahead : List Lexeme) : Bool :=
  ahead.head?.any (isSymbol "(") && ahead[1]?.any (fun lexeme => (nameOf? [] lexeme).isSome)
    && ahead[2]?.any (isSymbol "=")

def newAggregate : Shape :=
  seq ["aggregate", routineName, .given namesParts
    (group [list (seq [plainName, "=", optionValue])]) (seq [aggregateParameters, definition]),
    .kind "DefineStmt"]

/-- A language; without a handler it is taken from an extension. -/
def newLanguage : Shape :=
  seq [option ["trusted"], option ["procedural"], "language", name, .kind "CreateExtensionStmt",
    option ["handler", handler, option ["inline", handler],
      option [oneOf [seq ["validator", handler], "no validator"]], .kind "CreatePLangStmt"]]

def transformStep (direction : Shape) : Shape :=
  seq [direction, "sql with function", routine]

def newTransform : Shape :=
  seq ["transform for", type, "language", name, group [oneOf [
    seq [transformStep "from", option [",", transformStep "to"]],
    seq [transformStep "to", option [",", transformStep "from"]]]],
    .kind "CreateTransformStmt"]

def newCast : Shape :=
  seq ["cast", group [type, "as", type], oneOf [
    seq ["with", oneOf [seq ["function", routine], "inout"]], "without function"],
    option ["as", keywords "implicit assignment"], .kind "CreateCastStmt"]

/-! ## Triggers and rules -/

def triggerEvent : Shape :=
  oneOf [keywords "insert delete truncate", seq ["update", option ["of", list name]]]

def triggerEvents : Shape := seq [triggerEvent, .many (seq ["or", triggerEvent])]

def triggerAction : Shape :=
  seq ["execute", keywords "function procedure", routineName,
    group [option [list (oneOf [magnitude, text, label])]]]

def triggerCondition : Shape := option ["when", group [expr]]

def newTrigger : Shape :=
  seq ["trigger", name, oneOf [keywords "before after", "instead of"], triggerEvents, "on", table,
    option ["referencing", referenced, .many referenced],
    option ["for", option ["each"], keywords "row statement"], triggerCondition, triggerAction,
    .kind "CreateTrigStmt"]
where
  /-- A name for the rows before or after a change. -/
  referenced : Shape := seq [keywords "new old", keywords "table row", option ["as"], name]

def newConstraintTrigger : Shape :=
  seq ["constraint trigger", name, "after", triggerEvents, "on", table, option ["from", table],
    constraintTimes, "for each row", triggerCondition, triggerAction, .kind "CreateTrigStmt"]

def newEventTrigger : Shape :=
  seq ["event trigger", name, "on", label,
    option ["when", tag, .many (seq ["and", tag])],
    "execute", keywords "function procedure", routineName, "( )", .kind "CreateEventTrigStmt"]
where
  tag : Shape := seq [name, "in", group [list text]]

def newRule : Shape :=
  seq ["rule", name, "as on", keywords "select update delete insert", "to", table, condition, "do",
    option [keywords "instead also"],
    oneOf ["nothing", .given isGroup
      (group [option [action], .many (seq [";", option [action]])]) action],
    .kind "RuleStmt"]
where
  action : Shape := oneOf [notification, rows]
  /-- Whether actions in parentheses come next. -/
  isGroup (ahead : List Lexeme) : Bool := ahead.head?.any (isSymbol "(")

/-! ## Roles and databases -/

def roleWords : List String :=
  ["superuser", "nosuperuser", "createrole", "nocreaterole", "replication", "noreplication",
   "createdb", "nocreatedb", "login", "nologin", "bypassrls", "nobypassrls", "noinherit"]

def roleOption : Shape :=
  oneOf [
    seq ["password", oneOf [text, "null"]], seq ["encrypted password", text],
    .refused "UNENCRYPTED PASSWORD is no longer supported" (seq ["unencrypted password", text]),
    "inherit", seq ["connection limit", signedWhole], seq ["valid until", text],
    seq ["user", roles],
    knownWord roleWords fun found => s!"unrecognized role option \"{found}\""]

def newRoleOption : Shape :=
  oneOf [roleOption, seq ["sysid", whole], seq [keywords "admin role", roles],
    seq ["in", keywords "role group", roles]]

def newRoleOrMapping : Shape :=
  let made (kind : Shape) : Shape :=
    seq [kind, newRole, withWord, .many newRoleOption, .kind "CreateRoleStmt"]
  let mapping : Shape :=
    seq ["user mapping", ifNotExists, "for", oneOf ["user", role], "server", name, foreignOptions,
      .kind "CreateUserMappingStmt"]
  oneOf [made (keywords "role group"),
    ifNext "user mapping for" mapping (ifNext "user mapping if" mapping (made "user"))]

def databaseOption : Shape :=
  seq [oneOf [plainName, "connection limit",
      keywords "encoding location owner tablespace template"],
    option ["="], oneOf [setting, number, "default"]]

def newDatabase : Shape :=
  seq ["database", name, withWord, .many databaseOption, .kind "CreatedbStmt"]

def newSpace : Shape :=
  seq ["tablespace", name, option ["owner", role], "location", text, withStorage,
    .kind "CreateTableSpaceStmt"]

def schemaElement : Shape :=
  oneOf [grant, seq ["create", oneOf [
    newTableOrView, newIndex, seq ["unique", newIndex], newTrigger, newConstraintTrigger,
    seq ["or replace", oneOf [newView, newTrigger, seq [temporary, newView]]],
    seq [oneOf [temporary, "unlogged"], newTableOrView]]]]
where
  newTableOrView : Shape := oneOf [newTable, newView, newSequence]

def newSchema : Shape :=
  let owned : Shape :=
    oneOf [seq ["authorization", role], seq [name, option ["authorization", role]]]
  seq ["schema", ifNext "if not"
      (seq ["if not exists", owned, option [.refused
        "CREATE SCHEMA IF NOT EXISTS cannot include schema elements"
        (seq [schemaElement, .many schemaElement])]])
      (seq [owned, .many schemaElement]),
    .kind "CreateSchemaStmt"]

/-! ## Types and operators -/

def newType : Shape :=
  seq ["type", path, .kind "DefineStmt", option [oneOf [
    definition,
    seq ["as", oneOf [
      seq [group [option [list member]], .kind "CompositeTypeStmt"],
      seq ["enum", group [option [list text]], .kind "CreateEnumStmt"],
      seq ["range", definition, .kind "CreateRangeStmt"]]]]]]

def newDomain : Shape :=
  seq ["domain", path, option ["as"], type, columnConstraints, .kind "CreateDomainStmt"]

def searchThing : Shape :=
  seq ["text search", keywords "parser dictionary template configuration"]

def newCollation : Shape :=
  seq ["collation", ifNotExists, path, oneOf [definition, seq ["from", path]],
    .kind "DefineStmt"]

def classItem : Shape :=
  oneOf [
    seq ["operator", whole, operator, option [operandTypes],
      option ["for", oneOf ["search", seq ["order by", path]]]],
    seq ["function", whole, option [group [list type]], routine],
    seq ["storage", type]]

def newOperator : Shape :=
  let isGroup (ahead : List Lexeme) : Bool :=
    (ahead[1]?.any fun lexeme => isWord "class" lexeme || isWord "family" lexeme)
      && !ahead[2]?.any (isSymbol ".")
  seq [.given isGroup
    (oneOf [
      ifNext "operator class"
        (seq ["operator class", path, option ["default"], "for type", type, "using", name,
          option ["family", path], "as", list classItem, .kind "CreateOpClassStmt"])
        (seq ["operator family", path, "using", name, .kind "CreateOpFamilyStmt"])])
    (seq ["operator", operator, definition, .kind "DefineStmt"])]

def newConversion : Shape :=
  seq ["conversion", path, "for", text, "to", text, "from", path, .kind "CreateConversionStmt"]

def newAssertion : Shape :=
  seq ["assertion", path, "check", group [expr], constraintTimes,
    .part (fun _ => true) fun _ =>
      throw (.impossible (.refused "CREATE ASSERTION is not yet implemented") none)]

/-! ## Extensions and foreign data -/

def newExtension : Shape :=
  seq ["extension", ifNotExists, name, withWord, .many (oneOf [
    seq ["schema", name], seq ["version", wordOrText], "cascade",
    .refused "CREATE EXTENSION ... FROM is no longer supported" (seq ["from", wordOrText])]),
    .kind "CreateExtensionStmt"]

def wrapperRoutine : Shape :=
  oneOf [seq [keywords "handler validator", handler], seq ["no", keywords "handler validator"]]

def newWrapper : Shape :=
  seq ["data wrapper", name, .many wrapperRoutine, foreignOptions, .kind "CreateFdwStmt"]

def newServer : Shape :=
  seq ["server", ifNotExists, name, option ["type", text],
    option ["version", oneOf [text, "null"]], "foreign data wrapper", name, foreignOptions,
    .kind "CreateForeignServerStmt"]

def newAccessMethod : Shape :=
  seq ["access method", name, "type", keywords "index table", "handler", handler,
    .kind "CreateAmStmt"]

/-! ## Policies, statistics and publications -/

def policyParts : Shape :=
  seq [option ["to", roles], option ["using", group [expr]], option ["with check", group [expr]]]

def newPolicy : Shape :=
  seq ["policy", name, "on", table,
    option ["as", knownWord ["permissive", "restrictive"] fun found =>
      s!"unrecognized row security option \"{found}\""],
    option ["for", keywords "all select insert update delete"], policyParts,
    .kind "CreatePolicyStmt"]

def newStatistics : Shape :=
  let measured : Shape :=
    oneOf [group [expr], .given (fun ahead =>
      ahead.head?.any (fun lexeme => (columnName? lexeme).isSome)
        && !ahead[1]?.any fun lexeme => isSymbol "(" lexeme || isSymbol "." lexeme) name call]
  seq ["statistics", ifNext "if not" (seq ["if not exists", path]) (option [path]),
    option [columns], "on", list measured, "from", sources, .kind "CreateStatsStmt"]

def published : Shape :=
  oneOf [
    seq ["table", relation, option [columns], groupedCondition],
    ifNext "tables in" (seq ["tables in schema", oneOf [name, "current_schema"]])
      (oneOf ["current_schema", seq [relation, option [columns], groupedCondition]])]

/-- Whether the first thing that is published tells what it is. -/
def tellsKind (ahead : List Lexeme) : Bool :=
  areNext ["table"] ahead || areNext ["tables", "in"] ahead

def publishedThings : Shape :=
  .given tellsKind (list published)
    (.refused "invalid publication object list" (list published))

def newPublication : Shape :=
  seq ["publication", name, option ["for", ifNext "all" "all tables" publishedThings],
    withDefinition, .kind "CreatePublicationStmt"]

def newSubscription : Shape :=
  seq ["subscription", name, "connection", text, "publication", list name, withDefinition,
    .kind "CreateSubscriptionStmt"]

/-! ## All of them -/

def replacing : Shape :=
  oneOf [newRoutine, newAggregate, newTransform, newView, newTrigger, newRule, newLanguage,
    .refused "CREATE OR REPLACE CONSTRAINT TRIGGER is not supported" newConstraintTrigger,
    seq [oneOf [temporary, "unlogged"], newView]]

def creation : Shape :=
  seq ["create", oneOf [
    seq ["or replace", replacing],
    seq [temporary, oneOf [newTable, newView, newSequence]],
    seq ["unlogged", oneOf [newTable, newView, newSequence, newStoredView]],
    newTable, newView, newStoredView, newSequence, newIndex, seq ["unique", newIndex],
    seq ["foreign", oneOf [newForeignTable, newWrapper]],
    newRoutine, newAggregate, newLanguage, newTransform, newCast,
    newTrigger, newConstraintTrigger, newEventTrigger, newRule,
    newRoleOrMapping, newDatabase, newSpace, newSchema,
    newType, newDomain, seq [searchThing, path, definition, .kind "DefineStmt"], newCollation,
    newOperator, newConversion, seq ["default", newConversion], newAssertion,
    newExtension, newServer, newAccessMethod,
    newPolicy, newStatistics, newPublication, newSubscription]]

end IndexAdvisor.Sql.Utility
