import IndexAdvisor.Sql.Utility.Create

/-! # Statements that alter

What `ALTER` changes, each shape from the word for the thing on.
-/

namespace IndexAdvisor.Sql.Utility

open Parse Shape

/-! ## Changes that many things have in common -/

def renamed : Shape := seq ["rename to", name, .kind "RenameStmt"]

def owning : Shape := seq ["owner to", role, .kind "AlterOwnerStmt"]

def moving : Shape := seq ["set schema", name, .kind "AlterObjectSchemaStmt"]

def depending : Shape :=
  seq [option ["no"], "depends on extension", name, .kind "AlterObjectDependsStmt"]

def changed (thing : Shape) (changes : List Shape) : Shape := seq [thing, oneOf changes]

/-! ## Tables -/

def identityChange : Shape :=
  oneOf [seq ["restart", option [withWord, number]],
    seq ["set", oneOf [seq ["generated", generation], sequenceOption]]]

/-- How many values are kept for the statistics of a column. -/
def statisticsTarget : Shape := seq ["statistics", oneOf [signedWhole, "default"]]

def retyped (rest : Shape) : Shape := seq ["type", type, collation, rest]

def conversion : Shape := option ["using", expr]

def columnSetting : Shape :=
  oneOf [
    seq ["default", expr], "not null", seq ["expression as", group [expr]], statisticsTarget,
    storageOptions, seq ["storage", nameOrDefault], seq ["compression", nameOrDefault],
    seq ["data", retyped conversion],
    seq [oneOf [seq ["generated", generation], sequenceOption], .many identityChange]]

def columnChange : Shape :=
  oneOf [
    seq [whole, "set", statisticsTarget],
    seq [name, oneOf [
      seq ["set", columnSetting],
      seq ["drop", oneOf ["default", "not null", seq ["expression", option ["if exists"]],
        seq ["identity", option ["if exists"]]]],
      seq ["reset", storageOptions],
      seq ["add generated", generation, "as identity", sequenceOptions],
      seq ["restart", option [withWord, number], .many identityChange],
      retyped conversion, changedOptions]]]

def addition : Shape :=
  .given isConstraint tableConstraint (seq [option ["column"], ifNotExists, columnDefinition])

def triggerChoice : Shape := seq ["trigger", oneOf ["all", "user", name]]

def tableChange : Shape :=
  oneOf [
    seq ["add", addition],
    seq ["alter", oneOf [
      seq ["constraint", name, oneOf ["inherit", constraintTimes]],
      seq [option ["column"], columnChange]]],
    seq ["drop", oneOf [
      seq ["constraint", ifExists, name, behavior],
      seq [option ["column"], ifExists, name, behavior]]],
    seq ["validate constraint", name],
    seq ["set", oneOf [
      seq ["without", keywords "oids cluster"], keywords "logged unlogged",
      seq ["access method", nameOrDefault], seq ["tablespace", name], storageOptions]],
    seq ["reset", storageOptions],
    seq ["cluster on", name],
    seq ["enable", oneOf [
      triggerChoice, seq [option [keywords "always replica"], oneOf [seq ["trigger", name],
        seq ["rule", name]]], "row level security"]],
    seq ["disable", oneOf [triggerChoice, seq ["rule", name], "row level security"]],
    "force row level security",
    seq ["inherit", table],
    seq ["no", oneOf [seq ["inherit", table], "force row level security"]],
    seq ["of", path], "not of", seq ["owner to", role],
    seq ["replica identity", oneOf [keywords "nothing full default", seq ["using index", name]]],
    changedOptions]

def tableChanges : Shape := seq [list tableChange, .kind "AlterTableStmt"]

/-- A change of a column's or constraint's name, or of the name of the whole. -/
def renamedWithin (parts : List Shape) : Shape :=
  seq ["rename", oneOf (seq ["to"] :: parts ++ [seq [option ["column"], name, "to"]]), name,
    .kind "RenameStmt"]

def partitionChange : Shape :=
  oneOf [
    seq ["attach partition", table, partitionBound],
    seq ["detach partition", table, option [keywords "concurrently finalize"]]]

def movedAll : Shape :=
  seq ["all in tablespace", name, option ["owned by", roles], "set tablespace", name,
    option ["nowait"], .kind "AlterTableMoveAllStmt"]

/-- Changes of a relation: those of its own, and the usual ones. -/
def relationChanges (own : List Shape) (parts : List Shape) : Shape :=
  oneOf (own ++ [ifNext "set schema" moving (oneOf [renamedWithin parts, tableChanges])])

def alteredTable : Shape :=
  seq ["table", oneOf [movedAll, seq [ifExists, relation, relationChanges
    [seq [partitionChange, .kind "AlterTableStmt"]] [seq ["constraint", name, "to"]]]]]

def alteredIndex : Shape :=
  seq ["index", oneOf [movedAll, seq [ifExists, table, oneOf [
    seq ["attach partition", table, .kind "AlterTableStmt"],
    ifNext "no depends" depending (oneOf [depending, renamed, tableChanges])]]]]

def alteredSequence : Shape :=
  let isOption (ahead : List Lexeme) : Bool :=
    ["maxvalue", "minvalue", "cycle"].any fun w => areNext ["no", w] ahead
  let options : Shape := seq [sequenceOption, .many sequenceOption, .kind "AlterSeqStmt"]
  seq ["sequence", ifExists, table, .given isOption options (oneOf [
    ifNext "no" tableChanges options,
    ifNext "set schema" moving (oneOf [renamed, tableChanges])])]

def alteredView : Shape := seq ["view", ifExists, table, relationChanges [] []]

def alteredStoredView : Shape :=
  seq ["materialized view", oneOf [movedAll, seq [ifExists, table,
    ifNext "no depends" depending (relationChanges [depending] [])]]]

def alteredForeignTable : Shape :=
  seq ["table", ifExists, relation, relationChanges [] []]

/-! ## Types and routines -/

def memberChange : Shape :=
  oneOf [
    seq ["add attribute", member, behavior],
    seq ["drop attribute", ifExists, name, behavior],
    seq ["alter attribute", name, option ["set data"], retyped behavior]]

def alteredType : Shape :=
  seq ["type", path, oneOf [
    ifNext "add value" (seq ["add value", ifNotExists, text,
      option [keywords "before after", text], .kind "AlterEnumStmt"])
      (ifNext "drop value"
        (.refused "dropping an enum value is not implemented" (seq ["drop value", text]))
        (seq [list memberChange, .kind "AlterTableStmt"])),
    seq ["rename", oneOf [
      seq ["value", text, "to", text, .kind "AlterEnumStmt"],
      seq ["attribute", name, "to", name, behavior, .kind "RenameStmt"],
      seq ["to", name, .kind "RenameStmt"]]],
    owning, ifNext "set schema" moving (seq ["set", definition, .kind "AlterTypeStmt"])]]

def alteredDomain : Shape :=
  let constraint : Shape :=
    seq [option ["constraint", name], oneOf [seq ["check", group [expr]], "not null"],
      constraintTimes]
  let change (shape : Shape) : Shape := seq [shape, .kind "AlterDomainStmt"]
  seq ["domain", path, oneOf [
    ifNext "set schema" moving
      (change (seq ["set", oneOf [seq ["default", expr], "not null"]])),
    change (seq ["drop", oneOf ["default", "not null",
      seq ["constraint", ifExists, name, behavior]]]),
    change (seq ["add", constraint]), change (seq ["validate constraint", name]),
    seq ["rename", option ["constraint", name], "to", name, .kind "RenameStmt"],
    owning]]

def alteredRoutine : Shape :=
  seq [keywords "function procedure routine", routine, oneOf [
    renamed, owning, ifNext "no depends" depending (oneOf [depending, ifNext "set schema" moving
      (seq [routineTrait, .many routineTrait, option ["restrict"],
        .kind "AlterFunctionStmt"])])]]

def alteredOperator : Shape :=
  let dropped : Shape := seq [keywords "operator function", whole, group [list type]]
  let isGroup (ahead : List Lexeme) : Bool :=
    (ahead[1]?.any fun lexeme => isWord "class" lexeme || isWord "family" lexeme)
      && !ahead[2]?.any (isSymbol ".")
  .given isGroup
    (seq ["operator", operatorGroup, oneOf [renamed, owning, moving,
      seq ["add", list classItem, .kind "AlterOpFamilyStmt"],
      seq ["drop", list dropped, .kind "AlterOpFamilyStmt"]]])
    (seq ["operator", typedOperator, oneOf [owning, ifNext "set schema" moving
      (seq ["set", definition, .kind "AlterOperatorStmt"])]])

/-! ## Roles, databases and settings -/

def alteredRole : Shape :=
  let settings : Shape :=
    seq [option ["in database", name], ownSetting sessionSetting, .kind "AlterRoleSetStmt"]
  let changes : Shape :=
    oneOf [
      seq ["all", settings],
      seq [role, oneOf [
        renamedRole, settings,
        seq [withWord, .many roleOption, .kind "AlterRoleStmt"]]]]
  oneOf [
    seq ["role", changes],
    ifNext "user mapping for" (seq ["user mapping for", oneOf ["user", role], "server", name,
      changedOptions, .kind "AlterUserMappingStmt"]) (seq ["user", changes]),
    seq ["group", role, oneOf [renamedRole,
      seq [keywords "add drop", "user", roles, .kind "AlterRoleStmt"]]]]
where
  renamedRole : Shape := seq ["rename to", newRole, .kind "RenameStmt"]

def alteredDatabase : Shape :=
  let isSpace (ahead : List Lexeme) : Bool :=
    areNext ["set", "tablespace"] ahead && ahead[2]?.any fun lexeme => (columnName? lexeme).isSome
  let isRefresh : List Lexeme → Bool := areNext ["refresh", "collation"]
  seq ["database", name, .given isSpace
    (seq ["set tablespace", name, .kind "AlterDatabaseStmt"])
    (.given isRefresh (seq ["refresh collation version", .kind "AlterDatabaseRefreshCollStmt"])
      (oneOf [renamed,
        ifNext "owner to" owning (oneOf [
          seq [ownSetting sessionSetting, .kind "AlterDatabaseSetStmt"],
          seq [option ["with"], .many databaseOption, .kind "AlterDatabaseStmt"]])]))]

def alteredSystem : Shape :=
  seq ["system", oneOf [seq ["set", plainSetting],
    seq ["reset", oneOf ["all", settingName]]], .kind "AlterSystemStmt"]

/-! ## Text search and languages -/

def alteredSearchThing : Shape :=
  let mapping : Shape :=
    oneOf [
      seq ["add mapping for", list name, withAny, list path],
      seq ["alter mapping", oneOf [
        seq ["for", list name, oneOf [seq [withAny, list path],
          seq ["replace", path, withAny, path]]],
        seq ["replace", path, withAny, path]]],
      seq ["drop mapping", option ["if exists"], "for", list name]]
  seq ["text search", oneOf [
    seq ["dictionary", changed path [renamed, owning, moving,
      seq [definition, .kind "AlterTSDictionaryStmt"]]],
    seq ["configuration", changed path [renamed, owning, moving,
      seq [mapping, .kind "AlterTSConfigurationStmt"]]],
    seq [keywords "parser template", changed path [renamed, moving]]]]
where
  withAny : Shape := oneOf ["with", .joined "with"]

/-! ## Extensions and foreign data -/

/-- Things that are members of extensions, or have comments, by one name or path. -/
def thing : Shape :=
  oneOf [
    seq [oneOf [keywords "table sequence view index collation conversion statistics column",
      "materialized view", searchThing], path],
    seq ["foreign", oneOf [seq ["table", path], seq ["data wrapper", name]]],
    seq [oneOf ["access method", "event trigger", "extension",
      seq [option ["procedural"], "language"],
      keywords "publication schema server database role subscription tablespace"], name],
    seq [keywords "type domain", type],
    seq ["aggregate", aggregate], seq [keywords "function procedure routine", routine]]

/-- Things that only have comments, or are members of extensions. -/
def furtherThing : Shape :=
  let isGroup (ahead : List Lexeme) : Bool :=
    (ahead[1]?.any fun lexeme => isWord "class" lexeme || isWord "family" lexeme)
      && !ahead[2]?.any (isSymbol ".")
  oneOf [
    .given isGroup (seq ["operator", operatorGroup]) (seq ["operator", typedOperator]),
    seq ["transform for", type, "language", name],
    seq ["cast", group [type, "as", type]]]

def alteredExtension : Shape :=
  seq ["extension", name, oneOf [
    moving,
    seq ["update", .many (seq ["to", wordOrText]), .kind "AlterExtensionStmt"],
    seq [keywords "add drop", oneOf [thing, furtherThing], .kind "AlterExtensionContentsStmt"]]]

def alteredWrapper : Shape :=
  seq ["data wrapper", name, oneOf [renamed, owning,
    seq [oneOf [changedOptions, seq [wrapperRoutine, .many wrapperRoutine,
      option [changedOptions]]], .kind "AlterFdwStmt"]]]

def alteredServer : Shape :=
  seq ["server", name, oneOf [renamed, owning,
    seq [oneOf [changedOptions, seq ["version", oneOf [text, "null"], option [changedOptions]]],
      .kind "AlterForeignServerStmt"]]]

/-! ## Triggers, policies and publications -/

def alteredTrigger : Shape :=
  oneOf [
    seq ["rule", name, "on", table, renamed],
    seq ["trigger", name, "on", table, ifNext "no" depending (oneOf [depending, renamed])],
    seq ["event trigger", name, oneOf [renamed, owning,
      seq [oneOf [seq ["enable", option [keywords "replica always"]], "disable"],
        .kind "AlterEventTrigStmt"]]]]

def alteredPolicy : Shape :=
  seq ["policy", ifNext "if exists" (seq ["if exists", name, "on", table, renamed])
    (seq [name, "on", table, oneOf [renamed, seq [policyParts, .kind "AlterPolicyStmt"]]])]

def alteredPublication : Shape :=
  seq ["publication", name, oneOf [renamed, owning,
    seq ["set", oneOf [definition, publishedThings], .kind "AlterPublicationStmt"],
    seq [keywords "add drop", publishedThings, .kind "AlterPublicationStmt"]]]

def alteredSubscription : Shape :=
  seq ["subscription", name, oneOf [renamed, owning,
    seq [oneOf [
      seq ["set", oneOf [definition, seq ["publication", list name, withDefinition]]],
      seq ["connection", text], seq ["refresh publication", withDefinition],
      seq [keywords "add drop", "publication", list name, withDefinition],
      keywords "enable disable", seq ["skip", definition]],
      .kind "AlterSubscriptionStmt"]]]

def alteredStatistics : Shape :=
  seq ["statistics", ifNext "if exists"
    (seq ["if exists", path, "set", statisticsTarget, .kind "AlterStatsStmt"])
    (changed path [renamed, owning, ifNext "set schema" moving
      (seq ["set", statisticsTarget, .kind "AlterStatsStmt"])])]

/-! ## All of them -/

def alteration : Shape :=
  seq ["alter", oneOf [
    alteredTable, alteredIndex, alteredSequence, alteredView, alteredStoredView,
    seq ["foreign", oneOf [alteredForeignTable, alteredWrapper]],
    alteredType, alteredDomain, alteredRoutine, alteredOperator,
    seq ["aggregate", changed aggregate [renamed, owning, moving]],
    alteredRole, alteredDatabase, alteredSystem, defaultPrivileges,
    alteredSearchThing, alteredExtension, alteredServer,
    seq ["collation", changed path [renamed, owning, moving,
      seq ["refresh version", .kind "AlterCollationStmt"]]],
    seq ["conversion", changed path [renamed, owning, moving]],
    seq [option ["procedural"], "language", changed name [renamed, owning]],
    seq ["large object", number, owning],
    seq ["schema", changed name [renamed, owning]],
    seq ["tablespace", changed name [renamed, owning,
      seq [keywords "set reset", storageOptions, .kind "AlterTableSpaceOptionsStmt"]]],
    alteredTrigger, alteredPolicy, alteredPublication, alteredSubscription, alteredStatistics]]

end IndexAdvisor.Sql.Utility
