import IndexAdvisor.Sql.Utility.Alter

/-! # Statements that are not analysed

All statements that do not work on rows, by the keywords with which they begin.
-/

namespace IndexAdvisor.Sql.Utility

open Parse Shape

/-! ## Dropping -/

def dropped (kind things : Shape) (node : String) : Shape :=
  seq [kind, ifExists, things, behavior, .kind node]

def droppedPaths : Shape :=
  oneOf [keywords "table sequence view collation conversion statistics", "materialized view",
    searchThing]

def droppedNames : Shape :=
  oneOf ["access method", "event trigger", "extension", seq [option ["procedural"], "language"],
    keywords "publication schema server"]

def droppedRoles : Shape :=
  let mapping : Shape :=
    seq ["user mapping", ifExists, "for", oneOf ["user", role], "server", name,
      .kind "DropUserMappingStmt"]
  let dropped (kind : Shape) : Shape := seq [kind, ifExists, roles, .kind "DropRoleStmt"]
  oneOf [dropped (keywords "role group"),
    ifNext "user mapping for" mapping (ifNext "user mapping if" mapping (dropped "user"))]

def droppedOperator : Shape :=
  let isGroup (ahead : List Lexeme) : Bool :=
    (ahead[1]?.any fun lexeme => isWord "class" lexeme || isWord "family" lexeme)
      && !ahead[2]?.any (isSymbol ".")
  .given isGroup
    (seq ["operator", keywords "class family", ifExists, path, "using", name, behavior,
      .kind "DropStmt"])
    (dropped "operator" (list typedOperator) "DropStmt")

def drop : Shape :=
  seq ["drop", oneOf [
    dropped droppedPaths (list path) "DropStmt",
    seq ["index", option ["concurrently"], ifExists, list path, behavior, .kind "DropStmt"],
    seq ["foreign", oneOf [dropped "table" (list path) "DropStmt",
      dropped "data wrapper" (list name) "DropStmt"]],
    dropped droppedNames (list name) "DropStmt",
    dropped (keywords "policy rule trigger") (seq [name, "on", path]) "DropStmt",
    dropped (keywords "type domain") (list type) "DropStmt",
    dropped (keywords "function procedure routine") (list routine) "DropStmt",
    dropped "aggregate" (list aggregate) "DropStmt",
    droppedOperator,
    dropped "cast" (group [type, "as", type]) "DropStmt",
    dropped "transform" (seq ["for", type, "language", name]) "DropStmt",
    droppedRoles,
    seq ["database", ifExists, name,
      option [oneOf [group [list "force"], seq ["with", group [list "force"]]]],
      .kind "DropdbStmt"],
    seq ["tablespace", ifExists, name, .kind "DropTableSpaceStmt"],
    dropped "subscription" name "DropSubscriptionStmt",
    seq ["owned by", roles, behavior, .kind "DropOwnedStmt"]]]

/-! ## Other statements -/

def refreshing : Shape :=
  seq ["refresh materialized view", option ["concurrently"], table, withData,
    .kind "RefreshMatViewStmt"]

def explanation : Shape :=
  let options : Shape :=
    oneOf [seq [keywords "analyze analyse", option ["verbose"]], option ["verbose"]]
  let explained : Shape :=
    oneOf [rows, cursorDeclaration, refreshing, execution,
      seq ["create", oneOf [
        seq [option [oneOf [temporary, "unlogged"]], newTableOfQuery],
        seq [option ["unlogged"], newStoredView]]]]
  seq ["explain", .given holdsOptions commandOptions options, explained, .kind "ExplainStmt"]

def foreignImport : Shape :=
  seq ["import foreign schema", name,
    option [oneOf ["limit to", "except"], group [list relation]],
    "from server", name, "into", name, foreignOptions, .kind "ImportForeignSchemaStmt"]

def comment : Shape :=
  seq ["comment on", oneOf [
    ifNext "large object" (seq ["large object", number]) thing, furtherThing,
    seq ["constraint", name, "on", ifNext "domain" (ifSecond (fun lexeme =>
      (columnName? lexeme).isSome) (seq ["domain", path]) path) path],
    seq [keywords "policy rule trigger", name, "on", path]],
    "is", oneOf [text, "null"], .kind "CommentStmt"]

def securityLabel : Shape :=
  seq ["security label", option ["for", wordOrText], "on",
    oneOf [seq ["large object", number], thing], "is", oneOf [text, "null"],
    .kind "SecLabelStmt"]

/-- Every statement that does not work on rows. -/
def statement : Shape :=
  oneOf ([creation, alteration, drop, grant, revocation] ++ settings ++ transactions
    ++ preparations ++ [copying] ++ maintenance ++ messages
    ++ [refreshing, explanation, foreignImport, comment, securityLabel,
      seq ["reassign owned by", roles, "to", role, .kind "ReassignOwnedStmt"]])

end IndexAdvisor.Sql.Utility
