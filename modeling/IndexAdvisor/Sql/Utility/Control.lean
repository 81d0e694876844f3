import IndexAdvisor.Sql.Utility.Part

/-! # Statements of control

Settings, transactions, prepared statements, cursors, copying, maintenance and messages.
-/

namespace IndexAdvisor.Sql.Utility

open Parse Shape

/-! ## Settings -/

def settingName : Shape := seq [name, .many (seq [".", name])]

/-- Whether a setting is named, and not a word with a form of its own. -/
def isSettingName (ahead : List Lexeme) : Bool :=
  ahead[1]?.any fun lexeme =>
    isSymbol "=" lexeme || isSymbol "." lexeme || isWord "to" lexeme || isWord "from" lexeme

def plainSetting : Shape :=
  seq [settingName, oneOf [
    "from current",
    seq [oneOf ["to", "="], oneOf ["default", list (oneOf [setting, number])]]]]

def zone : Shape :=
  oneOf [text, plainName, number, "default", "local",
    seq ["interval", oneOf [
      seq [group [whole], text],
      seq [text, .part (fun lexeme =>
          ["year", "month", "day", "hour", "minute", "second"].any (isWord · lexeme)) fun _ =>
        discard Grammar.intervalFields?]]]]

def routineSetting : Shape :=
  .given isSettingName plainSetting (oneOf [
    seq ["time zone", zone],
    .refused "current database cannot be changed" (seq ["catalog", text]),
    seq ["schema", text],
    seq ["names", option [oneOf [text, "default"]]],
    seq ["role", wordOrText],
    seq ["session authorization", oneOf [wordOrText, "default"]],
    seq ["xml option", keywords "document content"],
    seq ["transaction snapshot", text],
    plainSetting])

def transactionMode : Shape :=
  oneOf [
    seq ["isolation level", oneOf [seq ["read", keywords "uncommitted committed"],
      "repeatable read", "serializable"]],
    seq ["read", keywords "only write"], "deferrable", "not deferrable"]

def transactionModes : Shape :=
  seq [transactionMode, .many (seq [option [","], transactionMode])]

def sessionSetting : Shape :=
  .given isSettingName plainSetting
    (ifNext "transaction snapshot" routineSetting
      (oneOf [
        seq ["transaction", transactionModes],
        ifNext "session characteristics" (seq ["session characteristics as transaction",
          transactionModes]) routineSetting]))

def sessionSettings : Shape :=
  .given isSettingName plainSetting
    (ifNext "session characteristics as" sessionSetting
      (ifNext "session authorization" sessionSetting
        (oneOf [
          seq ["local", sessionSetting],
          seq ["session", sessionSetting],
          seq ["constraints", oneOf ["all", list table], keywords "deferred immediate",
            .kind "ConstraintsSetStmt"],
          sessionSetting])))

def resetName : Shape :=
  oneOf [
    ifNext "time zone" "time zone"
      (ifNext "transaction isolation" "transaction isolation level"
        (ifNext "session authorization" "session authorization" settingName)),
    "all"]

/-- `SET` or `RESET` for the settings of a role, a database or a routine. -/
def ownSetting (form : Shape) : Shape := oneOf [seq ["set", form], seq ["reset", resetName]]

def settings : List Shape :=
  [seq ["set", .kind "VariableSetStmt", sessionSettings],
   seq ["reset", .kind "VariableSetStmt", resetName],
   seq ["show", .kind "VariableShowStmt", resetName]]

/-! ## Transactions -/

def transactionWord : Shape := option [keywords "work transaction"]

/-- Whether another transaction follows, if it is told. -/
def chaining : Shape := option ["and", option ["no"], "chain"]

def savepoint : Shape :=
  ifNext "savepoint" (ifSecond (fun lexeme => (columnName? lexeme).isSome)
    (seq ["savepoint", name]) name) name

def transactions : List Shape :=
  [seq [keywords "abort end", transactionWord, chaining],
   seq ["begin", transactionWord, option [transactionModes]],
   seq ["start transaction", option [transactionModes]],
   seq ["commit", oneOf [seq ["prepared", text], seq [transactionWord, chaining]]],
   seq ["rollback", oneOf [seq ["prepared", text],
     seq [transactionWord, oneOf [seq ["to", savepoint], chaining]]]],
   seq ["savepoint", name],
   seq ["release", savepoint]].map fun shape => seq [shape, .kind "TransactionStmt"]

/-! ## Prepared statements and cursors -/

def arguments : Shape := option [group [list expr]]

def execution : Shape := seq ["execute", name, arguments]

def cursorDeclaration : Shape :=
  seq ["declare", name,
    .many (oneOf ["no scroll", keywords "scroll binary asensitive insensitive"]), "cursor",
    option [keywords "with without", "hold"], "for", query]

def cursor : Shape := seq [option [keywords "from in"], name]

/-- Whether a word is followed by a cursor, and so tells which rows are fetched. -/
def isDirection (lexeme : Lexeme) : Bool :=
  isWord "from" lexeme || isWord "in" lexeme || (columnName? lexeme).isSome

/-- Whether a word is followed by a number of rows or a cursor. -/
def isCounted (lexeme : Lexeme) : Bool :=
  isDirection lexeme || isWord "all" lexeme || isSymbol "+" lexeme || isSymbol "-" lexeme
    || isMagnitude lexeme

def fetched : Shape :=
  ifSecond isCounted
    (oneOf [
      seq [keywords "absolute relative", signedWhole, cursor],
      seq [keywords "forward backward", oneOf [signedWhole, "all", .nothing], cursor],
      seq [keywords "next prior first last", cursor],
      seq [oneOf [signedWhole, "all"], cursor],
      cursor])
    (oneOf [seq [oneOf [signedWhole, "all"], cursor], cursor])

/-- Statements about prepared statements and cursors. -/
def preparations : List Shape :=
  [seq ["prepare", ifSecond isText
     (seq ["transaction", text, .kind "TransactionStmt"])
     (seq [.kind "PrepareStmt", name, option [group [list type]], "as", rows])],
   seq [execution, .kind "ExecuteStmt"],
   seq ["deallocate", .kind "DeallocateStmt",
     ifSecond (fun lexeme => (columnName? lexeme).isSome || isWord "all" lexeme)
       (seq ["prepare", oneOf ["all", name]]) (oneOf ["all", name])],
   seq [cursorDeclaration, .kind "DeclareCursorStmt"],
   seq [keywords "fetch move", fetched, .kind "FetchStmt"],
   seq ["close", oneOf ["all", name], .kind "ClosePortalStmt"]]

/-! ## Copying -/

def columnsOrAll : Shape := oneOf [list name, "*"]

def copyWord : Shape :=
  oneOf [
    keywords "binary freeze csv header",
    seq [keywords "delimiter null quote escape", option ["as"], text],
    seq ["force", oneOf ["quote", "null", "not null"], columnsOrAll],
    seq ["encoding", text]]

def copyOption : Shape :=
  seq [label, option [oneOf [setting, number, "*", "default", group [list setting]]]]

def copyOptions : Shape := seq [withWord, oneOf [group [list copyOption], .many copyWord]]

def copyPlace : Shape := oneOf [seq ["program", text], text, "stdin", "stdout"]

/-- How the rows of a table are written, with their options. -/
def copyTexts : Shape := seq [option [option ["using"], "delimiters", text], copyOptions]

def copying : Shape :=
  seq ["copy", oneOf [
    seq [group [rows], "to", copyPlace, copyOptions],
    seq [option ["binary"], table, option [columns], oneOf [
      seq ["from", copyPlace, copyTexts, condition],
      seq ["to", copyPlace, copyTexts, option [
        .refused "WHERE clause not allowed with COPY TO" (seq ["where", expr])]]]]],
    .kind "CopyStmt"]

/-! ## Maintenance -/

def maintained : Shape := seq [relation, option [columns]]

def lockMode : Shape :=
  oneOf [
    seq ["access", keywords "share exclusive"],
    seq ["row", keywords "share exclusive"],
    seq ["share", option [oneOf ["update exclusive", "row exclusive"]]],
    "exclusive"]

/-- Whether options of a command come next, and not a statement in parentheses. -/
def holdsOptions (ahead : List Lexeme) : Bool :=
  match ahead with
  | first :: second :: third :: _ =>
    isSymbol "(" first && !Grammar.startsQuery second third && !isSymbol "(" second
  | [first, second] => isSymbol "(" first && !isSymbol "(" second
  | _ => false

def maintenance : List Shape :=
  [seq ["vacuum", oneOf [commandOptions, seq [option ["full"], option ["freeze"],
     option ["verbose"], option [keywords "analyze analyse"]]], option [list maintained],
     .kind "VacuumStmt"],
   seq [keywords "analyze analyse", oneOf [commandOptions, option ["verbose"]],
     option [list maintained], .kind "VacuumStmt"],
   seq ["cluster", oneOf [
     seq [commandOptions, option [table, option ["using", name]]],
     seq [option ["verbose"], option [table, option [oneOf [seq ["using", name],
       seq ["on", table]]]]]], .kind "ClusterStmt"],
   seq ["reindex", option [commandOptions], oneOf [
     seq [keywords "index table", option ["concurrently"], table],
     seq ["schema", option ["concurrently"], name],
     seq [keywords "system database", option ["concurrently"], option [name]]],
     .kind "ReindexStmt"],
   seq ["truncate", option ["table"], list relation,
     option [keywords "continue restart", "identity"], behavior, .kind "TruncateStmt"],
   seq ["lock", option ["table"], list relation, option ["in", lockMode, "mode"],
     option ["nowait"], .kind "LockStmt"],
   seq ["checkpoint", .kind "CheckPointStmt"],
   seq ["discard", keywords "all temp temporary plans sequences", .kind "DiscardStmt"],
   seq ["load", text, .kind "LoadStmt"]]

/-! ## Messages and calls -/

def notification : Shape := seq ["notify", name, option [",", text]]

/-- Statements that send or wait for messages, and calls. -/
def messages : List Shape :=
  [seq [notification, .kind "NotifyStmt"],
   seq ["listen", name, .kind "ListenStmt"],
   seq ["unlisten", oneOf [name, "*"], .kind "UnlistenStmt"],
   seq ["call", routineCall, .kind "CallStmt"],
   let item := oneOf [text, seq ["language", wordOrText]]
   seq ["do", item, .many item, .kind "DoStmt"]]

end IndexAdvisor.Sql.Utility
