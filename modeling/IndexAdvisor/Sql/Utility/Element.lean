import IndexAdvisor.Sql.Utility.Part

/-! # Elements of tables

Columns and constraints, as they stand in the definition of a table and where one is changed.
-/

namespace IndexAdvisor.Sql.Utility

open Parse Shape

/-! ## Sequences -/

def sequenceOption : Shape :=
  oneOf [
    seq ["as", type], seq ["cache", number], "cycle",
    seq ["increment", option ["by"], number], seq ["maxvalue", number], seq ["minvalue", number],
    seq ["no", keywords "maxvalue minvalue cycle"], seq ["owned by", path],
    seq ["sequence name", path], seq ["start", withWord, number],
    seq ["restart", option [withWord, number]], "logged", "unlogged"]

def sequenceOptions : Shape :=
  option [group [sequenceOption, .many sequenceOption]]

/-! ## Constraints of a column -/

/-- When a column gets its value by itself. -/
def generation : Shape := oneOf ["always", "by default"]

def nullTreatment : Shape :=
  option [oneOf [.word "nulls", .joined "nulls"], option ["not"], "distinct"]

def indexSpace : Shape := option ["using index tablespace", name]

def keyAction : Shape :=
  oneOf ["no action", "restrict", "cascade",
    seq ["set", oneOf ["null", "default"], option [columns]]]

/-- What is done with referencing rows when the referenced ones change. -/
def keyActions : Shape :=
  option ["on", oneOf [
    seq ["update", keyAction, option ["on delete", keyAction]],
    seq ["delete", keyAction, option ["on update", keyAction]]]]

/-- How referencing rows match the referenced ones, if it is told. -/
def keyMatch : Shape :=
  option [ifNext "match partial" (.refused "MATCH PARTIAL not yet implemented" "match partial")
    (seq ["match", keywords "full simple"])]

def reference (keyColumns : Shape) : Shape :=
  seq ["references", table, option [keyColumns], keyMatch, keyActions]

/-- A constraint of a column, but for `NOT NULL`. -/
def columnCondition : Shape :=
  oneOf [
    "null",
    seq ["unique", nullTreatment, withDefinition, indexSpace],
    seq ["primary key", withDefinition, indexSpace],
    seq ["check", group [expr], option ["no inherit"]],
    seq ["default", operand],
    seq ["generated", generation, "as", oneOf [
      seq ["identity", sequenceOptions],
      seq [group [expr], option [keywords "stored virtual"]]]],
    reference columns]

def checkTime : Shape :=
  oneOf ["deferrable", seq ["initially", keywords "deferred immediate"], "enforced"]

def columnConstraints : Shape :=
  .many (oneOf [
    seq ["constraint", name, oneOf [seq ["not null", option ["no inherit"]], columnCondition]],
    seq ["not", oneOf [seq ["null", option ["no inherit"]], keywords "deferrable enforced"]],
    columnCondition, checkTime, seq ["collate", path]])

/-- A way of storing a column: a name, or the usual one. -/
def nameOrDefault : Shape := oneOf [name, "default"]

def columnDefinition : Shape :=
  seq [name, type, option ["storage", nameOrDefault], option ["compression", nameOrDefault],
    foreignOptions, columnConstraints]

/-! ## Constraints of a table -/

def constraintTimes : Shape :=
  .many (oneOf [checkTime, seq ["not", keywords "deferrable valid enforced"], "no inherit"])

/-- Whether a period comes next, and not a column named `period`. -/
def isPeriod (ahead : List Lexeme) : Bool :=
  ahead.head?.any (isSymbol ",") && ahead[1]?.any (isWord "period")
    && ahead[2]?.any fun lexeme => (columnName? lexeme).isSome

/-- The columns of a foreign key, of which the last may be a period. -/
def periodColumns : Shape :=
  group [name, .many (.given isPeriod .nothing (seq [",", name])),
    .given isPeriod (seq [", period", name]) .nothing]

/-- Columns that an index holds besides its key, if there are any. -/
def included : Shape := option ["include", columns]

def keyIndex : Shape :=
  oneOf [seq ["using index", name],
    seq [group [list name, option ["without overlaps"]], included, withDefinition, indexSpace]]

def accessMethod : Shape := option ["using", name]

def exclusion : Shape := seq [indexKey, "with", optionOperator]

def tableCondition : Shape :=
  oneOf [
    seq ["check", group [expr]],
    seq ["not null", name],
    seq ["unique", nullTreatment, keyIndex],
    seq ["primary key", keyIndex],
    seq ["exclude", accessMethod, group [list exclusion], included, withDefinition, indexSpace,
      groupedCondition],
    seq ["foreign key", periodColumns, reference periodColumns]]

def tableConstraint : Shape :=
  seq [option ["constraint", name], tableCondition, constraintTimes]

/-- Whether a constraint of a table comes next. -/
def isConstraint (ahead : List Lexeme) : Bool :=
  match ahead with
  | first :: second :: _ =>
    ["constraint", "check", "not", "unique", "primary", "foreign"].any (isWord · first)
      || (isWord "exclude" first && (isWord "using" second || isSymbol "(" second))
  | [first] => ["constraint", "check", "not", "unique", "primary", "foreign"].any (isWord · first)
  | [] => false

/-! ## Elements -/

/-- What is taken over from another table. -/
def likeness : Shape :=
  seq ["like", table, .many (seq [keywords "including excluding",
    oneOf [keywords "comments compression constraints defaults generated identity",
      keywords "indexes statistics storage all"]])]

def element : Shape :=
  .given isConstraint tableConstraint (oneOf [likeness, columnDefinition])

def elements : Shape := group [option [list element]]

/-- An element of a table whose columns have their types from elsewhere. -/
def typedElement : Shape :=
  .given isConstraint tableConstraint (seq [name, option ["with options"], columnConstraints])

/-- The elements of a table whose columns have their types from elsewhere, if there are any. -/
def typedElements : Shape := option [group [list typedElement]]

def member : Shape := seq [name, type, collation]

def partitionKey : Shape :=
  seq [oneOf [group [expr], .given (fun ahead =>
      ahead.head?.any (fun lexeme => (columnName? lexeme).isSome)
        && !ahead[1]?.any fun lexeme => isSymbol "(" lexeme || isSymbol "." lexeme) name call],
    collation, option [path]]

def partitioning : Shape := option ["partition by", name, group [list partitionKey]]

def partitionBound : Shape :=
  oneOf ["default",
    seq ["for values", oneOf [
      seq ["with", group [list (seq [freeWord, whole])]],
      seq ["in", group [list expr]],
      seq ["from", group [list expr], "to", group [list expr]]]]]

end IndexAdvisor.Sql.Utility
