import IndexAdvisor.Sql.IntervalFields
import IndexAdvisor.Sql.Keyword
import IndexAdvisor.Sql.Phrase
import IndexAdvisor.Sql.Precedence
import IndexAdvisor.Sql.Tree
import IndexAdvisor.Text.Uppercase

/-! # Printed statements

A statement as one line: keywords in upper case, one space between words, a comma and a space
between items, and parentheses only where the tree asks for them.
-/

namespace IndexAdvisor.Sql.Printed

open Phrase (word given joined commas enclosed enclosedIf clauses)

/-! ## Names and constants -/

/-- A text between quotes; a quote inside is doubled. -/
def quotedBy (quote : Char) (text : String) : String :=
  let body := text.toList.flatMap fun c => if c = quote then [quote, quote] else [c]
  .ofList (quote :: body ++ [quote])

/-- Whether characters are those of a name in small letters; one line end may close them. -/
def isSmallName : List Char → Bool
  | [] => true
  | ['\n'] => true
  | c :: cs => (c = '_' || c.isLower || c.isDigit) && isSmallName cs

/-- Whether a name is written without quotes. -/
def isBareName (name : String) : Bool :=
  match name.toList with
  | [] => false
  | c :: cs =>
    (c = '_' || c.isLower) && isSmallName cs
      && !(Keyword.reservedWords.contains name || Keyword.functionNameWords.contains name)

def nameText (name : String) : String := if isBareName name then name else quotedBy '"' name

def pathText (names : List String) : String := ".".intercalate (names.map nameText)

def namesText (names : List String) : String :=
  "(" ++ ", ".intercalate (names.map nameText) ++ ")"

def constantText : Constant → String
  | .integer n => toString n
  | .number source => source
  | .text content => quotedBy '\'' content
  | .bits radix digits => .singleton radix ++ quotedBy '\'' digits
  | .boolean true => "TRUE"
  | .boolean false => "FALSE"
  | .null => "NULL"

def operatorPath (o : Operator) : String := ".".intercalate (o.schema.map nameText ++ [o.name])

def operatorText (o : Operator) : String :=
  if o.schema.isEmpty then o.name else "OPERATOR(" ++ operatorPath o ++ ")"

/-- The pattern matches that operators stand for. -/
def matchWords : List (String × String) :=
  [("~~", "LIKE"), ("!~~", "NOT LIKE"), ("~~*", "ILIKE"), ("!~~*", "NOT ILIKE")]

/-- The operator of a comparison with several values. -/
def quantifiedOperator (o : Operator) : String :=
  if o.schema.isEmpty then (matchWords.lookup o.name).getD o.name else operatorText o

def tableText (t : TableName) : String :=
  pathText (t.catalog.toList ++ t.schema.toList ++ [t.name])

def aliasText : Option Alias → String
  | none => ""
  | some ⟨name, []⟩ => " AS " ++ nameText name
  | some ⟨name, columns⟩ => " AS " ++ nameText name ++ " " ++ namesText columns

/-! ## Parentheses -/

/-- How tightly the outermost operator of an expression binds. -/
def precedence : Expr → Nat
  | .chain .or _ => Precedence.or
  | .chain .and _ => Precedence.and
  | .negation _ => Precedence.not
  | .nullTest .. | .truthTest .. | .documentTest _ | .distinctFrom .. => Precedence.truth
  | .binary o .. =>
    if o.schema.isEmpty then Precedence.ofOperator o.name else Precedence.operator
  | .quantified .. | .quantifiedQuery .. => Precedence.operator
  | .inList .. | .inQuery .. | .pattern .. | .between .. => Precedence.range
  | .prefixed o _ =>
    if o.schema.isEmpty && (o.name = "+" || o.name = "-") then Precedence.sign
    else Precedence.operator
  | .collate .. => Precedence.collation
  | _ => Precedence.atom

/-- Whether an expression looks its operand up in a list. -/
def isMembership : Expr → Bool
  | .inList .. | .inQuery .. | .quantified .. | .quantifiedQuery .. => true
  | _ => false

def needsParentheses (level : Nat) (onRight : Bool) (operand : Expr) : Bool :=
  let own := precedence operand
  if own < level then true
  else if level < own then false
  else if level = Precedence.truth || level = Precedence.comparison || level = Precedence.range then
    onRight || !isMembership operand
  else if level = Precedence.sign then false
  else onRight

/-- Whether an expression may stand where no condition may. -/
def isPlainOperand : Expr → Bool
  | .binary .. | .prefixed .. | .distinctFrom .. | .documentTest _ => true
  | e => precedence e = Precedence.atom

/-- Whether an expression is a chain of conditions. -/
def isChain : Expr → Bool
  | .chain .. => true
  | _ => false

/-- An operand of an operator. Where no condition may stand, one as operand is in parentheses. -/
def operandPhrase (plain : Bool) (level : Nat) (onRight : Bool) (e : Expr) (text : Phrase) :
    Phrase :=
  enclosedIf (needsParentheses level onRight e || (plain && !isPlainOperand e)) text

/-- Whether a path starts with an element rather than a field. -/
def startsWithElement : List Step → Bool
  | .index _ :: _ | .slice .. :: _ => true
  | _ => false

/-- The value a path starts from. -/
def basePhrase (steps : List Step) (base : Expr) (text : Phrase) : Phrase :=
  match base with
  | .parameter _ | .subquery _ => text
  | .call .. => enclosed (enclosed text)
  | .column .. => enclosedIf (!startsWithElement steps) (enclosed text)
  | _ => enclosed text

/-! ## Types -/

/-- How the types that keywords name are written: before and after their modifiers. -/
def systemTypes : List (String × String × String) :=
  [("bool", "boolean", ""), ("bpchar", "char", ""), ("varchar", "varchar", ""),
   ("int2", "smallint", ""), ("int4", "integer", ""), ("int8", "bigint", ""),
   ("float4", "real", ""), ("float8", "double precision", ""), ("numeric", "numeric", ""),
   ("interval", "interval", ""), ("time", "time", ""), ("timetz", "time", " with time zone"),
   ("timestamp", "timestamp", ""), ("timestamptz", "timestamp", " with time zone"),
   ("varbit", "bit varying", "")]

/-- A type's name: before and after its modifiers. The type `"char"` is not `char`. -/
def typeWords (names : List String) : String × String :=
  match names with
  | ["pg_catalog", name] => (systemTypes.lookup name).getD (pathText names, "")
  | ["char"] => ("\"char\"", "")
  | _ => (pathText names, "")

def intervalWords (fields : Int) : String :=
  ((IntervalFields.ranges.find? (·.2 = fields)).map (" " ++ ·.1)).getD ""

/-- The modifiers of a type, given their texts. The length of a padded text and the fields of an
    interval have to be numbers; a length of one is not written. -/
def modifiersPhrase (names : List String) (modifiers : List Expr) (texts : List Phrase) :
    Phrase :=
  match names, modifiers with
  | _, [] => ""
  | ["pg_catalog", "bpchar"], .constant (.integer n) :: _ =>
    if n = 1 then "" else enclosed (commas texts)
  | ["pg_catalog", "interval"], .constant (.integer n) :: _ =>
    intervalWords n ++ match texts with
      | _ :: digits :: _ => " " ++ enclosed digits
      | _ => ""
  | ["pg_catalog", "bpchar"], _ | ["pg_catalog", "interval"], _ => .impossible
  | _, _ => enclosed (commas texts)

/-- Whether a cast is written as a literal with the type before it. -/
def isCharacterLiteral : Expr → TypeName → Bool
  | .constant (.text _), .mk false ["pg_catalog", "bpchar"] [] [] => true
  | _, _ => false

def boundText : Option Nat → String
  | none => "[]"
  | some n => s!"[{n}]"

/-! ## Parts of queries -/

def patternWords (form : PatternForm) (negated : Bool) : String :=
  (if negated then "NOT " else "") ++ match form with
    | .like => "LIKE"
    | .ilike => "ILIKE"
    | .similar => "SIMILAR TO"

def truthWord : TruthTest → String
  | .isTrue => "TRUE"
  | .isFalse => "FALSE"
  | .isUnknown => "UNKNOWN"

def isOrNot (negated : Bool) : String := if negated then " IS NOT " else " IS "

def quantifierWord : Quantifier → String
  | .any => "ANY"
  | .all => "ALL"

def directionText : SortDirection → String
  | .unspecified => ""
  | .ascending => " ASC"
  | .descending => " DESC"
  | .using o => " USING " ++ operatorPath o

def nullsText : NullsOrder → String
  | .unspecified => ""
  | .first => " NULLS FIRST"
  | .last => " NULLS LAST"

def frameBoundPhrase (bound : FrameBound) (offset : Phrase) : Phrase :=
  match bound with
  | .unboundedPreceding => "UNBOUNDED PRECEDING"
  | .preceding => offset ++ " PRECEDING"
  | .currentRow => "CURRENT ROW"
  | .following => offset ++ " FOLLOWING"
  | .unboundedFollowing => "UNBOUNDED FOLLOWING"

/-- A window frame, given the texts of its offsets. -/
def framePhrase (frame : Option Frame) (start finish : Phrase) : Phrase :=
  match frame with
  | none => ""
  | some f =>
    let bounds := match f.finish with
      | none => frameBoundPhrase f.start start
      | some bound => word "BETWEEN" ++ frameBoundPhrase f.start start ++ " " ++ word "AND"
          ++ frameBoundPhrase bound finish
    word f.unit ++ bounds ++ ((f.exclusion.map (" EXCLUDE " ++ ·)).getD "")

def joinWord : JoinKind → String
  | .inner => "INNER"
  | .left => "LEFT"
  | .right => "RIGHT"
  | .full => "FULL"

def joinWords (kind : JoinKind) (natural conditional : Bool) : String :=
  if natural then "NATURAL " ++ joinWord kind ++ " JOIN"
  else if kind = .inner && !conditional then "CROSS JOIN"
  else joinWord kind ++ " JOIN"

/-- Whether an item is a join without an alias, which has parentheses of its own. -/
def isPlainJoin : FromItem → Bool
  | .join _ _ _ _ _ _ _ byname => byname.isNone
  | _ => false

def setWords (operator : SetOperator) (all : Bool) : String :=
  (match operator with
    | .union => "UNION"
    | .intersect => "INTERSECT"
    | .except => "EXCEPT") ++ (if all then " ALL" else "")

/-- Whether a query as operand of a set operation needs parentheses. -/
def isCompoundQuery : Query → Bool
  | .mk _ ctes body order limit _ offset locks =>
    !ctes.isEmpty || !order.isEmpty || limit.isSome || offset.isSome || !locks.isEmpty ||
      match body with
      | .combined .. => true
      | _ => false

def intoText (into : Option IntoTable) : String :=
  match into with
  | none => ""
  | some t => "INTO " ++ ((t.persistence.map (· ++ " ")).getD "") ++ tableText t.table

def lockText (l : Lock) : String :=
  l.strength
    ++ (if l.tables.isEmpty then "" else " OF " ++ ", ".intercalate (l.tables.map tableText))
    ++ ((l.waiting.map (" " ++ ·)).getD "")

def locksText (locks : List Lock) : String :=
  if locks.isEmpty then "" else "FOR " ++ ", ".intercalate (locks.map lockText)

def materializedText : Materialized → String
  | .unspecified => ""
  | .always => "MATERIALIZED "
  | .never => "NOT MATERIALIZED "

/-- A clause with its items, nothing if there are none. -/
def clauseOf (keyword : String) (items : List Phrase) : Phrase :=
  if items.isEmpty then "" else keyword ++ " " ++ commas items

def clauseIf (keyword : String) (item : Option Phrase) : Phrase :=
  match item with
  | none => ""
  | some text => keyword ++ " " ++ text

/-- Whether a number of rows is written in parentheses. -/
def isOperation : Expr → Bool
  | .binary .. | .prefixed .. => true
  | _ => false

/-- The number of rows of a query, given its text. -/
def limitPhrase (limit : Option Expr) (ties : Bool) (text : Option Phrase) : Phrase :=
  match limit, text with
  | some count, some text =>
    let rows := match count with
      | .constant .null => "ALL"
      | _ => enclosedIf (isOperation count) text
    if ties then "FETCH FIRST " ++ rows ++ " ROWS WITH TIES " else "LIMIT " ++ rows
  | _, _ => ""

def callOpening (form : CallForm) : Phrase :=
  if form.star then "*" else if form.distinct then word "DISTINCT" else ""

/-- The arguments of a call; the last may be an array of arguments. -/
def argumentsPhrase (variadic : Bool) : List Phrase → Phrase
  | [] => ""
  | [last] => if variadic then "VARIADIC " ++ last else last
  | first :: rest => first ++ ", " ++ argumentsPhrase variadic rest

/-- The parts of a window, in parentheses, given their texts. -/
def windowParts (base : Option String) (partition order : List Phrase) (frame : Phrase) : Phrase :=
  enclosed (clauses [(base.map nameText).getD "", clauseOf "PARTITION BY" partition,
    clauseOf "ORDER BY" order, frame])

def selectPhrase (distinct : Bool) (on targets : List Phrase) (into : Option IntoTable)
    (sources : List Phrase) (condition : Option Phrase) (groupDistinct : Bool)
    (group : List Phrase) (having : Option Phrase) (windows : List Phrase) : Phrase :=
  let select := "SELECT" ++ given distinct " DISTINCT"
    ++ given (!on.isEmpty) (" ON " ++ enclosed (commas on))
    ++ given (!targets.isEmpty) (" " ++ commas targets)
  clauses [select, intoText into, clauseOf "FROM" sources, clauseIf "WHERE" condition,
    clauseOf (if groupDistinct then "GROUP BY DISTINCT" else "GROUP BY") group,
    clauseIf "HAVING" having, clauseOf "WINDOW" windows]

def conflictTarget (constraint : Option String) (keys : List Phrase) (condition : Option Phrase) :
    Phrase :=
  let names := (constraint.map ("ON CONSTRAINT " ++ nameText ·)).getD ""
  let columns := given (!keys.isEmpty) (" " ++ enclosed (commas keys))
  clauses ["ON CONFLICT" ++ columns, names, clauseIf "WHERE" condition]

def ctesPhrase (recursive : Bool) (ctes : List Phrase) : Phrase :=
  clauseOf (if recursive then "WITH RECURSIVE" else "WITH") ctes

/-- The other name of a changed table. -/
def bynameText (byname : Option String) : String :=
  (byname.map (" AS " ++ nameText ·)).getD ""

def rowNameText (n : RowName) : String :=
  (if n.isNew then "NEW" else "OLD") ++ " AS " ++ nameText n.name

def returningPhrase (names : List RowName) (targets : List Phrase) : Phrase :=
  if names.isEmpty then clauseOf "RETURNING" targets
  else
    let named := ", ".intercalate (names.map rowNameText)
    clauseOf s!"RETURNING WITH ({named})" targets

/-- What a match compares with: a pattern, and perhaps the character that escapes in it. -/
def patternPhrase (form : PatternForm) (enclosedPattern pattern : Phrase)
    (escape : Option Phrase) : Phrase :=
  match form, escape with
  | _, none => enclosedPattern
  | .similar, some e => enclosedPattern ++ " ESCAPE " ++ e
  | _, some e => "pg_catalog.like_escape(" ++ pattern ++ ", " ++ e ++ ")"

def fieldPhrase (field : Expr) (text : Phrase) : Phrase :=
  match field with
  | .constant (.text name) => Text.uppercase name
  | _ => text

/-- Whether a call stands for `POSITION`, whose operands hold no conditions. -/
def isPosition (name : List String) (form : CallForm) : Bool :=
  form.special && name = ["pg_catalog", "position"]

/-- A call that is written as a form of its own, given the texts of its arguments. -/
def specialCall? (name : List String) (arguments : List Expr) (texts : List Phrase) :
    Option Phrase :=
  match name, arguments, texts with
  | ["pg_catalog", "extract"], [field, _], [fieldText, moment] =>
    some ("EXTRACT(" ++ fieldPhrase field fieldText ++ " FROM " ++ moment ++ ")")
  | ["pg_catalog", "position"], [whole, part], [wholeText, partText] =>
    some ("position(" ++ enclosedIf (!isPlainOperand part) partText ++ " IN "
      ++ enclosedIf (!isPlainOperand whole) wholeText ++ ")")
  | _, _, _ => none

/-- A call without filter and window, given the texts of its arguments and sort keys. -/
def callPhrase (name : List String) (form : CallForm) (arguments : List Expr)
    (texts order : List Phrase) : Phrase :=
  match if form.special then specialCall? name arguments texts else none with
  | some text => text
  | none =>
    let sorted := word "ORDER BY" ++ commas order
    let inner := argumentsPhrase form.variadic texts
      ++ given (!order.isEmpty && !form.withinGroup) (" " ++ sorted)
    pathText name ++ enclosed (callOpening form ++ inner)
      ++ given form.withinGroup (" WITHIN GROUP " ++ enclosed sorted)

/-- The condition of the rows that an aggregate takes. -/
def filterPhrase (filter : Option Phrase) : Phrase :=
  match filter with
  | none => ""
  | some condition => " FILTER " ++ enclosed (word "WHERE" ++ condition)

/-! ## Trees

The flag `plain` tells that the text is part of an operand that no condition may stand in. -/

mutual

def expr (plain : Bool) : Expr → Phrase
  | .column names star =>
    ".".intercalate (names.map nameText ++ if star then ["*"] else [])
  | .parameter n => s!"${n}"
  | .constant c => constantText c
  | .access base steps => basePhrase steps base (expr plain base) ++ stepPhrases plain steps
  | .prefixed o e =>
    let level := precedence (.prefixed o e)
    operatorText o ++ " " ++ operandPhrase plain level true e (expr plain e)
  | .binary o l r =>
    let level := precedence (.binary o l r)
    operandPhrase plain level false l (expr plain l) ++ " " ++ operatorText o ++ " "
      ++ operandPhrase plain level true r (expr plain r)
  | .quantified o q l r =>
    operandPhrase plain Precedence.operator false l (expr plain l) ++ " "
      ++ quantifiedOperator o ++ " " ++ quantifierWord q ++ enclosed (expr plain r)
  | .distinctFrom negated l r =>
    operandPhrase plain Precedence.truth false l (expr plain l) ++ isOrNot negated
      ++ "DISTINCT FROM " ++ operandPhrase plain Precedence.truth true r (expr plain r)
  | .nullIf l r => "NULLIF(" ++ expr plain l ++ ", " ++ expr plain r ++ ")"
  | .inList negated l items =>
    operandPhrase plain Precedence.range false l (expr plain l)
      ++ (if negated then " NOT IN " else " IN ") ++ enclosed (commas (exprs plain items))
  | .pattern form negated l r escape =>
    let text := expr plain r
    operandPhrase plain Precedence.range false l (expr plain l) ++ " "
      ++ patternWords form negated ++ " "
      ++ patternPhrase form (operandPhrase plain Precedence.range true r text) text
        (option plain escape)
  | .between symmetric negated e low high =>
    expr plain e ++ (if negated then " NOT BETWEEN " else " BETWEEN ")
      ++ (if symmetric then "SYMMETRIC " else "")
      ++ enclosedIf (!isPlainOperand low) (expr true low) ++ " AND "
      ++ operandPhrase plain Precedence.range true high (expr plain high)
  | .chain connective items =>
    joined (match connective with
      | .and => " AND "
      | .or => " OR ") (conditions plain items)
  | .negation e => word "NOT" ++ enclosedIf (isChain e) (expr plain e)
  | .nullTest negated e =>
    operandPhrase plain Precedence.truth false e (expr plain e) ++ isOrNot negated ++ "NULL"
  | .truthTest test negated e =>
    operandPhrase plain Precedence.truth false e (expr plain e) ++ isOrNot negated
      ++ truthWord test
  | .documentTest e =>
    operandPhrase plain Precedence.truth false e (expr plain e) ++ " IS DOCUMENT"
  | .cast e type =>
    if isCharacterLiteral e type then "char " ++ expr plain e
    else "CAST(" ++ expr plain e ++ " AS " ++ typeName plain type ++ ")"
  | .collate e names =>
    operandPhrase plain Precedence.collation false e (expr plain e) ++ " COLLATE "
      ++ pathText names
  | .call name form arguments order filter window =>
    callPhrase name form arguments (exprs (plain || isPosition name form) arguments)
      (sortKeys plain order) ++ filterPhrase (option plain filter) ++ overWindow plain window
  | .named name e => nameText name ++ " => " ++ expr plain e
  | .case subject whens otherwise =>
    clauses [word "CASE" ++ (option plain subject).getD "", whenPhrases plain whens,
      clauseIf "ELSE" (option plain otherwise), "END"]
  | .row explicit items =>
    (if explicit then "ROW" else "") ++ enclosed (commas (exprs plain items))
  | .array items => "ARRAY[" ++ commas (exprs plain items) ++ "]"
  | .coalesce items => "COALESCE" ++ enclosed (commas (exprs plain items))
  | .extreme greatest items =>
    (if greatest then "GREATEST" else "LEAST") ++ enclosed (commas (exprs plain items))
  | .grouping items => " GROUPING" ++ enclosed (commas (exprs plain items))
  | .keywordValue keyword precision =>
    keyword.toUpper ++ ((precision.map fun n => s!"({n})").getD "")
  | .subquery query => enclosed (queryPhrase plain false query)
  | .existsQuery query => "EXISTS " ++ enclosed (queryPhrase plain false query)
  | .arrayQuery query => "ARRAY" ++ enclosed (queryPhrase plain false query)
  | .inQuery e query =>
    operandPhrase plain Precedence.range false e (expr plain e) ++ " IN "
      ++ enclosed (queryPhrase plain false query)
  | .quantifiedQuery o q e query =>
    operandPhrase plain Precedence.operator false e (expr plain e) ++ " "
      ++ quantifiedOperator o ++ " " ++ quantifierWord q ++ " "
      ++ enclosed (queryPhrase plain false query)
  | .default => "DEFAULT"
  | .cursorRow cursor => "CURRENT OF " ++ nameText cursor
  | .form parts => partPhrases plain parts

def exprs (plain : Bool) : List Expr → List Phrase
  | [] => []
  | e :: es => expr plain e :: exprs plain es

/-- The conditions of a chain; a chain inside stands in parentheses. -/
def conditions (plain : Bool) : List Expr → List Phrase
  | [] => []
  | e :: es => enclosedIf (isChain e) (expr plain e) :: conditions plain es

def option (plain : Bool) : Option Expr → Option Phrase
  | none => none
  | some e => some (expr plain e)

def partPhrases (plain : Bool) : List Part → Phrase
  | [] => ""
  | p :: rest => partPhrase plain p ++ partPhrases plain rest

def partPhrase (plain : Bool) : Part → Phrase
  | .words text => text
  | .name name => nameText name
  | .operand _ value => expr plain value
  | .type type => typeName plain type
  | .query query => queryPhrase plain false query
  | .source source => sourcePhrase plain source
  | .window window => overWindow plain window
  | .order keys => commas (sortKeys plain keys)
  | .destinations items => commas (destinationPhrases plain items)
  | .assignments items => commas (assignmentPhrases plain items)
  | .returning returning => returningOf plain returning
  | .list items => commas (partList plain items)
  | .group parts => partPhrases plain parts

def partList (plain : Bool) : List Part → List Phrase
  | [] => []
  | p :: rest => partPhrase plain p :: partList plain rest

def stepPhrases (plain : Bool) : List Step → Phrase
  | [] => ""
  | s :: rest => stepPhrase plain s ++ stepPhrases plain rest

def stepPhrase (plain : Bool) : Step → Phrase
  | .field name => "." ++ nameText name
  | .star => ".*"
  | .index e => "[" ++ expr plain e ++ "]"
  | .slice low high =>
    "[" ++ (option plain low).getD "" ++ ":" ++ (option plain high).getD "" ++ "]"

def whenPhrase (plain : Bool) : When → Phrase
  | .mk condition result =>
    "WHEN " ++ expr plain condition ++ " THEN " ++ expr plain result

def whenPhrases (plain : Bool) : List When → Phrase
  | [] => ""
  | [w] => whenPhrase plain w
  | w :: rest => whenPhrase plain w ++ " " ++ whenPhrases plain rest

def typeName (plain : Bool) : TypeName → Phrase
  | .mk isSet names modifiers bounds =>
    let (before, after) := typeWords names
    (if isSet then "SETOF " else "") ++ before
      ++ modifiersPhrase names modifiers (exprs plain modifiers) ++ after
      ++ String.join (bounds.map boundText)

def sortKey (plain : Bool) : SortKey → Phrase
  | .mk key direction nulls => expr plain key ++ directionText direction ++ nullsText nulls

def sortKeys (plain : Bool) : List SortKey → List Phrase
  | [] => []
  | k :: ks => sortKey plain k :: sortKeys plain ks

def overWindow (plain : Bool) : Window → Phrase
  | .absent => ""
  | .reference name => " OVER " ++ nameText name
  | .mk _ base partition order frame start finish =>
    " OVER " ++ windowParts base (exprs plain partition) (sortKeys plain order)
      (framePhrase frame ((option plain start).getD "") ((option plain finish).getD ""))

def windowPhrase (plain : Bool) : Window → Phrase
  | .mk name base partition order frame start finish =>
    nameText (name.getD "") ++ " AS "
      ++ windowParts base (exprs plain partition) (sortKeys plain order)
        (framePhrase frame ((option plain start).getD "") ((option plain finish).getD ""))
  | .reference name => nameText name
  | .absent => ""

def windowPhrases (plain : Bool) : List Window → List Phrase
  | [] => []
  | w :: ws => windowPhrase plain w :: windowPhrases plain ws

def targetPhrase (plain : Bool) : Target → Phrase
  | .mk value label => expr plain value ++ ((label.map (" AS " ++ nameText ·)).getD "")

def targetPhrases (plain : Bool) : List Target → List Phrase
  | [] => []
  | t :: ts => targetPhrase plain t :: targetPhrases plain ts

def groupPhrase (plain : Bool) : GroupKey → Phrase
  | .key value => expr plain value
  | .nothing => "()"
  | .cube items => "CUBE " ++ enclosed (commas (exprs plain items))
  | .rollup items => "ROLLUP " ++ enclosed (commas (exprs plain items))
  | .sets items => "GROUPING SETS " ++ enclosed (commas (groupPhrases plain items))

def groupPhrases (plain : Bool) : List GroupKey → List Phrase
  | [] => []
  | k :: ks => groupPhrase plain k :: groupPhrases plain ks

def resultColumns (plain : Bool) : List ResultColumn → List Phrase
  | [] => []
  | .mk name type collation :: rest =>
    (nameText name ++ " " ++ typeName plain type
      ++ (if collation.isEmpty then "" else " COLLATE " ++ pathText collation))
      :: resultColumns plain rest

def sourceCalls (plain : Bool) : List SourceCall → List Phrase
  | [] => []
  | .mk call columns :: rest =>
    let typed := " AS " ++ enclosed (commas (resultColumns plain columns))
    (expr plain call ++ given (!columns.isEmpty) typed) :: sourceCalls plain rest

def sourcePhrase (plain : Bool) : FromItem → Phrase
  | .table only name byname => (if only then "ONLY " else "") ++ tableText name ++ aliasText byname
  | .query lateral query byname =>
    (if lateral then "LATERAL " else "") ++ enclosed (queryPhrase plain true query)
      ++ aliasText byname
  | .functions lateral rowsFrom ordinality calls byname columns =>
    let inner := commas (sourceCalls plain calls)
    (if lateral then "LATERAL " else "")
      ++ (if rowsFrom then "ROWS FROM " ++ enclosed inner else inner)
      ++ (if ordinality then " WITH ORDINALITY" else "")
      ++ (if columns.isEmpty then (aliasText byname : Phrase)
        else " AS " ++ ((byname.map (nameText ·.name)).getD "")
          ++ enclosed (commas (resultColumns plain columns)))
  | .sample source method arguments seed =>
    sourcePhrase plain source ++ " TABLESAMPLE " ++ pathText method
      ++ enclosed (commas (exprs plain arguments))
      ++ match option plain seed with
        | none => ""
        | some e => " REPEATABLE " ++ enclosed e
  | .form lateral parts byname =>
    (if lateral then "LATERAL " else "") ++ partPhrases plain parts ++ aliasText byname
  | .join kind natural left right condition shared sharedAlias byname =>
    let on := option plain condition
    let words := joinWords kind natural (on.isSome || !shared.isEmpty)
    enclosedIf byname.isSome (clauses [sourcePhrase plain left,
      words ++ " " ++ enclosedIf (isPlainJoin right) (sourcePhrase plain right),
      clauseIf "ON" on, if shared.isEmpty then "" else "USING " ++ namesText shared,
      (sharedAlias.map ("AS " ++ nameText ·)).getD ""]) ++ aliasText byname

def sourcePhrases (plain : Bool) : List FromItem → List Phrase
  | [] => []
  | s :: ss => sourcePhrase plain s :: sourcePhrases plain ss

/-- A query; as a `FROM` item its rows of values have parentheses of their own. -/
def queryPhrase (plain asSource : Bool) : Query → Phrase
  | .mk recursive ctes body order limit ties offset locks =>
    clauses [ctesPhrase recursive (ctePhrases plain ctes), bodyPhrase plain asSource body,
      clauseOf "ORDER BY" (sortKeys plain order), limitPhrase limit ties (option plain limit),
      clauseIf "OFFSET" (option plain offset), locksText locks]

def bodyPhrase (plain asSource : Bool) : QueryBody → Phrase
  | .values rows => enclosedIf asSource ("VALUES " ++ commas (rowPhrases plain rows))
  | .defaults => "DEFAULT VALUES"
  | .select distinct on targets into sources condition groupDistinct group having windows =>
    selectPhrase distinct (exprs plain on) (targetPhrases plain targets) into
      (sourcePhrases plain sources) (option plain condition) groupDistinct
      (groupPhrases plain group) (option plain having) (windowPhrases plain windows)
  | .combined operator all left right =>
    clauses [enclosedIf (isCompoundQuery left) (queryPhrase plain false left),
      setWords operator all, enclosedIf (isCompoundQuery right) (queryPhrase plain false right)]

def rowPhrases (plain : Bool) : List (List Expr) → List Phrase
  | [] => []
  | row :: rows => enclosed (commas (exprs plain row)) :: rowPhrases plain rows

def ctePhrase (plain : Bool) : Cte → Phrase
  | .mk name columns materialized statement walk =>
    nameText name ++ (if columns.isEmpty then "" else namesText columns) ++ " AS "
      ++ materializedText materialized ++ enclosed (statementPhrase plain statement)
      ++ partPhrases plain walk

def ctePhrases (plain : Bool) : List Cte → List Phrase
  | [] => []
  | c :: cs => ctePhrase plain c :: ctePhrases plain cs

/-- Steps of a place that is assigned to. A star stands apart there. -/
def placePhrases (plain : Bool) : List Step → Phrase
  | [] => ""
  | .star :: rest => " *" ++ placePhrases plain rest
  | s :: rest => stepPhrase plain s ++ placePhrases plain rest

def destinationPhrase (plain : Bool) : Destination → Phrase
  | .mk column steps => nameText column ++ placePhrases plain steps

def destinationPhrases (plain : Bool) : List Destination → List Phrase
  | [] => []
  | d :: ds => destinationPhrase plain d :: destinationPhrases plain ds

def assignmentPhrase (plain : Bool) : Assignment → Phrase
  | .single target value => destinationPhrase plain target ++ " = " ++ expr plain value
  | .row targets value =>
    "( " ++ commas (destinationPhrases plain targets) ++ ") = " ++ expr plain value

def assignmentPhrases (plain : Bool) : List Assignment → List Phrase
  | [] => []
  | a :: as => assignmentPhrase plain a :: assignmentPhrases plain as

def indexKeyPhrase (plain : Bool) : IndexKey → Phrase
  | .mk value collation operatorClass options direction nulls =>
    let key := expr plain value
    (match value with
      | .column .. => key
      | _ => enclosed key)
      ++ (if collation.isEmpty then "" else " COLLATE " ++ pathText collation)
      ++ (if operatorClass.isEmpty then "" else " " ++ pathText operatorClass)
      ++ partPhrases plain options ++ directionText direction ++ nullsText nulls

def indexKeyPhrases (plain : Bool) : List IndexKey → List Phrase
  | [] => []
  | k :: ks => indexKeyPhrase plain k :: indexKeyPhrases plain ks

def conflictPhrase (plain : Bool) : Conflict → Phrase
  | .unspecified => ""
  | .keep constraint keys condition =>
    conflictTarget constraint (indexKeyPhrases plain keys) (option plain condition)
      ++ " DO NOTHING"
  | .update constraint keys condition assignments restriction =>
    clauses [conflictTarget constraint (indexKeyPhrases plain keys) (option plain condition),
      "DO UPDATE SET", commas (assignmentPhrases plain assignments),
      clauseIf "WHERE" (option plain restriction)]

def returningOf (plain : Bool) : Returning → Phrase
  | .mk names targets => returningPhrase names (targetPhrases plain targets)

def statementPhrase (plain : Bool) : Statement → Phrase
  | .query query => queryPhrase plain false query
  | .insert recursive ctes table byname columns overriding rows conflict returning =>
    clauses [ctesPhrase recursive (ctePhrases plain ctes),
      "INSERT INTO " ++ tableText table ++ bynameText byname
        ++ given (!columns.isEmpty) (" " ++ enclosed (commas (destinationPhrases plain columns))),
      (overriding.map fun kind => "OVERRIDING " ++ kind ++ " VALUE").getD "",
      queryPhrase plain false rows, conflictPhrase plain conflict, returningOf plain returning]
  | .update recursive ctes only table byname assignments sources condition returning =>
    clauses [ctesPhrase recursive (ctePhrases plain ctes),
      "UPDATE " ++ (if only then "ONLY " else "") ++ tableText table ++ bynameText byname,
      clauseOf "SET" (assignmentPhrases plain assignments),
      clauseOf "FROM" (sourcePhrases plain sources), clauseIf "WHERE" (option plain condition),
      returningOf plain returning]
  | .delete recursive ctes only table byname sources condition returning =>
    clauses [ctesPhrase recursive (ctePhrases plain ctes),
      "DELETE FROM " ++ (if only then "ONLY " else "") ++ tableText table ++ bynameText byname,
      clauseOf "USING" (sourcePhrases plain sources), clauseIf "WHERE" (option plain condition),
      returningOf plain returning]
  | .other _ parts => partPhrases plain parts

end

end Printed

def Statement.phrase (s : Statement) : Phrase := Printed.statementPhrase false s

/-- A statement as one line of SQL, if each part of it has a printed form. -/
def Statement.text? (s : Statement) : Option String :=
  let p := s.phrase
  if p.isFaulty then none else some p.text

end IndexAdvisor.Sql
