import IndexAdvisor.Sql.Grammar.Value

/-! # Reading operators

An expression is an operand followed by operators, each of which takes the expression read so far
as its left operand. An operator is taken if it binds at least as tightly as the context asks. A
group of operators that does not associate cannot follow its own right operand.
-/

namespace IndexAdvisor.Sql.Grammar

open Parse

/-! ## Signs and prefix operators -/

/-- A number literal with the opposite sign. -/
def oppositeSource (source : String) : String :=
  match source.toList with
  | '-' :: rest => .ofList rest
  | cs => .ofList ('-' :: cs)

/-- An expression with a minus before it; a number literal changes its sign. -/
def negated (operand : Expr) : Expr :=
  match operand with
  | .constant (.integer n) => .constant (.integer (-n))
  | .constant (.number source) => .constant (.number (oppositeSource source))
  | _ => .prefixed ⟨[], "-"⟩ operand

/-- An operand with the operators before it, as both kinds of expressions have them. -/
def signed (expr : Nat → Parse Expr) (g : Nested) : Parse Expr := do
  match ← peek with
  | .symbol "+" => advance; return .prefixed ⟨[], "+"⟩ (← expr Precedence.sign)
  | .symbol "-" => advance; return negated (← expr Precedence.sign)
  | .operator name =>
    advance
    return .prefixed ⟨[], name⟩ (← expr (Precedence.operator + 1))
  | .keyword "operator" _ =>
    if isSymbol "(" (← peekSecond) then
      advance
      let operator ← qualifiedOperator
      return .prefixed operator (← expr (Precedence.operator + 1))
    else value g
  | _ => value g

def start (g : Nested) : Parse Expr := do
  let lexeme ← peek
  if isWord "not" lexeme || isJoined "not" lexeme then
    advance
    return .negation (← g.expr Precedence.not false)
  else if ← word? "default" then return .default
  else signed (g.expr · false) g

/-! ## Binary operators -/

/-- The expression read so far. -/
structure Progress where
  left : Expr
  /-- The precedence of the operator whose right operand was read last, if such operators do not
      associate; otherwise zero. -/
  closed : Nat

/-- An expression that any operator may follow. -/
def Progress.open (e : Expr) : Progress := ⟨e, 0⟩

/-- The operator that is next, if it is a binary one that is not a word. -/
def binaryOperator? (lexeme ahead : Lexeme) : Option String :=
  match lexeme with
  | .operator name => some name
  | .symbol mark =>
    if ["+", "-", "*", "/", "%", "^", "<", ">", "=", "<=", ">=", "<>"].contains mark then some mark
    else none
  | .keyword "operator" _ => if isSymbol "(" ahead then some "operator" else none
  | _ => none

def takeOperator : Parse Operator := do
  if ← word? "operator" then qualifiedOperator else return ⟨[], ← operatorName⟩

def quantifier? : Parse (Option Quantifier) := do
  match ← oneOf? ["any", "some", "all"] with
  | some "all" => return some .all
  | some _ => return some .any
  | none => return none

/-- Fails where an operator follows the right operand of one it does not associate with. -/
def checkOpen (p : Progress) (level : Nat) : Parse Unit := do
  if p.closed = level then unexpected else return

/-- What a comparison with quantifier compares with. -/
def quantifiedBy (g : Nested) (array : Expr → Expr) (query : Query → Expr) : Parse Progress := do
  match ← g.grouped with
  | .inl q => return .open (query q)
  | .inr [single] => return .open (array single)
  | .inr _ => unexpected

def distinctFrom (expr : Nat → Parse Expr) (negated : Bool) (left : Expr) : Parse Progress := do
  word "from"
  return ⟨.distinctFrom negated left (← expr (Precedence.truth + 1)), Precedence.truth⟩

/-- A symbolic operator and its right operand, or a cast. -/
def symbolic (expr : Nat → Parse Expr) (g : Nested) (quantifiers : Bool) (min : Nat)
    (p : Progress) : Parse (Option Progress) := do
  let lexeme ← peek
  if isSymbol "::" lexeme then
    advance
    return some (.open (.cast p.left (← typeName g)))
  else
    match binaryOperator? lexeme (← peekSecond) with
    | none => return none
    | some name =>
      let level := Precedence.ofOperator name
      if level < min then return none
      else
        let associates := level ≠ Precedence.comparison
        if !associates then checkOpen p level
        let operator ← takeOperator
        let quantifier ← if quantifiers then quantifier? else pure none
        match quantifier with
        | some q =>
          return some (← quantifiedBy g (.quantified operator q p.left)
            (.quantifiedQuery operator q p.left))
        | none =>
          let right ← expr (level + 1)
          return some ⟨.binary operator p.left right, if associates then 0 else level⟩

/-! ## Conditions -/

/-- Joins two conditions; a chain on the left is extended. -/
def joined (connective : Connective) (left right : Expr) : Expr :=
  match left with
  | .chain c items =>
    if c = connective then .chain c (items ++ [right]) else .chain connective [left, right]
  | _ => .chain connective [left, right]

def truthOf (g : Nested) (left : Expr) : Parse Progress := do
  let negated ← anyWord? "not"
  match ← oneOf ["null", "true", "false", "unknown", "distinct", "document", "json",
      "normalized", "nfc", "nfd", "nfkc", "nfkd"] with
  | "null" => return .open (.nullTest negated left)
  | "true" => return .open (.truthTest .isTrue negated left)
  | "false" => return .open (.truthTest .isFalse negated left)
  | "unknown" => return .open (.truthTest .isUnknown negated left)
  | "distinct" => distinctFrom (g.expr · false) negated left
  | "document" =>
    let test := Expr.documentTest left
    return .open (if negated then .negation test else test)
  | "json" =>
    let test ← jsonTest left
    return .open (if negated then .negation test else test)
  | "normalized" => return normalized negated [left]
  | form =>
    word "normalized"
    return normalized negated [left, .constant (.text form.toUpper)]
where
  normalized (negated : Bool) (arguments : List Expr) : Progress :=
    let test := systemCall "is_normalized" arguments
    .open (if negated then .negation test else test)

def betweenOf (g : Nested) (negated : Bool) (left : Expr) : Parse Progress := do
  let symmetric := (← oneOf? ["symmetric", "asymmetric"]) = some "symmetric"
  let low ← g.operand Precedence.lowest
  word "and"
  let high ← g.expr (Precedence.range + 1) false
  return ⟨.between symmetric negated left low high, Precedence.range⟩

def inOf (g : Nested) (negated : Bool) (left : Expr) : Parse Progress := do
  match ← g.grouped with
  | .inl query =>
    let test := Expr.inQuery left query
    return .open (if negated then .negation test else test)
  | .inr items => return .open (.inList negated left items)

/-- The operator a pattern match stands for. -/
def patternOperator (form : PatternForm) (negated : Bool) : Operator :=
  ⟨[], match form, negated with
    | .ilike, false => "~~*"
    | .ilike, true => "!~~*"
    | _, false => "~~"
    | _, true => "!~~"⟩

/-- The pattern of a match, perhaps with its escape character. -/
def matchOf (g : Nested) (form : PatternForm) (negated : Bool) (left : Expr) : Parse Progress := do
  let pattern ← g.expr (Precedence.range + 1) false
  let escape ← if ← word? "escape" then some <$> g.expr (Precedence.range + 1) false
    else pure none
  return ⟨.pattern form negated left pattern escape, Precedence.range⟩

def patternOf (g : Nested) (form : PatternForm) (negated : Bool) (left : Expr) :
    Parse Progress := do
  match ← quantifier? with
  | some q =>
    let operator := patternOperator form negated
    quantifiedBy g (.quantified operator q left) (.quantifiedQuery operator q left)
  | none =>
    matchOf g form negated left

def similarOf (g : Nested) (negated : Bool) (left : Expr) : Parse Progress := do
  word "to"
  matchOf g .similar negated left

/-- A range condition after `NOT` or by itself. -/
def rangeOf (g : Nested) (negated : Bool) (w : String) (left : Expr) : Parse Progress := do
  match w with
  | "between" => betweenOf g negated left
  | "in" => inOf g negated left
  | "like" => patternOf g .like negated left
  | "ilike" => patternOf g .ilike negated left
  | "similar" => similarOf g negated left
  | _ => unexpected

/-- `AT TIME ZONE` or `AT LOCAL` after the first keyword. -/
def zoneOf (g : Nested) (left : Expr) : Parse Progress := do
  if ← word? "local" then return .open (systemCall "timezone" [left])
  else
    word "time"
    word "zone"
    let zone ← g.expr (Precedence.zone + 1) false
    return .open (systemCall "timezone" [zone, left])

/-- How tightly an operator that is a word binds. -/
def wordPrecedence? : Lexeme → Option Nat
  | .joined "not" => some Precedence.range
  | .keyword w _ =>
    match w with
    | "or" => some Precedence.or
    | "and" => some Precedence.and
    | "is" | "isnull" | "notnull" => some Precedence.truth
    | "between" | "in" | "like" | "ilike" | "similar" => some Precedence.range
    | "at" => some Precedence.zone
    | "collate" => some Precedence.collation
    | _ => none
  | _ => none

/-- Whether an operator word can go on with the token after it. -/
def goesOn (lexeme ahead : Lexeme) : Bool :=
  let opens : Bool := match ahead with
    | .integer _ | .number _ | .text _ | .bits .. | .parameter _ | .identifier _ | .operator _ =>
      true
    | .joined w => w = "not"
    | .symbol mark => ["(", "+", "-"].contains mark
    | .keyword w standing =>
      standing ≠ .reserved || valueKeywords.contains w || preciseKeywords.contains w
        || ["true", "false", "null", "case", "cast", "array", "not", "default", "symmetric",
            "asymmetric", "any", "some", "all"].contains w
    | _ => false
  match lexeme with
  | .keyword w _ =>
    match w with
    | "is" =>
      ["null", "not", "true", "false", "unknown", "distinct", "document", "json", "normalized",
        "nfc", "nfd", "nfkc", "nfkd"].any (isWord · ahead)
    | "in" => isSymbol "(" ahead
    | "similar" => isWord "to" ahead
    | "at" => isWord "time" ahead || isWord "local" ahead
    | "collate" => (columnName? ahead).isSome
    | "isnull" | "notnull" => true
    | _ => opens
  | _ => true

/-- An operator that is a word and what follows it. -/
def worded (g : Nested) (min : Nat) (labelled : Bool) (p : Progress) : Parse (Option Progress) := do
  let lexeme ← peek
  match wordPrecedence? lexeme with
  | none => return none
  | some level =>
    if level < min || (labelled && !goesOn lexeme (← peekSecond)) then return none
    else
      if level = Precedence.truth || level = Precedence.range then checkOpen p level
      advance
      match lexeme with
      | .joined _ => return some (← rangeOf g true (← rangeWord) p.left)
      | .keyword w _ =>
        match w with
        | "or" => return some (.open (joined .or p.left (← g.expr (level + 1) false)))
        | "and" => return some (.open (joined .and p.left (← g.expr (level + 1) false)))
        | "is" => return some (← truthOf g p.left)
        | "isnull" => return some (.open (.nullTest false p.left))
        | "notnull" => return some (.open (.nullTest true p.left))
        | "at" => return some (← zoneOf g p.left)
        | "collate" =>
          return some (.open (.collate p.left (← dottedNames (← columnName))))
        | _ => return some (← rangeOf g false w p.left)
      | _ => unexpected
where
  rangeWord : Parse String := oneOf ["between", "in", "like", "ilike", "similar"]

/-- Takes operators while they bind tightly enough. -/
def operations (g : Nested) (min : Nat) (labelled : Bool) (left : Expr) : Parse Expr := do
  let p ← repeated (fun p => do
    match ← symbolic (g.expr · false) g true min p with
    | some next => return some next
    | none => worded g min labelled p) (Progress.open left)
  return p.left

/-- An expression whose operators bind at least as tightly as `min`. -/
def expr (g : Nested) (min : Nat) (labelled : Bool) : Parse Expr := do
  operations g min labelled (← start g)

/-- The operators of an expression without conditions. -/
def operandOperation (g : Nested) (min : Nat) (p : Progress) : Parse (Option Progress) := do
  match ← symbolic g.operand g false min p with
  | some next => return some next
  | none =>
    if Precedence.truth < min || !isWord "is" (← peek) then return none
    else
      checkOpen p Precedence.truth
      advance
      let negated ← anyWord? "not"
      match ← oneOf ["distinct", "document"] with
      | "distinct" => return some (← distinctFrom g.operand negated p.left)
      | _ =>
        let test := Expr.documentTest p.left
        return some (.open (if negated then .negation test else test))

/-- An expression without conditions. -/
def operand (g : Nested) (min : Nat) : Parse Expr := do
  let p ← repeated (operandOperation g min) (Progress.open (← signed g.operand g))
  return p.left

end IndexAdvisor.Sql.Grammar
