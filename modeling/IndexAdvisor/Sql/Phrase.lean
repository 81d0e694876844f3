/-! # Phrases

A phrase is a stretch of printed SQL. After some words a space is due, which is written only if
what follows begins like a word and no blank stands there already. A phrase remembers whether a
part of it has no printed form.
-/

namespace IndexAdvisor.Sql

/-- A stretch of printed SQL. -/
structure Phrase where
  text : String
  /-- A space is due before what follows. -/
  isOpen : Bool
  /-- A part has no printed form. -/
  isFaulty : Bool
  deriving DecidableEq, Repr, Inhabited

namespace Phrase

def ofText (text : String) : Phrase := ⟨text, false, false⟩

instance : Coe String Phrase := ⟨ofText⟩

/-- A word with a space due after it. -/
def word (text : String) : Phrase := ⟨text, true, false⟩

/-- What has no printed form. -/
def impossible : Phrase := ⟨"", false, true⟩

/-- The phrase with a space due after it. -/
def opened (p : Phrase) : Phrase := { p with isOpen := true }

/-- Whether a character that follows a word is set off by a space. -/
def setsOff (c : Char) : Bool := c.isAlphanum || "_*+/-\"'=<>$@".toList.contains c

def endsBlank (text : String) : Bool :=
  text.toList.getLast?.any fun c => c = ' ' || c = '\n'

/-- The space between a text after which one is due and the text that follows. -/
def gap (before after : String) : String :=
  if after.toList.head?.any setsOff && !endsBlank before then " " else ""

def append (p q : Phrase) : Phrase :=
  if q.text = "" then ⟨p.text, p.isOpen || q.isOpen, p.isFaulty || q.isFaulty⟩
  else
    ⟨p.text ++ (if p.isOpen then gap p.text q.text else "") ++ q.text, q.isOpen,
      p.isFaulty || q.isFaulty⟩

instance : Append Phrase := ⟨append⟩

def joined (separator : String) : List Phrase → Phrase
  | [] => ""
  | [p] => p
  | p :: rest => p ++ separator ++ joined separator rest

def commas (phrases : List Phrase) : Phrase := joined ", " phrases

def given (condition : Bool) (p : Phrase) : Phrase := if condition then p else ""

def enclosed (p : Phrase) : Phrase := "(" ++ p ++ ")"

def enclosedIf (condition : Bool) (p : Phrase) : Phrase := if condition then enclosed p else p

/-- Phrases with a space due between them; empty ones do not count. -/
def clauses : List Phrase → Phrase
  | [] => ""
  | p :: rest =>
    let after := clauses rest
    if p.text = "" then p ++ after
    else if after.text = "" then p ++ after
    else p.opened ++ after

end Phrase

end IndexAdvisor.Sql
