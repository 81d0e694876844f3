import IndexAdvisor.Entries
import IndexAdvisor.Number.Whole

/-! # Arguments of a command

The options of a command are declared, and its words are read by them. A long option may be cut
short as long as one declared option starts so. Its value stands behind `=` or is the next word;
the value of a one-letter option may also stand right behind it. Words that belong to no option
are refused.
-/

namespace IndexAdvisor.Command

inductive Takes where
  /-- Nothing: the option shows how the command is used. -/
  | help
  /-- Nothing: the option switches something on. -/
  | switch
  | text
  | integer
  /-- One of the given words. -/
  | choice (words : List String)
  deriving DecidableEq, Repr, Inhabited

structure Flag where
  /-- The name under which the value is found. -/
  key : String
  /-- What may be written for the option, with its dashes. -/
  spellings : List String
  takes : Takes
  help : String
  deriving DecidableEq, Repr, Inhabited

def Flag.isValued (flag : Flag) : Bool :=
  match flag.takes with
  | .help | .switch => false
  | _ => true

inductive Given where
  | on
  | text (s : String)
  | integer (n : Int)
  deriving DecidableEq, Repr, Inhabited

inductive Stop where
  /-- Its usage was asked for. -/
  | help
  /-- Its words cannot be read. -/
  | misuse
  deriving DecidableEq, Repr

inductive Word where
  | plain (s : String)
  /-- Two dashes, after which every word is plain. -/
  | mark
  /-- An option as it was written, with the value behind it; the flag is missing if no option has
      the spelling. -/
  | option (flag : Option Flag) (spelling : String) (attached : Option String)
  deriving Repr, Inhabited

/-! ## Recognising options -/

def flagOf? (flags : List Flag) (spelling : String) : Option Flag :=
  flags.find? (·.spellings.contains spelling)

/-- What stands before and behind the first `=`. -/
def splitValue? (s : String) : Option (String × String) :=
  let cs := s.toList
  match cs.dropWhile (· ≠ '=') with
  | [] => none
  | _ :: value => some (String.ofList (cs.takeWhile (· ≠ '=')), String.ofList value)

/-- Whether a word is a negative number; a line break may follow it. -/
def isNegativeNumber (s : String) : Bool :=
  let cs := s.toList
  match if cs.getLast? = some '\n' then cs.dropLast else cs with
  | '-' :: cs =>
    let isDigit (c : Char) : Bool := (Text.digitValue? c).isSome
    match cs.dropWhile isDigit with
    | [] => !cs.isEmpty
    | '.' :: fraction => !fraction.isEmpty && fraction.all isDigit
    | _ => false
  | _ => false

/-- The declared spellings that a word starts, with the value behind it. -/
def interpretations (flags : List Flag) (s : String) : List Word :=
  let spelled := flags.flatMap fun flag => flag.spellings.map fun spelling => (flag, spelling)
  match s.toList with
  | '-' :: '-' :: _ =>
    let (start, value) := match splitValue? s with
      | some (start, value) => (start, some value)
      | none => (s, none)
    (spelled.filter fun (_, spelling) => start.toList.isPrefixOf spelling.toList).map
      fun (flag, spelling) => .option (some flag) spelling value
  | '-' :: letter :: rest =>
    let short := String.ofList ['-', letter]
    spelled.filterMap fun (flag, spelling) =>
      if spelling = short then
        some (.option (some flag) spelling (some (String.ofList rest)))
      else if s.toList.isPrefixOf spelling.toList then some (.option (some flag) spelling none)
      else none
  | _ => []

def wordOf (flags : List Flag) (s : String) : Except Stop Word :=
  match s.toList with
  | [] | ['-'] => .ok (.plain s)
  | '-' :: _ =>
    match flagOf? flags s, splitValue? s with
    | some flag, _ => .ok (.option (some flag) s none)
    | none, split =>
      match split.bind fun (spelling, value) =>
          (flagOf? flags spelling).map fun flag => Word.option (some flag) spelling (some value)
        with
      | some word => .ok word
      | none =>
        match interpretations flags s with
        | [word] => .ok word
        | _ :: _ :: _ => .error .misuse
        | [] =>
          if isNegativeNumber s || s.toList.contains ' ' then .ok (.plain s)
          else .ok (.option none s none)
  | _ => .ok (.plain s)

def wordsOf (flags : List Flag) : List String → Except Stop (List Word)
  | [] => .ok []
  | "--" :: rest => .ok (.mark :: rest.map .plain)
  | s :: rest => do
    let word ← wordOf flags s
    return word :: (← wordsOf flags rest)

/-! ## Reading -/

def given (flag : Flag) (value : String) : Except Stop Given :=
  match flag.takes with
  | .help => .error .help
  | .switch => .ok .on
  | .text => .ok (.text value)
  | .integer =>
    match Number.readWhole value with
    | .ok n => .ok (.integer n)
    | .error _ => .error .misuse
  | .choice words => if words.contains value then .ok (.text value) else .error .misuse

/-- The options written in one word: those without a value, and the last one with the value behind
    it. -/
structure Cluster where
  plain : List Flag
  last : Option (Flag × Option String)
  deriving Repr, Inhabited

/-- The options of letters written behind one dash, of which the first is known. -/
def clusterOf (flags : List Flag) (flag : Flag) : List Char → Except Stop Cluster
  | [] => .ok (if flag.isValued then ⟨[], some (flag, none)⟩ else ⟨[flag], none⟩)
  | letter :: rest =>
    if flag.isValued then .ok ⟨[], some (flag, some (String.ofList (letter :: rest)))⟩
    else
      match flagOf? flags (String.ofList ['-', letter]) with
      | none => .error .misuse
      | some next => do
        let more ← clusterOf flags next rest
        return { more with plain := flag :: more.plain }

def optionsOf (flags : List Flag) (flag : Flag) (spelling : String) (attached : Option String) :
    Except Stop Cluster :=
  if flag.isValued then .ok ⟨[], some (flag, attached)⟩
  else
    match attached with
    | none => .ok ⟨[flag], none⟩
    | some value =>
      if value.isEmpty || "--".toList.isPrefixOf spelling.toList then .error .misuse
      else clusterOf flags flag value.toList

def takePlain (values : Entries Given) : List Flag → Except Stop (Entries Given)
  | [] => .ok values
  | flag :: rest => do
    let value ← given flag ""
    takePlain (values.put flag.key value) rest

/-- Reads words; `refused` tells whether one of those before belongs to no option. -/
def readWords (flags : List Flag) (values : Entries Given) (refused : Bool) :
    List Word → Except Stop (Entries Given)
  | [] => if refused then .error .misuse else .ok values
  | .plain _ :: rest => readWords flags values true rest
  | .mark :: rest => readWords flags values true rest
  | .option none _ _ :: rest => readWords flags values true rest
  | .option (some flag) spelling attached :: rest => do
    let options ← optionsOf flags flag spelling attached
    match options.last with
    | none => readWords flags (← takePlain values options.plain) refused rest
    | some (flag, some value) =>
      let values ← takePlain values options.plain
      readWords flags (values.put flag.key (← given flag value)) refused rest
    | some (flag, none) =>
      match rest with
      | .plain value :: more =>
        let values ← takePlain values options.plain
        readWords flags (values.put flag.key (← given flag value)) refused more
      | _ => throw .misuse

/-- The values that the words of a command line give to the declared options. -/
def readArguments (flags : List Flag) (words : List String) : Except Stop (Entries Given) := do
  readWords flags [] false (← wordsOf flags words)

def isOn (values : Entries Given) (key : String) : Bool := values.has key

def text? (values : Entries Given) (key : String) : Option String :=
  match values.find? key with
  | some (.text s) => some s
  | _ => none

def integer? (values : Entries Given) (key : String) : Option Int :=
  match values.find? key with
  | some (.integer n) => some n
  | _ => none

end IndexAdvisor.Command
