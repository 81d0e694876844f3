import IndexAdvisor.Command.Arguments

/-! # Help for a command

How a command is used, as it is shown on demand: a line of all options, a sentence about the
command, and a list of what each option is for.
-/

namespace IndexAdvisor.Command

def helpFlag : Flag := ⟨"help", ["-h", "--help"], .help, "show this help message and exit"⟩

def lineWidth : Nat := 78

/-- The column in which the words about an option start. -/
def helpColumn : Nat := 24

/-- Words in lines of a limited width, a blank between each two. -/
def fill (width : Nat) : List String → List String
  | [] => []
  | word :: rest =>
    match fillFrom width word rest with
    | (line, lines) => line :: lines
where
  /-- The line that goes on with words, and the lines after it. -/
  fillFrom (width : Nat) (line : String) : List String → String × List String
    | [] => (line, [])
    | word :: rest =>
      if line.length + 1 + word.length ≤ width then fillFrom width (line ++ " " ++ word) rest
      else
        match fillFrom width word rest with
        | (next, lines) => (line, next :: lines)

/-- Lines below each other, each behind as many blanks. -/
def indented (columns : Nat) (lines : List String) : List String :=
  lines.map fun line => String.ofList (List.replicate columns ' ') ++ line

def Flag.valueName (flag : Flag) : String :=
  match flag.takes with
  | .choice words => "\x7b" ++ ",".intercalate words ++ "\x7d"
  | _ =>
    let long := flag.spellings.getLast?.getD ""
    let letters := long.toList.dropWhile (· = '-')
    String.ofList (letters.map fun c => if c = '-' then '_' else c.toUpper)

/-- A spelling of an option with what stands for its value. -/
def Flag.form (flag : Flag) (spelling : String) : String :=
  if flag.isValued then spelling ++ " " ++ flag.valueName else spelling

def Flag.helpLines (flag : Flag) : List String :=
  let forms := ", ".intercalate (flag.spellings.map flag.form)
  let words := fill (lineWidth - helpColumn) (flag.help.splitOn " ")
  if forms.length + 4 ≤ helpColumn then
    let gap := String.ofList (List.replicate (helpColumn - 2 - forms.length) ' ')
    match words with
    | [] => ["  " ++ forms]
    | first :: rest => ("  " ++ forms ++ gap ++ first) :: indented helpColumn rest
  else ("  " ++ forms) :: indented helpColumn words

def usageLines (program : String) (flags : List Flag) : List String :=
  let start := "usage: " ++ program ++ " "
  let forms := flags.map fun flag =>
    "[" ++ ((flag.spellings.head?).map flag.form).getD "" ++ "]"
  match fill (lineWidth - start.length) forms with
  | [] => [start]
  | first :: rest => (start ++ first) :: indented start.length rest

def helpText (program about : String) (flags : List Flag) : String :=
  let lines := usageLines program flags
    ++ "" :: fill lineWidth (about.splitOn " ")
    ++ "" :: "options:" :: flags.flatMap Flag.helpLines
  String.join (lines.map (· ++ "\n"))

end IndexAdvisor.Command
