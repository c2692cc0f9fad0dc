/-
  Files of assignments, one `NAME=value` per line.

  A line may start with `export`, and a name may be between single quotes. A
  value between quotes may span lines and has escapes; one without quotes
  ends at a number sign after a blank. A line that cannot be read is skipped.
  A value may refer to variables by their exact names, each with a text that
  stands in for it.

  * `EnvFile.parse` gives the statements in order, and with them the numbers of
    the lines that were skipped; `EnvFile.assignments` are the names and their
    values as they are written, a name without an equals sign having none;
  * `EnvFile.pieces` are the characters and the references of a value;
  * `EnvFile.values` puts the values of variables for references, and keeps the
    last value of each name.
-/
import RateIsolation.Table
import RateIsolation.Text.CharClass

namespace RateIsolation.EnvFile

/-- A blank that does not end a line. -/
def isGap (c : Char) : Bool := Text.isBlank c && c != '\n' && c != '\r'

/-- One statement of a file. -/
inductive Statement where
  /-- An assignment, or a name alone. -/
  | assign (name : String) (value : Option String)
  /-- A comment or nothing. -/
  | nothing
  /-- A line that cannot be read, by its number. -/
  | skipped (line : Nat)
deriving DecidableEq, Repr

/-- All line ends as line feeds. -/
def normalLines : List Char → List Char
  | '\r' :: '\n' :: rest => '\n' :: normalLines rest
  | '\r' :: rest => '\n' :: normalLines rest
  | c :: rest => c :: normalLines rest
  | [] => []

/-- The rest after the word `export` and a blank, if there. -/
def skipExport (cs : List Char) : List Char :=
  if "export".toList.isPrefixOf cs then
    let rest := cs.drop 6
    match rest with
    | c :: _ => if isGap c then rest.dropWhile isGap else cs
    | [] => cs
  else cs

/-- Whether a character may stand in a name without quotes. -/
def nameChar (c : Char) : Bool := c != '=' && c != '#' && !Text.isBlank c

/-- A name, none before a comment. -/
def takeName (cs : List Char) : Option (Option (List Char) × List Char) :=
  match cs with
  | '#' :: _ => some (none, cs)
  | '\'' :: rest =>
    let name := rest.takeWhile (· != '\'')
    match name, rest.drop name.length with
    | [], _ => none
    | _, '\'' :: rest' => some (some name, rest')
    | _, _ => none
  | _ =>
    let name := cs.takeWhile nameChar
    if name.isEmpty then none else some (some name, cs.drop name.length)

/-- The text up to the closing quote and the rest. A quote after a backslash is no end, but where
    no other quote follows, the last such quote is the end after all: the last argument is the
    reading that ends there. -/
def takeQuoted (quote : Char) :
    List Char → List Char → Option (List Char × List Char) → Option (List Char × List Char)
  | _, [], fallback => fallback
  | seen, '\\' :: c :: rest, fallback =>
    if c = quote then
      takeQuoted quote (c :: '\\' :: seen) rest (some (('\\' :: seen).reverse, rest))
    else if c = '\\' then takeQuoted quote ('\\' :: seen) (c :: rest) fallback
    else takeQuoted quote (c :: '\\' :: seen) rest fallback
  | seen, c :: rest, fallback =>
    if c = quote then some (seen.reverse, rest) else takeQuoted quote (c :: seen) rest fallback
termination_by _ cs _ => cs.length

/-- Resolve the escapes between single quotes. -/
def unescapeSingle : List Char → List Char
  | '\\' :: '\\' :: rest => '\\' :: unescapeSingle rest
  | '\\' :: '\'' :: rest => '\'' :: unescapeSingle rest
  | c :: rest => c :: unescapeSingle rest
  | [] => []

/-- The character that a letter after a backslash stands for between double quotes. -/
def escapedChar? : Char → Option Char
  | '\\' => some '\\'
  | '\'' => some '\''
  | '"' => some '"'
  | 'a' => some '\x07'
  | 'b' => some '\x08'
  | 'f' => some '\x0c'
  | 'n' => some '\n'
  | 'r' => some '\r'
  | 't' => some '\t'
  | 'v' => some '\x0b'
  | _ => none

/-- Resolve the escapes between double quotes. -/
def unescapeDouble : List Char → List Char
  | '\\' :: c :: rest =>
    match escapedChar? c with
    | some d => d :: unescapeDouble rest
    | none => '\\' :: unescapeDouble (c :: rest)
  | c :: rest => c :: unescapeDouble rest
  | [] => []
termination_by cs => cs.length

/-- The text before a blank that is followed by a number sign. -/
def beforeComment : List Char → List Char
  | [] => []
  | c :: rest =>
    if Text.isBlank c && (rest.dropWhile Text.isBlank).head? == some '#' then []
    else c :: beforeComment rest

/-- The text without the blanks at its end. -/
def trimEnd (cs : List Char) : List Char := (cs.reverse.dropWhile Text.isBlank).reverse

/-- A value after the equals sign and blanks. -/
def takeValue (cs : List Char) : Option (List Char × List Char) :=
  match cs with
  | [] => some ([], cs)
  | '\n' :: _ => some ([], cs)
  | '\'' :: rest => (takeQuoted '\'' [] rest none).map fun (v, r) => (unescapeSingle v, r)
  | '"' :: rest => (takeQuoted '"' [] rest none).map fun (v, r) => (unescapeDouble v, r)
  | _ =>
    let line := cs.takeWhile (· != '\n')
    some (trimEnd (beforeComment line), cs.drop line.length)

/-- The rest after a comment and the end of the line, if nothing else follows. -/
def takeLineEnd (cs : List Char) : Option (List Char) :=
  let rest := cs.dropWhile isGap
  let rest := match rest with
    | '#' :: _ => rest.dropWhile (· != '\n')
    | _ => rest
  match rest.dropWhile isGap with
  | [] => some []
  | '\n' :: rest' => some rest'
  | _ => none

/-- One statement from a character that is no blank, and the rest. -/
def takeStatement (cs : List Char) : Option (Statement × List Char) :=
  match takeName (skipExport cs) with
  | none => none
  | some (name, rest) =>
    let rest := rest.dropWhile isGap
    let valued : Option (Option (List Char) × List Char) := match rest with
      | '=' :: rest' => (takeValue (rest'.dropWhile isGap)).map fun (v, r) => (some v, r)
      | _ => some (none, rest)
    match valued with
    | none => none
    | some (value, rest) =>
      match takeLineEnd rest with
      | none => none
      | some rest' =>
        match name with
        | none => some (.nothing, rest')
        | some n => some (.assign (String.ofList n) (value.map String.ofList), rest')

/-- The number of line ends. -/
def countLines (cs : List Char) : Nat := cs.count '\n'

/-- The statements from the line with that number on. -/
def statements : Nat → Nat → List Char → List Statement
  | 0, _, _ => []
  | fuel + 1, line, cs =>
    let start := cs.dropWhile Text.isBlank
    match start with
    | [] => []
    | _ =>
      match takeStatement start with
      | some (s, rest) => s :: statements fuel (line + countLines cs - countLines rest) rest
      | none =>
        -- the line is given up where reading it stopped
        let stopped := stopOf start
        let rest := (stopped.dropWhile (· != '\n')).drop 1
        .skipped line :: statements fuel (line + countLines cs - countLines rest) rest
where
  /-- What is left where a statement that cannot be read stops. -/
  stopOf (cs : List Char) : List Char :=
    match takeName (skipExport cs) with
    | none => skipExport cs
    | some (_, rest) =>
      match rest.dropWhile isGap with
      | '=' :: rest' =>
        let value := rest'.dropWhile isGap
        match takeValue value with
        | none => value
        | some (_, r) => r
      | rest' => rest'

/-- The statements of a text. -/
def parse (text : String) : List Statement :=
  let cs := normalLines text.toList
  statements (cs.length + 1) 1 cs

/-- The names with their values as they are written. -/
def assignments (statements : List Statement) : List (String × Option String) :=
  statements.filterMap fun
    | .assign name value => some (name, value)
    | _ => none

/-- The numbers of the lines that were skipped. -/
def skippedLines (statements : List Statement) : List Nat :=
  statements.filterMap fun
    | .skipped line => some line
    | _ => none

/-! ## References -/

/-- A piece of a value. -/
inductive Piece where
  /-- A character that stands for itself. -/
  | char (c : Char)
  /-- The value of a variable, or a text that stands in for it. -/
  | reference (name standIn : String)
deriving DecidableEq, Repr

/-- The reference that follows a dollar sign, and how many characters write it. -/
def reference? (cs : List Char) : Option (Piece × Nat) :=
  match cs with
  | '{' :: rest =>
    let name := rest.takeWhile fun c => c != '}' && c != ':'
    match rest.drop name.length with
    | '}' :: _ => some (.reference (String.ofList name) "", name.length + 2)
    | ':' :: '-' :: rest' =>
      let standIn := rest'.takeWhile (· != '}')
      if standIn.length < rest'.length then
        some (.reference (String.ofList name) (String.ofList standIn),
          name.length + standIn.length + 4)
      else none
    | _ => none
  | _ => none

/-- The pieces of a value after some characters that belong to the piece before. -/
def pieces : Nat → List Char → List Piece
  | _, [] => []
  | skip + 1, _ :: rest => pieces skip rest
  | 0, c :: rest =>
    match if c = '$' then reference? rest else none with
    | some (piece, length) => piece :: pieces length rest
    | none => .char c :: pieces 0 rest

/-- The variable that a piece refers to. -/
def Piece.name? : Piece → Option String
  | char _ => none
  | reference name _ => some name

/-- The variables that a value refers to. -/
def references (value : String) : List String := (pieces 0 value.toList).filterMap Piece.name?

/-- What stands for a piece, by the values of variables; one that is there without a value is
    empty. -/
def Piece.text (lookup : String → Option (Option String)) : Piece → List Char
  | char c => [c]
  | reference name standIn =>
    match lookup name with
    | none => standIn.toList
    | some value => (value.getD "").toList

/-- A value with those of the variables that it refers to. -/
def expand (lookup : String → Option (Option String)) (value : String) : String :=
  String.ofList ((pieces 0 value.toList).flatMap (Piece.text lookup))

/-- A variable as an assignment sees it: those before it come before the environment. -/
def lookup (environment : List (String × String)) (earlier : Table String (Option String))
    (name : String) : Option (Option String) :=
  (Table.get? name earlier).or ((Table.get? name (Table.ofList environment)).map some)

/-- The values after some that were assigned earlier. -/
def valuesAfter (environment : List (String × String)) (earlier : Table String (Option String)) :
    List (String × Option String) → Table String (Option String)
  | [] => earlier
  | (name, value) :: rest =>
    valuesAfter environment
      (Table.set name (value.map (expand (lookup environment earlier))) earlier) rest

/-- The last value of each name. -/
def values (environment : List (String × String)) (assignments : List (String × Option String)) :
    Table String (Option String) :=
  valuesAfter environment [] assignments

end RateIsolation.EnvFile
