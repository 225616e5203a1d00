import BrokerWiring.Source.Files
import BrokerWiring.Source.Variables
import BrokerWiring.Text.WhiteSpace
import BrokerWiring.Text.Alphanumeric

/-!
# Environment files

A file `.env` adds variables to an environment, one a line: `KEY=value`, with `export` in front of
it if one likes, and with blank lines and comments between. A value may hold quoted parts, escapes
and the values of other variables (`$NAME` and `${NAME}`). Reading stops at the first line
that is not of this form; the variables of the lines before it stay. A variable that is already set
keeps its value.
-/

namespace BrokerWiring.Dotenv

/-! ## Values -/

/-- Inside the name of a variable whose value is to be put in. -/
inductive Naming where
  | no
  /-- Behind a dollar sign. -/
  | bare
  /-- Between braces. -/
  | braced
  deriving Repr, DecidableEq

/-- Where the reader of a value stands: inside quotes, behind a backslash, behind the end of the
value, or inside a name; and what it has read, last character first. -/
structure Scan where
  single : Bool
  double : Bool
  escaped : Bool
  ended : Bool
  naming : Naming
  name : List Char
  output : List Char
  deriving Repr, DecidableEq

/-- The start of a value. -/
def Scan.start : Scan := ⟨false, false, false, false, .no, [], []⟩

/-- The variables that a name may stand for: those of the environment, else those of the file. -/
structure Bindings where
  environment : List (String × String)
  file : List (String × String)
  deriving Repr, DecidableEq

/-- The value of a variable; the empty text if there is none. -/
def Bindings.value (bindings : Bindings) (name : String) : String :=
  match bindings.environment.lookup name with
  | some value => value
  | none => (bindings.file.lookup name).getD ""

/-- Puts in the value of the name that was read. -/
def Scan.substituted (scan : Scan) (bindings : Bindings) : Scan :=
  let value := bindings.value (String.ofList scan.name.reverse)
  { scan with naming := .no, name := [], output := value.toList.reverse ++ scan.output }

/-- Adds a character to what was read. -/
def Scan.push (scan : Scan) (c : Char) : Scan := { scan with output := c :: scan.output }

/-- One character inside the name of a variable. -/
def Scan.naming? (scan : Scan) (bindings : Bindings) (c : Char) : Scan :=
  if Text.isAlphanumeric c then { scan with name := c :: scan.name }
  else if scan.naming = .braced then
    if c = '\x7d' then scan.substituted bindings else { scan with name := c :: scan.name }
  else if c = '\x7b' ∧ scan.name = [] then { scan with naming := .braced }
  else
    let scan := scan.substituted bindings
    if c = '$' then { scan with naming := .bare } else scan.push c

/-- What a value is made of: the scan behind a character, the end of the value at a comment, or a
character that must not stand here. -/
inductive Step where
  | on (scan : Scan)
  | comment
  | refused

/-- One character of a value. -/
def Scan.step (scan : Scan) (bindings : Bindings) (c : Char) : Step :=
  if scan.ended then
    if c = ' ' ∨ c = '\t' then .on scan else if c = '#' then .comment else .refused
  else if scan.escaped then
    let scan := { scan with escaped := false }
    if c = '\\' ∨ c = '\'' ∨ c = '"' ∨ c = '$' ∨ c = ' ' then .on (scan.push c)
    else if c = 'n' then .on (scan.push '\n')
    else .refused
  else if scan.single then
    .on (if c = '\'' then { scan with single := false } else scan.push c)
  else if scan.naming ≠ .no then .on (scan.naming? bindings c)
  else if c = '$' then .on { scan with naming := .bare }
  else if scan.double then
    .on (if c = '"' then { scan with double := false }
      else if c = '\\' then { scan with escaped := true }
      else scan.push c)
  else if c = '\'' then .on { scan with single := true }
  else if c = '"' then .on { scan with double := true }
  else if c = '\\' then .on { scan with escaped := true }
  else if c = ' ' ∨ c = '\t' then .on { scan with ended := true }
  else .on (scan.push c)

/-- The scan behind the characters of a value; none at a character that must not stand there. -/
def Scan.run (bindings : Bindings) (scan : Scan) : List Char → Option Scan
  | [] => some scan
  | c :: rest =>
    match scan.step bindings c with
    | .on scan => run bindings scan rest
    | .comment => some scan
    | .refused => none

/-- The value that is written; none if it is malformed or if a quote or a brace stays open. -/
def value? (bindings : Bindings) (cs : List Char) : Option String :=
  match Scan.run bindings .start cs with
  | none => none
  | some scan =>
    if scan.naming = .braced ∨ scan.single ∨ scan.double then none
    else some (String.ofList (scan.substituted bindings).output.reverse)

/-! ## Lines -/

/-- Whether a key may start with `c`. -/
def isKeyStart (c : Char) : Bool := c.isAlpha || c == '_'

/-- Whether a key may go on with `c`. -/
def isKeyChar (c : Char) : Bool := c.isAlphanum || c == '_' || c == '.'

/-- The key at the front of a line, with the blanks behind it gone from the rest. -/
def key? (cs : List Char) : Option (String × List Char) :=
  match cs with
  | [] => none
  | c :: _ =>
    if isKeyStart c then
      some (String.ofList (cs.takeWhile isKeyChar), Text.trimStart (cs.dropWhile isKeyChar))
    else none

/-- What stands behind an equals sign. -/
def behindEquals? : List Char → Option (List Char)
  | '=' :: rest => some (Text.trimStart rest)
  | _ => none

/-- The key of a line and the characters of its value. `export` in front of the key is passed over
unless it is the key. -/
def assignment? (cs : List Char) : Option (String × List Char) :=
  match key? cs with
  | none => none
  | some (key, rest) =>
    match behindEquals? rest with
    | some value => some (key, value)
    | none =>
      if key = "export" then
        match key? rest with
        | none => none
        | some (key, rest) => (behindEquals? rest).map (key, ·)
      else none

/-- Whether nothing but a comment stands here. -/
def isIdle : List Char → Bool
  | [] => true
  | c :: _ => c == '#'

/-- What a line is: nothing, an assignment, or malformed. -/
inductive Line where
  | idle
  | assignment (key value : String)
  | malformed
  deriving Repr, DecidableEq

/-- Reads a line. -/
def line (bindings : Bindings) (cs : List Char) : Line :=
  let cs := Text.trimStart (Text.trimEnd cs)
  if isIdle cs then .idle
  else
    match assignment? cs with
    | none => .malformed
    | some (key, value) =>
      if isIdle value then .assignment key ""
      else
        match value? bindings value with
        | some value => .assignment key value
        | none => .malformed

/-! ## Files -/

/-- The lines of a text: what stands between its line feeds, less a carriage return at the end; an
empty last one does not count. -/
def lines (cs : List Char) : List (List Char) :=
  let rec go (line : List Char) : List Char → List (List Char)
    | [] => if line.isEmpty then [] else [line.reverse]
    | '\n' :: rest =>
      (match line with
        | '\r' :: kept => kept.reverse
        | _ => line.reverse) :: go [] rest
    | c :: rest => go (c :: line) rest
  go [] cs

/-- The environment with the variables of some lines behind it. -/
def applyLines (bindings : Bindings) : List (List Char) → List (String × String)
  | [] => bindings.environment
  | cs :: rest =>
    match line bindings cs with
    | .malformed => bindings.environment
    | .idle => applyLines bindings rest
    | .assignment key value =>
      let environment :=
        if (bindings.environment.lookup key).isSome then bindings.environment
        else Source.assign key value bindings.environment
      applyLines ⟨environment, (key, value) :: bindings.file⟩ rest

/-- The lines of a file up to the first one that is not UTF-8. -/
def readable (bytes : List UInt8) : List (List Char) :=
  match Utf8.decode bytes with
  | .ok cs => lines cs
  | .error fault =>
    let whole := (bytes.take fault.index).reverse.dropWhile (· != 10)
    match Utf8.decode whole.reverse with
    | .ok cs => lines cs
    | .error _ => []

/-- The file `.env` of the current folder, or of the nearest folder above that has one; a nearest
one that there is no reading counts as none at all. -/
def search (files : Files) : Nat → List String → Option (List UInt8)
  | fuel, folder =>
    match files.node? (folder ++ [".env"]) with
    | some (.file bytes) => some bytes
    | some (.unreadable _) => none
    | _ =>
      match fuel with
      | 0 => none
      | fuel + 1 => search files fuel folder.dropLast

/-- The environment once the nearest file `.env` has been read. -/
def extend (files : Files) (environment : List (String × String)) : List (String × String) :=
  match search files files.current.length files.current with
  | none => environment
  | some bytes => applyLines ⟨environment, []⟩ (readable bytes)

end BrokerWiring.Dotenv
