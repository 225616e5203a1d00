import BrokerWiring.CommandLine.Log
import BrokerWiring.CommandLine.Pattern
import BrokerWiring.Text.Alphanumeric
import BrokerWiring.Text.Utf8
import BrokerWiring.Text.WhiteSpace

/-!
# Log filters

A filter is a list of directives. Each lets the records of some targets, and with some fields,
through up to a level. Of those that match a record the most precise one decides: first the one with
the longest target, then the one that asks for more fields. Of two that say the same of both, the
later one counts.

A filter is written as directives between commas, `target[span{field=value}]=level` with most of it
optional. There are no spans here, so what speaks of a span, or of the value of a field, matches
nothing. One directive that cannot be read makes the whole text unreadable.
-/

namespace BrokerWiring.Log

/-- Lets records through, up to a rank, whose target starts with `target?` and that have all of
`fields`. -/
structure Directive where
  target? : Option String
  fields : List String
  rank : Nat
  deriving Repr, DecidableEq

/-- A list of directives. -/
abbrev Filter := List Directive

namespace Directive

/-- Whether a directive speaks of a record. The message counts as a field. -/
def matchesRecord (directive : Directive) (record : Record) : Bool :=
  directive.target?.all (fun target => target.toList.isPrefixOf record.target.toList) &&
    directive.fields.all fun name => name = "message" ∨ name ∈ record.fields.map (·.1)

/-- The length of the target; no target is shorter than any. -/
def reach (directive : Directive) : Nat :=
  match directive.target? with
  | none => 0
  | some target => target.length + 1

/-- Whether `a` speaks more precisely than `b` of a record that both match, or as precisely. Equal
numbers of fields are told apart by their names, the last in the order of texts first. -/
def outranks (a b : Directive) : Bool :=
  if a.reach ≠ b.reach then b.reach < a.reach
  else if a.fields.length ≠ b.fields.length then b.fields.length < a.fields.length
  else !decide (a.fields < b.fields)

end Directive

/-- The directive that decides about a record. -/
def Filter.deciding? (filter : Filter) (record : Record) : Option Directive :=
  (filter.filter (·.matchesRecord record)).foldl
    (fun best? d =>
      match best? with
      | none => some d
      | some best => if d.outranks best then some d else some best)
    none

/-- Whether a record is let through. -/
def Filter.allows (filter : Filter) (record : Record) : Bool :=
  match filter.deciding? record with
  | some directive => record.level.rank ≤ directive.rank
  | none => false

/-- The filter that holds unless another one is asked for. -/
def Filter.standard : Filter := [⟨none, [], Level.info.rank⟩]

/-! ## Ranks -/

/-- The words for ranks. -/
def rankWords : List (String × Nat) :=
  [("off", 0), ("error", 1), ("warn", 2), ("info", 3), ("debug", 4), ("trace", 5)]

/-- The number that decimal digits spell, perhaps behind a plus sign. -/
def number? (word : List Char) : Option Nat :=
  let digits := if word.head? = some '+' then word.drop 1 else word
  if digits.isEmpty ∨ digits.any (!·.isDigit) then none
  else some (digits.foldl (fun n c => n * 10 + (c.toNat - 48)) 0)

/-- The rank for a word in any letter case, or for a number up to five. -/
def rank? (word : String) : Option Nat :=
  match number? word.toList with
  | some n => if n ≤ 5 then some n else none
  | none => rankWords.lookup (String.ofList (word.toList.map Char.toLower))

/-- The rank behind an equals sign; nothing stands for the highest. -/
def rankBehind? (word : String) : Option Nat :=
  if word.isEmpty then some Level.trace.rank else rank? word

/-! ## Reading a directive -/

/-- Where the reading of a directive is, with the place where the current word starts. -/
inductive Place where
  | beginning
  /-- In a word that is a level or a target. -/
  | word (start : Nat)
  | span (start : Nat)
  | field (start : Nat)
  | behindFields
  | behindSpan
  | level (start : Nat)
  deriving Repr, DecidableEq

/-- What was read of a directive. -/
structure Draft where
  target? : Option String := none
  /-- Whether a span or the value of a field is asked for. -/
  ofSpans : Bool := false
  fields : List String := []
  deriving Repr, DecidableEq

/-- The text between two places, if no character is cut. -/
def between? (bytes : List UInt8) (start stop : Nat) : Option String :=
  (Utf8.decodeText ((bytes.take stop).drop start)).toOption

/-- Whether a directive may start with a character other than the bracket. -/
def mayStart (c : Char) : Bool := c == '-' || c == ':' || c == '_' || Text.isAlphanumeric c

/-- The draft with a field. Behind an equals sign stands the value that is asked for, up to another
equals sign. -/
def Draft.withField? (draft : Draft) (text : String) : Option Draft :=
  if text.isEmpty then none
  else
    match text.toList.dropWhile (· != '=') with
    | [] => some { draft with fields := draft.fields ++ [text] }
    | _ :: value =>
      if Pattern.isValue (value.takeWhile (· != '=')) then some { draft with ofSpans := true }
      else none

/-- Reads character `c` at place `i`. -/
def readChar (bytes : List UInt8) (draft : Draft) (i : Nat) (c : Char) :
    Place → Option (Draft × Place)
  | .beginning =>
    if c = '[' then some (draft, .span (i + 1))
    else if mayStart c then some (draft, .word i)
    else none
  | .word start =>
    if c = '=' ∨ c = '[' then do
      let target ← between? bytes start i
      let next : Place := if c = '=' then .level (i + 1) else .span (i + 1)
      return ({ draft with target? := some target }, next)
    else some (draft, .word start)
  | .span start =>
    if c = ']' then some ({ draft with ofSpans := true }, .behindSpan)
    else if c = '\x7b' then
      some ({ draft with ofSpans := draft.ofSpans || start != i }, .field (i + 1))
    else some (draft, .span start)
  | .field start =>
    if c = '\x7d' then do
      let draft ← draft.withField? (← between? bytes start i)
      return (draft, .behindFields)
    else some (draft, .field start)
  | .behindFields => if c = ']' then some (draft, .behindSpan) else none
  | .behindSpan => if c = '=' then some (draft, .level (i + 1)) else none
  | .level start => some (draft, .level start)

/-- Reads characters from place `i` on. -/
def readChars (bytes : List UInt8) : Nat → Draft → Place → List Char → Option (Draft × Place)
  | _, draft, place, [] => some (draft, place)
  | i, draft, place, c :: rest => do
    let (draft, place) ← readChar bytes draft i c place
    readChars bytes (i + c.utf8Size) draft place rest

/-- The directive that is finished with a level; none if it matches nothing here. -/
def Draft.finished (draft : Draft) (rank : Nat) : List Directive :=
  if draft.ofSpans then [] else [⟨draft.target?, draft.fields, rank⟩]

/-- The directives that a part of a filter's text gives, at most one; none if it cannot be read.
White space around a part is not read, but places count from the first character that is, and the
words are cut out of the whole part. -/
def directives? (part : List Char) : Option (List Directive) := do
  let bytes := Utf8.encode part
  let (draft, place) ← readChars bytes 0 {} .beginning (Text.trimEnd (Text.trimStart part))
  match place with
  | .word start =>
    let word ← between? bytes start bytes.length
    match rank? word with
    | some rank => return [⟨none, [], rank⟩]
    | none => return [⟨some word, [], Level.trace.rank⟩]
  | .level start => return draft.finished (← rankBehind? (← between? bytes start bytes.length))
  | .behindSpan => return draft.finished Level.trace.rank
  | _ => none

/-! ## Reading a filter -/

/-- The parts of a text between its commas. -/
def parts (cs : List Char) : List (List Char) :=
  let rec go (part : List Char) : List Char → List (List Char)
    | [] => [part.reverse]
    | ',' :: rest => part.reverse :: go [] rest
    | c :: rest => go (c :: part) rest
  go [] cs

/-- The filter that a text describes. Without any part, errors are let through. -/
def Filter.ofText? (text : String) : Option Filter :=
  match (parts text.toList).filter (!·.isEmpty) with
  | [] => some [⟨none, [], Level.error.rank⟩]
  | found => (found.mapM directives?).map List.flatten

/-- The filter of an environment: the one that `RUST_LOG` describes, if it can be read. -/
def Filter.ofEnvironment (environment : List (String × String)) : Filter :=
  ((environment.lookup "RUST_LOG").bind Filter.ofText?).getD .standard

end BrokerWiring.Log
