import RequiredVersion.Text.Alphanumeric
import RequiredVersion.Text.Digit

/-! # Log records

What a run reports besides its result.  A record belongs to a part of the program; a filter says
from which level on the records of a part are shown. -/

namespace RequiredVersion

/-- How serious a record is, from the least on. -/
inductive Level where
  | debug
  | info
  | warn
  | error
  deriving DecidableEq

namespace Level

def rank : Level → Nat
  | .debug => 1
  | .info => 2
  | .warn => 3
  | .error => 4

def label : Level → String
  | .debug => "DEBUG"
  | .info => "INFO"
  | .warn => "WARN"
  | .error => "ERROR"

end Level

/-- A part of the program, by the names that lead to it. -/
abbrev Area := List String

/-- A log record. -/
structure Record where
  area : Area
  level : Level
  message : String
  deriving DecidableEq

def Record.line (r : Record) : String := r.level.label ++ " " ++ r.message

/-! ### Filters -/

/-- Which records of a part a directive is about. -/
inductive Concern where
  | all
  /-- Those with a field of the given name. -/
  | withField (name : List Char)
  /-- Those inside of something that is going on, which no record of this program is. -/
  | inside
  deriving DecidableEq

/-- The least rank of the records that are shown of the parts whose full name starts with a text,
or of all parts. -/
structure Directive where
  start : Option (List Char)
  concern : Concern
  least : Nat
  deriving DecidableEq

/-- A list of directives; the one with the longest start decides, of two with the same start one
about a field, and of two equal ones the later. -/
abbrev LogFilter := List Directive

namespace LogFilter

/-- The rank above all records. -/
def silent : Nat := 5

/-- The name of the program, which the names of its parts start with. -/
def programName : String := "wpvc"

def fullName (area : Area) : List Char := ("::".intercalate (programName :: area)).toList

/-- The only field that records have. -/
def messageField : List Char := "message".toList

/-- The least rank that a number stands for: the larger the number, the more is shown. -/
def rankOfNumber? (digits : List Char) : Option Nat :=
  let digits := match digits with
    | '+' :: rest => rest
    | rest => rest
  match Text.word? digits with
  | some n => if n ≤ silent then some (silent - n) else none
  | none => none

/-- The least rank that a level stands for, which is named or given by a number. -/
def leastRank? (level : List Char) : Option Nat :=
  let name := String.ofList (Text.lowerAscii level)
  if name = "trace" then some 0
  else if name = "debug" then some 1
  else if name = "info" then some 2
  else if name = "warn" then some 3
  else if name = "error" then some 4
  else if name = "off" then some silent
  else rankOfNumber? level

/-- The least rank that the text behind an equals sign stands for; nothing shows all. -/
def leastBehind? (level : List Char) : Option Nat :=
  if level.isEmpty then some 0 else leastRank? level

/-- Can a directive start with the character? -/
def isStart (c : Char) : Bool :=
  c == '-' || c == ':' || c == '_' || Text.isAlphanumeric c

/-- The place of the first one of some characters, from a place on. -/
def placeOf? (marks : List Char) (cs : List Char) (place : Nat) : Option Nat :=
  ((cs.drop place).findIdx? marks.contains).map (· + place)

/-- The part of a text from one place up to another one. -/
def slice (cs : List Char) (first last : Nat) : List Char := (cs.drop first).take (last - first)

/-- The concern that a field in braces stands for.  A field with a value is about what is going
on. -/
def concernOf? (named : Bool) (field : List Char) : Option Concern :=
  if field.isEmpty then none
  else if named || field.contains '=' then some .inside
  else some (.withField field)

/-- Reads what stands between brackets, from the place behind the first one, and gives the place
behind the last one.  Places are looked for in the trimmed text and taken from the text itself. -/
def readConcern? (text trimmed : List Char) (place : Nat) : Option (Concern × Nat) := do
  let last ← placeOf? [']', '\x7b'] trimmed place
  if trimmed[last]? = some ']' then some (.inside, last + 1)
  else
    let close ← placeOf? ['\x7d'] trimmed (last + 1)
    let concern ← concernOf? (place < last) (slice text (last + 1) close)
    if trimmed[close + 1]? = some ']' then some (concern, close + 2) else none

/-- Reads a directive behind its start: something in brackets, and perhaps a level. -/
def readBrackets? (text trimmed : List Char) (start : Option (List Char)) (place : Nat) :
    Option Directive := do
  let (concern, next) ← readConcern? text trimmed place
  if next = trimmed.length then some ⟨start, concern, 0⟩
  else if trimmed[next]? = some '=' then
    let least ← leastBehind? (text.drop (next + 1))
    some ⟨start, concern, least⟩
  else none

/-- Reads a directive: a level, or the start of a name with something in brackets or a level or both
behind it.  Blanks around a directive do not make it unreadable, but belong to its parts. -/
def directive? (text : List Char) : Option Directive :=
  let trimmed := Text.trim text
  match trimmed with
  | [] => none
  | c :: _ =>
    if c = '[' then readBrackets? text trimmed none 1
    else if !isStart c then none
    else
      match placeOf? ['=', '['] trimmed 1 with
      | none =>
        match leastRank? text with
        | some least => some ⟨none, .all, least⟩
        | none => some ⟨some text, .all, 0⟩
      | some place =>
        let start := some (text.take place)
        if trimmed[place]? = some '[' then readBrackets? text trimmed start (place + 1)
        else (leastBehind? (text.drop (place + 1))).map (fun least => ⟨start, .all, least⟩)

/-- Reads a filter; one unreadable directive spoils it. -/
def parse? (text : String) : Option LogFilter :=
  ((Text.splitAt ',' text.toList).filter (· != [])).mapM directive?

/-- The filter that shows all parts from a level on. -/
def ofLevel (level : Level) : LogFilter := [⟨none, .all, level.rank⟩]

/-- Is a directive about the records of a part? -/
def concerns (area : Area) (d : Directive) : Bool :=
  (d.start.getD []).isPrefixOf (fullName area) &&
    (d.concern == .all || d.concern == .withField messageField)

/-- How much a directive says of the records that it is about: the length of its start, with more
for any start than for none, and whether it asks for a field. -/
def weight (d : Directive) : Nat :=
  2 * ((d.start.map (fun s => s.length + 1)).getD 0) + if d.concern = .all then 0 else 1

/-- The directive that decides on the records of a part. -/
def deciding? (filter : LogFilter) (area : Area) : Option Directive :=
  (filter.filter (concerns area)).foldl (fun best d =>
    match best with
    | none => some d
    | some b => if weight b ≤ weight d then some d else some b) none

/-- Does the filter show a record? -/
def shows (filter : LogFilter) (r : Record) : Bool :=
  match deciding? filter r.area with
  | some d => d.least ≤ r.level.rank
  | none => false

end LogFilter

end RequiredVersion
