import RequiredVersion.Address.Escape
import RequiredVersion.Domain.Basic
import RequiredVersion.Text.Digit

/-! # Hosts

A host is named, or given by a number of 32 bits or one of 128 bits.  A number of 32 bits is written
as up to four parts with dots between them, each in base 10, 16 or 8; the last part stands for all
bytes that are left.  A number of 128 bits is written in brackets, as eight pieces of base 16 with
colons between them, where two colons stand for pieces that are zero. -/

namespace RequiredVersion

/-- Why a text is no address. -/
inductive Address.Failure where
  | noScheme
  | emptyHost
  | invalidService
  | invalidShortNumber
  | invalidLongNumber
  | invalidHostCharacter
  | invalidDomain
  deriving DecidableEq

def Address.Failure.message : Address.Failure → String
  | .noScheme => "relative URL without a base"
  | .emptyHost => "empty host"
  | .invalidService => "invalid port number"
  | .invalidShortNumber => "invalid IPv4 address"
  | .invalidLongNumber => "invalid IPv6 address"
  | .invalidHostCharacter => "invalid domain character"
  | .invalidDomain => "invalid international domain name"

inductive Host where
  /-- A host with a name, which may be empty. -/
  | named (name : List Char)
  /-- A host with a number of 32 bits. -/
  | short (number : Nat)
  /-- A host with a number of 128 bits, in eight pieces. -/
  | long (pieces : List Nat)
  deriving DecidableEq

namespace Host

/-! ### Numbers of 32 bits -/

/-- The digits of a part and their base. -/
def partDigits : List Char → Nat × List Char
  | '0' :: 'x' :: digits => (16, digits)
  | '0' :: 'X' :: digits => (16, digits)
  | '0' :: c :: digits => (8, c :: digits)
  | digits => (10, digits)

/-- The number that a part writes, however large; a base without digits stands for zero. -/
def partNumber? (part : List Char) : Option Nat :=
  if part.isEmpty then none
  else
    let (base, digits) := partDigits part
    digits.foldl (fun n c =>
      match n, Text.hexValue? c with
      | some n, some v => if v < base then some (n * base + v) else none
      | _, _ => none) (some 0)

/-- The parts of a name, without an empty one at its end. -/
def parts (name : List Char) : List (List Char) :=
  let parts := Text.splitAt '.' name
  if parts.getLast? == some [] then parts.dropLast else parts

/-- Is a name meant as a number?  Its last part tells. -/
def endsInNumber (name : List Char) : Bool :=
  match (parts name).getLast? with
  | some part => !part.isEmpty && (part.all Char.isDigit || (partNumber? part).isSome)
  | none => false

/-- The number of 32 bits with the given parts. -/
def ofParts? (numbers : List Nat) : Option Nat :=
  match numbers.reverse with
  | [] => none
  | last :: front =>
    let room := Nat.pow 2 (8 * (4 - front.length))
    if 3 < front.length || last ≥ room || front.any (255 < ·) then none
    else some (front.reverse.foldl (fun n b => 256 * n + b) 0 * room + last)

/-- Reads a number of 32 bits. -/
def short? (name : List Char) : Option Nat := ((parts name).mapM partNumber?).bind ofParts?

/-! ### Numbers of 128 bits -/

/-- A piece of at most four digits. -/
def piece? (digits : List Char) : Option Nat :=
  if 1 ≤ digits.length ∧ digits.length ≤ 4 ∧ digits.all (fun c => (Text.hexValue? c).isSome) then
    some (Text.natOfHex digits)
  else none

/-- A byte in base 10, without leading zeros. -/
def byte? (digits : List Char) : Option Nat :=
  if 1 ≤ digits.length ∧ digits.length ≤ 3 ∧ digits.all Char.isDigit ∧
      (digits.head? ≠ some '0' ∨ digits.length = 1) ∧ Text.natOfDigits digits ≤ 255 then
    some (Text.natOfDigits digits)
  else none

/-- The pieces of the last group, which may be four bytes with dots between them. -/
def lastPieces? (group : List Char) : Option (List Nat) :=
  if group.contains '.' then
    match (Text.splitAt '.' group).mapM byte? with
    | some [a, b, c, d] => some [256 * a + b, 256 * c + d]
    | _ => none
  else (piece? group).map (fun n => [n])

/-- The pieces of groups; `isLast` says that they stand at the end. -/
def pieces? (isLast : Bool) : List (List Char) → Option (List Nat)
  | [] => some []
  | [group] => if isLast then lastPieces? group else (piece? group).map (fun n => [n])
  | group :: groups => do
    let n ← piece? group
    let ns ← pieces? isLast groups
    some (n :: ns)

/-- Splits a text at the first two colons in a row. -/
def splitGap? : List Char → Option (List Char × List Char)
  | ':' :: ':' :: rest => some ([], rest)
  | c :: rest => (splitGap? rest).map (fun s => (c :: s.1, s.2))
  | [] => none

/-- The groups of a text, none if it is empty. -/
def groups (cs : List Char) : List (List Char) :=
  if cs.isEmpty then [] else Text.splitAt ':' cs

/-- Reads a number of 128 bits. -/
def long? (cs : List Char) : Option (List Nat) :=
  match splitGap? cs with
  | none => (pieces? true (groups cs)).filter (fun ps => ps.length == 8)
  | some (front, back) => do
    let first ← pieces? false (groups front)
    let last ← pieces? true (groups back)
    let count := first.length + last.length
    if count ≤ 7 then some (first ++ List.replicate (8 - count) 0 ++ last) else none

/-- The first one of the longest runs of zeros: where it starts and how long it is. -/
def longestZeros (pieces : List Nat) : Nat × Nat :=
  (List.range pieces.length).foldl (fun best i =>
    let n := ((pieces.drop i).takeWhile (· == 0)).length
    if best.2 < n then (i, n) else best) (0, 0)

/-- Pieces with colons between them. -/
def piecesText (pieces : List Nat) : List Char :=
  ((pieces.map (Nat.toDigits 16)).intersperse [':']).flatten

/-- A number of 128 bits, with two colons for the longest run of at least two zeros. -/
def longText (pieces : List Nat) : List Char :=
  let (start, count) := longestZeros pieces
  if count ≤ 1 then piecesText pieces
  else piecesText (pieces.take start) ++ [':', ':'] ++ piecesText (pieces.drop (start + count))

/-! ### Reading and writing -/

/-- Reads a number in brackets. -/
def bracketed (cs : List Char) : Except Address.Failure Host :=
  if cs.getLast? = some ']' then
    match long? (cs.drop 1).dropLast with
    | some pieces => .ok (.long pieces)
    | none => .error .invalidLongNumber
  else .error .invalidLongNumber

/-- Characters that no host has. -/
def isForbidden (c : Char) : Bool :=
  c.toNat = 0 ||
    [' ', '#', '/', ':', '<', '>', '?', '@', '[', '\\', ']', '^', '|'].contains c

/-- Reads a host of which only the form is known. -/
def plain (cs : List Char) : Except Address.Failure Host :=
  if cs.head? = some '[' then bracketed cs
  else if cs.any isForbidden then .error .invalidHostCharacter
  else .ok (.named (Address.escape Address.keptInPlainText cs))

/-- Reads a host of the net: a domain name, or a number. -/
def ofNet (cs : List Char) : Except Address.Failure Host :=
  if cs.head? = some '[' then bracketed cs
  else
    match (Address.unescaped? cs).bind (fun s => Domain.toAscii? s.toList) with
    | none => .error .invalidDomain
    | some [] => .error .emptyHost
    | some name =>
      if endsInNumber name then
        match short? name with
        | some n => .ok (.short n)
        | none => .error .invalidShortNumber
      else .ok (.named name)

/-- The four bytes of a number of 32 bits, with dots between them. -/
def shortText (n : Nat) : List Char :=
  let bytes := [n / 0x1000000, n / 0x10000, n / 0x100, n].map (fun b => Text.decimal (b % 256))
  (bytes.intersperse ['.']).flatten

def chars : Host → List Char
  | .named name => name
  | .short n => shortText n
  | .long pieces => '[' :: longText pieces ++ [']']

end Host

end RequiredVersion
