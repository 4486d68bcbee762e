import RequiredVersion.Json.Raw
import RequiredVersion.Json.Number
import RequiredVersion.SortedMap

/-! # Taking values out of JSON documents

Readers take a raw document and give the value it stands for, or none where a part has the wrong
type.  A record is written as an object, whose unknown members are passed over and whose own may
not be repeated, or as the array of its fields in order; a map is an object, in which a repeated
key replaces the earlier one. -/

namespace RequiredVersion.RawJson

/-! ### Texts and plain values -/

/-- The characters of a text; a surrogate counts only as half of a pair. -/
def unitsText? : RawText → Option (List Char)
  | [] => some []
  | none :: _ => none
  | some n :: rest =>
    if 0xD800 ≤ n ∧ n < 0xDC00 then
      match rest with
      | some m :: more =>
        if 0xDC00 ≤ m ∧ m < 0xE000 then
          (unitsText? more).map (Char.ofNat (0x10000 + (n - 0xD800) * 0x400 + (m - 0xDC00)) :: ·)
        else none
      | _ => none
    else if 0xDC00 ≤ n ∧ n < 0xE000 then none
    else (unitsText? rest).map (Char.ofNat n :: ·)

def key? (units : RawText) : Option String := (unitsText? units).map String.ofList

def text? : RawJson → Option String
  | .str units => key? units
  | _ => none

def bool? : RawJson → Option Bool
  | .bool b => some b
  | _ => none

/-- A whole number of 64 bits without sign. -/
def word? : RawJson → Option Nat
  | .num literal =>
    match Number.ofLiteral? literal with
    | some (.int (.ofNat n)) => some n
    | _ => none
  | _ => none

/-- A value or `null`. -/
def nullable? {α : Type} (read : RawJson → Option α) : RawJson → Option (Option α)
  | .null => some none
  | v => (read v).map some

def list? {α : Type} (read : RawJson → Option α) : RawJson → Option (List α)
  | .arr items => items.mapM read
  | _ => none

/-- A map from texts: every value must be readable, the last of a repeated key counts. -/
def map? {α : Type} (read : RawJson → Option α) : RawJson → Option (SortedMap String α)
  | .obj members =>
    (members.mapM (fun (m : RawText × RawJson) => do
      let k ← key? m.1
      let v ← read m.2
      pure (k, v))).map SortedMap.ofList
  | _ => none

/-! ### Whole values -/

/-- The nesting up to which a value is read. -/
def depthLimit : Nat := 128

mutual
/-- The value of a raw document with fewer than `room` levels of arrays and objects. -/
def value? (room : Nat) : RawJson → Option Json
  | .null => some .null
  | .bool b => some (.bool b)
  | .num literal => (Number.ofLiteral? literal).map .num
  | .str units => (key? units).map .str
  | .arr items => if room ≤ 1 then none else (values? (room - 1) items).map .arr
  | .obj members => if room ≤ 1 then none else (memberValues? (room - 1) members).map .obj

def values? (room : Nat) : List RawJson → Option (List Json)
  | [] => some []
  | v :: vs =>
    match value? room v, values? room vs with
    | some v, some vs => some (v :: vs)
    | _, _ => none

def memberValues? (room : Nat) : List (RawText × RawJson) → Option (List (String × Json))
  | [] => some []
  | (k, v) :: ms =>
    match key? k, value? room v, memberValues? room ms with
    | some k, some v, some ms => some ((k, v) :: ms)
    | _, _, _ => none
end

/-! ### Records -/

/-- The parts of a record, by field name. -/
structure Fields where
  parts : List (String × RawJson)

namespace Fields

def get? (fs : Fields) (name : String) : Option RawJson :=
  (fs.parts.find? (fun p => p.1 == name)).map (·.2)

/-- A field that must be there. -/
def required? {α : Type} (fs : Fields) (name : String) (read : RawJson → Option α) : Option α :=
  (fs.get? name).bind read

/-- A field with a value for the case that it is missing. -/
def getD? {α : Type} (fs : Fields) (name : String) (fallback : α) (read : RawJson → Option α) :
    Option α :=
  match fs.get? name with
  | some v => read v
  | none => some fallback

end Fields

/-- The members of an object that are fields of a record; none may be repeated. -/
def objectFields? (names : List String) (members : List (RawText × RawJson)) : Option Fields := do
  let parts ← members.mapM (fun m => (key? m.1).map (fun k => (k, m.2)))
  let own := parts.filter (fun p => names.contains p.1)
  if (own.map (·.1)).Nodup then some ⟨own⟩ else none

/-- The parts of a record with the given fields. -/
def fields? (names : List String) : RawJson → Option Fields
  | .obj members => objectFields? names members
  | .arr items => if items.length ≤ names.length then some ⟨names.zip items⟩ else none
  | _ => none

end RequiredVersion.RawJson
