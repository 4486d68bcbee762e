import RequiredVersion.Session.Basic

/-! # Unpacking archives

The members of an archive are written to a directory, without the top directory that they stand in.
A member whose name goes above its own start is passed over.  The name is judged whole, with the top
directory still in it: `wordpress/../a` is accepted, and its path without the top directory is
`../a`, beside the directory rather than below it.

A member that cannot be opened ends the unpacking, and so does one whose data cannot be decoded to its
end; what was written before stays. -/

namespace RequiredVersion.Archive

def area : Area := ["release", "archive"]

/-- The directory that a release archive puts its files in. -/
def topName : String := "wordpress"

/-- Do the components never go above their start?  `depth` is the number of names so far. -/
def staysBelow : Nat → List String → Bool
  | _, [] => true
  | depth, c :: cs =>
    if c = "." then staysBelow depth cs
    else if c = ".." then
      match depth with
      | 0 => false
      | depth + 1 => staysBelow depth cs
    else staysBelow (depth + 1) cs

/-- Is a member with this name unpacked?  This looks at the whole name, not at its `memberPath`. -/
def isSafe (name : String) : Bool :=
  !name.toList.contains (Char.ofNat 0) && !(⟨name⟩ : Path).isAbsolute &&
    staysBelow 0 (⟨name⟩ : Path).components

/-- Does the name of a member stand for a directory? -/
def isDirectoryName (name : String) : Bool :=
  match name.toList.getLast? with
  | some c => c == '/' || c == '\\'
  | none => false

/-- The path of a member seen from the directory, without the top directory. -/
def memberPath (name : String) : Path := ((⟨name⟩ : Path).dropFirst? topName).getD ⟨name⟩

/-- Writes a file with the data of a member and counts it.  Of data that cannot be read to its end the
part before the failure is written. -/
def writeData (target : Path) (data : ByteArray) (failure : Option Cause) : Run ReleaseFailure Nat := do
  Run.change (fun e => .io target e) (fun fs => fs.write target (.bytes data))
  match failure with
  | some e => throw (.io target e)
  | none => return 1

/-- Writes one member and gives the number of files written. -/
def writeMember (archive dest : Path) (name : String) : Member → Run ReleaseFailure Nat
  | .unreadable => throw (.extraction archive)
  | .readable data failure => do
    if !isSafe name then
      Run.note area .debug ("Skipping unsafe archive entry " ++ name)
      return 0
    let relative := memberPath name
    if relative.text.isEmpty then return 0
    let target := dest.join relative
    if isDirectoryName name then
      Run.makeDirectories (fun e => .io target e) target
      return 0
    match target.parent? with
    | some dir => Run.makeDirectories (fun e => .io dir e) dir
    | none => pure ()
    writeData target data failure

/-- Writes members one after the other and gives the number of files written. -/
def writeMembers (archive dest : Path) : List (String × Member) → Run ReleaseFailure Nat
  | [] => return 0
  | (name, member) :: rest => do
    let n ← writeMember archive dest name member
    let m ← writeMembers archive dest rest
    return n + m

/-- Puts a member behind the others, or in the place of one with its name. -/
def addMember (members : List (String × Member)) (m : String × Member) : List (String × Member) :=
  if members.any (fun n => n.1 = m.1) then members.map (fun n => if n.1 = m.1 then m else n)
  else members ++ [m]

/-- The members of an archive by name: of two with one name the later counts, at the place of the
earlier. -/
def distinct (members : List (String × Member)) : List (String × Member) :=
  members.foldl addMember []

/-- Unpacks an archive into a directory and gives the number of files written. -/
def extract (archive dest : Path) : Run ReleaseFailure Nat := do
  Run.note area .info ("Extracting " ++ archive.quoted ++ " to " ++ dest.quoted)
  match (← Run.files).read archive with
  | .error .isADirectory => throw (.extraction archive)
  | .error e => throw (.io archive e)
  | .ok (.bytes _) => throw (.extraction archive)
  | .ok (.archive members) =>
    let n ← writeMembers archive dest (distinct members)
    Run.note area .info ("Extracted " ++ Text.decimalText n ++ " files")
    return n

end RequiredVersion.Archive
