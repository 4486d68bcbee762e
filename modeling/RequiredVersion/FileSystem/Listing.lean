import RequiredVersion.FileSystem.Basic

/-! # Listings of directories

What stands below a directory, and how two listings differ. -/

namespace RequiredVersion

/-- Files with their contents, and empty directories, by their path from a directory.  The path of
an empty directory ends with a slash. -/
abbrev Listing := SortedMap String (Option Content)

namespace FileSystem

/-- What a listing has for an entry; links and directories that hold something have no line. -/
def listingEntry? (fs : FileSystem) (root : Place) (e : Place × Entry) :
    Option (String × Option Content) :=
  if e.1.length ≤ root.length || !isWithin root e.1 then none
  else
    let name := "/".intercalate (e.1.drop root.length)
    match e.2 with
    | .file content => some (name, some content)
    | .directory => if (fs.names e.1).isEmpty then some (name ++ "/", none) else none
    | .link _ => none

/-- What stands below a directory. -/
def listing (fs : FileSystem) (root : Place) : Listing :=
  .ofList (fs.entries.entries.filterMap (fs.listingEntry? root))

end FileSystem

namespace Listing

/-- The lines of a listing that an earlier one does not have. -/
def changedSince (l earlier : Listing) : List (String × Option Content) :=
  l.entries.filter (fun e => earlier.get? e.1 != some e.2)

/-- The paths of an earlier listing that are gone. -/
def removedSince (l earlier : Listing) : List String :=
  earlier.keys.filter (fun path => !l.contains path)

end Listing

end RequiredVersion
