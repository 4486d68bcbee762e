import RequiredVersion.Address.Basic
import RequiredVersion.Session.Tools

/-! # The public source of releases

Where the latest version is asked for and releases are downloaded from.  This is the source without
a network: it finds the addresses, and every request fails. -/

namespace RequiredVersion

/-- The public source of releases. -/
structure Catalogue where
  apiBase : String
  downloadBase : String
  channel : String
  /-- A release that is to be taken as published. -/
  pretendRelease : Option String

namespace Catalogue

def area : Area := ["release", "api"]

/-- A text without slashes at its end. -/
def trimmed (base : String) : String :=
  String.ofList (Text.dropEndWhile (· == '/') base.toList)

/-- The fields of the query for the latest version. -/
def queryFields (c : Catalogue) : List (String × String) :=
  ("channel", c.channel) :: (c.pretendRelease.map (fun r => ("pretend_releases[]", r))).toList

def latestAddress (c : Catalogue) : Except Address.Failure Address :=
  (Address.parse (trimmed c.apiBase ++ "/core/version-check/1.7/").toList).map
    (·.withForm c.queryFields)

/-- The address of a release, as it is written. -/
def downloadText (c : Catalogue) (version : Version) : String :=
  trimmed c.downloadBase ++ "/release/wordpress-" ++ version.text ++ ".zip"

/-- How a request for an address fails; credentials are sent apart from the address. -/
def failureAt (a : Address) : ReleaseFailure :=
  let a := a.withoutCredentials
  if a.isSupported then .unreachable a.text else .unsupported (some a.text)

def latest (c : Catalogue) : Reply (Except ReleaseFailure Version) :=
  match c.latestAddress with
  | .error e => ⟨[], .error (.invalidResponse ("Invalid API URL: " ++ e.message))⟩
  | .ok a =>
    ⟨[⟨area, .info, "Querying version API on channel " ++ c.channel⟩], .error (failureAt a)⟩

def download (c : Catalogue) (version : Version) : Reply Delivery :=
  let text := c.downloadText version
  let failure := match Address.parse text.toList with
    | .error _ => .unsupported none
    | .ok a => failureAt a
  ⟨[⟨area, .info, "Downloading WordPress " ++ version.text ++ " from " ++ text⟩],
   ⟨none, some failure⟩⟩

def source (c : Catalogue) : ReleaseSource := ⟨c.latest, c.download, fun failed _ => failed⟩

end Catalogue

end RequiredVersion
