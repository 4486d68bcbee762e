import RequiredVersion.Version.Basic

/-! # Requirements

A plugin declares the least versions of the framework and of PHP that it runs with. -/

namespace RequiredVersion

/-- What a plugin may require a version of. -/
inductive Requirement where
  | wordpress
  | php
  deriving DecidableEq

namespace Requirement

/-- The key of the field that declares it. -/
def key : Requirement → String
  | .wordpress => "Requires at least"
  | .php => "Requires PHP"

def label : Requirement → String
  | .wordpress => "WordPress"
  | .php => "PHP"

end Requirement

/-- The versions to declare; a field without one is left alone. -/
structure Requirements where
  wordpress : Option Version
  php : Option Version
  deriving DecidableEq

namespace Requirements

def isEmpty (r : Requirements) : Bool := r.wordpress.isNone && r.php.isNone

/-- The fields to write, in order. -/
def fields (r : Requirements) : List (Requirement × Version) :=
  (r.wordpress.map (fun v => (Requirement.wordpress, v))).toList ++
    (r.php.map (fun v => (Requirement.php, v))).toList

end Requirements

end RequiredVersion
