/-!
# Origins and security domains

Every unit says where it came from (`Origin`) and carries the security domain
that it shares with the other units of that place. The domain of an archive
holds what the archive's manifest says about the package.
-/

namespace LayeredUnits

/-- What a package manifest says. Every field may be left out, and nothing here is acted upon: a
seal, for example, is told and not enforced. -/
structure Package where
  title : Option String := none
  version : Option String := none
  vendor : Option String := none
  /-- Whether all units of the package have to come from one archive. -/
  isSealed : Bool := false
  /-- The place that the seal refers to. -/
  sealBase : Option String := none
deriving DecidableEq, Repr

/-- A manifest that says nothing. An archive without a manifest, or with one that cannot be used,
counts as having this one. -/
def Package.empty : Package := {}

/-- Whether the manifest said nothing. -/
def Package.isEmpty (package : Package) : Bool := package = Package.empty

/-- Where a unit came from. This is said of a source as a whole, so units of one source have the
same origin whatever they are called. -/
inductive Origin where
  /-- The host loader had it. -/
  | host
  /-- It was read from the directory with this root. -/
  | directory (root : String)
  /-- It was extracted from the archive known by this origin. -/
  | archive (origin : String)
deriving DecidableEq, Repr

/-- How an origin is shown. -/
def Origin.text : Origin → String
  | .host => "host"
  | .directory root => "dir:" ++ root
  | .archive origin => "archive:" ++ origin

/-- The security domain that all units of one place share. Whether two units share theirs is a
question of the instance, not of what the domain says. -/
structure Domain where
  /-- The origin of the archive, or none for the default domain. -/
  origin : Option String := none
  package : Package := {}
deriving DecidableEq, Repr

/-- The domain of units that come from no archive. It says nothing, and each loader has one instance
of it for all its directories. -/
def Domain.default : Domain := {}

/-- The domain of an archive: what the archive is known by, with what its manifest says. -/
def Domain.archive (origin : String) (package : Package) : Domain := ⟨some origin, package⟩

/-- Whether a domain is the default one. An archive has a domain with an origin even if its manifest
says nothing, so this does not look at the package. -/
def Domain.isDefault (domain : Domain) : Bool := domain.origin.isNone

/-- How a domain is shown: the origin, with title and version if the manifest gives a title. A
version alone is not shown. -/
def Domain.text (domain : Domain) : String :=
  match domain.origin, domain.package.title, domain.package.version with
  | none, _, _ => "default"
  | some origin, some title, some version => origin ++ " (" ++ title ++ " " ++ version ++ ")"
  | some origin, some title, none => origin ++ " (" ++ title ++ ")"
  | some origin, none, _ => origin

end LayeredUnits
