import HalBridge.Document.Decode
import HalBridge.Fault
import HalBridge.Json.Parser

/-!
The schema directory: which package releases exist, which minor versions belong together, and the
reading of release documents, each of which is decoded once.
-/

namespace HalBridge

open Document

/-- A schema directory on a disk, and the documents read so far. -/
structure Repository where
  disk : Disk := {}
  root : Path := {}
  read : List (QualifiedName × Release) := []

namespace Repository

/-- The name of a release's file. A package with slashes leads to a directory further down. -/
def fileName (q : QualifiedName) : String :=
  (Text.split '/' q.package).getLast?.getD "" ++ "@" ++ q.version.toText ++ ".json"

def directory (repository : Repository) (q : QualifiedName) : Path :=
  repository.root.join
    { anchor := Path.anchorOf q.package
      parts := Path.keptParts (Text.split '/' q.package).dropLast }

def path (repository : Repository) (q : QualifiedName) : Path :=
  (repository.directory q).child (fileName q)

def file? (repository : Repository) (q : QualifiedName) : Option String :=
  match repository.disk.read (repository.path q) with
  | .ok text => some text
  | .error _ => none

def contains (repository : Repository) (q : QualifiedName) : Bool :=
  (repository.file? q).isSome

/-- Runs a change of the disk. -/
def changing (repository : Repository) (change : Disk → Except PathError Disk) :
    Except Fault Repository :=
  match change repository.disk with
  | .ok disk => .ok { repository with disk }
  | .error error => .error (.path error)

/-- Writes a file of the directory. -/
def put (repository : Repository) (name text : String) : Except Fault Repository :=
  repository.changing fun disk => disk.write (repository.root.join (.ofText name)) text

/-- Removes a file of the directory. -/
def remove (repository : Repository) (name : String) : Except Fault Repository :=
  repository.changing fun disk => disk.remove (repository.root.join (.ofText name))

/-- Whether a release exists cannot be asked if its path is too long. -/
def checkPath (repository : Repository) (q : QualifiedName) : Except Fault Unit :=
  match repository.disk.find (repository.path q) with
  | .error .nameTooLong => .error (.path .nameTooLong)
  | _ => .ok ()

/-- Whether a release exists, if that can be asked. -/
def holds (repository : Repository) (q : QualifiedName) : Except Fault Bool :=
  (repository.checkPath q).map fun _ => repository.contains q

/-- The least minor version from which every one up to `minor` is present. -/
def lowestMinor (present : Nat → Bool) : Nat → Nat
  | 0 => 0
  | minor + 1 => if present minor then lowestMinor present minor else minor + 1

/-- The greatest minor version up to which every one after `minor` is present, looking at no more
than `bound` of them. -/
def highestMinor (present : Nat → Bool) : Nat → Nat → Nat
  | 0, minor => minor
  | bound + 1, minor =>
      if present (minor + 1) then highestMinor present bound (minor + 1) else minor

def withMinor (q : QualifiedName) (minor : Nat) : QualifiedName :=
  q.withVersion { q.version with minor }

def lowest (repository : Repository) (q : QualifiedName) : QualifiedName :=
  withMinor q (lowestMinor (fun minor => repository.contains (withMinor q minor)) q.version.minor)

/-- The newest release reached from `q` by single steps; each step needs a file of its own, so the
number of places on the disk bounds their number. -/
def highest (repository : Repository) (q : QualifiedName) : QualifiedName :=
  withMinor q (highestMinor (fun minor => repository.contains (withMinor q minor))
    repository.disk.size q.version.minor)

/-- The oldest and the newest release around `q`. The names asked for grow no longer on the way
down, and they grow no shorter on the way up, so the first and the last one tell whether all can
be asked for. -/
def range (repository : Repository) (q : QualifiedName) :
    Except Fault (QualifiedName × QualifiedName) := do
  if q.version.minor ≠ 0 then repository.checkPath (withMinor q (q.version.minor - 1))
  let newest := repository.highest q
  repository.checkPath (withMinor newest (newest.version.minor + 1))
  return (repository.lowest q, newest)

/-- Lists the existing releases from `q` on, one minor version after the other, as long as the
version is not above `high`. After `bound` steps there is no next version that could be written. -/
def listFrom (repository : Repository) (high : Version) :
    Nat → QualifiedName → Except Fault (List QualifiedName)
  | 0, q => if q.version ≤ high then .error .unwritableNumber else .ok []
  | bound + 1, q =>
      if q.version ≤ high then do
        let present ← repository.holds q
        let newer ← repository.listFrom high bound q.up
        return if present then q :: newer else newer
      else .ok []

/-- The existing releases from one version up to another. Below a higher major version there is
always a next minor version, until its number is too long to be written. -/
def listed (repository : Repository) (low high : QualifiedName) :
    Except Fault (List QualifiedName) :=
  repository.listFrom high.version
    (if low.version.major = high.version.major then high.version.minor + 1 - low.version.minor
      else Nat.pow 10 Text.digitLimit - low.version.minor)
    low.release

/-- The releases that a run for `q` covers, oldest first. -/
def covered (repository : Repository) (q : QualifiedName) : Except Fault (List QualifiedName) :=
  repository.listed (repository.lowest q) q

/-- Checks a request: it names a release that exists and, unless forced, is the newest. -/
def checkRequest (repository : Repository) (request : String) (force : Bool) :
    Except Fault QualifiedName := do
  let q ← QualifiedName.read request
  if q.namesType then throw (.input (.notAPackage q.release))
  if !(← repository.holds q) then throw (.input (.missingRelease q))
  if !force then
    let newest := repository.highest q
    repository.checkPath (withMinor newest (newest.version.minor + 1))
    if newest ≠ q then throw (.input (.outdated newest q))
  return q

/-- Decodes the text of a release document and checks that it is about that release. -/
def decodeRelease (key : QualifiedName) (text : String) : Except Fault Release :=
  match Json.parse? text with
  | none => .error (.input (.unreadableRelease key none))
  | some value =>
      match Release.decode value with
      | .error .notAnObject => .error .notAnObject
      | .error .infinite => .error .infiniteSize
      | .error .unreadable => .error (.input (.unreadableRelease key none))
      | .error (.missing missing) => .error (.input (.unreadableRelease key (some missing)))
      | .ok release =>
          if release.package = some key.package && release.version = some key.version.toText then
            .ok release
          else
            .error (.input (.misplacedRelease (fileName key) release.package release.version key))

/-- The document of a release. One that was read before is not read again. -/
def load (repository : Repository) (q : QualifiedName) : Except Fault Release × Repository :=
  let key := q.release
  match repository.read.lookup key with
  | some release => (.ok release, repository)
  | none =>
      match repository.checkPath key, repository.file? key with
      | .error fault, _ => (.error fault, repository)
      | .ok (), none => (.error (.input (.missingRelease key)), repository)
      | .ok (), some text =>
          match decodeRelease key text with
          | .ok release =>
              (.ok release, { repository with read := repository.read ++ [(key, release)] })
          | .error fault => (.error fault, repository)

end Repository

end HalBridge
