import BucketClient.Failure
import BucketClient.Text.Blank
import BucketClient.Text.LetterCase

/-!
# Arguments

The checks that arguments pass before anything else happens. A bucket name is trimmed and must not be blank; a key is
taken as it is and must not be empty; numbers must be there and must not be negative; an access rule is one of four
canned ones, named in any case and among white space.
-/

namespace BucketClient

/-- A canned access rule of a bucket. -/
inductive Acl where
  /-- The owner has full access. -/
  | ownerOnly
  /-- Others may read. -/
  | publicRead
  /-- Others may read and write. -/
  | publicReadWrite
  /-- Users that are known may read. -/
  | authenticatedRead
  deriving DecidableEq, Repr

namespace Acl

/-- All access rules, in the order of their names. -/
def all : List Acl := [.authenticatedRead, .ownerOnly, .publicRead, .publicReadWrite]

/-- The name of an access rule. -/
def name : Acl → String
  | .ownerOnly => "private"
  | .publicRead => "public-read"
  | .publicReadWrite => "public-read-write"
  | .authenticatedRead => "authenticated-read"

/-- The access rule of a name, which may stand among white space and in any case. -/
def ofName? (s : String) : Option Acl :=
  let plain := Text.lower (Text.strip s)
  all.find? fun acl => acl.name == plain

end Acl

namespace Argument

/-- A bucket name without white space around it. -/
def bucket (name : String) : Except Failure String :=
  let name := Text.strip name
  if name.isEmpty then .error (.argument .blankBucket) else .ok name

/-- An object key. -/
def key (key : String) : Except Failure String :=
  if key.isEmpty then .error (.argument .emptyKey) else .ok key

/-- A number that is there and not negative; `fault` is what a negative one is. -/
def natural (fault : ArgumentFault) : Option Int → Except Failure Int
  | none => .error (.missingBefore "<")
  | some n => if n < 0 then .error (.argument fault) else .ok n

/-- The size of an upload. -/
def size (size : Option Int) : Except Failure Int :=
  natural .negativeSize size

/-- The offset and the length of a read; the offset is checked first. -/
def range (offset length : Option Int) : Except Failure (Int × Int) := do
  let offset ← natural .negativeRange offset
  let length ← natural .negativeRange length
  return (offset, length)

/-- An access rule by its name; no name is no access rule. -/
def acl (given : Option String) : Except Failure Acl :=
  match Acl.ofName? (given.getD "") with
  | some acl => .ok acl
  | none => .error (.argument (.unsupportedAcl given))

end Argument

end BucketClient
