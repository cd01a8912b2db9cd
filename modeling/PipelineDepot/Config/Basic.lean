/-! # Configuration

What a store is set up with: the bucket, the base folder of pipelines, the choice between
single-part and multi-part transfers, and the backend that holds the objects.
-/

namespace PipelineDepot

/-- The region of a server that no setting names. -/
def defaultRegion : String := "us-east-1"

/-- The directory of objects that no setting names. -/
def defaultRoot : String := "./data"

/-- The base folder that no setting names. -/
def defaultBaseFolder : String := "pipelines"

/-- How a server that speaks the S3 protocol is reached. -/
structure S3Settings where
  endpoint : Option String := none
  region : String := defaultRegion
  accessKey : Option String := none
  secretKey : Option String := none
  deriving DecidableEq, Repr

/-- What holds the objects. -/
inductive Backend
  | memory
  | directory (root : String)
  | s3 (settings : S3Settings)
  deriving DecidableEq, Repr

/-- The kinds of backends. -/
inductive BackendKind
  | memory
  | directory
  | s3
  deriving DecidableEq, Repr

namespace BackendKind

/-- All kinds, in the order in which they are listed. -/
def all : List BackendKind := [memory, directory, s3]

/-- The name of a kind. -/
def name : BackendKind → String
  | memory => "memory"
  | directory => "local"
  | s3 => "s3"

/-- The kind with a name. -/
def ofName? (name : String) : Option BackendKind :=
  all.find? (·.name == name)

end BackendKind

namespace Backend

/-- The kind of a backend. -/
def kind : Backend → BackendKind
  | memory => .memory
  | directory _ => .directory
  | s3 _ => .s3

/-- The backend that no setting names. -/
def default : Backend := directory defaultRoot

/-- The name of the kind of a backend. -/
def name (backend : Backend) : String := backend.kind.name

end Backend

/-- The configuration of a store. -/
structure StoreConfig where
  bucketName : String
  baseFolder : String := defaultBaseFolder
  /-- Transfers are single-part. -/
  disableMultipart : Bool := true
  backend : Backend := .default
  deriving DecidableEq, Repr

end PipelineDepot
