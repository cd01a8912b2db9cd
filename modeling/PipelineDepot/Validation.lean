import PipelineDepot.Store.Error
import PipelineDepot.Text.Blank

/-! # Validation rules

The rules that single settings have to keep. Each is a check of a named field, and the error names
the field, the value, and the first rule that the value breaks. What a URL is, the rules leave to a
reader of URLs.
-/

namespace PipelineDepot

/-- A reader of URLs. -/
class UrlReader where
  /-- The scheme of an absolute URL, or why the text is none, in words. -/
  scheme : String → Except String String

namespace Validation

/-- Refuses a value unless it keeps the rule. -/
def ensure (kept : Bool) (field value reason : String) : Except StoreError Unit :=
  if kept then .ok () else .error (.invalid field value reason)

/-- A lowercase ASCII letter, an ASCII digit or a hyphen. -/
def isNameChar (c : Char) : Bool := c.isLower || c.isDigit || c == '-'

/-- The schemes under which a server is reached. -/
def serverSchemes : List String := ["http", "https"]

/-- A URL under which a server is reached. -/
def url [UrlReader] (field value : String) : Except StoreError Unit := do
  ensure (value != "") field value "URL cannot be empty"
  match UrlReader.scheme value with
  | .error complaint => .error (.invalid field value ("Invalid URL format: " ++ complaint))
  | .ok scheme =>
    ensure (serverSchemes.contains scheme) field value ("Unsupported URL scheme: " ++ scheme)

/-- The beginning of keys. -/
def keyPrefix (field value : String) : Except StoreError Unit :=
  ensure (!value.toList.contains '\x00') field value "Path contains null bytes"

/-- A path of a directory. -/
def path (field value : String) : Except StoreError Unit := do
  ensure (value != "") field value "Path cannot be empty"
  keyPrefix field value

/-- A text with something to see in it. -/
def nonBlank (field value : String) : Except StoreError Unit :=
  ensure (!Text.allBlank value.toList) field value "Value cannot be empty or whitespace-only"

/-- The name of a bucket. -/
def bucketName (field value : String) : Except StoreError Unit := do
  ensure (value != "") field value "Bucket name cannot be empty"
  ensure (3 ≤ value.utf8ByteSize && value.utf8ByteSize ≤ 63) field value
    "Bucket name must be between 3 and 63 characters"
  ensure (value.toList.all fun c => isNameChar c || c == '.') field value
    "Bucket name can only contain lowercase letters, numbers, hyphens, and dots"
  ensure (value.toList.head? != some '-' && value.toList.getLast? != some '-') field value
    "Bucket name cannot start or end with a hyphen"

/-- The region of a server. -/
def region (field value : String) : Except StoreError Unit := do
  nonBlank field value
  ensure (value.toList.all isNameChar) field value
    "Region can only contain lowercase letters, numbers, and hyphens"

end Validation

end PipelineDepot
