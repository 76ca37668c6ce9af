import PageNotes.Text.Percent
import PageNotes.Path.Basic
import PageNotes.Reference.Kind

/-!
Assets: local files that a page shows or offers, such as images and attachments.

* `hasAssetExtension`: whether a reference names such a file by its ending;
* `Asset`: a file that travels with the page, with its name before and after;
* `resolveReference`: the file that a reference of a page means.
-/

namespace PageNotes

/-- The endings of attachments: documents, sheets, presentations, archives and images. -/
def assetExtensions : List String :=
  [".pdf", ".doc", ".docx", ".odt", ".rtf", ".txt", ".xls", ".xlsx", ".ods", ".csv", ".ppt",
    ".pptx", ".odp", ".zip", ".tar", ".gz", ".tgz", ".7z", ".rar", ".png", ".jpg", ".jpeg", ".gif",
    ".svg", ".webp", ".bmp", ".tif", ".tiff", ".ico"]

/-- Whether the path of a reference has the ending of an attachment. -/
def hasAssetExtension (r : Text) : Bool :=
  assetExtensions.contains (String.ofList (splitExtension (splitReference r).1).2.lower)

/-- A file that travels with a page. -/
structure Asset where
  /-- The reference as the page has it. -/
  original : Text
  /-- The file that it means. -/
  resolved : Path
  /-- The reference that takes its place. -/
  published : Text
  deriving DecidableEq, Repr

/-- The name under which the file is copied. -/
def Asset.fileName (a : Asset) : Text := a.resolved.name

/-- The file that a reference means, for a page in a directory `directory` of the working
directory `working`. -/
def resolveReference (working directory : Path) (r : Text) : Path :=
  ((working.join directory).join (.ofText (percentDecode (splitReference r).1))).normalize

/-- The reference to an asset where the note is published. -/
def publicReference (assetPrefix r : Text) : Text :=
  let (path, suffix) := splitReference r
  assetPrefix ++ baseName path ++ suffix

end PageNotes
