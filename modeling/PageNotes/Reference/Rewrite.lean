import PageNotes.Html.Tree
import PageNotes.Reference.PageLink
import PageNotes.Reference.Asset
import PageNotes.Disk.Basic

/-!
Rewriting the references of a page for the place where its note is published. Links to pages come
first; then every local image and attachment is looked for, and one that is there gets its published
name, one that is missing a warning.

* `rewriteLinks`: a document whose links to pages are rewritten;
* `AssetSearch.visit`: what becomes of one candidate;
* `Rewriting.of`: the document, its assets and the warnings.
-/

namespace PageNotes

/-! ### Attributes throughout a document -/

mutual
/-- Changes the attributes of every element of a tree, in document order, along with a state. -/
def Node.mapAccum {σ : Type} (f : σ → String → Attributes → Attributes × σ) (s : σ) :
    Node → Node × σ
  | .element name attributes children =>
    let (attributes, s) := f s name attributes
    let (children, s) := forestMapAccum f s children
    (.element name attributes children, s)
  | .text role content => (.text role content, s)
  | .comment content => (.comment content, s)
  | .doctype content => (.doctype content, s)

/-- Changes the attributes of every element of a forest, in document order, along with a state. -/
def forestMapAccum {σ : Type} (f : σ → String → Attributes → Attributes × σ) (s : σ) :
    Forest → Forest × σ
  | [] => ([], s)
  | node :: rest =>
    let (node, s) := node.mapAccum f s
    let (rest, s) := forestMapAccum f s rest
    (node :: rest, s)
end

/-! ### Links to pages -/

/-- The attributes of a link with its target rewritten, and the number of links rewritten. -/
def rewriteLink (linkPrefix : Text) (count : Nat) (name : String) (attributes : Attributes) :
    Attributes × Nat :=
  if name = "a" then
    match (attributes.get? "href").bind (pageLink? linkPrefix) with
    | some target => (attributes.set "href" target, count + 1)
    | none => (attributes, count)
  else (attributes, count)

/-- A document with its links to pages rewritten, and their number. -/
def rewriteLinks (linkPrefix : Text) (document : Forest) : Forest × Nat :=
  forestMapAccum (rewriteLink linkPrefix) 0 document

/-! ### Assets -/

/-- What kind of fault a warning is about. -/
inductive WarningKind where
  | missingAsset
  | copyFailed
  deriving DecidableEq, Repr

/-- The name of a kind of fault in reports. -/
def WarningKind.label : WarningKind → String
  | .missingAsset => "missing_asset"
  | .copyFailed => "asset_copy_failed"

/-- A fault that does not stop the work. -/
structure Warning where
  kind : WarningKind
  message : String
  path : Option Text
  deriving DecidableEq, Repr

/-- The attribute in which an element refers to an asset. -/
def assetAttribute? (name : String) : Option String :=
  if name = "img" then some "src" else if name = "a" then some "href" else none

/-- The reference of an element that may be an asset, and its attribute: a local image, or a local
link with the ending of an attachment. -/
def assetCandidate? (name : String) (attributes : Attributes) : Option (String × Text) :=
  (assetAttribute? name).bind fun key =>
    (attributes.get? key).bind fun value =>
      if isLocalReference value && (name = "img" || hasAssetExtension value) then some (key, value)
      else none

/-- What knows which files there are. -/
abbrev AssetStore := Path → Except DiskError Bool

/-- How references are rewritten. -/
structure RewriteSettings where
  linkPrefix : Text
  assetPrefix : Text
  /-- The directory that relative paths start from. -/
  working : Path
  /-- The directory of the page. -/
  directory : Path
  store : AssetStore

/-- The assets and the warnings so far, in order, the paths that were asked for, and the error that
ended the search. -/
structure AssetSearch where
  assets : List Asset
  warnings : List Warning
  asked : List Path
  failure : Option DiskError

/-- The search before the first candidate. -/
def AssetSearch.start : AssetSearch := ⟨[], [], [], none⟩

/-- The warning about a file that is missing. -/
def missingWarning (path : Path) : Warning :=
  ⟨.missingAsset, s!"File not found: {path}", some path.toText⟩

/-- The assets with one more, unless its file is among them. -/
def addAsset (assets : List Asset) (asset : Asset) : List Asset :=
  if assets.any (·.resolved = asset.resolved) then assets else assets ++ [asset]

/-- What becomes of one element. -/
def AssetSearch.visit (settings : RewriteSettings) (search : AssetSearch) (name : String)
    (attributes : Attributes) : Attributes × AssetSearch :=
  match if search.failure.isSome then none else assetCandidate? name attributes with
  | none => (attributes, search)
  | some (key, value) =>
    let path := resolveReference settings.working settings.directory value
    let search := { search with asked := search.asked ++ [path] }
    match settings.store path with
    | .error e => (attributes, { search with failure := some e })
    | .ok false =>
      (attributes, { search with warnings := search.warnings ++ [missingWarning path] })
    | .ok true =>
      let published := publicReference settings.assetPrefix value
      (attributes.set key published,
        { search with assets := addAsset search.assets ⟨value, path, published⟩ })

/-! ### The whole page -/

/-- A page whose references are rewritten. -/
structure Rewriting where
  document : Forest
  links : Nat
  search : AssetSearch

/-- The page with its links to pages and its assets rewritten. -/
def Rewriting.of (settings : RewriteSettings) (document : Forest) : Rewriting :=
  let (document, links) := rewriteLinks settings.linkPrefix document
  let (document, search) := forestMapAccum (AssetSearch.visit settings) .start document
  ⟨document, links, search⟩

/-- The message about the result. -/
def Rewriting.summary (r : Rewriting) : String :=
  s!"Rewrote {r.links} page link(s), found {r.search.assets.length} asset(s), " ++
    s!"{r.search.warnings.length} missing"

/-- The references of all images and links of a document, in order. -/
def documentReferences (document : Forest) : List (String × Option Text) :=
  (forestElements document).filterMap fun node =>
    node.name?.bind fun name =>
      (assetAttribute? name).map fun key => (name, node.attributes.get? key)

end PageNotes
