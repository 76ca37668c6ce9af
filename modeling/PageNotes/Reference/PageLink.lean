import PageNotes.Text.Percent
import PageNotes.Text.Slug
import PageNotes.Path.Basic
import PageNotes.Reference.Kind

/-!
Links between pages. A page is published under the slug of its file name, so a link to a page file
becomes the slug with the prefix of links before it and the fragment behind it.

* `noteName`: the name of the file that a page is written to;
* `pageLink?`: the new target of a reference to a page, none for other references.
-/

namespace PageNotes

/-- The endings of page files. -/
def pageExtensions : List Text := [".html".toList, ".htm".toList]

/-- The file that a page is written to: its slug with the ending of Markdown files. -/
def noteName (source : Path) : Text := slugify source.stem ++ ".md".toList

/-- Whether a reference without its fragment names a page. -/
def namesPage (path : Text) : Bool := pageExtensions.any (path.lower.endsWith ·)

/-- The slug of the page that a reference without its fragment names. -/
def pageSlug (path : Text) : Text := slugify (splitExtension (baseName (percentDecode path))).1

/-- The new target of a reference to a page. -/
def pageLink? (linkPrefix href : Text) : Option Text :=
  if isLocalReference href then
    let (path, fragment) := Text.cut '#' href
    if namesPage path then
      some (linkPrefix ++ pageSlug path ++ match fragment with
        | none | some [] => []
        | some name => '#' :: name)
    else none
  else none

end PageNotes
