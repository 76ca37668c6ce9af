import PageNotes.Markdown.Surroundings

/-!
Blocks of code: the text as it stands between fences, with the language if the page names one.
-/

namespace PageNotes

mutual
/-- The first `code` element of a tree, with the element that it is a child of. -/
def Node.findCode? (parent : String × Attributes) : Node → Option ((String × Attributes) × Node)
  | .element name attributes children =>
    if name = "code" then some (parent, .element name attributes children)
    else forestFindCode? (name, attributes) children
  | .text _ _ => none
  | .comment _ => none
  | .doctype _ => none

/-- The first `code` element of a forest, with the element that it is a child of. -/
def forestFindCode? (parent : String × Attributes) :
    Forest → Option ((String × Attributes) × Node)
  | [] => none
  | node :: rest => (node.findCode? parent).or (forestFindCode? parent rest)
end

/-- The language that the attributes of an element name: a class with `language-` or `lang-` before
it, or else an attribute. -/
def namedLanguage? (attributes : Attributes) : Option Text :=
  let ofClass (c : Text) : Option Text :=
    (Text.dropPrefix? "language-".toList c).or (Text.dropPrefix? "lang-".toList c)
  (attributes.classes.findSome? ofClass).or
    (([attributes.get "data-language", attributes.get "data-lang"]).find? (!·.isEmpty))

/-- The language of a block of code: named by the element itself or by the `pre` that it is a child
of. -/
def codeLanguage (attributes : Attributes) (parent : Option (String × Attributes)) : Text :=
  let outer := match parent with
    | some (name, attributes) => if name = "pre" then namedLanguage? attributes else none
    | none => none
  ((namedLanguage? attributes).or outer).getD []

/-- The mark of a fence. -/
def fenceMark : Text := ['`', '`', '`']

/-- A block of code in a language. -/
def fencedText (language code : Text) : Text :=
  '\n' :: '\n' :: (fenceMark ++ language ++ '\n' :: (Text.trim (· = '\n') code
    ++ '\n' :: (fenceMark ++ ['\n', '\n'])))

/-- The block of code that a `pre` element stands for: the text of the first `code` element in it,
or its own. -/
def codeBlockText (s : Surroundings) (node : Node) : Text :=
  match forestFindCode? ("pre", node.attributes) node.children with
  | some (parent, code) => fencedText (codeLanguage code.attributes (some parent)) code.innerText
  | none =>
    fencedText (codeLanguage node.attributes (s.parent?.map fun p => (p.name, p.attributes)))
      node.innerText

end PageNotes
