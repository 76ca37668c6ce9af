import PageNotes.Text.Blank

/-!
Trees of marked-up documents: elements with a name, attributes and children, texts, comments and
document types. A document is a forest.

* `Node.size`, `forestSize`: the number of nodes, the measure of every recursion below;
* `elements`: all elements of a forest in document order;
* `Node.text`: the text of an element as a reader sees it. Texts inside scripts, styles,
  templates and ruby annotations have a role of their own and are seen only from there.
-/

namespace PageNotes

/-- What a text is for; every text but the plain ones lies inside an element of the role. -/
inductive TextRole where
  | plain
  | script
  | style
  | template
  | rubyText
  | rubyParenthesis
  deriving DecidableEq, Repr

/-- The role that an element gives to the texts inside it. -/
def TextRole.of : String → TextRole
  | "script" => .script
  | "style" => .style
  | "template" => .template
  | "rt" => .rubyText
  | "rp" => .rubyParenthesis
  | _ => .plain

/-- The attributes of an element in the order in which they are written. -/
abbrev Attributes := List (String × Text)

/-- A node of a document. -/
inductive Node where
  | element (name : String) (attributes : Attributes) (children : List Node)
  | text (role : TextRole) (content : Text)
  | comment (content : Text)
  | doctype (content : Text)
  deriving Repr, Inhabited

/-- A document, or the content of an element. -/
abbrev Forest := List Node

/-- The value of an attribute. -/
def Attributes.get? (attributes : Attributes) (key : String) : Option Text :=
  List.lookup key attributes

/-- The value of an attribute, empty if there is none. -/
def Attributes.get (attributes : Attributes) (key : String) : Text :=
  (attributes.get? key).getD []

/-- Gives an attribute a value, in its place if it is there already. -/
def Attributes.set (attributes : Attributes) (key : String) (value : Text) : Attributes :=
  match attributes with
  | [] => [(key, value)]
  | (name, old) :: rest =>
    if name = key then (key, value) :: rest else (name, old) :: Attributes.set rest key value

/-- The classes of an element. -/
def Attributes.classes (attributes : Attributes) : List Text := (attributes.get "class").blankWords

/-- Whether an attribute of an element is a list of words rather than one text. -/
def isWordList (element key : String) : Bool :=
  key = "class" || key = "accesskey" || key = "dropzone"
    || (element = "a" || element = "link") && (key = "rel" || key = "rev")
    || (element = "td" || element = "th") && key = "headers"
    || element = "form" && key = "accept-charset"
    || element = "object" && key = "archive"
    || element = "area" && key = "rel"
    || element = "icon" && key = "sizes"
    || element = "iframe" && key = "sandbox"
    || element = "output" && key = "for"

namespace Node

/-- The name of an element. -/
def name? : Node → Option String
  | element name _ _ => some name
  | _ => none

/-- Whether a node is an element with this name. -/
def named (name : String) : Node → Bool
  | element n _ _ => n = name
  | _ => false

/-- The attributes of an element. -/
def attributes : Node → Attributes
  | element _ attributes _ => attributes
  | _ => []

/-- The children of an element. -/
def children : Node → Forest
  | element _ _ children => children
  | _ => []

/-- Whether a node is an element. -/
def isElement : Node → Bool
  | element _ _ _ => true
  | _ => false

/-- A text in which nothing but blanks stands. -/
def isBlankText : Node → Bool
  | text _ content => content.allBlank
  | doctype content => content.allBlank
  | _ => false

/-! ### Size -/

mutual
/-- The number of nodes of a tree. -/
def size : Node → Nat
  | element _ _ children => 1 + forestSize children
  | text _ _ => 1
  | comment _ => 1
  | doctype _ => 1

/-- The number of nodes of a forest. -/
def forestSize : Forest → Nat
  | [] => 0
  | node :: rest => node.size + forestSize rest
end

/-! ### Elements in document order -/

mutual
/-- The elements of a tree, the root first. -/
def elements : Node → Forest
  | element name attributes children =>
    element name attributes children :: forestElements children
  | text _ _ => []
  | comment _ => []
  | doctype _ => []

/-- The elements of a forest in document order. -/
def forestElements : Forest → Forest
  | [] => []
  | node :: rest => node.elements ++ forestElements rest
end

/-- The elements below the root of a tree. -/
def descendants (node : Node) : Forest := forestElements node.children

/-! ### Text -/

mutual
/-- The texts of one role in a tree, joined. -/
def textOf (role : TextRole) : Node → Text
  | element _ _ children => forestText role children
  | text r content => if r = role then content else []
  | comment _ => []
  | doctype _ => []

/-- The texts of one role in a forest, joined. -/
def forestText (role : TextRole) : Forest → Text
  | [] => []
  | node :: rest => node.textOf role ++ forestText role rest
end

/-- The text of an element: of the texts inside it those whose role the element gives. -/
def innerText : Node → Text
  | element name _ children => forestText (.of name) children
  | _ => []

end Node

export Node (forestSize forestElements forestText)

/-- The first element of a forest with one of some names, in document order. -/
def firstNamed (names : List String) (forest : Forest) : Option Node :=
  (forestElements forest).find? fun node => names.any node.named

end PageNotes
