import PageNotes.Yaml.Scalar

/-!
Names in YAML text: anchors, tags, and the directives before a document that say what the handles
of tags stand for.

* `Yaml.name?`: the name of an anchor or an alias;
* `Yaml.tag?`: a tag, as a handle and the rest;
* `Yaml.directive?`: a directive and the line it stands on.
-/

namespace PageNotes.Yaml

/-! ### Names -/

/-- A name and what follows it; there is a character at least. -/
def takeName? (c : Cursor) : Option (Text × Cursor) :=
  match c.rest.takeWhile isNameChar with
  | [] => none
  | name => some (name, c.skip name.length)

/-- The name behind the sign of an anchor or an alias. -/
def name? (c : Cursor) : Option (Text × Cursor) :=
  match takeName? c.next with
  | some (name, c) =>
    if endsBefore c.rest || c.head?.any ("?:,]\x7d%@\x60".toList.contains ·) then some (name, c)
    else none
  | none => none

/-! ### Tags -/

/-- A character that the rest of a tag may hold. -/
def isTagChar (c : Char) : Bool := isNameChar c || ";/?:@&=+$,.!~*'()[]%".toList.contains c

/-- The bytes of a run of percent signs with two hexadecimal digits each. -/
def percentBytes? (fuel : Nat) (t : Text) : Option (List Nat × Text) :=
  match fuel, t with
  | fuel + 1, '%' :: a :: b :: rest =>
    match hexNumber? 2 [a, b], percentBytes? fuel rest with
    | some n, some (bytes, rest) => some (n :: bytes, rest)
    | _, _ => none
  | _, '%' :: _ => none
  | _, t => some ([], t)

/-- The characters of a tag with the bytes behind percent signs read as characters. -/
def readPercents? (fuel : Nat) (t : Text) : Option Text :=
  match fuel, t with
  | 0, _ => none
  | _, [] => some []
  | fuel + 1, c :: rest =>
    if c = '%' then
      match percentBytes? t.length t with
      | some (bytes, rest) =>
        match utf8Decode (bytes.map UInt8.ofNat), readPercents? fuel rest with
        | .ok part, some more => some (part ++ more)
        | _, _ => none
      | none => none
    else (readPercents? fuel rest).map (c :: ·)

/-- The rest of a tag behind its handle; it is not empty. -/
def tagRest? (c : Cursor) : Option (Text × Cursor) :=
  match c.rest.takeWhile isTagChar with
  | [] => none
  | rest => (readPercents? (rest.length + 1) rest).map fun t => (t, c.skip rest.length)

/-- A handle of tags: an exclamation mark, or a name between two. -/
def tagHandle? (c : Cursor) : Option (Text × Cursor) :=
  if c.head? ≠ some '!' then none
  else if c.next.head? = some ' ' then some (['!'], c.next)
  else
    let name := c.next.rest.takeWhile isNameChar
    let behind := c.skip (name.length + 1)
    if behind.head? = some '!' then some ('!' :: name ++ ['!'], behind.next) else none

/-- Whether a word ends here that no tabulator may end. -/
def atWordEnd (c : Cursor) : Bool := lineEndsBefore c.rest || c.head? = some ' '

/-- A tag: all of it between angle brackets, a lone exclamation mark, or a handle and the rest. -/
def tag? (c : Cursor) : Option (Token × Cursor) :=
  let found := match c.next.rest with
    | '<' :: _ =>
      match tagRest? (c.skip 2) with
      | some (rest, c) => if c.head? = some '>' then some (none, rest, c.next) else none
      | none => none
    | rest =>
      if endsBefore rest then some (none, ['!'], c.next)
      else
        let word := rest.takeWhile fun ch => ch ≠ ' ' && !isBreak ch
        let handle := if word.contains '!' then tagHandle? c else some (['!'], c.next)
        match handle with
        | some (handle, c) => (tagRest? c).map fun (rest, c) => (some handle, rest, c)
        | none => none
  match found with
  | some (handle, rest, c) => if atWordEnd c then some (.tag handle rest, c) else none
  | none => none

/-! ### Directives -/

/-- A number of a version. -/
def versionNumber? (c : Cursor) : Option (Nat × Cursor) :=
  match c.rest.takeWhile isAsciiDigit with
  | [] => none
  | digits => some (digits.foldl (fun n d => n * 10 + (d.toNat - 0x30)) 0, c.skip digits.length)

/-- The version of the format. -/
def version? (c : Cursor) : Option (Token × Cursor) :=
  match versionNumber? c with
  | some (major, c) =>
    if c.head? = some '.' then
      match versionNumber? c.next with
      | some (_, c) => if atWordEnd c then some (.version major, c) else none
      | none => none
    else none
  | none => none

/-- What a handle of tags stands for. -/
def handleMeaning? (c : Cursor) : Option (Token × Cursor) :=
  match tagHandle? c with
  | some (handle, c) =>
    if c.head? = some ' ' then
      match tagRest? (c.skipWhile (· = ' ')) with
      | some (uri, c) => if atWordEnd c then some (.tagHandle handle uri, c) else none
      | none => none
    else none
  | none => none

/-- A directive with the line it stands on; one of another name says nothing. -/
def directive? (c : Cursor) : Option (Token × Cursor) :=
  match takeName? c.next with
  | none => none
  | some (name, c) =>
    if !atWordEnd c then none
    else
      let behind := c.skipWhile (· = ' ')
      let found :=
        if name = "YAML".toList then version? behind
        else if name = "TAG".toList then handleMeaning? behind
        else some (.otherDirective, c.skipWhile (!isBreak ·))
      match found with
      | some (token, c) => c.takeEmptyLine?.map fun c => (token, c)
      | none => none

end PageNotes.Yaml
