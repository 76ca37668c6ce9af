import PageNotes.Numeric.Reading
import PageNotes.Text.LetterCase
import PageNotes.Value.Basic
import PageNotes.Yaml.Node

/-!
The values that YAML text denotes. Members taken from other mappings stand before a mapping's own,
and of two members with one key the last counts. Where several things are wrong the one nearest to
the root shows, and of equally near ones the first.

* `Yaml.Node.value`: the value of a node;
* `Yaml.read`: the value of a text, or the fault in it.
-/

namespace PageNotes.Yaml

/-- What can be wrong with YAML text. -/
inductive Fault where
  /-- It does not follow the grammar, or a node does not fit its tag. -/
  | malformed
  | number (e : NumberError)
  | noYear (year : Int)
  | noMonth
  | noDay
  | noHour
  | noMinute
  | noSecond
  | offsetTooLarge (seconds : Int)
  /-- A number in base sixty with more places than a floating-point number can have. -/
  | tooLarge
  /-- A word for a truth value that is none. -/
  | noTruth
  /-- A word for a date that is none. -/
  | noTimestamp
  /-- A number without a character. -/
  | empty
  /-- A value that is a part of itself. -/
  | endless
  deriving DecidableEq, Repr

/-- The words for what is wrong with a value. -/
def Fault.message : Fault → String
  | .malformed => "malformed"
  | .number e => e.message
  | .noYear year => s!"year {year} is out of range"
  | .noMonth => "month must be in 1..12"
  | .noDay => "day is out of range for month"
  | .noHour => "hour must be in 0..23"
  | .noMinute => "minute must be in 0..59"
  | .noSecond => "second must be in 0..59"
  | .offsetTooLarge seconds =>
    "offset must be a timedelta strictly between -timedelta(hours=24) and timedelta(hours=24), " ++
      s!"not {String.ofList (TimeSpan.ofSeconds seconds).quoted}."
  | .tooLarge => "int too large to convert to float"
  | .noTruth => "no truth value"
  | .noTimestamp => "no timestamp"
  | .empty => "string index out of range"
  | .endless => "maximum recursion depth exceeded"

/-! ### Numbers -/

/-- A text without underscores, and whether it is negative; what is left after the sign must not be
empty. -/
def takeNumber (t : Text) : Except Fault (Bool × Text) :=
  let (negative, size) := takeSign (t.filter (· ≠ '_'))
  if size.isEmpty then .error .empty else .ok (negative, size)

/-- An integer in base sixty from its places. -/
def readSixtieths (parts : List Text) : Except NumberError Int :=
  match parts.mapM (readInteger 10) with
  | .ok places => .ok (places.foldl (fun n place => n * 60 + place) 0)
  | .error e => .error e

/-- The size of an integer in base two, eight, ten, sixteen or sixty. -/
def readSize (t : Text) : Except NumberError Int :=
  match t with
  | ['0'] => .ok 0
  | '0' :: 'b' :: rest => readInteger 2 rest
  | '0' :: 'x' :: rest => readInteger 16 rest
  | '0' :: _ => readInteger 8 t
  | _ => if t.has ':' then readSixtieths (Text.split ':' t) else readInteger 10 t

/-- The integer that a scalar denotes. -/
def readInt (t : Text) : Except Fault Int :=
  match takeNumber t with
  | .error e => .error e
  | .ok (negative, size) =>
    match readSize size with
    | .ok n => .ok (if negative then -n else n)
    | .error e => .error (.number e)

/-- A number in base sixty from its places, the lowest first, each step rounded. -/
def sumPlaces (unit : Nat) (sum : Binary64) : List Binary64 → Except Fault Binary64
  | [] => .ok sum
  | place :: rest =>
    match Binary64.ofInt? unit with
    | some u => sumPlaces (unit * 60) (sum.add (place.mul u)) rest
    | none => .error .tooLarge

/-- The size of a floating-point number. -/
def readFloatSize (t : Text) : Except Fault Binary64 :=
  if t = ".inf".toList then .ok (.infinite false)
  else if t = ".nan".toList then .ok .nan
  else if t.has ':' then
    match (Text.split ':' t).mapM Binary64.read with
    | .ok places => sumPlaces 1 .zero places.reverse
    | .error e => .error (.number e)
  else (Binary64.read t).mapError .number

/-- The floating-point number that a scalar denotes. -/
def readFloat (t : Text) : Except Fault Binary64 :=
  match takeNumber (Text.lower t) with
  | .error e => .error e
  | .ok (negative, size) => (readFloatSize size).map fun x => if negative then x.neg else x

/-! ### Dates and moments -/

/-- The date with some parts. -/
def dateOfParts (p : TimestampParts) : Except Fault Date :=
  if p.year = 0 then .error (.noYear p.year)
  else if p.month = 0 || 12 < p.month then .error .noMonth
  else if p.day = 0 || monthLength p.year p.month < p.day then .error .noDay
  else .ok ⟨p.year, p.month, p.day⟩

/-- The offset of a clock in seconds; it is less than a day. -/
def offsetOfParts (parts : Option (Bool × Nat × Nat)) : Except Fault (Option Int) :=
  match parts with
  | none => .ok none
  | some (negative, hours, minutes) =>
    let size : Int := hours * 3600 + minutes * 60
    let offset := if negative then -size else size
    if 86400 ≤ size then .error (.offsetTooLarge offset) else .ok (some offset)

/-- Microseconds from the digits behind the point, of which six count. -/
def microseconds (fraction : Text) : Nat :=
  let digits := (fraction ++ List.replicate 6 '0').take 6
  digits.foldl (fun n d => n * 10 + (d.toNat - 0x30)) 0

/-- The moment with some parts. -/
def momentOfParts (p : TimestampParts) (c : ClockParts) : Except Fault Moment :=
  match offsetOfParts c.offset, dateOfParts p with
  | .error e, _ => .error e
  | _, .error e => .error e
  | .ok offset, .ok date =>
    if 23 < c.hour then .error .noHour
    else if 59 < c.minute then .error .noMinute
    else if 59 < c.second then .error .noSecond
    else .ok ⟨date, c.hour, c.minute, c.second, microseconds c.fraction, offset.map .ofSeconds⟩

/-- The date or the moment that a scalar denotes. -/
def readTimestamp (t : Text) : Except Fault Value :=
  match readTimestamp? t with
  | none => .error .noTimestamp
  | some p =>
    match p.clock with
    | none => (dateOfParts p).map .date
    | some c => (momentOfParts p c).map .moment

/-! ### Scalars -/

/-- The truth value that a word stands for, in whatever case. -/
def readTruth (t : Text) : Except Fault Bool :=
  let word := Text.lower t
  if isAmong trueWords word then .ok true
  else if isAmong falseWords word then .ok false
  else .error .noTruth

/-- The value of a scalar of some kind. -/
def scalarValue (kind : Kind) (t : Text) : Except Fault Value :=
  match kind with
  | .text => .ok (.text t)
  | .bool => (readTruth t).map .bool
  | .int => (readInt t).map .int
  | .float => (readFloat t).map .float
  | .null => .ok .null
  | .timestamp => readTimestamp t
  | _ => .error .malformed

/-! ### Nodes -/

/-- A value, or a fault with the depth of the node that shows it. -/
abbrev Found (α : Type) := Except (Nat × Fault) α

/-- Both parts; of two faults the one less deep, and of equally deep ones the first. -/
def Found.both {α β : Type} : Found α → Found β → Found (α × β)
  | .ok a, .ok b => .ok (a, b)
  | .ok _, .error e => .error e
  | .error e, .ok _ => .error e
  | .error (m, e), .error (n, f) => .error (if n < m then (n, f) else (m, e))

/-- The kind of a key: the sign for a default value is a text there. -/
def keyKind : Kind → Kind
  | .default => .text
  | kind => kind

/-- The key of a member, which must be a scalar. -/
def keyValue (depth : Nat) : Node → Found Value
  | .scalar kind content => (scalarValue (keyKind kind) content).mapError (depth, ·)
  | _ => .error (depth, .malformed)

/-- Whether a key says that its value is a mapping to take members from. -/
def Node.isMerge : Node → Bool
  | .scalar .merge _ => true
  | _ => false

mutual
/-- The value of a node at some depth. -/
def Node.value (depth : Nat) : Node → Found Value
  | .scalar .list _ => .error (depth + 1, .malformed)
  | .scalar .mapping _ => .error (depth + 1, .malformed)
  | .scalar kind content => (scalarValue kind content).mapError (depth, ·)
  | .sequence .list items => (itemValues (depth + 1) items).map .list
  | .sequence .mapping _ => .error (depth + 1, .malformed)
  | .sequence _ _ => .error (depth, .malformed)
  | .mapping .mapping members => (memberValues (depth + 1) members).map .mapping
  | .mapping .list _ => .error (depth + 1, .malformed)
  | .mapping _ _ => .error (depth, .malformed)
  | .enclosing => .ok .null

/-- The values of the items of a sequence. -/
def itemValues (depth : Nat) : List Node → Found (List Value)
  | [] => .ok []
  | item :: rest =>
    ((item.value depth).both (itemValues depth rest)).map fun (value, rest) => value :: rest

/-- The members of a mapping: those taken from others, and then its own. -/
def memberValues (depth : Nat) (members : List (Node × Node)) : Found Members :=
  ((takenMembers depth members).both (ownMembers depth members)).map fun (taken, own) =>
    Members.update (Members.update [] taken) own

/-- The members that a mapping takes from others. -/
def takenMembers (depth : Nat) : List (Node × Node) → Found Members
  | [] => .ok []
  | (key, source) :: rest =>
    let taken : Found Members := if key.isMerge then sourceMembers depth source else .ok []
    (taken.both (takenMembers depth rest)).map fun (taken, rest) => taken ++ rest

/-- The members of a mapping, or of several of which the first counts most. -/
def sourceMembers (depth : Nat) : Node → Found Members
  | .mapping _ members => memberValues depth members
  | .sequence _ items => laterMembers depth items
  | .enclosing => .ok []
  | .scalar _ _ => .error (depth, .malformed)

/-- The members of several mappings from the last on. -/
def laterMembers (depth : Nat) : List Node → Found Members
  | [] => .ok []
  | .mapping _ members :: rest =>
    ((memberValues depth members).both (laterMembers depth rest)).map fun (own, rest) => rest ++ own
  | _ :: _ => .error (depth, .malformed)

/-- The members that a mapping does not take from others. -/
def ownMembers (depth : Nat) : List (Node × Node) → Found Members
  | [] => .ok []
  | (key, value) :: rest =>
    let own : Found Members := if key.isMerge then .ok []
      else ((keyValue depth key).both (value.value depth)).map fun member => [member]
    (own.both (ownMembers depth rest)).map fun (own, rest) => own ++ rest
end

/-- The value of a text and whether it is a part of itself, or what is wrong with the text. -/
def read (t : Text) : Except Fault (Value × Bool) :=
  match Document.ofText? t with
  | none => .error .malformed
  | some document =>
    match document.root.value 0 with
    | .ok value => .ok (value, document.endless)
    | .error (_, fault) => .error fault

end PageNotes.Yaml
