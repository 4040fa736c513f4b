import Clearance.Json.Reader
import Clearance.Json.Printer
import Clearance.Text.Sorted
/-!
# Codec — values of the domain as structured text

A codec writes a value and reads it back.  It reads a document from left to right and refuses it at the first fault; a
value of the wrong type counts as soon as its type shows, for a container at its opening bracket.

A record may be read from an object, in any order and with fields that are not its own, or from a list of its fields in
the order in which they are declared.
-/
namespace Clearance

/-- Where a document comes from.  `shape` is the fault of a list with too many items, and of something that is neither
a text nor an object in the place of a name; `emptyForNull` says that `{}` may stand for `null` behind a name. -/
structure Mode where
  shape : Fault
  emptyForNull : Bool
  deriving DecidableEq, Repr

namespace Mode

/-- The document is a text that is just being read. -/
def text : Mode := ⟨.malformed, false⟩

/-- The document is a value that was read before. -/
def value : Mode := ⟨.mismatch, false⟩

/-- The document was read before its type was known, and was held back. -/
def held : Mode := ⟨.mismatch, true⟩

end Mode

abbrev Decoder (α : Type) := Mode → Doc → Except Fault α

structure Codec (α : Type) where
  encode : α → Json
  decode : Decoder α

namespace Doc

/-- The fault of a document that is of the wrong kind. -/
def wrongKind : Doc → Fault
  | .flawed f => f.reading
  | _ => .mismatch

end Doc

namespace Codec

variable {α β S T : Type}

/-- Reads a whole text. -/
def ofText (c : Codec α) (s : String) : Except Fault α := do
  let r := Json.read s.toList
  let a ← c.decode .text r.doc
  match r.trailing with
  | some f => .error f
  | none => .ok a

/-- Reads a value that was read before. -/
def ofJson (c : Codec α) (j : Json) : Except Fault α := c.decode .value j.toDoc

def toCompact (c : Codec α) (a : α) : String := (c.encode a).toCompact

def toPretty (c : Codec α) (a : α) : String := (c.encode a).toPretty

/-! ## Scalars -/

def text : Codec String where
  encode := .string
  decode _ d := match d with
    | .string s => .ok s
    | d => .error d.wrongKind

def bool : Codec Bool where
  encode := .bool
  decode _ d := match d with
    | .bool b => .ok b
    | d => .error d.wrongKind

/-- Integers between two bounds, as values of a type that holds just these. -/
def integer (low high : Int) (toInt : α → Int) (ofInt : Int → α) : Codec α where
  encode a := .number (.int (toInt a))
  decode _ d := match d with
    | .number (.int n) => if low ≤ n && n ≤ high then .ok (ofInt n) else .error .mismatch
    | d => .error d.wrongKind

def uint16 : Codec UInt16 := integer 0 65535 (fun n => Int.ofNat n.toNat) (fun n => UInt16.ofNat n.toNat)

def uint32 : Codec UInt32 := integer 0 4294967295 (fun n => Int.ofNat n.toNat) (fun n => UInt32.ofNat n.toNat)

def int64 : Codec Int64 := integer (-9223372036854775808) 9223372036854775807 Int64.toInt Int64.ofInt

/-- The double nearest to an integer of 64 bits. -/
def floatOfInt (n : Int) : Float :=
  let x := n.natAbs.toUInt64.toFloat
  if n < 0 then -x else x

/-- A coordinate.  An integer is accepted, too. -/
def real : Codec Float where
  encode x := .number (.real x)
  decode _ d := match d with
    | .number (.real x) => .ok x
    | .number (.int n) => .ok (floatOfInt n)
    | d => .error d.wrongKind

/-- A value written as a text of its own form. -/
def written (write : α → String) (read? : String → Option α) : Codec α where
  encode a := .string (write a)
  decode _ d := match d with
    | .string s => match read? s with
      | some a => .ok a
      | none => .error .mismatch
    | d => .error d.wrongKind

/-! ## Names -/

/-- What stands behind a name that has no value: `null`. -/
def decodeUnit (m : Mode) : Doc → Except Fault Unit
  | .null => .ok ()
  | .object .closed => if m.emptyForNull then .ok () else .error .mismatch
  | d => .error d.wrongKind

/-- One of the names that `find?` knows, written as a text or as the only key of an object. -/
def decodeName (find? : String → Option α) (m : Mode) : Doc → Except Fault α
  | .string s => (find? s).elim (.error .mismatch) .ok
  | .object .closed => .error m.shape
  | .object (.broken g) => .error g.naming
  | .object (.cons (.error f) _ _) => .error f
  | .object (.cons (.ok k) d rest) => do
    let a ← (find? k).elim (.error .mismatch) .ok
    decodeUnit m d
    match rest with
    | .closed => .ok a
    | .broken g => .error g.naming
    | .cons .. => .error m.shape
  | .flawed f => .error f.naming
  | _ => .error m.shape

/-- The value with this name. -/
def ofName? (all : List α) (name : α → String) (s : String) : Option α := all.find? fun a => name a == s

/-- The values of a finite type under their names. -/
def named (all : List α) (name : α → String) : Codec α where
  encode a := .string (name a)
  decode := decodeName (ofName? all name)

/-- The values of a finite type, their names written as texts only. -/
def spelled (all : List α) (name : α → String) : Codec α := written name (ofName? all name)

/-! ## Containers -/

def decodeItems (decode : Doc → Except Fault α) : Items → Except Fault (List α)
  | .closed => .ok []
  | .broken f => .error f
  | .cons d rest => do
    let a ← decode d
    let as ← decodeItems decode rest
    return a :: as

def list (c : Codec α) : Codec (List α) where
  encode as := .array (as.map c.encode)
  decode m d := match d with
    | .array items => decodeItems (c.decode m) items
    | d => .error d.wrongKind

/-- A value that may be absent, written as `null`. -/
def option (c : Codec α) : Codec (Option α) where
  encode
    | none => .null
    | some a => c.encode a
  decode m d := match d with
    | .null => .ok none
    | .flawed f => if f.opening = some 'n' then .error f.reading else (c.decode m d).map some
    | d => (c.decode m d).map some

/-! ## Records -/

/-- Whether a field must be there, may be left out of an object, or may be left out of a list as well. -/
inductive Presence where
  | required
  | optional
  | defaulted
  deriving DecidableEq, Repr

/-- A field of the record `S`.  `write` gives `none` where the field is left out; `read` gives the change that it makes
to the record. -/
structure Field (S : Type) where
  name : String
  presence : Presence
  write : S → Option Json
  read : Mode → Doc → Except Fault (S → S)

namespace Field

/-- A field that is always written. -/
def ofCodec (presence : Presence) (name : String) (c : Codec α) (get : S → α) (set : S → α → S) : Field S where
  name := name
  presence := presence
  write s := some (c.encode (get s))
  read m d := (c.decode m d).map fun a s => set s a

def required (name : String) (c : Codec α) (get : S → α) (set : S → α → S) : Field S :=
  ofCodec .required name c get set

def optional (name : String) (c : Codec α) (get : S → Option α) (set : S → Option α → S) : Field S :=
  ofCodec .optional name (option c) get set

def defaulted (name : String) (c : Codec α) (get : S → α) (set : S → α → S) : Field S :=
  ofCodec .defaulted name c get set

/-- A field that is not written when it is absent. -/
def omitted (name : String) (c : Codec α) (get : S → Option α) (set : S → Option α → S) : Field S where
  name := name
  presence := .optional
  write s := (get s).map c.encode
  read m d := ((option c).decode m d).map fun a s => set s a

end Field

/-- Reads the fields of an object into a record.  `seen` are the fields that were there already: none may come twice. -/
def readFields (fields : List (Field S)) (m : Mode) : List String → S → Fields → Except Fault S
  | seen, s, .closed =>
    if fields.all (fun f => f.presence != .required || seen.contains f.name) then .ok s else .error .mismatch
  | _, _, .broken g => .error g.reading
  | _, _, .cons (.error f) _ _ => .error f
  | seen, s, .cons (.ok k) d rest =>
    match fields.find? (fun f => f.name == k) with
    | none => match d.skipping with
      | some f => .error f
      | none => readFields fields m seen s rest
    | some field =>
      if seen.contains k then .error .mismatch
      else match field.read m d with
        | .error f => .error f
        | .ok change => readFields fields m (k :: seen) (change s) rest

/-- Reads the fields of a record one after the other from a list. -/
def readItems (m : Mode) : List (Field S) → S → Items → Except Fault S
  | [], s, .closed => .ok s
  | [], _, .cons .. => .error m.shape
  | _, _, .broken f => .error f
  | fields, s, .closed => if fields.all (fun f => f.presence == .defaulted) then .ok s else .error .mismatch
  | field :: fields, s, .cons d rest =>
    match field.read m d with
    | .error f => .error f
    | .ok change => readItems m fields (change s) rest

def encodeFields (fields : List (Field S)) (s : S) : Json :=
  .object (fields.filterMap fun f => (f.write s).map fun j => (f.name, j))

/-- A record.  `blank` has the values of the fields that are left out. -/
def record (blank : S) (fields : List (Field S)) : Codec S where
  encode := encodeFields fields
  decode m d := match d with
    | .object fs => readFields fields m [] blank fs
    | .array items => readItems m fields blank items
    | d => .error d.wrongKind

/-- A record that is not read from a list. -/
def objectOnly (blank : S) (fields : List (Field S)) : Codec S where
  encode := encodeFields fields
  decode m d := match d with
    | .object fs => readFields fields m [] blank fs
    | d => .error d.wrongKind

/-! ## Variants

A variant is an object with the variant's name under `type` and its content under `data`, or the list of the two.  In the
list the name has to be a text. -/

/-- How far the object of a variant has been read: the content may come before the name and is then held back. -/
inductive Progress (T α : Type) where
  | start
  | named (t : T)
  | held (d : Doc)
  | done (a : α)

/-- What there is to know about the variants of `α`, which are told apart by the values of `T`.  `absent` is the value of
a variant without content. -/
structure Variants (T α : Type) where
  tags : List T
  name : T → String
  content : T → Mode → Doc → Except Fault α
  absent : T → Option α

namespace Variants

def readFields (v : Variants T α) (m : Mode) : Progress T α → Fields → Except Fault α
  | p, .closed => match p with
    | .named t => (v.absent t).elim (.error .mismatch) .ok
    | .done a => .ok a
    | .start | .held _ => .error .mismatch
  | _, .broken g => .error g.reading
  | _, .cons (.error f) _ _ => .error f
  | p, .cons (.ok k) d rest =>
    if k = "type" then
      match p with
      | .start => match (named v.tags v.name).decode m d with
        | .error f => .error f
        | .ok t => readFields v m (.named t) rest
      | .held c => match (named v.tags v.name).decode m d with
        | .error f => .error f
        | .ok t => match v.content t .held c with
          | .error f => .error f
          | .ok a => readFields v m (.done a) rest
      | .named _ | .done _ => .error .mismatch
    else if k = "data" then
      match p with
      | .start => match d.reading with
        | some f => .error f
        | none => readFields v m (.held d) rest
      | .named t => match v.content t m d with
        | .error f => .error f
        | .ok a => readFields v m (.done a) rest
      | .held _ | .done _ => .error .mismatch
    else match d.skipping with
      | some f => .error f
      | none => readFields v m p rest

def readItems (v : Variants T α) (m : Mode) : Items → Except Fault α
  | .closed => .error .mismatch
  | .broken f => .error f
  | .cons name rest => do
    let t ← (spelled v.tags v.name).decode m name
    match rest with
    | .closed => .error .mismatch
    | .broken f => .error f
    | .cons d rest =>
      let a ← v.content t m d
      match rest with
      | .closed => .ok a
      | .broken f => .error f
      | .cons .. => .error m.shape

def decode (v : Variants T α) (m : Mode) : Doc → Except Fault α
  | .object fs => v.readFields m .start fs
  | .array items => v.readItems m items
  | d => .error d.wrongKind

end Variants

end Codec

/-! ## Values that were read before -/

namespace Json

mutual

/-- The value with the fields of each object sorted by name, and only the last of those with one name. -/
def canonical : Json → Json
  | .array items => .array (canonicalItems items)
  | .object fields => .object (canonicalFields [] fields)
  | j => j

def canonicalItems : List Json → List Json
  | [] => []
  | j :: js => j.canonical :: canonicalItems js

def canonicalFields (acc : List (String × Json)) : List (String × Json) → List (String × Json)
  | [] => acc
  | (k, j) :: fs => canonicalFields (Text.place (·.1) (k, j.canonical) acc) fs

end

/-- The last field with this name. -/
def field? (j : Json) (name : String) : Option Json :=
  match j with
  | .object fields => fields.reverse.lookup name
  | _ => none

end Json
end Clearance
