/-!
# Json — values and what can be wrong with a written one

`Json` is a value to be written, its fields in the order in which they are written.  `Doc` is a text as far as it could
be read: where it breaks off, the document holds the fault.  A reader walks a document from left to right, so the first
fault it meets is the first one in the text, and a wrong type in front of it is met first.
-/
namespace Clearance

/-- A number is an integer when it is written without fraction and exponent and fits 64 bits. -/
inductive Number where
  | int (n : Int)
  | real (x : Float)
  deriving BEq, Repr

inductive Json where
  | null
  | bool (b : Bool)
  | number (n : Number)
  | string (s : String)
  | array (items : List Json)
  | object (fields : List (String × Json))
  deriving BEq, Repr

instance : Inhabited Json := ⟨.null⟩

/-- Why a text is not the value that was asked for. -/
inductive Fault where
  /-- The text ends too soon. -/
  | ended
  /-- The text is not JSON. -/
  | malformed
  /-- All is well-formed so far, but it is not of the form that was asked for. -/
  | mismatch
  deriving DecidableEq, Repr

/-- A value that cannot be read.  `opening` is the character that stands in its place; `reading` is the fault that a
reader of it meets, `skipping` the one that a reader meets who passes over it, if any. -/
structure Flaw where
  opening : Option Char
  reading : Fault
  skipping : Option Fault
  deriving DecidableEq, Repr

/-- The end of an object's fields that is not a closing brace.  `reading` and `skipping` are as in `Flaw`; `naming` is
met by a reader who wants one name with one value and nothing else, so that a comma is the fault already. -/
structure Gap where
  reading : Fault
  skipping : Option Fault
  naming : Fault
  deriving DecidableEq, Repr

namespace Gap

/-- A gap that is the same for every reader. -/
def all (f : Fault) : Gap := ⟨f, some f, f⟩

/-- The gap where there was a comma before it. -/
def behindComma (g : Gap) : Gap := { g with naming := .malformed }

end Gap

mutual

/-- A text, as far as it could be read. -/
inductive Doc where
  | null
  | bool (b : Bool)
  | number (n : Number)
  | string (s : String)
  | array (items : Items)
  | object (fields : Fields)
  | flawed (f : Flaw)

/-- The items of an array up to its bracket, or up to where the text breaks off.  After a comma there is always one more
item; if none stands there it is a flawed one. -/
inductive Items where
  | closed
  | broken (f : Fault)
  | cons (item : Doc) (rest : Items)

/-- The fields of an object up to its brace, or up to where the text breaks off.  A key that cannot be read but can be
passed over holds the reader's fault. -/
inductive Fields where
  | closed
  | broken (g : Gap)
  | cons (key : Except Fault String) (value : Doc) (rest : Fields)

end

/-- The fields where there was a comma before them. -/
def Fields.behindComma : Fields → Fields
  | .broken g => .broken g.behindComma
  | fields => fields

namespace Flaw

/-- Nothing stands where a value should be. -/
def missing (f : Fault) : Flaw := ⟨none, f, some f⟩

/-- The fault met by a reader who wants a name: only a text can be one, so anything else is refused at its first
character. -/
def naming (f : Flaw) : Fault :=
  match f.opening with
  | none => f.reading
  | some c => if c = '"' then f.reading else .malformed

end Flaw

mutual

/-- The first fault that a reader of the whole document meets. -/
def Doc.reading : Doc → Option Fault
  | .array items => items.reading
  | .object fields => fields.reading
  | .flawed f => some f.reading
  | _ => none

def Items.reading : Items → Option Fault
  | .closed => none
  | .broken f => some f
  | .cons d rest => d.reading <|> rest.reading

def Fields.reading : Fields → Option Fault
  | .closed => none
  | .broken g => some g.reading
  | .cons (.error f) _ _ => some f
  | .cons (.ok _) d rest => d.reading <|> rest.reading

end

mutual

/-- The first fault met in passing over the document. -/
def Doc.skipping : Doc → Option Fault
  | .array items => items.skipping
  | .object fields => fields.skipping
  | .flawed f => f.skipping
  | _ => none

def Items.skipping : Items → Option Fault
  | .closed => none
  | .broken f => some f
  | .cons d rest => d.skipping <|> rest.skipping

def Fields.skipping : Fields → Option Fault
  | .closed => none
  | .broken g => g.skipping
  | .cons _ d rest => d.skipping <|> rest.skipping

end

mutual

/-- The document of a value: the value itself, without any fault. -/
def Json.toDoc : Json → Doc
  | .null => .null
  | .bool b => .bool b
  | .number n => .number n
  | .string s => .string s
  | .array items => .array (Json.toItems items)
  | .object fields => .object (Json.toFields fields)

def Json.toItems : List Json → Items
  | [] => .closed
  | j :: js => .cons j.toDoc (Json.toItems js)

def Json.toFields : List (String × Json) → Fields
  | [] => .closed
  | (k, j) :: fs => .cons (.ok k) j.toDoc (Json.toFields fs)

end

mutual

/-- The value of a document, or the first fault in it. -/
def Doc.toJson : Doc → Except Fault Json
  | .null => .ok .null
  | .bool b => .ok (.bool b)
  | .number n => .ok (.number n)
  | .string s => .ok (.string s)
  | .array items => items.toJson.map .array
  | .object fields => fields.toJson.map .object
  | .flawed f => .error f.reading

def Items.toJson : Items → Except Fault (List Json)
  | .closed => .ok []
  | .broken f => .error f
  | .cons d rest => do
    let j ← d.toJson
    let js ← rest.toJson
    return j :: js

def Fields.toJson : Fields → Except Fault (List (String × Json))
  | .closed => .ok []
  | .broken g => .error g.reading
  | .cons (.error f) _ _ => .error f
  | .cons (.ok k) d rest => do
    let j ← d.toJson
    let fs ← rest.toJson
    return (k, j) :: fs

end

end Clearance
