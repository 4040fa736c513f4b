import Clearance.Json.Quoted
import Clearance.Json.Numeral
/-!
# Reader — from text to document

Each reader takes its item off the front of the text.  It gives the document and what follows, or `none` if the text
breaks off inside, so that there is nothing to go on with.

A document may be nested as deeply as it likes where it is passed over; a reader refuses to open the container of depth
128.  The number of steps is bounded by the number of characters: of three nested calls at least one takes a character.
-/
namespace Clearance
namespace Json

def isSpace (c : Char) : Bool := c = ' ' || c = '\n' || c = '\t' || c = '\r'

def skipSpace (s : List Char) : List Char := s.dropWhile isSpace

/-- The depth of containers that a reader does not open any more. -/
def depthLimit : Nat := 128

/-- What a reader takes off the front of a text, and what is left. -/
abbrev Taken (α : Type) := α × Option (List Char)

/-- The remaining letters of a literal. -/
def literal : List Char → List Char → Except Fault (List Char)
  | [], s => .ok s
  | _ :: _, [] => .error .ended
  | c :: cs, d :: s => if c = d then literal cs s else .error .malformed

def takeLiteral (first : Char) (rest : List Char) (d : Doc) (s : List Char) : Taken Doc :=
  match literal rest s with
  | .ok r => (d, some r)
  | .error f => (.flawed ⟨some first, f, some f⟩, none)

/-- A number.  Whoever passes over one calls a lacking digit malformed even at the end of the text, and does not notice
that a number is too large. -/
def takeNumber (first : Char) (s : List Char) : Taken Doc :=
  match Numeral.scan s with
  | .error f => (.flawed ⟨some first, f, some .malformed⟩, none)
  | .ok (m, r) =>
    match m.value? with
    | some n => (.number n, some r)
    | none => (.flawed ⟨some first, .malformed, none⟩, some r)

/-- A string whose opening mark was taken. -/
def takeString (s : List Char) : Taken Doc :=
  let t := Quoted.scan none s
  match t.text, t.rest with
  | .ok cs, .ok r => (.string (String.ofList cs), some r)
  | .error f, .ok r => (.flawed ⟨some '"', f, none⟩, some r)
  | .error f, .error g => (.flawed ⟨some '"', f, some g⟩, none)
  | .ok _, .error g => (.flawed ⟨some '"', g, some g⟩, none)

/-- The container `d` at this depth, opened by `first`. -/
def container (depth : Nat) (first : Char) (d : Doc) : Doc :=
  if depth < depthLimit then d else .flawed ⟨some first, .malformed, d.skipping⟩

mutual

/-- A value with `depth` containers around it. -/
def takeValue (fuel depth : Nat) (s : List Char) : Taken Doc :=
  match fuel with
  | 0 => (.flawed (.missing .ended), none)
  | fuel + 1 =>
    match skipSpace s with
    | [] => (.flawed (.missing .ended), none)
    | c :: r =>
      if c = '"' then takeString r
      else if c = '[' then
        let (items, rest) := takeItems fuel (depth + 1) r
        (container (depth + 1) '[' (.array items), rest)
      else if c = '{' then
        let (fields, rest) := takeFields fuel (depth + 1) r
        (container (depth + 1) '{' (.object fields), rest)
      else if c = 'n' then takeLiteral 'n' ['u', 'l', 'l'] .null r
      else if c = 't' then takeLiteral 't' ['r', 'u', 'e'] (.bool true) r
      else if c = 'f' then takeLiteral 'f' ['a', 'l', 's', 'e'] (.bool false) r
      else if c = '-' || c.isDigit then takeNumber c (c :: r)
      else (.flawed ⟨some c, .malformed, some .malformed⟩, none)

/-- The items behind an opening bracket. -/
def takeItems (fuel depth : Nat) (s : List Char) : Taken Items :=
  match fuel with
  | 0 => (.broken .ended, none)
  | fuel + 1 =>
    match skipSpace s with
    | [] => (.broken .ended, none)
    | ']' :: r => (.closed, some r)
    | r => takeMoreItems fuel depth r

/-- At least one item. -/
def takeMoreItems (fuel depth : Nat) (s : List Char) : Taken Items :=
  match fuel with
  | 0 => (.broken .ended, none)
  | fuel + 1 =>
    match takeValue fuel depth s with
    | (d, none) => (.cons d (.broken .ended), none)
    | (d, some r) =>
      match skipSpace r with
      | [] => (.cons d (.broken .ended), none)
      | ']' :: r => (.cons d .closed, some r)
      | ',' :: r =>
        let (items, rest) := takeMoreItems fuel depth r
        (.cons d items, rest)
      | _ => (.cons d (.broken .malformed), none)

/-- The fields behind an opening brace. -/
def takeFields (fuel depth : Nat) (s : List Char) : Taken Fields :=
  match fuel with
  | 0 => (.broken (.all .ended), none)
  | fuel + 1 =>
    match skipSpace s with
    | [] => (.broken (.all .ended), none)
    | '}' :: r => (.closed, some r)
    | '"' :: r => takeField fuel depth r
    | _ => (.broken (.all .malformed), none)

/-- A field whose key is open, and those behind it. -/
def takeField (fuel depth : Nat) (s : List Char) : Taken Fields :=
  match fuel with
  | 0 => (.broken (.all .ended), none)
  | fuel + 1 =>
    let t := Quoted.scan none s
    match t.rest with
    | .error g =>
      let f := match t.text with
        | .error f => f
        | .ok _ => g
      (.broken ⟨f, some g, f⟩, none)
    | .ok r =>
      let key := t.text.map String.ofList
      match skipSpace r with
      | ':' :: r =>
        match takeValue fuel depth r with
        | (d, none) => (.cons key d (.broken (.all .ended)), none)
        | (d, some r) =>
          match skipSpace r with
          | [] => (.cons key d (.broken (.all .ended)), none)
          | '}' :: r => (.cons key d .closed, some r)
          | ',' :: r =>
            match skipSpace r with
            | '"' :: r =>
              let (fields, rest) := takeField fuel depth r
              (.cons key d fields.behindComma, rest)
            | [] => (.cons key d (.broken (.behindComma (.all .ended))), none)
            | _ => (.cons key d (.broken (.all .malformed)), none)
          | _ => (.cons key d (.broken (.all .malformed)), none)
      | r => (.cons key (.flawed (.missing (Numeral.lacking r))) (.broken (.all .malformed)), none)

end

/-- A text as a document, and the fault met behind it by a reader of the whole text. -/
structure Read where
  doc : Doc
  trailing : Option Fault

/-- Reads a text.  Nothing but space may follow the value. -/
def read (s : List Char) : Read :=
  match takeValue (3 * s.length + 3) 0 s with
  | (d, none) => ⟨d, none⟩
  | (d, some r) => ⟨d, if (skipSpace r).isEmpty then none else some .malformed⟩

/-- The value that a text is, or the first fault in it. -/
def ofText (s : String) : Except Fault Json := do
  let r := read s.toList
  let j ← r.doc.toJson
  match r.trailing with
  | some f => .error f
  | none => .ok j

end Json
end Clearance
