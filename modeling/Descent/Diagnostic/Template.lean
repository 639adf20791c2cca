/-!
# Message templates

A template is a message with named fields: `{name}` stands for a field, `{name:>6}` for the
field moved to the right end of six characters, `{name:03}` for a number with zeros up to width
three, its sign included. Doubled braces stand for themselves.
-/

namespace Descent

inductive Layout where
  | asIs
  | rightAligned (width : Nat)
  | zeroPadded (width : Nat)
deriving DecidableEq, Repr

inductive Field where
  | text (value : String)
  | number (value : Int)
deriving DecidableEq, Repr

inductive Template.Piece where
  | verbatim (text : String)
  | field (name : String) (layout : Layout)
deriving DecidableEq, Repr

abbrev Template := List Template.Piece

namespace Field

/-- The copies of a character that bring a text of `length` characters up to `width`. -/
def padding (fill : Char) (width length : Nat) : String :=
  String.ofList (List.replicate (width - length) fill)

def plain : Field → String
  | text value => value
  | number value => toString value

/-- Zeros stand between the sign and the digits; a text takes spaces at its end instead. -/
def render (field : Field) : Layout → String
  | .asIs => field.plain
  | .rightAligned width => padding ' ' width field.plain.length ++ field.plain
  | .zeroPadded width =>
    match field with
    | text value => value ++ padding ' ' width value.length
    | number value =>
      let sign := if value < 0 then "-" else ""
      let digits := toString value.natAbs
      sign ++ padding '0' width (sign.length + digits.length) ++ digits

end Field

namespace Template

/-- What stands after the colon of a field. -/
def readLayout? : List Char → Option Layout
  | [] => some .asIs
  | '>' :: width => (String.ofList width).toNat?.map .rightAligned
  | '0' :: width => (String.ofList width).toNat?.map .zeroPadded
  | _ => none

/-- The inside of a pair of braces: a name, and a layout after a colon. -/
def readField? (inside : List Char) : Option Piece :=
  let name := inside.takeWhile (· != ':')
  (readLayout? ((inside.dropWhile (· != ':')).drop 1)).map (.field (String.ofList name))

/-- Reads the text of a template; `inside` holds what stands since an open brace, last first. A
brace that neither is doubled nor belongs to a field is refused. -/
def readPieces? (inside : Option (List Char)) : List Char → Option Template
  | [] => if inside.isNone then some [] else none
  | c :: rest =>
    match inside, c, rest with
    | some name, '\x7d', rest => do
      let field ← readField? name.reverse
      let pieces ← readPieces? none rest
      return field :: pieces
    | some name, c, rest => readPieces? (some (c :: name)) rest
    | none, '\x7b', '\x7b' :: rest => (readPieces? none rest).map (.verbatim "\x7b" :: ·)
    | none, '\x7d', '\x7d' :: rest => (readPieces? none rest).map (.verbatim "\x7d" :: ·)
    | none, '\x7b', rest => readPieces? (some []) rest
    | none, '\x7d', _ => none
    | none, c, rest => (readPieces? none rest).map (.verbatim (String.singleton c) :: ·)

def read? (text : String) : Option Template :=
  readPieces? none text.toList

def Piece.render? (fields : List (String × Field)) : Piece → Option String
  | verbatim text => some text
  | field name layout => (fields.lookup name).map (·.render layout)

/-- The text of a template; there is none if a field has no value. -/
def render? (fields : List (String × Field)) (template : Template) : Option String :=
  (template.mapM (Piece.render? fields)).map String.join

def fill? (message : String) (fields : List (String × Field)) : Option String :=
  (read? message).bind (render? fields)

end Template

end Descent
