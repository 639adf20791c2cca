import Descent.Text.Property.Age
import Descent.Text.Property.Break
import Descent.Text.Property.ScriptExtension

/-!
# Properties by name

Sets of characters by the names of their properties. Names are compared loosely: letter case,
spaces, hyphens, underscores and a leading `is` do not count. A set is named either by itself, as a
property that a character has or lacks, a general category or a script, or by a property and its
value.
-/

namespace Descent.Text

namespace Property

/-- Whether the name starts with `is` in any letter case. -/
def dropIs : List Char → Bool × List Char
  | i :: s :: rest =>
    if (i == 'i' || i == 'I') && (s == 's' || s == 'S') then (true, rest)
    else (false, i :: s :: rest)
  | name => (false, name)

/-- The loose form of a name. Characters outside ASCII do not count. A `c` after `is` keeps it, as
the name of another property. -/
def looseForm (name : List Char) : String :=
  let (isDropped, name) := dropIs name
  let kept := name.filter fun c => c.toNat < 128 && c != ' ' && c != '_' && c != '-'
  let loose := String.ofList (kept.map Char.toLower)
  if isDropped && loose == "c" then "isc" else loose

/-- The set under one of whose names is the given one. -/
def find? {α : Type} (sets : List (List String × α)) (name : String) : Option α :=
  (sets.find? fun (names, _) => names.contains name).map (·.2)

def category? (name : String) : Option Ranges :=
  (find? Category.named name).map Category.rangesOf

/-- A set named by itself. -/
def ofName? (name : List Char) : Option Ranges :=
  let name := looseForm name
  ((find? named name).or (category? name)).or ((Script.ofName? name).map (·.ranges))

def ofValue? (property value : List Char) : Option Ranges :=
  let value := looseForm value
  match looseForm property with
  | "gc" | "generalcategory" =>
    if ["any", "ascii", "assigned"].contains value then find? named value else category? value
  | "sc" | "script" => (Script.ofName? value).map (·.ranges)
  | "scx" | "scriptextensions" => (Script.ofName? value).map Script.extension
  | "age" => Age.upTo? value
  | "gcb" | "graphemeclusterbreak" => find? Break.grapheme value
  | "wb" | "wordbreak" => find? Break.word value
  | "sb" | "sentencebreak" => find? Break.sentence value
  | _ => none

end Property

end Descent.Text
