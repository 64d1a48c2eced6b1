import PascalLint.Number.Double
import PascalLint.Text.Reader

/-! The values of a TOML document.

A document is a table: its keys in the order in which they came to stand in it, each with its
value. -/
namespace PascalLint.Toml

inductive Value where
  | string (s : Text)
  | integer (n : Int)
  | float (x : Double)
  | boolean (b : Bool)
  /-- A date, a time of day or both, as it is written. -/
  | dateTime (written : Text)
  | array (items : List Value)
  | table (entries : List (Text × Value))

/-- A document's keys and values, in order. -/
abbrev Table := List (Text × Value)

/-! ### Comparing values -/

mutual

/-- Whether two values are the same; a table's entries have to come in the same order. -/
def Value.same : Value → Value → Bool
  | .string s, .string t => s == t
  | .integer m, .integer n => m == n
  | .float x, .float y => x == y
  | .boolean a, .boolean b => a == b
  | .dateTime s, .dateTime t => s == t
  | .array items, .array others => sameItems items others
  | .table entries, .table others => sameEntries entries others
  | _, _ => false

def sameItems : List Value → List Value → Bool
  | [], [] => true
  | item :: items, other :: others => item.same other && sameItems items others
  | _, _ => false

def sameEntries : List (Text × Value) → List (Text × Value) → Bool
  | [], [] => true
  | (key, value) :: entries, (other, found) :: others =>
    key == other && value.same found && sameEntries entries others
  | _, _ => false

end

mutual

theorem Value.same_iff : (v w : Value) → (v.same w = true ↔ v = w)
  | .string _, w => by cases w <;> simp [Value.same]
  | .integer _, w => by cases w <;> simp [Value.same]
  | .float _, w => by cases w <;> simp [Value.same]
  | .boolean _, w => by cases w <;> simp [Value.same]
  | .dateTime _, w => by cases w <;> simp [Value.same]
  | .array items, w => by cases w <;> simp [Value.same, sameItems_iff items]
  | .table entries, w => by cases w <;> simp [Value.same, sameEntries_iff entries]

theorem sameItems_iff : (items others : List Value) → (sameItems items others = true ↔ items = others)
  | [], others => by cases others <;> simp [sameItems]
  | item :: items, others => by
    cases others <;> simp [sameItems, Value.same_iff item, sameItems_iff items]

theorem sameEntries_iff : (entries others : List (Text × Value)) →
    (sameEntries entries others = true ↔ entries = others)
  | [], others => by cases others <;> simp [sameEntries]
  | (key, value) :: entries, others => by
    cases others <;> simp [sameEntries, Value.same_iff value, sameEntries_iff entries, Prod.ext_iff]

end

instance : DecidableEq Value := fun v w => decidable_of_iff _ (Value.same_iff v w)

end PascalLint.Toml
