import Failover.Pattern.Basic
import Failover.Text.Basic
import Failover.Text.Script
/-!
# Named properties of characters

Names are spelled in any case, with or without blanks, hyphens, underscores and a leading `is`.

* `Property.key` : what counts of a name;
* `Property.named?` : the characters with the property, category or script of a name;
* `Property.valued?` : those with a value of a property, the general category or the script;
* `Property.ofText?` : those that the text between the braces of `\\p` asks for.
-/

set_option autoImplicit false

namespace Failover.Pattern.Property

/-- Letters of a name in lower case, without what does not count. -/
def essence (s : List Char) : List Char :=
  (s.filter fun c => c.toNat < 0x80 && c != ' ' && c != '_' && c != '-').map Text.asciiLower

/-- What counts of a name. A leading `is` does not, unless it makes all the difference. -/
def key (s : List Char) : String :=
  match s with
  | a :: b :: r =>
    if Text.asciiLower a = 'i' ∧ Text.asciiLower b = 's' then
      match essence r with
      | ['c'] => "isc"
      | k => String.ofList k
    else String.ofList (essence s)
  | s => String.ofList (essence s)

/-- Assigned characters. -/
def assigned : CharSet := .ofCategories Text.Category.all

/-- Characters that are neither letters, marks, numbers, punctuation, symbols nor separators. -/
def other : CharSet := .compl (.ofCategories (Text.Category.letters ++ Text.Category.marks
  ++ Text.Category.numbers ++ Text.Category.punctuation ++ Text.Category.symbols
  ++ Text.Category.separators))

/-- The characters of a general category. -/
def category? : String → Option CharSet
  | "any" => some .all
  | "assigned" => some assigned
  | "ascii" => some (.range 0 0x7F)
  | "c" | "other" => some other
  | "cn" | "unassigned" => some (.compl assigned)
  | k => (Text.Category.ofKey? k).map .ofCategories

/-- The characters of a script. -/
def script? (k : String) : Option CharSet :=
  (Text.Script.named? k).map fun s => .within s.ranges

/-- The characters with a property that a character has or has not. -/
def flag? : String → Option CharSet
  | "alphabetic" | "alpha" => some .alphabetic
  | "lowercase" | "lower" => some .lowercase
  | "uppercase" | "upper" => some .uppercase
  | "whitespace" | "wspace" | "space" => some .space
  | _ => none

/-- The characters of a single name. -/
def named? (name : List Char) : Option CharSet :=
  let k := key name
  (flag? k).or ((category? k).or (script? k))

/-- The characters with a value of a property. -/
def valued? (name value : List Char) : Option CharSet :=
  match key name with
  | "gc" | "generalcategory" => category? (key value)
  | "sc" | "script" => script? (key value)
  | _ => none

/-- A text before and after the first `!=`. -/
def cutUnequal : List Char → Option (List Char × List Char)
  | '!' :: '=' :: r => some ([], r)
  | [] => none
  | c :: r => (cutUnequal r).map fun p => (c :: p.1, p.2)

/-- The characters that a name, or a name with a value, asks for. -/
def ofText? (s : List Char) : Option CharSet :=
  match cutUnequal s with
  | some (name, value) => (valued? name value).map .compl
  | none =>
    match (Text.cut ':' s).or (Text.cut '=' s) with
    | some (name, value) => valued? name value
    | none => named? s

end Failover.Pattern.Property
