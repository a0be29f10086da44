import Failover.Text.Basic
/-!
# JSON values

* `Json` : values, objects as lists of fields in order;
* `Json.sorted` : the value with the fields of every object in increasing order of their names, a
  repeated name keeping its last value;
* `Json.text` : the compact text of a value.
-/

set_option autoImplicit false

namespace Failover

/-- A number as JSON texts hold it: a whole number below 2^64, minus one of at most 2^63, or any other
number as it is written. -/
inductive Json.Number where
  | natural (n : Nat)
  | negative (n : Nat)
  | fraction (text : String)
deriving DecidableEq, Repr

/-- A JSON value. -/
inductive Json where
  | null
  | bool (b : Bool)
  | number (n : Json.Number)
  | string (s : String)
  | array (items : List Json)
  | object (fields : List (String × Json))
deriving Repr, Inhabited

namespace Json

/-- A whole number. -/
def ofNat (n : Nat) : Json := .number (.natural n)

/-- The text of a number. -/
def Number.text : Number → List Char
  | natural n => Text.decimal n
  | negative n => '-' :: Text.decimal n
  | fraction t => t.toList

/-- Puts a field at its place among fields in order; a field of the same name goes. -/
def putSorted (k : String) (v : Json) : List (String × Json) → List (String × Json)
  | [] => [(k, v)]
  | (k', v') :: r =>
    if k < k' then (k, v) :: (k', v') :: r
    else if k = k' then (k, v) :: r
    else (k', v') :: putSorted k v r

mutual

/-- The value with all fields in increasing order of their names. -/
def sorted : Json → Json
  | array items => array (sortedItems items)
  | object fields => object ((sortedFields fields).foldl (fun acc f => putSorted f.1 f.2 acc) [])
  | v => v

/-- The items, each with its fields in order. -/
def sortedItems : List Json → List Json
  | [] => []
  | v :: r => v.sorted :: sortedItems r

/-- The fields as they come, each value with its own fields in order. -/
def sortedFields : List (String × Json) → List (String × Json)
  | [] => []
  | (k, v) :: r => (k, v.sorted) :: sortedFields r

end

/-- One character between quotes. -/
def escaped (c : Char) : List Char :=
  if c = '"' then ['\\', '"']
  else if c = '\\' then ['\\', '\\']
  else if c = '\n' then ['\\', 'n']
  else if c = '\r' then ['\\', 'r']
  else if c = '\t' then ['\\', 't']
  else if c = '\x08' then ['\\', 'b']
  else if c = '\x0c' then ['\\', 'f']
  else if c.toNat < 0x20 then
    ['\\', 'u', '0', '0', Text.hexDigit (c.toNat / 16), Text.hexDigit (c.toNat % 16)]
  else [c]

/-- A text between quotes. -/
def quoted (s : String) : List Char :=
  '"' :: s.toList.flatMap escaped ++ ['"']

mutual

/-- The compact text, as characters. -/
def chars : Json → List Char
  | null => "null".toList
  | bool true => "true".toList
  | bool false => "false".toList
  | number n => n.text
  | string s => quoted s
  | array [] => "[]".toList
  | array (v :: r) => '[' :: chars v ++ charsOfItems r
  | object [] => ['\x7b', '\x7d']
  | object ((k, v) :: r) => '\x7b' :: quoted k ++ ':' :: chars v ++ charsOfFields r

/-- The text of further items and the end of the array. -/
def charsOfItems : List Json → List Char
  | [] => [']']
  | v :: r => ',' :: chars v ++ charsOfItems r

/-- The text of further fields and the end of the object. -/
def charsOfFields : List (String × Json) → List Char
  | [] => ['\x7d']
  | (k, v) :: r => ',' :: quoted k ++ ':' :: chars v ++ charsOfFields r

end

/-- The compact text. -/
def text (v : Json) : String := String.ofList v.chars

end Json

end Failover
