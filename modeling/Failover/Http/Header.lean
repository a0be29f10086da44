import Failover.Text.Case
import Failover.Text.Utf8
/-!
# Methods and headers

* `isToken` : the characters that method and header names consist of;
* `Method` : a method, case-sensitive; `Method.isIdempotent` : doing it twice is doing it once;
* `HeaderName` : a lower-case token;
* `HeaderValue` : bytes other than control characters; it is text where they are printable ASCII and
  tabs;
* `Headers` : names with their values in order, where setting a name replaces what it had.
-/

set_option autoImplicit false

namespace Failover

/-- The characters of names in HTTP. -/
def isTokenChar (c : Char) : Bool :=
  c.isAlphanum || c ∈ ['!', '#', '$', '%', '&', '\'', '*', '+', '-', '.', '^', '_', '\x60', '|', '~']

/-- A non-empty text of such characters. -/
def isToken (s : String) : Bool :=
  !s.toList.isEmpty && s.toList.all isTokenChar

/-- A request method. -/
structure Method where
  name : String
deriving DecidableEq, Repr

namespace Method

/-- The method that a text names. -/
def parse? (s : String) : Option Method := if isToken s then some ⟨s⟩ else none

/-- Fetch. -/
def get : Method := ⟨"GET"⟩

/-- Doing it again after it may have been done is safe for all methods but two. -/
def isIdempotent (m : Method) : Bool := m.name != "POST" && m.name != "PATCH"

end Method

/-- A header name, in lower case. -/
structure HeaderName where
  text : String
deriving DecidableEq, Repr

namespace HeaderName

/-- The name that a text spells in letters of either case. -/
def parse? (s : String) : Option HeaderName :=
  if isToken s && s.utf8ByteSize < 65536 then
    some ⟨String.ofList (s.toList.map Text.asciiLower)⟩
  else none

/-- What the client calls itself. -/
def userAgent : HeaderName := ⟨"user-agent"⟩

/-- The kind of a body. -/
def contentType : HeaderName := ⟨"content-type"⟩

/-- The length of a body. -/
def contentLength : HeaderName := ⟨"content-length"⟩

end HeaderName

/-- A header value. -/
structure HeaderValue where
  bytes : Bytes
deriving DecidableEq, Repr

namespace HeaderValue

/-- Printable ASCII and the tab. -/
def isVisible (b : UInt8) : Bool := (0x20 ≤ b && b < 0x7F) || b == 9

/-- All but control characters; of these the tab. -/
def isAllowed (b : UInt8) : Bool := (0x20 ≤ b && b != 0x7F) || b == 9

/-- The value that a text spells, if its characters may stand in one. -/
def ofText? (s : String) : Option HeaderValue :=
  let bytes := Text.Utf8.encode s.toList
  if bytes.all isAllowed then some ⟨bytes⟩ else none

/-- The value as text, if it is printable ASCII and tabs. -/
def text? (v : HeaderValue) : Option String :=
  if v.bytes.all isVisible then some (String.ofList (v.bytes.map fun b => Char.ofNat b.toNat))
  else none

/-- The value as text, malformed parts replaced. -/
def lossyText (v : HeaderValue) : String := String.ofList (Text.Utf8.decodeLossy v.bytes)

end HeaderValue

/-- Headers in order; a name may have several values. -/
structure Headers where
  entries : List (HeaderName × HeaderValue)
deriving DecidableEq, Repr

namespace Headers

/-- No headers. -/
def empty : Headers := ⟨[]⟩

/-- The first value of a name. -/
def get? (h : Headers) (name : HeaderName) : Option HeaderValue :=
  (h.entries.find? fun e => e.1 == name).map (·.2)

/-- The name with this one value in place of all it had. -/
def set (h : Headers) (name : HeaderName) (value : HeaderValue) : Headers :=
  ⟨h.entries.filter (fun e => e.1 != name) ++ [(name, value)]⟩

/-- One more value behind those that the name has. -/
def append (h : Headers) (name : HeaderName) (value : HeaderValue) : Headers :=
  ⟨h.entries ++ [(name, value)]⟩

/-- A name that was set has the new value. -/
@[simp] theorem get?_set_self (h : Headers) (n : HeaderName) (v : HeaderValue) :
    (h.set n v).get? n = some v := by
  have : (h.entries.filter fun e => e.1 != n).find? (fun e => e.1 == n) = none := by
    simp [List.find?_eq_none]
  simp [get?, set, List.find?_append, this]

end Headers

end Failover
