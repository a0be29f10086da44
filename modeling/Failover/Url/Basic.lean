import Failover.Url.Host
/-!
# URLs

A URL in parts, its text, and the two changes that re-aiming needs.

* `Url.text` : the text of the parts;
* `Url.setHost` : another host, read as the scheme reads hosts;
* `Url.setPort?` : another port, left out where it is the scheme's own.
-/

set_option autoImplicit false

namespace Failover

/-- Who and where: the part of a URL behind two slashes. User name and password are encoded, an empty host
is none, and the port of the scheme is not kept. -/
structure Authority where
  username : String
  password : Option String
  host : Option Host
  port : Option UInt16
deriving DecidableEq, Repr

/-- A URL in parts, the scheme in lower case and the texts encoded. The path of an opaque URL is one text
that no slash starts. -/
structure Url where
  scheme : String
  authority : Option Authority
  isOpaque : Bool
  path : String
  query : Option String
  fragment : Option String
deriving DecidableEq, Repr

namespace Url

/-- The port that a scheme implies. -/
def defaultPort? : String → Option UInt16
  | "http" => some 80
  | "ws" => some 80
  | "https" => some 443
  | "wss" => some 443
  | "ftp" => some 21
  | _ => none

/-- The schemes whose URLs have rules of their own. -/
def isSpecialScheme (s : String) : Bool :=
  s ∈ ["http", "https", "ws", "wss", "ftp", "file"]

/-- Whether the URL's scheme has rules of its own. -/
def isSpecial (u : Url) : Bool := isSpecialScheme u.scheme

/-- The host, if there is one. -/
def host? (u : Url) : Option Host := u.authority.bind (·.host)

/-- The port, unless it is the scheme's own. -/
def port? (u : Url) : Option UInt16 := u.authority.bind (·.port)

/-- The port, or else the scheme's own. -/
def effectivePort? (u : Url) : Option UInt16 :=
  match u.port? with
  | some p => some p
  | none => defaultPort? u.scheme

/-- A number in decimal. -/
def portText (p : UInt16) : String := String.ofList (Text.decimal p.toNat)

/-- User name and password in front of the host. -/
def userinfoText (a : Authority) : String :=
  match a.password with
  | some p => a.username ++ ":" ++ p ++ "@"
  | none => if a.username = "" then "" else a.username ++ "@"

/-- The text of an authority, with its slashes. -/
def authorityText (a : Authority) : String :=
  "//" ++ userinfoText a
    ++ (match a.host with | some h => h.text | none => "")
    ++ (match a.port with | some p => ":" ++ portText p | none => "")

/-- The text of the URL. -/
def text (u : Url) : String :=
  u.scheme ++ ":"
    ++ (match u.authority with
        | some a => authorityText a
        | none => if !u.isOpaque && u.path.startsWith "//" then "/." else "")
    ++ u.path
    ++ (match u.query with | some q => "?" ++ q | none => "")
    ++ (match u.fragment with | some f => "#" ++ f | none => "")

/-- Reads a host as the scheme reads hosts. -/
def readHost [DomainNames] (scheme : String) (s : List Char) : Except UrlFault Host :=
  if isSpecialScheme scheme then Host.special? s else Host.opaque? s

/-- An empty name is no host. -/
def orNone : Host → Option Host
  | .name "" => none
  | h => some h

/-- The part of a new host that counts: a text without surrounding brackets ends at its first
colon. -/
def hostPart (s : List Char) : Except UrlFault (List Char) :=
  if s.head? = some '[' ∧ s.getLast? = some ']' then .ok s
  else match Text.cut ':' s with
    | none => .ok s
    | some ([], _) => .error .badHostCharacter
    | some (front, _) => .ok front

/-- The authority with another host, or a new one. -/
def withHost (u : Url) (h : Option Host) : Url :=
  { u with authority := some (match u.authority with
    | some a => { a with host := h }
    | none => ⟨"", none, h, none⟩) }

/-- The URL with the host that the text names. -/
def setHost [DomainNames] (u : Url) (s : String) : Except UrlFault Url :=
  if u.isOpaque then .error .opaquePath
  else if s = "" ∧ u.isSpecial ∧ u.scheme ≠ "file" then .error .emptyHost
  else do
    let part ← hostPart s.toList
    let h ← readHost u.scheme part
    pure (u.withHost (orNone h))

/-- The URL with another port, or none; only where there is a host and the scheme has ports. -/
def setPort? (u : Url) (p : Option UInt16) : Option Url :=
  match u.authority with
  | none => none
  | some a =>
    if a.host.isNone ∨ u.scheme = "file" then none
    else
      let kept := if p = defaultPort? u.scheme then none else p
      some { u with authority := some { a with port := kept } }

end Url

end Failover
