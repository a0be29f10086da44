import Failover.Text.Case
import Failover.Url.Basic
/-!
# Reading URLs

* `Url.parse` : the parts of an absolute URL, normalized: scheme and host in lower case, ports that
  the scheme implies left out, dot segments resolved, characters encoded where they must be.
-/

set_option autoImplicit false

namespace Failover.Url

/-- Controls and spaces, which surround no URL. -/
def isSurrounding (c : Char) : Bool := c.toNat ≤ 0x20

/-- The text that counts: surrounding controls and spaces gone, tabs and line ends removed. -/
def relevant (s : List Char) : List Char :=
  let t := ((s.dropWhile isSurrounding).reverse.dropWhile isSurrounding).reverse
  t.filter fun c => !(c == '\t' || c == '\n' || c == '\r')

/-- Characters of a scheme behind its first. -/
def isSchemeChar (c : Char) : Bool :=
  c.isAlphanum || c == '+' || c == '-' || c == '.'

/-- The scheme and the text behind its colon. -/
def scheme? : List Char → Option (String × List Char)
  | [] => none
  | c :: r =>
    if c.isAlpha then
      match r.span isSchemeChar with
      | (front, ':' :: rest) => some (String.ofList ((c :: front).map Text.asciiLower), rest)
      | _ => none
    else none

/-- A slash, or in special URLs a backslash. -/
def isSlash (special : Bool) (c : Char) : Bool := c == '/' || (special && c == '\\')

/-- A character that ends the authority. -/
def endsAuthority (special : Bool) (c : Char) : Bool :=
  isSlash special c || c == '?' || c == '#'

/-- The text before the last `@` of an authority and the text behind it. -/
def cutUserinfo (s : List Char) : Option (List Char × List Char) :=
  match s.reverse.span fun c => c != '@' with
  | (_, []) => none
  | (back, _ :: front) => some (front.reverse, back.reverse)

/-- User name and password of the text before an `@`. -/
def readUserinfo (s : List Char) : String × Option String :=
  let enc t := String.ofList (Percent.encode Percent.inUserinfo t)
  match Text.cut ':' s with
  | none => (enc s, none)
  | some (u, []) => (enc u, none)
  | some (u, p) => (enc u, some (enc p))

/-- The host text at the front: up to a colon outside brackets, or the end of the authority. -/
def spanHost (special : Bool) : Bool → List Char → List Char × List Char
  | _, [] => ([], [])
  | inside, c :: r =>
    if (c == ':' && !inside) || endsAuthority special c then ([], c :: r)
    else
      let inside := if c == '[' then true else if c == ']' then false else inside
      let (h, t) := spanHost special inside r
      (c :: h, t)

/-- The port behind a colon, if digits are there, and the text behind it. -/
def readPort (scheme : String) (s : List Char) : Except UrlFault (Option UInt16 × List Char) :=
  let digits := s.takeWhile Char.isDigit
  let rest := s.dropWhile Char.isDigit
  match Text.number? 10 digits with
  | none =>
    match rest with
    | [] => .ok (none, [])
    | c :: _ => if endsAuthority true c then .ok (none, rest) else .error .badPort
  | some n =>
    if 65536 ≤ n then .error .badPort
    else
      let p := some (UInt16.ofNat n)
      let p := if p = defaultPort? scheme then none else p
      match rest with
      | [] => .ok (p, [])
      | c :: _ => if endsAuthority true c then .ok (p, rest) else .error .badPort

/-- The authority at the front of the text, and the text behind it. -/
def readAuthority [DomainNames] (scheme : String) (s : List Char) :
    Except UrlFault (Authority × List Char) := do
  let special := isSpecialScheme scheme
  let front := s.takeWhile fun c => !endsAuthority special c
  let behind := s.dropWhile fun c => !endsAuthority special c
  let (user, bare, rest) ← match cutUserinfo front with
    | none => pure (("", none), true, s)
    | some ([], r) =>
      if r.isEmpty && !behind.isEmpty then throw .emptyHost
      else pure (("", none), true, r ++ behind)
    | some (u, r) =>
      let info := readUserinfo u
      pure (info, info.1 == "" && info.2.isNone, r ++ behind)
  let (h, rest) := spanHost special false rest
  if h.isEmpty ∧ special then throw .emptyHost
  let host ← readHost scheme h
  if h.isEmpty ∧ rest.head? = some ':' then throw .emptyHost
  let (port, rest) ← match rest with
    | ':' :: r => readPort scheme r
    | r => pure (none, r)
  if (orNone host).isNone ∧ bare = false then throw .emptyHost
  pure (⟨user.1, user.2, orNone host, port⟩, rest)

/-- Segments `.` and their encoded forms. -/
def isSingleDot (s : List Char) : Bool :=
  String.ofList (s.map Text.asciiLower) ∈ [".", "%2e"]

/-- Segments `..` and their encoded forms. -/
def isDoubleDot (s : List Char) : Bool :=
  String.ofList (s.map Text.asciiLower) ∈ ["..", ".%2e", "%2e.", "%2e%2e"]

/-- A letter and a colon or a bar, as drives are named. -/
def isDrive (s : List Char) : Bool :=
  match s with
  | [c, d] => c.isAlpha && (d == ':' || d == '|')
  | _ => false

/-- The segments without the last; a lone drive of a file URL stays. -/
def shortened (file : Bool) (segments : List (List Char)) : List (List Char) :=
  match segments with
  | [d] => if file && isDrive d then [d] else []
  | s => s.dropLast

/-- Takes in one segment; a dot segment at the end of the path leaves an empty one. -/
def addSegment (file : Bool) (done : List (List Char)) (s : List Char) (last : Bool) :
    List (List Char) :=
  let s := Percent.encode Percent.inPath s
  if isDoubleDot s then shortened file done ++ (if last then [[]] else [])
  else if isSingleDot s then done ++ (if last then [[]] else [])
  else if file && done.isEmpty && isDrive s then [s.take 1 ++ [':']]
  else done ++ [s]

/-- Takes in all segments. -/
def addSegments (file : Bool) : List (List Char) → List (List Char) → List (List Char)
  | done, [] => done
  | done, [s] => addSegment file done s true
  | done, s :: rest => addSegments file (addSegment file done s false) rest

/-- The text between slashes. -/
def segments (special : Bool) (s : List Char) : List (List Char) :=
  Text.pieces '/' (s.map fun c => if isSlash special c then '/' else c)

/-- The path that the text behind the first slash spells. -/
def hierarchical (special file : Bool) (s : List Char) : List Char :=
  let path := (addSegments file [] (segments special s)).flatMap fun p => '/' :: p
  if file then '/' :: path.dropWhile (· == '/') else path

/-- The path of a URL with an authority: special URLs always have one. -/
def pathAfterAuthority (special file : Bool) (s : List Char) : List Char :=
  match s with
  | [] => if special then ['/'] else []
  | c :: r => if isSlash special c then hierarchical special file r else hierarchical special file s

/-- Query and fragment of the text that follows the path. -/
def readTail (special : Bool) (s : List Char) : Option String × Option String :=
  let frag t := String.ofList (Percent.encode Percent.inFragment t)
  let set := if special then Percent.inSpecialQuery else Percent.inQuery
  match s with
  | '#' :: f => (none, some (frag f))
  | '?' :: r =>
    match Text.cut '#' r with
    | none => (some (String.ofList (Percent.encode set r)), none)
    | some (q, f) => (some (String.ofList (Percent.encode set q)), some (frag f))
  | _ => (none, none)

/-- Whether a character ends the path. -/
def endsPath (c : Char) : Bool := c == '?' || c == '#'

/-- Puts the parts together, the text behind the authority still to be read. -/
def assembled (scheme : String) (a : Option Authority) (isOpaque : Bool)
    (path : List Char → List Char) (s : List Char) : Url :=
  let front := s.takeWhile fun c => !endsPath c
  let (q, f) := readTail (isSpecialScheme scheme) (s.dropWhile fun c => !endsPath c)
  ⟨scheme, a, isOpaque, String.ofList (path front), q, f⟩

/-- Reads a file URL: the host is a name or an address without port, `localhost` is none, and a
drive is part of the path. -/
def readFile [DomainNames] (s : List Char) : Except UrlFault Url :=
  let plain (h : Option Host) : Option Authority := some ⟨"", none, h, none⟩
  match s with
  | c :: d :: r =>
    if isSlash true c && isSlash true d then
      let front := r.takeWhile fun c => !endsAuthority true c
      let rest := r.dropWhile fun c => !endsAuthority true c
      if isDrive front then .ok (assembled "file" (plain none) false (hierarchical true true) r)
      else if front.isEmpty then
        .ok (assembled "file" (plain none) false (pathAfterAuthority true true) rest)
      else do
        let h ← Host.special? front
        let h := if h = .name "localhost" then none else some h
        let u := assembled "file" (plain h) false (pathAfterAuthority true true) rest
        let first := ((segments true (rest.takeWhile fun c => !endsPath c)).drop 1).head?
        if first.any isDrive then pure { u with authority := plain none } else pure u
    else .ok (assembled "file" (plain none) false (pathAfterAuthority true true) s)
  | _ => .ok (assembled "file" (plain none) false (pathAfterAuthority true true) s)

/-- Reads a URL whose scheme is known. -/
def readAfterScheme [DomainNames] (scheme : String) (s : List Char) : Except UrlFault Url :=
  if scheme = "file" then readFile s
  else if isSpecialScheme scheme then do
    let (a, rest) ← readAuthority scheme (s.dropWhile (isSlash true))
    pure (assembled scheme (some a) false (pathAfterAuthority true false) rest)
  else match s with
    | '/' :: '/' :: r => do
      let (a, rest) ← readAuthority scheme r
      pure (assembled scheme (some a) false (pathAfterAuthority false false) rest)
    | '/' :: _ => .ok (assembled scheme none false (pathAfterAuthority false false) s)
    | _ => .ok (assembled scheme none true (Percent.encode Percent.inControls) s)

/-- The parts of an absolute URL. -/
def parse [DomainNames] (s : String) : Except UrlFault Url :=
  match scheme? (relevant s.toList) with
  | none => .error .relative
  | some (scheme, rest) => readAfterScheme scheme rest

end Failover.Url
