import Failover.Http.Header
import Failover.Failure
/-!
# Headers that may be told

Headers whose names match one of several regular expressions stay out of the log. Case plays no part.
The regular expressions are the matter of a library, which compiles all of them into one set.

* `PatternLibrary` : such a library;
* `HeaderFilter.patterns` : the regular expressions that always hold, and further ones;
* `HeaderFilter.withExtra` : the filter that the library makes of them;
* `HeaderFilter.visible` : the headers that may be told, in order of their names.
-/

set_option autoImplicit false

namespace Failover

/-- A library of regular expressions. It compiles texts into one set, unless one of them is no regular
expression or they make too large a set; the set tells in which texts one of its members is found. -/
structure PatternLibrary where
  compile : List String → Option (String → Bool)

/-- The names of headers that stay out of the log. -/
structure HeaderFilter where
  hides : String → Bool

namespace HeaderFilter

/-- The names that always stay out of the log. -/
def hidden : List String :=
  ["^User-Agent$", "^Referer$", "^X-Request-Id$", "^X-Api-Key$", "^X-Varnish$", "^X-Timer$",
   "^Connection$", "^Content-Length$", "^Cdn-Loop$", "^Fastly"]

/-- The regular expressions for these and further names, all without regard to case. -/
def patterns (extra : List String) : List String := (hidden ++ extra).map ("(?i)" ++ ·)

/-- The filter of the usual names and further ones, compiled together. -/
def withExtra (library : PatternLibrary) (extra : List String) : Except Failure HeaderFilter :=
  match library.compile (patterns extra) with
  | some found => .ok ⟨found⟩
  | none => .error (.configuration .badHiddenPattern)

/-- Whether headers of this name may be told. -/
def isVisible (f : HeaderFilter) (name : String) : Bool := !f.hides name

/-- Puts a named text at its place in order of names; a text of the same name goes. -/
def put (k v : String) : List (String × String) → List (String × String)
  | [] => [(k, v)]
  | (k', v') :: r =>
    if k < k' then (k, v) :: (k', v') :: r
    else if k = k' then (k, v) :: r
    else (k', v') :: put k v r

/-- The headers that may be told, in order of their names; of several values the last counts. -/
def visible (f : HeaderFilter) (h : Headers) : List (String × String) :=
  (h.entries.filter fun e => f.isVisible e.1.text).foldl
    (fun acc e => put e.1.text e.2.lossyText acc) []

end HeaderFilter

end Failover
