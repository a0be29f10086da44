import Failover.Text.Classes
import Failover.Text.Composition
import Failover.Url.Idna
import Failover.Url.Punycode
/-!
# Internationalized domain names to run with

What is proved of URLs holds with any library of domain names.  This one is there to run them.  Its tables
are not complete: they leave out half-width letters, mathematical letters and squared words, and names
that run from right to left are not checked for their order.

* `Idna.mapped` : what a character stands for;
* `Idna.label?` : one label, checked and encoded;
* `Idna.general?` : a name.
-/

set_option autoImplicit false

namespace Failover.Idna

/-- Characters that stand for other characters, with those. -/
def substitutes : List (Nat × String) := [
  (0xAA, "a"), (0xB2, "2"), (0xB3, "3"), (0xB5, "\u03bc"), (0xB9, "1"), (0xBA, "o"),
  (0x132, "ij"), (0x133, "ij"), (0x13F, "l\u00b7"), (0x140, "l\u00b7"), (0x149, "\u02bcn"), (0x17F, "s"),
  (0x1C4, "d\u017e"), (0x1C5, "d\u017e"), (0x1C6, "d\u017e"), (0x1C7, "lj"), (0x1C8, "lj"), (0x1C9, "lj"),
  (0x1CA, "nj"), (0x1CB, "nj"), (0x1CC, "nj"), (0x1F1, "dz"), (0x1F2, "dz"), (0x1F3, "dz"),
  (0x2B0, "h"), (0x2B1, "\u0266"), (0x2B2, "j"), (0x2B3, "r"), (0x2B4, "\u0279"), (0x2B5, "\u027b"),
  (0x2B6, "\u0281"), (0x2B7, "w"), (0x2B8, "y"), (0x2E0, "\u0263"), (0x2E1, "l"), (0x2E2, "s"),
  (0x2E3, "x"), (0x2E4, "\u0295"), (0x2070, "0"), (0x2071, "i"), (0x2074, "4"), (0x2075, "5"),
  (0x2076, "6"), (0x2077, "7"), (0x2078, "8"), (0x2079, "9"), (0x207A, "+"), (0x207B, "\u2212"),
  (0x207C, "="), (0x207D, "("), (0x207E, ")"), (0x207F, "n"), (0x2080, "0"), (0x2081, "1"),
  (0x2082, "2"), (0x2083, "3"), (0x2084, "4"), (0x2085, "5"), (0x2086, "6"), (0x2087, "7"),
  (0x2088, "8"), (0x2089, "9"), (0x208A, "+"), (0x208B, "\u2212"), (0x208C, "="), (0x208D, "("),
  (0x208E, ")"), (0x2090, "a"), (0x2091, "e"), (0x2092, "o"), (0x2093, "x"), (0x2094, "\u0259"),
  (0x2095, "h"), (0x2096, "k"), (0x2097, "l"), (0x2098, "m"), (0x2099, "n"), (0x209A, "p"),
  (0x209B, "s"), (0x209C, "t"), (0x2100, "a/c"), (0x2101, "a/s"), (0x2102, "c"), (0x2103, "\u00b0c"),
  (0x2105, "c/o"), (0x2106, "c/u"), (0x2107, "\u025b"), (0x2109, "\u00b0f"), (0x210A, "g"), (0x210B, "h"),
  (0x210C, "h"), (0x210D, "h"), (0x210E, "h"), (0x210F, "\u0127"), (0x2110, "i"), (0x2111, "i"),
  (0x2112, "l"), (0x2113, "l"), (0x2115, "n"), (0x2116, "no"), (0x2119, "p"), (0x211A, "q"),
  (0x211B, "r"), (0x211C, "r"), (0x211D, "r"), (0x2120, "sm"), (0x2121, "tel"), (0x2122, "tm"),
  (0x2124, "z"), (0x2128, "z"), (0x212C, "b"), (0x212D, "c"), (0x212F, "e"), (0x2130, "e"),
  (0x2131, "f"), (0x2133, "m"), (0x2134, "o"), (0x2135, "\u05d0"), (0x2136, "\u05d1"), (0x2137, "\u05d2"),
  (0x2138, "\u05d3"), (0x2139, "i"), (0x213B, "fax"), (0x213C, "\u03c0"), (0x213D, "\u03b3"), (0x213E, "\u03b3"),
  (0x213F, "\u03c0"), (0x2140, "\u2211"), (0x2145, "d"), (0x2146, "d"), (0x2147, "e"), (0x2148, "i"),
  (0x2149, "j"), (0x2160, "i"), (0x2161, "ii"), (0x2162, "iii"), (0x2163, "iv"), (0x2164, "v"),
  (0x2165, "vi"), (0x2166, "vii"), (0x2167, "viii"), (0x2168, "ix"), (0x2169, "x"), (0x216A, "xi"),
  (0x216B, "xii"), (0x216C, "l"), (0x216D, "c"), (0x216E, "d"), (0x216F, "m"), (0x2170, "i"),
  (0x2171, "ii"), (0x2172, "iii"), (0x2173, "iv"), (0x2174, "v"), (0x2175, "vi"), (0x2176, "vii"),
  (0x2177, "viii"), (0x2178, "ix"), (0x2179, "x"), (0x217A, "xi"), (0x217B, "xii"), (0x217C, "l"),
  (0x217D, "c"), (0x217E, "d"), (0x217F, "m"), (0x2460, "1"), (0x2461, "2"), (0x2462, "3"),
  (0x2463, "4"), (0x2464, "5"), (0x2465, "6"), (0x2466, "7"), (0x2467, "8"), (0x2468, "9"),
  (0x2469, "10"), (0x246A, "11"), (0x246B, "12"), (0x246C, "13"), (0x246D, "14"), (0x246E, "15"),
  (0x246F, "16"), (0x2470, "17"), (0x2471, "18"), (0x2472, "19"), (0x2473, "20"), (0x2474, "(1)"),
  (0x2475, "(2)"), (0x2476, "(3)"), (0x2477, "(4)"), (0x2478, "(5)"), (0x2479, "(6)"), (0x247A, "(7)"),
  (0x247B, "(8)"), (0x247C, "(9)"), (0x247D, "(10)"), (0x247E, "(11)"), (0x247F, "(12)"), (0x2480, "(13)"),
  (0x2481, "(14)"), (0x2482, "(15)"), (0x2483, "(16)"), (0x2484, "(17)"), (0x2485, "(18)"), (0x2486, "(19)"),
  (0x2487, "(20)"), (0x2488, "1."), (0x2489, "2."), (0x248A, "3."), (0x248B, "4."), (0x248C, "5."),
  (0x248D, "6."), (0x248E, "7."), (0x248F, "8."), (0x2490, "9."), (0x2491, "10."), (0x2492, "11."),
  (0x2493, "12."), (0x2494, "13."), (0x2495, "14."), (0x2496, "15."), (0x2497, "16."), (0x2498, "17."),
  (0x2499, "18."), (0x249A, "19."), (0x249B, "20."), (0x249C, "(a)"), (0x249D, "(b)"), (0x249E, "(c)"),
  (0x249F, "(d)"), (0x24A0, "(e)"), (0x24A1, "(f)"), (0x24A2, "(g)"), (0x24A3, "(h)"), (0x24A4, "(i)"),
  (0x24A5, "(j)"), (0x24A6, "(k)"), (0x24A7, "(l)"), (0x24A8, "(m)"), (0x24A9, "(n)"), (0x24AA, "(o)"),
  (0x24AB, "(p)"), (0x24AC, "(q)"), (0x24AD, "(r)"), (0x24AE, "(s)"), (0x24AF, "(t)"), (0x24B0, "(u)"),
  (0x24B1, "(v)"), (0x24B2, "(w)"), (0x24B3, "(x)"), (0x24B4, "(y)"), (0x24B5, "(z)"), (0x24B6, "a"),
  (0x24B7, "b"), (0x24B8, "c"), (0x24B9, "d"), (0x24BA, "e"), (0x24BB, "f"), (0x24BC, "g"),
  (0x24BD, "h"), (0x24BE, "i"), (0x24BF, "j"), (0x24C0, "k"), (0x24C1, "l"), (0x24C2, "m"),
  (0x24C3, "n"), (0x24C4, "o"), (0x24C5, "p"), (0x24C6, "q"), (0x24C7, "r"), (0x24C8, "s"),
  (0x24C9, "t"), (0x24CA, "u"), (0x24CB, "v"), (0x24CC, "w"), (0x24CD, "x"), (0x24CE, "y"),
  (0x24CF, "z"), (0x24D0, "a"), (0x24D1, "b"), (0x24D2, "c"), (0x24D3, "d"), (0x24D4, "e"),
  (0x24D5, "f"), (0x24D6, "g"), (0x24D7, "h"), (0x24D8, "i"), (0x24D9, "j"), (0x24DA, "k"),
  (0x24DB, "l"), (0x24DC, "m"), (0x24DD, "n"), (0x24DE, "o"), (0x24DF, "p"), (0x24E0, "q"),
  (0x24E1, "r"), (0x24E2, "s"), (0x24E3, "t"), (0x24E4, "u"), (0x24E5, "v"), (0x24E6, "w"),
  (0x24E7, "x"), (0x24E8, "y"), (0x24E9, "z"), (0x24EA, "0"), (0xFB00, "ff"), (0xFB01, "fi"),
  (0xFB02, "fl"), (0xFB03, "ffi"), (0xFB04, "ffl"), (0xFB05, "st"), (0xFB06, "st")]

/-- Characters that are dropped from names. -/
def isIgnored (c : Char) : Bool :=
  let n := c.toNat
  n == 0xAD || n == 0x34F || n == 0x200B || n == 0x2060 || n == 0x2064 || n == 0xFEFF
    || (0x180B ≤ n && n ≤ 0x180F && n != 0x180E) || (0xFE00 ≤ n && n ≤ 0xFE0F)
    || (0x1D173 ≤ n && n ≤ 0x1D17A) || (0xE0100 ≤ n && n ≤ 0xE01EF)

/-- What a character stands for in a name. -/
def mapped (c : Char) : List Char :=
  let n := c.toNat
  if n < 0x80 then [Text.asciiLower c]
  else if isIgnored c then []
  else if n == 0x3002 || n == 0xFF0E || n == 0xFF61 then ['.']
  else if 0xFF01 ≤ n ∧ n ≤ 0xFF5E then [Text.asciiLower (Char.ofNat (n - 0xFEE0))]
  else match substitutes.find? fun p => p.1 == n with
    | some p => p.2.toList
    | none => [Text.lower c]

/-- Characters that may stand in a label after mapping. -/
def isValid (c : Char) : Bool :=
  if c.toNat < 0x80 then !forbidden c && Text.asciiLower c == c
  else c != '\uFFFD' && (c == '\u200C' || c == '\u200D' || !Text.isUnprintable c)
    && mapped c == [c]

/-- A joiner stands only behind a mark of combining class nine. -/
def joinersFollow : Char → List Char → Bool
  | _, [] => true
  | before, c :: r =>
    (!(c == '\u200C' || c == '\u200D') || Text.markClass before == 9) && joinersFollow c r

/-- Checks a label that goes beyond ASCII. -/
def isValidLabel (label : List Char) : Bool :=
  label.all isValid && joinersFollow ' ' label &&
    match label with
    | [] => true
    | c :: _ => !Text.isCombiningMark c

/-- One label as it is looked up. -/
def label? (label : List Char) : Option (List Char) :=
  if isEncoded label then
    match Punycode.decode? (label.drop 4) with
    | none => none
    | some text =>
      if text.isEmpty || text.all (fun c => c.toNat < 0x80) || Text.composed text != text
          || !isValidLabel text then none
      else some label
  else if label.all fun c => c.toNat < 0x80 then
    if label.any forbidden then none else some label
  else if isValidLabel label then some ("xn--".toList ++ Punycode.encode label)
  else none

/-- The labels as they are looked up, if every one is good. -/
def labels? : List (List Char) → Option (List (List Char))
  | [] => some []
  | l :: ls => do
    let a ← label? l
    let rest ← labels? ls
    pure (a :: rest)

/-- Any name: mapped and composed, then label by label. -/
def general? (s : List Char) : Option (List Char) :=
  (labels? (Text.pieces '.' (Text.composed (s.flatMap mapped)))).map (Text.joined ['.'])

end Failover.Idna
