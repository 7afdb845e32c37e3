import CartoonDemo.Library.PyText

/-!
# CartoonDemo.Library.PyUrl

What programs use of Python's `urllib.parse` and of the `idna` codec, as a structure of functions,
with the exceptions that they raise; and the digits of `str.isdigit`, which `int` does not all
accept.
-/

namespace CartoonDemo

/-- What `urlparse` returns, as far as it is read. -/
structure ParseResult where
  scheme : String
  hostname : Option String
  /-- `result.port`; reading it may raise an exception. -/
  port : Except String (Option ℕ)
  path : String
  query : String

/-- The functions of `urllib.parse`, and two of `str` that depend on tables of Unicode. -/
structure Urllib where
  /-- `urlparse(url)`, or the name of the exception it raises. -/
  urlparse : String → Except String ParseResult
  /-- `parse_qsl(query, keep_blank_values=True)`. -/
  parseQsl : String → List (String × String)
  /-- `urlencode(params, quote_via=quote)`; UTF-8 does not encode every text that Python has. -/
  urlencode : List (String × String) → Except String String
  /-- `urlunparse((scheme, netloc, path, "", query, ""))`. -/
  urlunparse : (scheme netloc path query : String) → String
  /-- `host.encode("idna").decode("ascii")`; `none` is a `UnicodeError`. -/
  idna : String → Option String
  /-- `s.lower()`. -/
  lower : String → String

namespace PyStr

/-- The digits of Unicode 14 that are no decimal digits, such as superscripts. -/
def otherDigitRanges : List (Nat × Nat) :=
  [(0xb2, 0xb3), (0xb9, 0xb9), (0x1369, 0x1371), (0x19da, 0x19da), (0x2070, 0x2070),
   (0x2074, 0x2079), (0x2080, 0x2089), (0x2460, 0x2468), (0x2474, 0x247c), (0x2488, 0x2490),
   (0x24ea, 0x24ea), (0x24f5, 0x24fd), (0x24ff, 0x24ff), (0x2776, 0x277e), (0x2780, 0x2788),
   (0x278a, 0x2792), (0x10a40, 0x10a43), (0x10e60, 0x10e68), (0x11052, 0x1105a),
   (0x1f100, 0x1f10a)]

/-- `str.isdigit` of a character. -/
def isDigitChar (c : Char) : Bool :=
  (PyInt.decimal? c).isSome ||
    otherDigitRanges.any fun range => range.1 ≤ c.toNat && c.toNat ≤ range.2

/-- `s.isdigit()`. -/
def isDigits (s : List Char) : Bool := !s.isEmpty && s.all isDigitChar

end PyStr

end CartoonDemo
