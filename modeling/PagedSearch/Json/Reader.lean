import PagedSearch.Json.Node

/-!
# Reading JSON texts

A reader of the JSON grammar. It builds the syntax of a text and gives the
text behind it; `Node.read?` asks for a whole text. Readers of strings give
the code of each character and of each `\u` escape, and `joinPairs?` joins the
halves of surrogate pairs afterwards.

The readers that call each other spend fuel with every call. Between two calls
at least every second one takes a character, so twice the length of the text is
enough.
-/
namespace PagedSearch

namespace Node

/-- The text behind the blanks of the JSON grammar. -/
def skipSpace (s : List Char) : List Char :=
  s.dropWhile fun c => c = ' ' || c = '\n' || c = '\t' || c = '\r'

/-- The value of a hexadecimal digit of either case. -/
def hexValue? (c : Char) : Option Nat :=
  if c.isDigit then some (c.toNat - 48)
  else if 'a' ≤ c ∧ c ≤ 'f' then some (c.toNat - 87)
  else if 'A' ≤ c ∧ c ≤ 'F' then some (c.toNat - 55)
  else none

/-- The code that four hexadecimal digits spell. -/
def hexCode? (a b c d : Char) : Option Nat := do
  return (((← hexValue? a) * 16 + (← hexValue? b)) * 16 + (← hexValue? c)) * 16 + (← hexValue? d)

/-- The code of the character that stands behind a backslash. -/
def escapeCode? (c : Char) : Option Nat :=
  if c = '"' ∨ c = '\\' ∨ c = '/' then some c.toNat
  else if c = 'n' then some 10
  else if c = 'r' then some 13
  else if c = 't' then some 9
  else if c = 'b' then some 8
  else if c = 'f' then some 12
  else none

/-- The codes of a string up to its closing quote. Control characters must be escaped. -/
def takeCodes? : List Char → Option (List Nat × List Char)
  | [] => none
  | '"' :: rest => some ([], rest)
  | '\\' :: 'u' :: a :: b :: c :: d :: rest => do
    let code ← hexCode? a b c d
    let (codes, rest) ← takeCodes? rest
    return (code :: codes, rest)
  | '\\' :: c :: rest => do
    let code ← escapeCode? c
    let (codes, rest) ← takeCodes? rest
    return (code :: codes, rest)
  | c :: rest =>
    if c.toNat < 32 ∨ c = '\\' then none
    else do
      let (codes, rest) ← takeCodes? rest
      return (c.toNat :: codes, rest)

def isHighHalf (code : Nat) : Bool :=
  0xD800 ≤ code && code < 0xDC00

def isLowHalf (code : Nat) : Bool :=
  0xDC00 ≤ code && code < 0xE000

/-- The characters of a list of codes, none if half of a surrogate pair stands alone. -/
def joinPairs? : List Nat → Option (List Char)
  | [] => some []
  | [code] => if isHighHalf code || isLowHalf code then none else some [Char.ofNat code]
  | code :: next :: rest =>
    if isHighHalf code then
      if isLowHalf next then
        (joinPairs? rest).map (Char.ofNat (0x10000 + (code - 0xD800) * 0x400 + (next - 0xDC00)) :: ·)
      else none
    else if isLowHalf code then none
    else (joinPairs? (next :: rest)).map (Char.ofNat code :: ·)

/-- The string up to its closing quote. -/
def takeString? (s : List Char) : Option (Option String × List Char) := do
  let (codes, rest) ← takeCodes? s
  return ((joinPairs? codes).map String.ofList, rest)

/-- The whole part of a numeral: zero alone, or digits that begin with another one. -/
def takeWholePart? (s : List Char) : Option (List Char × List Char) :=
  match s with
  | '0' :: rest => some (['0'], rest)
  | _ =>
    let (digits, rest) := Text.takeDigits s
    if digits = [] then none else some (digits, rest)

/-- The fraction of a numeral, if a point begins one. -/
def takeFractionPart? : List Char → Option (Option (List Char) × List Char)
  | '.' :: rest =>
    let (digits, rest) := Text.takeDigits rest
    if digits = [] then none else some (some digits, rest)
  | rest => some (none, rest)

/-- A sign before an exponent, true for minus. -/
def takeExponentSign : List Char → Bool × List Char
  | '+' :: rest => (false, rest)
  | '-' :: rest => (true, rest)
  | rest => (false, rest)

/-- The exponent of a numeral, if a letter begins one. -/
def takeExponentPart? : List Char → Option (Option Int × List Char)
  | [] => some (none, [])
  | c :: rest =>
    if c = 'e' ∨ c = 'E' then
      let (negative, rest) := takeExponentSign rest
      let (digits, rest) := Text.takeDigits rest
      let size : Int := Text.digitsValue digits
      if digits = [] then none else some (some (if negative then -size else size), rest)
    else some (none, c :: rest)

/-- A minus sign before a numeral. -/
def takeMinus : List Char → Bool × List Char
  | '-' :: rest => (true, rest)
  | rest => (false, rest)

/-- The numeral at the front of a text. -/
def takeNumeral? (s : List Char) : Option (Numeral × List Char) := do
  let (negative, s) := takeMinus s
  let (whole, s) ← takeWholePart? s
  let (fraction, s) ← takeFractionPart? s
  let (exponent, s) ← takeExponentPart? s
  return (⟨negative, whole, fraction, exponent⟩, s)

/-- A null, a truth value or a number at the front of a text. -/
def takeScalar? : List Char → Option (Node × List Char)
  | 'n' :: 'u' :: 'l' :: 'l' :: rest => some (null, rest)
  | 't' :: 'r' :: 'u' :: 'e' :: rest => some (bool true, rest)
  | 'f' :: 'a' :: 'l' :: 's' :: 'e' :: rest => some (bool false, rest)
  | s => (takeNumeral? s).map fun (numeral, rest) => (number numeral.value?, rest)

mutual

/-- The node at the front of a text, spaces before it left out. -/
def take? : Nat → List Char → Option (Node × List Char)
  | 0, _ => none
  | fuel + 1, s =>
    match skipSpace s with
    | '"' :: rest => (takeString? rest).map fun (s, rest) => (text s, rest)
    | '[' :: rest =>
      match skipSpace rest with
      | ']' :: rest => some (array [], rest)
      | _ => (takeItems? fuel rest).map fun (items, rest) => (array items, rest)
    | '\x7b' :: rest =>
      match skipSpace rest with
      | '\x7d' :: rest => some (object [], rest)
      | _ => (takeMembers? fuel rest).map fun (members, rest) => (object members, rest)
    | s => takeScalar? s

/-- The items of an array up to its closing bracket; there is at least one. -/
def takeItems? : Nat → List Char → Option (List Node × List Char)
  | 0, _ => none
  | fuel + 1, s => do
    let (item, rest) ← take? fuel s
    match skipSpace rest with
    | ',' :: rest =>
      let (items, rest) ← takeItems? fuel rest
      return (item :: items, rest)
    | ']' :: rest => return ([item], rest)
    | _ => none

/-- The members of an object up to its closing brace; there is at least one. -/
def takeMembers? : Nat → List Char → Option (List (Option String × Node) × List Char)
  | 0, _ => none
  | fuel + 1, s =>
    match skipSpace s with
    | '"' :: rest => do
      let (name, rest) ← takeString? rest
      match skipSpace rest with
      | ':' :: rest =>
        let (value, rest) ← take? fuel rest
        match skipSpace rest with
        | ',' :: rest =>
          let (members, rest) ← takeMembers? fuel rest
          return ((name, value) :: members, rest)
        | '\x7d' :: rest => return ([(name, value)], rest)
        | _ => none
      | _ => none
    | _ => none

end

/-- The syntax of a whole text. -/
def read? (s : List Char) : Option Node := do
  let (node, rest) ← take? (2 * s.length + 1) s
  if skipSpace rest = [] then some node else none

end Node

/-- How deep arrays and objects may be nested in a text that is read as a value. -/
def nestingLimit : Nat := 127

/-- The value that a text spells. -/
def Json.read? (s : String) : Option Json := do
  let node ← Node.read? s.toList
  if node.depth ≤ nestingLimit then node.value? else none

end PagedSearch
