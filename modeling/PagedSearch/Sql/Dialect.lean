import PagedSearch.Value
import PagedSearch.Text.Digits

/-!
# SQL dialects

What differs between the three databases: the quote around names, the form of
placeholders, and how text is written as a literal.
-/
namespace PagedSearch

namespace Sql

/-- The databases that statements are written for. -/
inductive Dialect where
  | sqlite | mysql | postgres
  deriving DecidableEq, Repr

/-- A value bound to a statement. -/
inductive Param where
  | text (s : String)
  | number (x : Binary64)
  | date (d : Date)
  | instant (t : Instant)
  | count (n : UInt64)
  deriving DecidableEq, Repr

namespace Param

/-- The parameter of a filter value. -/
def ofValue : Value → Param
  | .text s => text s
  | .number x => number x
  | .date d => date d
  | .instant t => instant t

end Param

namespace Dialect

/-- The quote around names. -/
def nameQuote : Dialect → Char
  | mysql => '\x60'
  | _ => '"'

/-- A name in quotes, a quote inside it doubled. -/
def name (dialect : Dialect) (s : String) : List Char :=
  let quote := dialect.nameQuote
  quote :: (s.toList.flatMap (fun c => if c = quote then [quote, quote] else [c]) ++ [quote])

/-- The placeholder of the parameter with the given number, counted from one. -/
def placeholder (dialect : Dialect) (number : Nat) : List Char :=
  match dialect with
  | postgres => '$' :: Text.decimal number
  | _ => ['?']

/-- A character inside a text literal with backslash escapes. -/
def backslashed (c : Char) : List Char :=
  if c = '\\' ∨ c = '"' ∨ c = '\'' then ['\\', c]
  else if c = '\x00' then ['\\', '0']
  else if c = '\x08' then ['\\', 'b']
  else if c = '\t' then ['\\', 't']
  else if c = '\x1a' then ['\\', 'z']
  else if c = '\n' then ['\\', 'n']
  else if c = '\r' then ['\\', 'r']
  else [c]

/-- A text in single quotes. -/
def singleQuoted (s : List Char) : List Char :=
  '\'' :: (s ++ ['\''])

/-- A text literal. SQLite doubles quotes; the others escape with backslashes, which
Postgres announces with a letter. -/
def textLiteral (dialect : Dialect) (s : List Char) : List Char :=
  match dialect with
  | sqlite => singleQuoted (s.flatMap fun c => if c = '\'' then ['\'', '\''] else [c])
  | mysql => singleQuoted (s.flatMap backslashed)
  | postgres =>
    let escaped := s.flatMap backslashed
    if escaped.contains '\\' then 'E' :: singleQuoted escaped else singleQuoted escaped

/-- A parameter as a literal. -/
def literal (dialect : Dialect) : Param → List Char
  | .text s => dialect.textLiteral s.toList
  | .number x => x.plain
  | .date d => singleQuoted d.text
  | .instant t => singleQuoted t.sql
  | .count n => Text.decimal n.toNat

end Dialect

end Sql

end PagedSearch
