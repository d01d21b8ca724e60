import ScrollExport.Json.Token
import ScrollExport.Text.Blank

/-!
# TOML tokens

A document as words, strings and marks. A character that starts no token, or a string that does
not end, is a token of its own, which no rule accepts.
-/

namespace ScrollExport.Toml

inductive Token where
  | gap (blanks : List Char)
  | newline
  | comment
  | mark (c : Char)
  | word (cs : List Char)
  | text (cs : List Char) (multiline : Bool)
  | bad
deriving DecidableEq, Repr

/-- Line ends of two characters become one. -/
def foldLineEnds : List Char → List Char
  | '\r' :: '\n' :: rest => '\n' :: foldLineEnds rest
  | c :: rest => c :: foldLineEnds rest
  | [] => []

/-! ### Classes of characters -/

def isWordChar (c : Char) : Bool :=
  c.isAlphanum || c = '-' || c = '_'

def isBlank (c : Char) : Bool :=
  c = ' ' || c = '\t'

def isMark (c : Char) : Bool :=
  "=.,:+[]".toList.contains c || c = '\x7b' || c = '\x7d'

def isCommentChar (c : Char) : Bool :=
  c = '\t' || 0x20 ≤ c.toNat

/-- A character that may stand in a string as it is. -/
def isTextChar (c : Char) : Bool :=
  c = '\t' || (0x20 ≤ c.toNat && c.toNat ≠ 0x7F)

/-! ### Strings -/

/-- Up to two more quotes that belong to a string of several lines. -/
def extraQuotes (quote : Char) : List Char → List Char × List Char
  | a :: b :: rest =>
    if a = quote then if b = quote then ([a, b], rest) else ([a], b :: rest)
    else ([], a :: b :: rest)
  | [a] => if a = quote then ([a], []) else ([], [a])
  | [] => ([], [])

/-- Whether a text starts with two quotes. -/
def startsWithTwo (quote : Char) : List Char → Bool
  | a :: b :: _ => a = quote && b = quote
  | _ => false

/-- The end of a string after a quote in it: what it adds to the string and what follows. -/
def closing? (quote : Char) (multiline : Bool) (rest : List Char) :
    Option (List Char × List Char) :=
  if !multiline then some ([], rest)
  else if startsWithTwo quote rest then some (extraQuotes quote (rest.drop 2))
  else none

/-- The rest of a string without escapes. -/
def scanLiteral (multiline : Bool) : List Char → Option (List Char × List Char)
  | [] => none
  | c :: rest =>
    if c = '\'' then
      match closing? '\'' multiline rest with
      | some closed => some closed
      | none => (scanLiteral multiline rest).map fun (cs, rest) => (c :: cs, rest)
    else if (multiline && c = '\n') || isTextChar c then
      (scanLiteral multiline rest).map fun (cs, rest) => (c :: cs, rest)
    else none

/-- The character that a backslash before `c` stands for. -/
def escaped? (c : Char) : Option Char :=
  match c with
  | '"' => some '"'
  | '\\' => some '\\'
  | 'b' => some '\x08'
  | 'f' => some '\x0c'
  | 'n' => some '\n'
  | 'r' => some '\r'
  | 't' => some '\t'
  | _ => none

/-- The character with a hexadecimal number. -/
def numbered? (digits : List Char) : Option Char :=
  (Json.hexNumber? digits).bind fun n =>
    if n < 0xD800 ∨ (0xDFFF < n ∧ n < 0x110000) then some (Char.ofNat n) else none

/-- Where a string is: in its text, or after a backslash at the end of a line. -/
inductive TextState where
  | inText
  | beforeBreak
  | afterBreak
deriving DecidableEq, Repr

/-- The rest of a string with escapes. -/
def scanEscaped (multiline : Bool) (state : TextState) :
    List Char → Option (List Char × List Char)
  | [] => none
  | c :: rest =>
    if state = .beforeBreak then
      if isBlank c then scanEscaped multiline .beforeBreak rest
      else if c = '\n' then scanEscaped multiline .afterBreak rest
      else none
    else if state = .afterBreak && (isBlank c || c = '\n') then
      scanEscaped multiline .afterBreak rest
    else if c = '"' then
      match closing? '"' multiline rest with
      | some closed => some closed
      | none => (scanEscaped multiline .inText rest).map fun (cs, rest) => (c :: cs, rest)
    else if c = '\\' then
      match rest with
      | 'u' :: a :: b :: d :: e :: rest =>
        (numbered? [a, b, d, e]).bind fun c =>
          (scanEscaped multiline .inText rest).map fun (cs, rest) => (c :: cs, rest)
      | 'U' :: a :: b :: d :: e :: f :: g :: h :: i :: rest =>
        (numbered? [a, b, d, e, f, g, h, i]).bind fun c =>
          (scanEscaped multiline .inText rest).map fun (cs, rest) => (c :: cs, rest)
      | c :: rest =>
        if multiline && c = '\n' then scanEscaped multiline .afterBreak rest
        else if multiline && isBlank c then scanEscaped multiline .beforeBreak rest
        else
          (escaped? c).bind fun c =>
            (scanEscaped multiline .inText rest).map fun (cs, rest) => (c :: cs, rest)
      | [] => none
    else if (multiline && c = '\n') || isTextChar c then
      (scanEscaped multiline .inText rest).map fun (cs, rest) => (c :: cs, rest)
    else none

/-- A line break right after the opening of a string of several lines is no part of it. -/
def dropFirstBreak : List Char → List Char
  | '\n' :: rest => rest
  | rest => rest

/-- A string after its first quote. -/
def scanString (quote : Char) (rest : List Char) : Option (Token × List Char) :=
  let body (multiline : Bool) (cs : List Char) : Option (List Char × List Char) :=
    if quote = '"' then scanEscaped multiline .inText cs else scanLiteral multiline cs
  if startsWithTwo quote rest then
    (body true (dropFirstBreak (rest.drop 2))).map fun (cs, rest) => (.text cs true, rest)
  else (body false rest).map fun (cs, rest) => (.text cs false, rest)

/-! ### Documents -/

/-- The first token of a text that is not empty. -/
def nextToken (c : Char) (rest : List Char) : Token × List Char :=
  if c = '\n' then (.newline, rest)
  else if isBlank c then (.gap (c :: rest.takeWhile isBlank), rest.dropWhile isBlank)
  else if c = '#' then (.comment, rest.dropWhile isCommentChar)
  else if isMark c then (.mark c, rest)
  else if isWordChar c then (.word (c :: rest.takeWhile isWordChar), rest.dropWhile isWordChar)
  else if c = '"' ∨ c = '\'' then (scanString c rest).getD (.bad, rest)
  else (.bad, rest)

/-- At most `n` tokens of a text. -/
def tokensUpTo : Nat → List Char → List Token
  | 0, _ => []
  | _, [] => []
  | n + 1, c :: rest =>
    let (t, rest) := nextToken c rest
    t :: tokensUpTo n rest

/-- The tokens of a document, without a byte order mark before them. -/
def tokens (cs : List Char) : List Token :=
  let cs := if cs.head? = some '\uFEFF' then cs.tail else cs
  tokensUpTo cs.length (foldLineEnds cs)

end ScrollExport.Toml
