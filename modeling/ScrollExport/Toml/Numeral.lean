import ScrollExport.Toml.Token
import ScrollExport.Toml.Value

/-!
# TOML numbers

Numbers as words and the marks between them. Digits may be separated by single underscores, decimal
digits do not start with a zero, and whole numbers fit a signed word.
-/

namespace ScrollExport.Toml

open Number

/-! ### Digits -/

def isRadixDigit (radix : Nat) (c : Char) : Bool :=
  (Json.hexValue? c).any (· < radix)

/-- Digits with single underscores between them, and the rest of the word. -/
def scanDigits (radix : Nat) (afterDigit : Bool) : List Char → Option (List Char × List Char)
  | [] => if afterDigit then some ([], []) else none
  | c :: cs =>
    if isRadixDigit radix c then (scanDigits radix true cs).map fun (ds, rest) => (c :: ds, rest)
    else if c = '_' && afterDigit then scanDigits radix false cs
    else if afterDigit then some ([], c :: cs)
    else none

def hasLeadingZero : List Char → Bool
  | '0' :: _ :: _ => true
  | _ => false

/-- A sign, if one is allowed, then digits, and the rest of the word. -/
def scanSigned (signAllowed zerosAllowed : Bool) (cs : List Char) :
    Option (Bool × List Char × List Char) :=
  let (negative, body) :=
    if signAllowed then splitSign cs else (false, cs)
  (scanDigits 10 false body).bind fun (ds, rest) =>
    if !zerosAllowed && hasLeadingZero ds then none else some (negative, ds, rest)

/-! ### Whole numbers -/

def signedValue (negative : Bool) (n : Nat) : Int :=
  if negative then -(n : Int) else n

def wordInt? (negative : Bool) (n : Nat) : Option Value :=
  let i := signedValue negative n
  if fitsSigned i then some (.int i) else none

/-- A whole number in another radix, after its mark. -/
def radixInt? (radix : Nat) (cs : List Char) : Option Value :=
  match scanDigits radix false cs with
  | some (ds, []) =>
    (ds.foldlM (fun n c => (Json.hexValue? c).map (radix * n + ·)) 0).bind (wordInt? false)
  | _ => none

def decimalInt? (cs : List Char) : Option Value :=
  match scanSigned true false cs with
  | some (negative, ds, []) => wordInt? negative (ofDigits ds)
  | _ => none

/-! ### Binary numbers -/

/-- The exponent in the rest of a word, or after it, and the tokens that are left. -/
def scanExponent (suffix : List Char) (ts : List Token) : Option (Int × List Token) :=
  match suffix with
  | [] => some (0, ts)
  | c :: cs =>
    if c ≠ 'e' ∧ c ≠ 'E' then none
    else
      let read (signAllowed : Bool) (cs : List Char) (ts : List Token) :
          Option (Int × List Token) :=
        match scanSigned signAllowed true cs with
        | some (negative, ds, []) => some (signedValue negative (ofDigits ds), ts)
        | _ => none
      if cs ≠ [] then read true cs ts
      else
        let ts := if ts.head? = some (.mark '+') then ts.tail else ts
        match ts with
        | .word w :: ts => read false w ts
        | _ => none

def finite? : Binary64 → Option Value
  | .finite s m e => some (.float (.finite s m e))
  | _ => none

/-- A number with an exponent, a fraction or both. -/
def scanFloat (whole : List Char) (fraction : Option (List Char)) (ts : List Token) :
    Option (Value × List Token) :=
  (scanSigned true false whole).bind fun (negative, ds, suffix) =>
    let parts : Option (List Char × List Char) := match fraction with
      | none => some ([], suffix)
      | some f =>
        if suffix ≠ [] then none
        else (scanSigned false true f).map fun (_, fs, suffix) => (fs, suffix)
    parts.bind fun (fs, suffix) =>
      (scanExponent suffix ts).bind fun (e, ts) =>
        (finite? (Binary64.ofDecimal negative (ofDigits (ds ++ fs)) (e - fs.length))).map
          fun v => (v, ts)

/-- The words for infinities and for the value that is no number. -/
def namedFloat? (cs : List Char) : Option Value :=
  if cs = "inf".toList then some (.float (.infinite false))
  else if cs = "-inf".toList then some (.float (.infinite true))
  else if cs = "nan".toList ∨ cs = "-nan".toList then some (.float .nan)
  else none

/-- The number that starts with a word. -/
def scanNumber (w : List Char) (ts : List Token) : Option (Value × List Token) :=
  match w with
  | '0' :: 'x' :: ds => (radixInt? 16 ds).map (·, ts)
  | '0' :: 'o' :: ds => (radixInt? 8 ds).map (·, ts)
  | '0' :: 'b' :: ds => (radixInt? 2 ds).map (·, ts)
  | w =>
    if w.contains 'e' || w.contains 'E' then scanFloat w none ts
    else
      match ts with
      | .mark '.' :: .word f :: ts => scanFloat w (some f) ts
      | .mark '.' :: _ => none
      | ts =>
        match namedFloat? w with
        | some v => some (v, ts)
        | none => (decimalInt? w).map (·, ts)

end ScrollExport.Toml
