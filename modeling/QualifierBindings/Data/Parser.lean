import QualifierBindings.Data.Basic

/-! Reading the text of a request, which is JSON. What the library reads back from storage is
structured data already.

A record keeps its members in ascending order of their names, and of two members with one name the
later one. Integers of at most 64 bits are kept exactly; all other numbers are read as doubles,
their leading digits first and then scaled by a power of ten.
-/

namespace QualifierBindings.Data

def skipSpace (cs : List Char) : List Char :=
  cs.dropWhile (fun c => c = ' ' || c = '\t' || c = '\n' || c = '\r')

def hexDigit? (c : Char) : Option Nat :=
  if '0' ≤ c ∧ c ≤ '9' then some (c.toNat - '0'.toNat)
  else if 'a' ≤ c ∧ c ≤ 'f' then some (c.toNat - 'a'.toNat + 10)
  else if 'A' ≤ c ∧ c ≤ 'F' then some (c.toNat - 'A'.toNat + 10)
  else none

def hexNumber? (digits : List Char) : Option Nat :=
  digits.foldl (fun number c =>
    number.bind (fun n => (hexDigit? c).map (fun d => n * 16 + d))) (some 0)

/-- The rest of a JSON string after its opening quote, and what follows it. A pair
of surrogate escapes denotes one character; a surrogate on its own is refused. -/
def parseText (read : List Char) : List Char → Option (String × List Char)
  | [] => none
  | '"' :: rest => some (String.ofList read.reverse, rest)
  | '\\' :: 'u' :: a :: b :: c :: d :: rest =>
      match hexNumber? [a, b, c, d] with
      | none => none
      | some unit =>
          -- the second half of a pair cannot come first
          if 0xDC00 ≤ unit && unit ≤ 0xDFFF then none
          else if 0xD800 ≤ unit && unit ≤ 0xDBFF then
            match rest with
            | '\\' :: 'u' :: e :: f :: g :: h :: rest =>
                match hexNumber? [e, f, g, h] with
                | none => none
                | some low =>
                    if 0xDC00 ≤ low && low ≤ 0xDFFF then
                      parseText
                        (Char.ofNat (0x10000 + (unit - 0xD800) * 0x400 + (low - 0xDC00)) :: read)
                        rest
                    else none
            | _ => none
          else parseText (Char.ofNat unit :: read) rest
  | '\\' :: escape :: rest =>
      match escape with
      | '"' => parseText ('"' :: read) rest
      | '\\' => parseText ('\\' :: read) rest
      | '/' => parseText ('/' :: read) rest
      | 'b' => parseText ('\x08' :: read) rest
      | 'f' => parseText ('\x0c' :: read) rest
      | 'n' => parseText ('\n' :: read) rest
      | 'r' => parseText ('\r' :: read) rest
      | 't' => parseText ('\t' :: read) rest
      | _ => none
  | c :: rest => if c.toNat < 0x20 then none else parseText (c :: read) rest

def decimalNumber (digits : List Char) : Nat :=
  digits.foldl (fun n c => n * 10 + (c.toNat - '0'.toNat)) 0

def spanDigits (cs : List Char) : List Char × List Char :=
  (cs.takeWhile Char.isDigit, cs.dropWhile Char.isDigit)

/-- A number continued by as many leading digits as fit into 64 bits, and how many
digits are left over. -/
def leadingDigits (start : Nat) (digits : List Char) : Nat × Nat :=
  digits.foldl (fun state c =>
    if 0 < state.2 then (state.1, state.2 + 1)
    else
      let next := state.1 * 10 + (c.toNat - '0'.toNat)
      if next < Nat.pow 2 64 then (next, 0) else (state.1, 1)) (start, 0)

/-- `digits * 10 ^ exponent` as a double, rounded once for the digits, once for the
power of ten and once for their product or quotient. Too large a number is refused. -/
def scale? (digits : Nat) (exponent : Int) : Option Float :=
  let size := Float.ofNat digits
  if digits = 0 then some 0.0
  else if 0 ≤ exponent then
    if 308 < exponent then none
    else
      let scaled := size * Float.ofScientific 1 false exponent.toNat
      if scaled.isFinite then some scaled else none
  -- two divisions by the largest power take every 64-bit number below all doubles
  else if exponent < -616 then some 0.0
  else if exponent < -308 then
    some (size / 1e308 / Float.ofScientific 1 false (-exponent - 308).toNat)
  else some (size / Float.ofScientific 1 false (-exponent).toNat)

def real? (negative : Bool) (whole fraction : List Char) (exponent : Int) : Option Data :=
  let front := leadingDigits 0 whole
  let read := leadingDigits front.1 fraction
  let places := Int.ofNat fraction.length - Int.ofNat read.2
  (scale? read.1 (exponent + Int.ofNat front.2 - places)).map (fun size =>
    .real (if negative then -size else size))

/-- The exponent of a number, if there is one, and what follows it. -/
def parseExponent? (cs : List Char) : Option (Option Int × List Char) :=
  match cs with
  | e :: rest =>
      if e = 'e' || e = 'E' then
        let signed := match rest with
          | '-' :: rest => (true, rest)
          | '+' :: rest => (false, rest)
          | rest => (false, rest)
        match spanDigits signed.2 with
        | ([], _) => none
        | (digits, rest) =>
            let size := Int.ofNat (decimalNumber digits)
            some (some (if signed.1 then -size else size), rest)
      else some (none, cs)
  | [] => some (none, [])

/-- The fraction of a number, if there is one, and what follows it. -/
def parseFraction? (cs : List Char) : Option (Option (List Char) × List Char) :=
  match cs with
  | '.' :: rest =>
      match spanDigits rest with
      | ([], _) => none
      | (digits, rest) => some (some digits, rest)
  | cs => some (none, cs)

/-- A whole number that fits into 64 bits, with or without a sign, stays exact. -/
def whole? (negative : Bool) (digits : List Char) : Option Data :=
  let size := decimalNumber digits
  if negative then
    if 0 < size && size ≤ Nat.pow 2 63 then some (.integer (-Int.ofNat size))
    else real? true digits [] 0
  else if size < Nat.pow 2 64 then some (.integer size)
  else real? false digits [] 0

/-- A number without its sign, and what follows it. -/
def parseNumber (negative : Bool) (cs : List Char) : Option (Data × List Char) := do
  let (whole, rest) := spanDigits cs
  match whole with
  | [] => none
  -- no further digits after a zero at the front
  | '0' :: _ :: _ => none
  | whole => do
      let (fraction, rest) ← parseFraction? rest
      let (exponent, rest) ← parseExponent? rest
      let value ← match fraction, exponent with
        | none, none => whole? negative whole
        | fraction, exponent => real? negative whole (fraction.getD []) (exponent.getD 0)
      pure (value, rest)

mutual

/-- A value and what follows it, within the given number of steps. -/
def parseValue : Nat → List Char → Option (Data × List Char)
  | 0, _ => none
  | steps + 1, cs =>
      match skipSpace cs with
      | 'n' :: 'u' :: 'l' :: 'l' :: rest => some (.null, rest)
      | 't' :: 'r' :: 'u' :: 'e' :: rest => some (.boolean true, rest)
      | 'f' :: 'a' :: 'l' :: 's' :: 'e' :: rest => some (.boolean false, rest)
      | '"' :: rest => (parseText [] rest).map (fun read => (.text read.1, read.2))
      | '[' :: rest =>
          match skipSpace rest with
          | ']' :: rest => some (.sequence [], rest)
          | rest => parseItems steps [] rest
      | '\x7b' :: rest =>
          match skipSpace rest with
          | '\x7d' :: rest => some (.record [], rest)
          | rest => parseMembers steps [] rest
      | '-' :: rest => parseNumber true rest
      | rest => parseNumber false rest

def parseItems : Nat → List Data → List Char → Option (Data × List Char)
  | 0, _, _ => none
  | steps + 1, read, cs =>
      match parseValue steps cs with
      | none => none
      | some (item, rest) =>
          match skipSpace rest with
          | ',' :: rest => parseItems steps (item :: read) rest
          | ']' :: rest => some (.sequence (item :: read).reverse, rest)
          | _ => none

def parseMembers : Nat → List (String × Data) → List Char → Option (Data × List Char)
  | 0, _, _ => none
  | steps + 1, read, cs =>
      match skipSpace cs with
      | '"' :: rest =>
          match parseText [] rest with
          | none => none
          | some (name, rest) =>
              match skipSpace rest with
              | ':' :: rest =>
                  match parseValue steps rest with
                  | none => none
                  | some (value, rest) =>
                      let read := Entries.insert name value read
                      match skipSpace rest with
                      | ',' :: rest => parseMembers steps read rest
                      | '\x7d' :: rest => some (.record read, rest)
                      | _ => none
              | _ => none
      | _ => none

end

/-- The value that a whole text denotes. Every step of the parser but the first on a
level consumes a character, so twice the length bounds the steps. -/
def parse? (text : String) : Option Data :=
  let cs := text.toList
  match parseValue (2 * cs.length + 2) cs with
  | some (value, rest) => if (skipSpace rest).isEmpty then some value else none
  | none => none

end QualifierBindings.Data
