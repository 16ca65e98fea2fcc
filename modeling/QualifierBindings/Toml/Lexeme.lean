import QualifierBindings.Data.Parser
import QualifierBindings.Toml.Value

/-! The smallest parts of a TOML document: blank space and comments, keys, strings,
numbers, dates and times. Every reader takes characters from the front and answers
what follows, or nothing if the text is malformed.
-/

namespace QualifierBindings.Toml

def isSpace (c : Char) : Bool :=
  c = ' ' || c = '\t'

def skipSpace (cs : List Char) : List Char :=
  cs.dropWhile isSpace

/-- The characters that a comment may hold. -/
def isCommentChar (c : Char) : Bool :=
  c = '\t' || (0x20 ≤ c.toNat && c.toNat ≠ 0x7F)

/-- What follows blanks, line ends and comments, beginning inside a comment or not. -/
def skipGap (inComment : Bool) : List Char → Option (List Char)
  | [] => some []
  | '\n' :: rest => skipGap false rest
  | '\r' :: '\n' :: rest => skipGap false rest
  | c :: rest =>
      if inComment then if isCommentChar c then skipGap true rest else none
      else if isSpace c then skipGap false rest
      else if c = '#' then skipGap true rest
      else some (c :: rest)

/-- What follows the end of a line, before which only a comment may stand. -/
def endLine (cs : List Char) : Option (List Char) :=
  match skipSpace cs with
  | [] => some []
  | '\n' :: rest => some rest
  | '\r' :: '\n' :: rest => some rest
  | '#' :: rest => skipGap true rest
  | _ => none

/-- The characters of keys without quotes. -/
def isBareKeyChar (c : Char) : Bool :=
  c.isAlphanum || c = '_' || c = '-'

/-- The character that an escape of hexadecimal digits denotes. -/
def scalar? (digits : List Char) : Option Char :=
  (Data.hexNumber? digits).bind (fun n =>
    if n < 0xD800 ∨ (0xDFFF < n ∧ n < 0x110000) then some (Char.ofNat n) else none)

def shortEscape? : Char → Option Char
  | 'b' => some '\x08'
  | 't' => some '\t'
  | 'n' => some '\n'
  | 'f' => some '\x0c'
  | 'r' => some '\r'
  | '"' => some '"'
  | '\\' => some '\\'
  | _ => none

/-- The characters that strings hold as they are, apart from quotes and escapes. -/
def isTextChar (c : Char) : Bool :=
  c = '\t' || (0x20 ≤ c.toNat && c.toNat ≠ 0x7F)

def endsLine (cs : List Char) : Bool :=
  match skipSpace cs with
  | '\n' :: _ => true
  | _ => false

/-- The characters that the inside of a string between double quotes denotes. In a
string of several lines, a backslash at the end of a line takes with it all blanks
and line ends that follow; `skipping` says that the reading stands among those. -/
def unescape (lines : Bool) (skipping : Bool) : List Char → Option (List Char)
  | [] => some []
  | '\\' :: 'u' :: a :: b :: c :: d :: rest =>
      match scalar? [a, b, c, d] with
      | some char => (unescape lines false rest).map (char :: ·)
      | none => none
  | '\\' :: 'U' :: a :: b :: c :: d :: e :: f :: g :: h :: rest =>
      match scalar? [a, b, c, d, e, f, g, h] with
      | some char => (unescape lines false rest).map (char :: ·)
      | none => none
  | '\\' :: escape :: rest =>
      match shortEscape? escape with
      | some char => (unescape lines false rest).map (char :: ·)
      | none =>
          if lines && endsLine (escape :: rest) then unescape lines true (escape :: rest)
          else none
  | c :: rest =>
      if skipping && (isSpace c || c = '\n') then unescape lines true rest
      else if (isTextChar c && c ≠ '\\') || (lines && c = '\n') then
        (unescape lines false rest).map (c :: ·)
      else none

/-- The inside of a string between single quotes, which knows no escapes. -/
def literal (lines : Bool) (cs : List Char) : Option (List Char) :=
  if cs.all (fun c => isTextChar c || (lines && c = '\n')) then some cs else none

/-- Line ends of one kind. -/
def unifyLines : List Char → List Char
  | [] => []
  | '\r' :: '\n' :: rest => '\n' :: unifyLines rest
  | c :: rest => c :: unifyLines rest

/-- The inside of a string up to its closing quote, and what follows. A character
after a backslash never closes a string that knows escapes. -/
def cutLine (quote : Char) (escapes : Bool) : List Char → Option (List Char × List Char)
  | [] => none
  | [c] => if c = quote then some ([], []) else none
  | c :: d :: rest =>
      if c = quote then some ([], d :: rest)
      else if escapes && c = '\\' then
        (cutLine quote escapes rest).map (fun cut => (c :: d :: cut.1, cut.2))
      else (cutLine quote escapes (d :: rest)).map (fun cut => (c :: cut.1, cut.2))

/-- The inside of a string up to its three closing quotes, and what follows. Up to two
more quotes just before the closing ones belong to the string. -/
def cutLines (quote : Char) (escapes : Bool) : List Char → Option (List Char × List Char)
  | [] => none
  | [_] => none
  | c :: d :: rest =>
      let run := ((c :: d :: rest).takeWhile (fun c => c = quote)).length
      if 3 ≤ run then
        -- a longer run closes after five: two inside the string and three that end it
        let inside := min run 5 - 3
        some (List.replicate inside quote, (c :: d :: rest).drop (inside + 3))
      else if escapes && c = '\\' then
        (cutLines quote escapes rest).map (fun cut => (c :: d :: cut.1, cut.2))
      else (cutLines quote escapes (d :: rest)).map (fun cut => (c :: cut.1, cut.2))

/-- The rest of a string of several lines, without a line end just after its opening
quotes. -/
def linesText? (quote : Char) (escapes : Bool) (cs : List Char) : Option (String × List Char) := do
  let body := match cs with
    | '\n' :: rest => rest
    | '\r' :: '\n' :: rest => rest
    | cs => cs
  let (inside, rest) ← cutLines quote escapes body
  let inside := unifyLines inside
  let chars ← if escapes then unescape true false inside else literal true inside
  pure (String.ofList chars, rest)

def lineText? (quote : Char) (escapes : Bool) (cs : List Char) : Option (String × List Char) := do
  let (inside, rest) ← cutLine quote escapes cs
  let chars ← if escapes then unescape false false inside else literal false inside
  pure (String.ofList chars, rest)

def text? (cs : List Char) : Option (String × List Char) :=
  match cs with
  | '"' :: '"' :: '"' :: rest => linesText? '"' true rest
  | '\'' :: '\'' :: '\'' :: rest => linesText? '\'' false rest
  | '"' :: rest => lineText? '"' true rest
  | '\'' :: rest => lineText? '\'' false rest
  | _ => none

def simpleKey? (cs : List Char) : Option (String × List Char) :=
  match cs with
  | '"' :: rest => lineText? '"' true rest
  | '\'' :: rest => lineText? '\'' false rest
  | cs =>
      let key := cs.takeWhile isBareKeyChar
      if key.isEmpty then none else some (String.ofList key, cs.dropWhile isBareKeyChar)

/-- The greatest number of parts of a dotted key. -/
def keyLimit : Nat := 79

/-- A dotted key: the parts before the last one, the last one, and what follows. Blanks
may stand around every part. -/
def key? : Nat → List Char → Option (List String × String × List Char)
  | 0, _ => none
  | parts + 1, cs =>
      match simpleKey? (skipSpace cs) with
      | none => none
      | some (part, rest) =>
          match skipSpace rest with
          | '.' :: rest => (key? parts rest).map (fun key => (part :: key.1, key.2))
          | rest => some ([], part, rest)

/-- A number of exactly two digits within bounds. -/
def twoDigits? (low high : Nat) (cs : List Char) : Option (Nat × List Char) :=
  match cs with
  | a :: b :: rest =>
      let value := Data.decimalNumber [a, b]
      if a.isDigit && b.isDigit && low ≤ value && value ≤ high then some (value, rest) else none
  | _ => none

def daysIn (year month : Nat) : Nat :=
  if month = 2 then
    if year % 4 = 0 && (year % 100 ≠ 0 || year % 400 = 0) then 29 else 28
  else if month = 4 || month = 6 || month = 9 || month = 11 then 30
  else 31

def date? (cs : List Char) : Option (List Char) :=
  match cs with
  | a :: b :: c :: d :: '-' :: rest => do
      let (month, rest) ← twoDigits? 1 12 rest
      match rest with
      | '-' :: rest => do
          let (_, rest) ← twoDigits? 1 (daysIn (Data.decimalNumber [a, b, c, d]) month) rest
          pure rest
      | _ => none
  | _ => none

def time? (cs : List Char) : Option (List Char) := do
  let (_, rest) ← twoDigits? 0 23 cs
  match rest with
  | ':' :: rest => do
      let (_, rest) ← twoDigits? 0 59 rest
      match rest with
      | ':' :: rest => do
          let (_, rest) ← twoDigits? 0 60 rest
          match rest with
          | '.' :: fraction =>
              match Data.spanDigits fraction with
              -- a point without digits does not belong to the time
              | ([], _) => pure rest
              | (_, rest) => pure rest
          | rest => pure rest
      | _ => none
  | _ => none

/-- What follows the offset of a time from universal time, if one is given. -/
def offset? (cs : List Char) : Option (List Char) :=
  match cs with
  | [] => some []
  | sign :: rest =>
      if sign = 'Z' || sign = 'z' then some rest
      else if sign = '+' || sign = '-' then do
        let (_, rest) ← twoDigits? 0 23 rest
        match rest with
        | ':' :: rest => do
            let (_, rest) ← twoDigits? 0 59 rest
            pure rest
        | _ => none
      else some (sign :: rest)

def beginsTime (cs : List Char) : Bool :=
  match twoDigits? 0 23 cs with
  | some (_, ':' :: _) => true
  | _ => false

def beginsDate (cs : List Char) : Bool :=
  match cs with
  | a :: b :: c :: d :: '-' :: _ => a.isDigit && b.isDigit && c.isDigit && d.isDigit
  | _ => false

/-- What follows a date, a time, or both. A time belongs to the date before it if a `T`
or one blank stands between them. -/
def moment? (cs : List Char) : Option (List Char) :=
  if beginsDate cs then do
    let rest ← date? cs
    match rest with
    | delimiter :: time =>
        if (delimiter = 'T' || delimiter = 't' || delimiter = ' ') && beginsTime time then do
          let rest ← time? time
          offset? rest
        else pure rest
    | [] => pure []
  else time? cs

/-- The digits after a first one, with single underscores between them, and what
follows. -/
def furtherDigits (isDigit : Char → Bool) : List Char → List Char × List Char
  | [] => ([], [])
  | [c] => if isDigit c then ([c], []) else ([], [c])
  | c :: d :: rest =>
      if isDigit c then
        let run := furtherDigits isDigit (d :: rest)
        (c :: run.1, run.2)
      else if c = '_' && isDigit d then
        let run := furtherDigits isDigit rest
        (d :: run.1, run.2)
      else ([], c :: d :: rest)

/-- The digits at the front, with single underscores between them, and what follows. -/
def digitRun (isDigit : Char → Bool) (cs : List Char) : List Char × List Char :=
  match cs with
  | [] => ([], [])
  | c :: rest =>
      if isDigit c then
        let run := furtherDigits isDigit rest
        (c :: run.1, run.2)
      else ([], c :: rest)

/-- The digits of a decimal integer, which begin with zero only if there are no more. -/
def wholeDigits (cs : List Char) : List Char × List Char :=
  match cs with
  | '0' :: rest => (['0'], rest)
  | cs => digitRun Char.isDigit cs

/-- An integer of 64 bits. -/
def integer? (value : Int) : Option Value :=
  if -Int.ofNat (Nat.pow 2 63) ≤ value ∧ value < Int.ofNat (Nat.pow 2 63) then
    some (.integer value)
  else none

/-- The number of digits that certainly decide the value of a real number. -/
def realLimit : Int := 400

/-- A real number from its sign, digits and exponent. One that is too large is refused
if it is positive. -/
def real? (negative : Bool) (whole fraction : List Char) (exponent : Int) : Option Value :=
  let digits := Data.decimalNumber (whole ++ fraction)
  let scale := exponent - Int.ofNat fraction.length
  let size : Int := Int.ofNat (Nat.toDigits 10 digits).length + scale
  let value :=
    -- outside of these bounds the value is zero or infinite whatever the digits are
    if digits = 0 || size < -realLimit then 0.0
    else if realLimit < size then 1.0 / 0.0
    else if 0 ≤ scale then Float.ofScientific (digits * Nat.pow 10 scale.toNat) false 0
    else Float.ofScientific digits true (-scale).toNat
  if negative then some (.real (-value))
  else if value.isFinite then some (.real value)
  else none

/-- The exponent of a real number, if there is one, and what follows. -/
def exponent? (cs : List Char) : Option (Option Int × List Char) :=
  match cs with
  | e :: rest =>
      if e = 'e' || e = 'E' then
        let signed := match rest with
          | '-' :: rest => (true, rest)
          | '+' :: rest => (false, rest)
          | rest => (false, rest)
        match digitRun Char.isDigit signed.2 with
        | ([], _) => none
        | (digits, rest) =>
            let size := Int.ofNat (Data.decimalNumber digits)
            some (some (if signed.1 then -size else size), rest)
      else some (none, cs)
  | [] => some (none, [])

/-- The fraction of a real number, if there is one, and what follows. -/
def fraction? (cs : List Char) : Option (Option (List Char) × List Char) :=
  match cs with
  | '.' :: rest =>
      match digitRun Char.isDigit rest with
      | ([], _) => none
      | (digits, rest) => some (some digits, rest)
  | cs => some (none, cs)

/-- A decimal number without its sign. -/
def decimal? (negative : Bool) (cs : List Char) : Option (Value × List Char) :=
  match cs with
  | 'i' :: 'n' :: 'f' :: rest =>
      some (.real (if negative then -(1.0 / 0.0) else 1.0 / 0.0), rest)
  | 'n' :: 'a' :: 'n' :: rest => some (.real (0.0 / 0.0), rest)
  | cs => do
      let (whole, rest) := wholeDigits cs
      match whole with
      | [] => none
      | whole => do
          let (fraction, rest) ← fraction? rest
          let (exponent, rest) ← exponent? rest
          let size := Int.ofNat (Data.decimalNumber whole)
          let value ← match fraction, exponent with
            | none, none => integer? (if negative then -size else size)
            | fraction, exponent => real? negative whole (fraction.getD []) (exponent.getD 0)
          pure (value, rest)

def radix? (base : Nat) (isDigit : Char → Bool) (cs : List Char) : Option (Value × List Char) :=
  match digitRun isDigit cs with
  | ([], _) => none
  | (digits, rest) => do
      let size := digits.foldl (fun n c => n * base + (Data.hexDigit? c).getD 0) 0
      let value ← integer? (Int.ofNat size)
      pure (value, rest)

def number? (cs : List Char) : Option (Value × List Char) :=
  match cs with
  | '0' :: 'x' :: rest => radix? 16 (fun c => (Data.hexDigit? c).isSome) rest
  | '0' :: 'o' :: rest => radix? 8 (fun c => '0' ≤ c && c ≤ '7') rest
  | '0' :: 'b' :: rest => radix? 2 (fun c => c = '0' || c = '1') rest
  | '+' :: rest => decimal? false rest
  | '-' :: rest => decimal? true rest
  | cs => decimal? false cs

end QualifierBindings.Toml
