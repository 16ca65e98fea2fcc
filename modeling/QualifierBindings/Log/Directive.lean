import QualifierBindings.Log.Level
import QualifierBindings.Text.Alphanumeric
import QualifierBindings.Text.Blank
import QualifierBindings.Text.Lead
import QualifierBindings.Text.Split

/-! One directive of a log filter: a threshold for all records, for the targets that
begin with a given text, or for what happens inside a span of a given name.
-/

namespace QualifierBindings

/-- A threshold and what it applies to. -/
structure Directive where
  target : Option String
  span : Option String
  threshold : Threshold
deriving DecidableEq

namespace Threshold

/-- The number that a text of digits denotes, with an optional plus sign and below
two to the sixty-fourth. -/
def number? (cs : List Char) : Option Nat :=
  let digits := match cs with
    | '+' :: rest => rest
    | cs => cs
  let value := digits.foldl (fun n c => n * 10 + (c.toNat - '0'.toNat)) 0
  if !digits.isEmpty && digits.all Char.isDigit && value < Nat.pow 2 64 then some value
  else none

/-- A threshold is written as its rank or as its name in any case of letters. -/
def parse? (cs : List Char) : Option Threshold :=
  match number? cs with
  | some value => all.find? (fun threshold => threshold.rank = value)
  | none => all.find? (fun threshold => threshold.name = String.ofList (cs.map Char.toLower))

/-- The threshold after an equals sign, where nothing at all lets everything pass. -/
def parseAfterEquals? (cs : List Char) : Option Threshold :=
  if cs.isEmpty then some (.upTo .trace) else parse? cs

end Threshold

namespace Directive

/-- The directive that lets records of all targets pass up to a level. -/
def upTo (level : Level) : Directive :=
  { target := none, span := none, threshold := .upTo level }

/-- Whether a directive may begin with the character, brackets apart. -/
def canBegin (c : Char) : Bool :=
  c = '-' || c = ':' || c = '_' || Text.isAlphanumeric c

/-- The directive of a span whose name begins at an offset of the piece, given the
characters that were scanned from there. -/
def parseSpan? (piece : List Char) (target : Option String) (start : Nat) (scanned : List Char)
    : Option Directive := do
  let name := scanned.takeWhile (fun c => c ≠ ']' && c ≠ '\x7b')
  let stop := start + Text.byteLength name
  match scanned.drop name.length with
  | ']' :: after => do
      let (_, fromStart) ← Text.cutAt? start piece
      let (span, _) ← Text.cutAt? (Text.byteLength name) fromStart
      let threshold ← match after with
        | [] => some (.upTo .trace)
        -- the level stands behind the bracket and the equals sign
        | '=' :: _ => do
            let (_, level) ← Text.cutAt? (stop + 2) piece
            Threshold.parseAfterEquals? level
        | _ => none
      pure { target, span := some (String.ofList span), threshold }
  | _ => none

/-- Reading a directive. The offsets of its parts are found in the trimmed piece and
then used to cut the piece as it stands, so blanks before the first part are kept
where nothing has to be cut and spoil the directive elsewhere. -/
def parse? (piece : List Char) : Option Directive :=
  let scanned := Text.trimChars piece
  match scanned with
  | [] => none
  | '[' :: rest => parseSpan? piece none 1 rest
  | c :: _ =>
      if canBegin c then do
        let head := scanned.takeWhile (fun c => c ≠ '=' && c ≠ '[')
        let stop := Text.byteLength head
        match scanned.drop head.length with
        | [] =>
            -- a piece that is a threshold is never taken for a target
            match Threshold.parse? piece with
            | some threshold => some { target := none, span := none, threshold }
            | none =>
                some { target := some (String.ofList piece), span := none,
                       threshold := .upTo .trace }
        | '=' :: _ => do
            let (target, _) ← Text.cutAt? stop piece
            let (_, level) ← Text.cutAt? (stop + 1) piece
            let threshold ← Threshold.parseAfterEquals? level
            pure { target := some (String.ofList target), span := none, threshold }
        | _ :: rest => do
            let (target, _) ← Text.cutAt? stop piece
            parseSpan? piece (some (String.ofList target)) (stop + 1) rest
      else none

/-- Absent things come before present ones. -/
def compareOption {α : Type} (compareValues : α → α → Ordering) : Option α → Option α → Ordering
  | none, none => .eq
  | none, some _ => .lt
  | some _, none => .gt
  | some a, some b => compareValues a b

/-- How specific a directive is compared to another one: longer targets are more
specific than shorter ones, and any target more than none. Ties are broken by
the texts themselves. -/
def compareSpecificity (a b : Directive) : Ordering :=
  (compareOption (fun s t => compare s.utf8ByteSize t.utf8ByteSize) a.target b.target)
    |>.then (compareOption (fun _ _ => .eq) a.span b.span)
    |>.then (compareOption compare a.target b.target)
    |>.then (compareOption compare a.span b.span)

/-- Placing a directive among others, the most specific ones first. It replaces one
with the same target and span. -/
def place (directive : Directive) : List Directive → List Directive
  | [] => [directive]
  | other :: rest =>
      match compareSpecificity directive other with
      | .gt => directive :: other :: rest
      | .eq => directive :: rest
      | .lt => other :: place directive rest

def covers (directive : Directive) (target : String) : Bool :=
  match directive.target with
  | none => true
  | some lead => Text.startsWith lead target

def text (directive : Directive) : String :=
  let scope := directive.target.getD ""
    ++ (match directive.span with
        | none => ""
        | some span => "[" ++ span ++ "]")
  if directive.target.isSome || directive.span.isSome then
    scope ++ "=" ++ directive.threshold.name
  else directive.threshold.name

end Directive

end QualifierBindings
