import QualifierBindings.Toml.Lexeme
import QualifierBindings.Toml.Tree

/-! Reading a TOML document.
-/

namespace QualifierBindings.Toml

/-- How deep arrays and inline tables may be nested. -/
def depthLimit : Nat := 79

mutual

/-- A value and what follows it, within the given number of steps and levels. -/
def value? : Nat → Nat → List Char → Option (Value × List Char)
  | 0, _, _ => none
  | steps + 1, depth, cs =>
      match cs with
      | 't' :: 'r' :: 'u' :: 'e' :: rest => some (.boolean true, rest)
      | 'f' :: 'a' :: 'l' :: 's' :: 'e' :: rest => some (.boolean false, rest)
      | '[' :: rest =>
          match depth with
          | 0 => none
          | depth + 1 => items? steps depth [] rest
      | '\x7b' :: rest =>
          match depth with
          | 0 => none
          | depth + 1 =>
              match skipSpace rest with
              | '\x7d' :: rest => some (.table [], rest)
              | rest => pairs? steps depth [] rest
      | cs =>
          match text? cs with
          | some (text, rest) => some (.text text, rest)
          | none =>
              -- the digits of a date or a time are told from a number by what follows them
              if beginsDate cs || beginsTime cs then
                (moment? cs).map (fun rest =>
                  (.moment (String.ofList (cs.take (cs.length - rest.length))), rest))
              else number? cs

def items? : Nat → Nat → List Value → List Char → Option (Value × List Char)
  | 0, _, _, _ => none
  | steps + 1, depth, read, cs =>
      match skipGap false cs with
      | none => none
      | some (']' :: rest) => some (.array read.reverse, rest)
      | some rest =>
          match value? steps depth rest with
          | none => none
          | some (item, rest) =>
              match skipGap false rest with
              | some (',' :: rest) => items? steps depth (item :: read) rest
              | some (']' :: rest) => some (.array (item :: read).reverse, rest)
              | _ => none

def pairs? : Nat → Nat → Members → List Char → Option (Value × List Char)
  | 0, _, _, _ => none
  | steps + 1, depth, read, cs =>
      match key? keyLimit cs with
      | some (path, key, '=' :: rest) =>
          match value? steps depth (skipSpace rest) with
          | none => none
          | some (value, rest) =>
              match Members.assign key value true path read with
              | none => none
              | some read =>
                  match skipSpace rest with
                  | ',' :: rest => pairs? steps depth read rest
                  | '\x7d' :: rest => some (.table (Members.closeMembers read), rest)
                  | _ => none
      | _ => none

end

/-- A document as far as it was read: its tables, and the path of the table that the
last header opened. -/
structure Document where
  members : Members := []
  current : List String := []

namespace Document

def assign? (document : Document) (path : List String) (key : String) (value : Value)
    : Option Document :=
  (Members.descend (Members.assign key value true path) document.current document.members).map
    (fun members => { document with members })

def open? (document : Document) (change : String → Members → Option Members)
    (path : List String) (key : String) : Option Document :=
  (Members.descend (change key) path document.members).map (fun members =>
    { members, current := path ++ [key] })

/-- The document after the header or the pair at the front, and what follows it. -/
def step? (document : Document) (cs : List Char) : Option (Document × List Char) :=
  match cs with
  | '[' :: '[' :: rest =>
      match key? keyLimit rest with
      | some (path, key, ']' :: ']' :: rest) => do
          let document ← document.open? Members.openElement path key
          let rest ← endLine rest
          pure (document, rest)
      | _ => none
  | '[' :: rest =>
      match key? keyLimit rest with
      | some (path, key, ']' :: rest) => do
          let document ← document.open? Members.openTable path key
          let rest ← endLine rest
          pure (document, rest)
      | _ => none
  | cs =>
      match key? keyLimit cs with
      | some (path, key, '=' :: rest) => do
          let (value, rest) ← value? (2 * rest.length + 2) depthLimit (skipSpace rest)
          let document ← document.assign? path key value
          let rest ← endLine rest
          pure (document, rest)
      | _ => none

/-- The document after everything that follows, within the given number of steps. -/
def finish? : Nat → Document → List Char → Option Document
  | 0, _, _ => none
  | steps + 1, document, cs =>
      match skipGap false cs with
      | none => none
      | some [] => some document
      | some rest =>
          match document.step? rest with
          | none => none
          | some (document, rest) => finish? steps document rest

end Document

/-- The members of the document that a text denotes. A byte order mark at its front
is passed over. -/
def parse? (text : String) : Option (List (String × Value)) :=
  let cs := match text.toList with
    | '\ufeff' :: rest => rest
    | cs => cs
  (Document.finish? (cs.length + 1) {} cs).map (fun document =>
    Members.closeMembers document.members)

end QualifierBindings.Toml
