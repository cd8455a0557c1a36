import DecisionGraph.Toml.Table

/-!
Reading a settings document: lines that state tables and lines that give keys their values.
-/

namespace DecisionGraph.Toml

section Nested

variable (value : Reader Value)

def arrayItem : Reader Value := fun text =>
  (value (skipLines text)).map fun (item, rest) => (item, skipLines rest)

def furtherItem : Reader Value
  | ',' :: rest => arrayItem value rest
  | _ => none

def arrayRest : Reader Value := fun text =>
  match arrayItem value text with
  | none => (literally "]" (skipLines text)).map (.other, ·)
  | some (_, rest) =>
    let (_, rest) := Reader.many (furtherItem value) rest
    let rest := match rest with
      | ',' :: rest => skipLines rest
      | rest => rest
    (literally "]" rest).map (.other, ·)

def keyValue : Reader (List String × Value) := fun text => do
  let (path, text) ← key text
  let text ← literally "=" text
  let (given, text) ← value (skipBlank text)
  return ((path, given), text)

def furtherKeyValue : Reader (List String × Value) := fun text =>
  match skipBlank text with
  | ',' :: rest => keyValue value rest
  | _ => none

/-- Whether keys can be given together. -/
def agree (pairs : List (List String × Value)) : Bool :=
  (pairs.foldlM (fun (entries : Entries) pair => entries.put .stated false pair.2 pair.1) []).isSome

/-- The keys of a table on one line and its closing brace. -/
def inlineTableRest : Reader Value := fun text =>
  match keyValue value text with
  | none => (literally "\x7d" (skipBlank text)).map (.other, ·)
  | some (first, rest) =>
    let (others, rest) := Reader.many (furtherKeyValue value) rest
    if agree (first :: others) then (literally "\x7d" (skipBlank rest)).map (.other, ·) else none

end Nested

def value : Nat → Reader Value
  | depth + 1, '[' :: rest => arrayRest (value depth) rest
  | depth + 1, '\x7b' :: rest => inlineTableRest (value depth) rest
  | _, text => scalar text

/-- A document as far as it has been read: everything, and the path of the last header. -/
structure Document where
  entries : Entries
  path : List String

/-- The table that a header states, with what the document holds. -/
def Document.header (document : Document) (path : List String)
    (change : String → Form → Entries → Option (Form × Entries)) : Option Document :=
  (path.getLast?).bind fun last =>
    (Entries.within (change last) path.dropLast .stated document.entries).map
      fun (_, entries) => ⟨entries, path⟩

def Document.give (document : Document) (path : List String) (given : Value) : Option Document :=
  (Entries.within (fun form entries => (entries.put form false given path).map (form, ·))
    document.path .stated document.entries).map fun (_, entries) => { document with entries }

def Document.line (document : Document) (text : List Char) : Option (Document × List Char) :=
  match text with
  | '[' :: '[' :: rest => do
    let (path, rest) ← key rest
    let rest ← literally "]]" rest
    return (← document.header path Entries.openNext, rest)
  | '[' :: rest => do
    let (path, rest) ← key rest
    let rest ← literally "]" rest
    return (← document.header path Entries.openTable, rest)
  | text => do
    let ((path, given), rest) ← keyValue (value depthLimit) text
    return (← document.give path given, rest)

/-- Reads line after line from where blank lines and comments have been skipped. -/
def Document.read (document : Document) (text : List Char) : Option Document :=
  if lineEnd text = some [] then some document
  else
    match document.line text with
    | none => none
    | some (document, rest) =>
      match lineEnd rest with
      | none => none
      | some rest =>
        if (skipLines rest).length < text.length then document.read (skipLines rest) else none
termination_by text.length

/-- What the keys of a whole document stand for. A byte order mark may stand in front. -/
def entriesOf? (text : String) : Option Entries :=
  let text := match text.toList with
    | '\ufeff' :: rest => rest
    | other => other
  (Document.read ⟨[], []⟩ (skipLines text)).map Document.entries

end DecisionGraph.Toml
