import DecisionGraph.Toml.Value

/-!
Tables of a settings document. A table may be written in several places, but nothing may be said
twice: what may still be added to a table depends on how it came to be.
-/

namespace DecisionGraph.Toml

/-- How a table came to be. -/
inductive Form
  /-- Under a header of its own. -/
  | stated
  /-- As the parent of a table with a header. -/
  | implied
  /-- Through a dotted key. -/
  | dotted
  deriving DecidableEq, Repr

/-- What a key stands for. Of an array of tables only the last one can still be added to. -/
inductive Entry
  | value (value : Value)
  | table (form : Form) (entries : List (String × Entry))
  | tables (last : List (String × Entry))

abbrev Entries := List (String × Entry)

namespace Entries

def find? (entries : Entries) (key : String) : Option Entry :=
  (List.find? (fun entry => entry.1 = key) entries).map (·.2)

def set (entries : Entries) (key : String) (entry : Entry) : Entries :=
  match entries with
  | [] => [(key, entry)]
  | (other, kept) :: rest =>
    if other = key then (key, entry) :: rest else (other, kept) :: set rest key entry

/-- Adds a value under a dotted key. Tables on the way come to be through the key, or did not have
a header yet; the table that holds the value has to be such a table of dotted keys. -/
def put (entries : Entries) (form : Form) (isInner : Bool) (value : Value) :
    List String → Option Entries
  | [] => none
  | [key] =>
    if isInner == decide (form = .dotted) && (entries.find? key).isNone then
      some (entries.set key (.value value))
    else none
  | key :: path =>
    match entries.find? key with
    | none =>
      (put [] .dotted true value path).map fun inner => entries.set key (.table .dotted inner)
    | some (.value _) => none
    | some (.table .stated _) => none
    | some (.table form inner) =>
      (put inner form true value path).map fun inner => entries.set key (.table form inner)
    | some (.tables last) =>
      (put last .stated true value path).map fun last => entries.set key (.tables last)

/-- Changes the table at a path of headers; tables on the way that are not there yet are implied. -/
def within (change : Form → Entries → Option (Form × Entries)) :
    List String → Form → Entries → Option (Form × Entries)
  | [], form, entries => change form entries
  | key :: path, form, entries =>
    match entries.find? key with
    | none =>
      (within change path .implied []).map fun (inner, changed) =>
        (form, entries.set key (.table inner changed))
    | some (.value _) => none
    | some (.table inner kept) =>
      (within change path inner kept).map fun (inner, changed) =>
        (form, entries.set key (.table inner changed))
    | some (.tables last) =>
      (within change path .stated last).map fun (_, changed) =>
        (form, entries.set key (.tables changed))

/-- States a table: it was not there or only implied. -/
def openTable (key : String) (form : Form) (entries : Entries) : Option (Form × Entries) :=
  match entries.find? key with
  | none => some (form, entries.set key (.table .stated []))
  | some (.table .implied inner) => some (form, entries.set key (.table .stated inner))
  | some _ => none

/-- Adds a table to an array of tables. -/
def openNext (key : String) (form : Form) (entries : Entries) : Option (Form × Entries) :=
  match entries.find? key with
  | none => some (form, entries.set key (.tables []))
  | some (.tables _) => some (form, entries.set key (.tables []))
  | some _ => none

end Entries

end DecisionGraph.Toml
