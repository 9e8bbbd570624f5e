import StyleCatalog.Toml.Basic

/-! # Tables under construction

A TOML document names tables by headers and by dotted keys. What may be added to a table depends on
how it came to be, so tables carry their origin until the document has been read.
-/

namespace StyleCatalog.Toml

inductive Origin where
  /-- By a header of its own, or as the document itself. -/
  | opened
  /-- On the way to a table that a header names. -/
  | passed
  /-- On the way to a value that a dotted key names. -/
  | dotted
  deriving DecidableEq, Repr

inductive Node where
  /-- A value that nothing can be added to. -/
  | value (held : Toml)
  | table (origin : Origin) (entries : List (Text × Node))
  /-- The tables that repeated headers name; only the last one can still grow. -/
  | tables (earlier : List (List (Text × Node))) (last : List (Text × Node))

abbrev Entries := List (Text × Node)

namespace Node

def find? (key : Text) : Entries → Option Node
  | [] => none
  | (name, node) :: rest => if name = key then some node else find? key rest

def put (key : Text) (node : Node) : Entries → Entries
  | [] => [(key, node)]
  | (name, old) :: rest =>
    if name = key then (key, node) :: rest else (name, old) :: put key node rest

/-- Change the table at the end of a path. Tables on the way that do not exist yet are made. A path
cannot enter a value; the path of a dotted key cannot enter a table that a header has opened. -/
def change (isDotted : Bool) (update : Origin → Entries → Option Entries) :
    List Text → Origin → Entries → Option Entries
  | [], origin, entries => update origin entries
  | key :: rest, _, entries =>
    match find? key entries with
    | none =>
      let made : Origin := if isDotted then .dotted else .passed
      (change isDotted update rest made []).map fun inner => put key (.table made inner) entries
    | some (.value _) => none
    | some (.table origin inner) =>
      if isDotted && origin = .opened then none
      else (change isDotted update rest origin inner).map fun inner =>
        put key (.table origin inner) entries
    | some (.tables earlier last) =>
      (change isDotted update rest .opened last).map fun last =>
        put key (.tables earlier last) entries

/-- Add a value under a dotted key. Its last part must be new, in a table that was made by dotted
keys exactly when the key has more than one part. -/
def insert (keys : List Text) (value : Toml) (origin : Origin) (entries : Entries) :
    Option Entries :=
  match keys.getLast? with
  | none => none
  | some key =>
    let path := keys.dropLast
    change (!path.isEmpty)
      (fun origin inner =>
        if (origin = .dotted) ≠ !path.isEmpty || (find? key inner).isSome then none
        else some (put key (.value value) inner))
      path origin entries

/-- Open the table that a header names. It must be new, or made on the way to others. -/
def openTable (keys : List Text) (entries : Entries) : Option Entries :=
  match keys.getLast? with
  | none => none
  | some key =>
    change false
      (fun _ inner =>
        match find? key inner with
        | none => some (put key (.table .opened []) inner)
        | some (.table .passed old) => some (put key (.table .opened old) inner)
        | some _ => none)
      keys.dropLast .opened entries

def addTable (keys : List Text) (entries : Entries) : Option Entries :=
  match keys.getLast? with
  | none => none
  | some key =>
    change false
      (fun _ inner =>
        match find? key inner with
        | none => some (put key (.tables [] []) inner)
        | some (.tables earlier last) => some (put key (.tables (earlier ++ [last]) []) inner)
        | some _ => none)
      keys.dropLast .opened entries

/-! ## The finished document -/

mutual

def finish : Node → Toml
  | .value held => held
  | .table _ entries => .table (finishEntries entries)
  | .tables earlier last => .array (finishTables earlier ++ [.table (finishEntries last)])

def finishEntries : List (Text × Node) → List (Text × Toml)
  | [] => []
  | (key, node) :: rest => (key, finish node) :: finishEntries rest

def finishTables : List (List (Text × Node)) → List Toml
  | [] => []
  | entries :: rest => .table (finishEntries entries) :: finishTables rest

end

end Node

end StyleCatalog.Toml
