import StyleCatalog.Toml.Quoted
import StyleCatalog.Toml.Table

/-! # Reading TOML

A document is read from the front. Each function gives back what follows what it has read; a counter
bounds the steps by the length of the text.
-/

namespace StyleCatalog.Toml

/-! ## Blanks, comments and line ends -/

def skipBlanks (t : Text) : Text := t.dropWhile fun c => c = ' ' || c = '\t'

/-- The text after a comment, up to the end of its line. A text that starts with no comment stays
as it is. -/
def skipComment (t : Text) : Text :=
  match t with
  | '#' :: rest => rest.dropWhile fun c => !isForbidden c
  | _ => t

/-- The text after the end of a line, which a comment may stand before. -/
def endLine? (t : Text) : Option Text :=
  match skipComment (skipBlanks t) with
  | [] => some []
  | rest => afterLineEnd? rest

/-- The text after blanks, comments and line ends. The counter bounds the lines. -/
def skipLines : Nat → Text → Text
  | 0, t => t
  | steps + 1, t =>
    let rest := skipComment (skipBlanks t)
    match afterLineEnd? rest with
    | some after => skipLines steps after
    | none => rest

def skipFiller (t : Text) : Text := skipLines t.length t

/-! ## Keys -/

def isKeyChar (c : Char) : Bool := c.isAlphanum || c = '_' || c = '-'

def readKeyPart (t : Text) : Option (Text × Text) :=
  match t with
  | '"' :: rest => readQuotedKey '"' rest
  | '\'' :: rest => readQuotedKey '\'' rest
  | _ =>
    let key := t.takeWhile isKeyChar
    if key.isEmpty then none else some (key, t.drop key.length)

def keyLimit : Nat := 80

def readKeyParts : Nat → Text → Option (List Text × Text)
  | 0, _ => none
  | parts + 1, t =>
    (readKeyPart (skipBlanks t)).bind fun (key, rest) =>
      match skipBlanks rest with
      | '.' :: more => (readKeyParts parts more).map fun read => (key :: read.1, read.2)
      | after => some ([key], after)

def readKey (t : Text) : Option (List Text × Text) := readKeyParts keyLimit t

/-! ## Values -/

def depthLimit : Nat := 80

mutual

/-- Read a value. `depth` counts the brackets around it. -/
def readValue : Nat → Nat → Text → Option (Toml × Text)
  | 0, _, _ => none
  | steps + 1, depth, t =>
    match t with
    | '"' :: rest => (readQuoted '"' rest).map fun read => (.string read.1, read.2)
    | '\'' :: rest => (readQuoted '\'' rest).map fun read => (.string read.1, read.2)
    | '[' :: rest =>
      if depth < depthLimit then
        (readItems steps (depth + 1) rest).map fun read => (.array read.1, read.2)
      else none
    | '\x7b' :: rest =>
      if depth < depthLimit then
        (readPairs steps (depth + 1) [] rest).map fun read =>
          (.table (Node.finishEntries read.1), read.2)
      else none
    | _ =>
      let (word, rest) := takeWord t
      (ofWord? word).map fun value => (value, rest)

def readItems : Nat → Nat → Text → Option (List Toml × Text)
  | 0, _, _ => none
  | steps + 1, depth, t =>
    match skipFiller t with
    | ']' :: after => some ([], after)
    | inside =>
      (readValue steps depth inside).bind fun (item, rest) =>
        match skipFiller rest with
        | ',' :: more =>
          (readItems steps depth more).map fun read => (item :: read.1, read.2)
        | ']' :: after => some ([item], after)
        | _ => none

/-- Read the entries of a table in braces, up to and including its closing brace, and add them to
those read before. -/
def readPairs : Nat → Nat → Entries → Text → Option (Entries × Text)
  | 0, _, _, _ => none
  | steps + 1, depth, entries, t =>
    match skipFiller t with
    | '\x7d' :: after => some (entries, after)
    | inside =>
      (readKey inside).bind fun (keys, afterKey) =>
        match afterKey with
        | '=' :: afterSign =>
          (readValue steps depth (skipBlanks afterSign)).bind fun (value, rest) =>
            (Node.insert keys value .opened entries).bind fun entries =>
              match skipFiller rest with
              | ',' :: more => readPairs steps depth entries more
              | '\x7d' :: after => some (entries, after)
              | _ => none
        | _ => none

end

/-! ## Documents -/

structure Draft where
  entries : Entries := []
  /-- The path of the table that the last header has named. -/
  header : List Text := []

def Draft.readHeader (draft : Draft) (t : Text) : Option (Draft × Text) :=
  match t with
  | '[' :: rest =>
    (readKey rest).bind fun (keys, after) =>
      match after with
      | ']' :: ']' :: more => do
        let rest ← endLine? more
        return (⟨← Node.addTable keys draft.entries, keys⟩, rest)
      | _ => none
  | _ =>
    (readKey t).bind fun (keys, after) =>
      match after with
      | ']' :: more => do
        let rest ← endLine? more
        return (⟨← Node.openTable keys draft.entries, keys⟩, rest)
      | _ => none

def Draft.readPair (draft : Draft) (t : Text) : Option (Draft × Text) :=
  (readKey t).bind fun (keys, after) =>
    match after with
    | '=' :: afterSign => do
      let (value, rest) ← readValue (3 * afterSign.length + 3) 0 (skipBlanks afterSign)
      let rest ← endLine? rest
      let entries ← Node.change false (Node.insert keys value) draft.header .opened draft.entries
      return (⟨entries, draft.header⟩, rest)
    | _ => none

/-- Read the lines of a document. The counter bounds their number. -/
def Draft.readLines : Nat → Draft → Text → Option Draft
  | 0, _, _ => none
  | steps + 1, draft, t =>
    match skipFiller t with
    | [] => some draft
    | '[' :: rest => (draft.readHeader rest).bind fun (next, more) => next.readLines steps more
    | line => (draft.readPair line).bind fun (next, more) => next.readLines steps more

/-- The entries of a complete TOML document. A byte order mark at its start is passed over. -/
def parse? (t : Text) : Option (List (Text × Toml)) :=
  let body := match t with
    | '\ufeff' :: rest => rest
    | _ => t
  (Draft.readLines (body.length + 1) {} body).map fun draft => Node.finishEntries draft.entries

end StyleCatalog.Toml
