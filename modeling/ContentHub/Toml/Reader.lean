import ContentHub.Toml.Number
import ContentHub.Toml.Strings
import ContentHub.Toml.Table

namespace ContentHub.Toml

def isCommentChar (c : Char) : Bool :=
  isPlain c

def skipComment : List Char → List Char
  | '#' :: rest => rest.dropWhile isCommentChar
  | s => s

def lineEnd? : List Char → Option (List Char)
  | [] => some []
  | s => newline? s

def trailing? (s : List Char) : Option (List Char) :=
  lineEnd? (skipComment (skipBlanks s))

def isBareChar (c : Char) : Bool :=
  c.isAlphanum || c == '_' || c == '-'

def simpleKey? : List Char → Option (String × List Char)
  | '"' :: rest => shortString? ('"' :: rest)
  | '\'' :: rest => shortString? ('\'' :: rest)
  | s =>
    match s.takeWhile isBareChar with
    | [] => none
    | name => some (String.ofList name, s.dropWhile isBareChar)

def maxDepth : Nat := 79

def keyParts : Nat → List Char → Option ((List String × String) × List Char)
  | 0, _ => none
  | fuel + 1, s =>
    (simpleKey? (skipBlanks s)).bind fun (name, s) =>
      match skipBlanks s with
      | '.' :: s =>
        (keyParts fuel s).map fun ((path, key), s) => ((name :: path, key), s)
      | s => some (([], name), s)

def key? (s : List Char) : Option ((List String × String) × List Char) :=
  keyParts maxDepth s

def skipFiller : Nat → List Char → List Char
  | 0, s => s
  | fuel + 1, s =>
    match s with
    | c :: rest =>
      if isBlankChar c then skipFiller fuel rest
      else if c = '#' then skipFiller fuel (rest.dropWhile isCommentChar)
      else
        match newline? s with
        | some rest => skipFiller fuel rest
        | none => s
    | [] => []

def filler (s : List Char) : List Char :=
  skipFiller (s.length + 1) s

mutual

def valueFrom : (fuel room : Nat) → List Char → Option (Value × List Char)
  | 0, _, _ => none
  | fuel + 1, room, s =>
    match s with
    | '"' :: _ => (anyString? s).map fun found => (.text found.1, found.2)
    | '\'' :: _ => (anyString? s).map fun found => (.text found.1, found.2)
    | '[' :: s =>
      match room with
      | 0 => none
      | room + 1 =>
        (itemsFrom fuel room (filler s)).map fun found => (.array found.1, found.2)
    | '{' :: s =>
      match room with
      | 0 => none
      | room + 1 =>
        match skipBlanks s with
        | '}' :: s => some (.table .inline [], s)
        | s =>
          (pairsFrom fuel room s).bind fun (pairs, s) =>
            ((Table.empty .headed).addPairs pairs).map fun table =>
              (.table .inline table.members, s)
    | s => (tokenValue? (cutToken s).1).map fun value => (value, (cutToken s).2)
termination_by structural fuel => fuel

def itemsFrom : (fuel room : Nat) → List Char → Option (List Value × List Char)
  | 0, _, _ => none
  | fuel + 1, room, s =>
    match s with
    | ']' :: s => some ([], s)
    | s =>
      (valueFrom fuel room s).bind fun (item, s) =>
        match filler s with
        | ',' :: s =>
          (itemsFrom fuel room (filler s)).map fun found => (item :: found.1, found.2)
        | ']' :: s => some ([item], s)
        | _ => none
termination_by structural fuel => fuel

def pairsFrom : (fuel room : Nat) → List Char → Option (List Table.Pair × List Char)
  | 0, _, _ => none
  | fuel + 1, room, s =>
    (pairFrom fuel room s).bind fun (pair, s) =>
      match skipBlanks s with
      | ',' :: s => (pairsFrom fuel room s).map fun found => (pair :: found.1, found.2)
      | '}' :: s => some ([pair], s)
      | _ => none
termination_by structural fuel => fuel

def pairFrom : (fuel room : Nat) → List Char → Option (Table.Pair × List Char)
  | 0, _, _ => none
  | fuel + 1, room, s =>
    (key? s).bind fun ((path, key), s) =>
      match s with
      | '=' :: s =>
        (valueFrom fuel room (skipBlanks s)).map fun (value, s) => (⟨path, key, value⟩, s)
      | _ => none
termination_by structural fuel => fuel

end

inductive Line
  | pair (pair : Table.Pair)
  | header (header : Header)
  | idle

/-- Reads one line, up to and with its end. A character takes at most two steps of the reader. -/
def lineFrom (s : List Char) : Option (Line × List Char) :=
  let s := skipBlanks s
  match s with
  | [] => some (.idle, [])
  | '[' :: '[' :: s =>
    (key? s).bind fun ((path, key), s) =>
      match s with
      | ']' :: ']' :: s => (trailing? s).map fun s => (.header (.repeated path key), s)
      | _ => none
  | '[' :: s =>
    (key? s).bind fun ((path, key), s) =>
      match s with
      | ']' :: s => (trailing? s).map fun s => (.header (.single path key), s)
      | _ => none
  | '#' :: _ => (trailing? s).map fun s => (.idle, s)
  | '\n' :: _ => (trailing? s).map fun s => (.idle, s)
  | '\r' :: _ => (trailing? s).map fun s => (.idle, s)
  | s =>
    (pairFrom (2 * s.length + 3) maxDepth s).bind fun (pair, s) =>
      (trailing? s).map fun s => (.pair pair, s)

def linesFrom : Nat → List Char → Option (List Line)
  | 0, _ => none
  | _ + 1, [] => some []
  | fuel + 1, s =>
    (lineFrom s).bind fun (line, s) => (linesFrom fuel s).map fun lines => line :: lines

def sections : List Line → List Table.Pair × List Section
  | [] => ([], [])
  | .idle :: rest => sections rest
  | .pair pair :: rest => (pair :: (sections rest).1, (sections rest).2)
  | .header header :: rest => ([], ⟨header, (sections rest).1⟩ :: (sections rest).2)

def withoutMark : List Char → List Char
  | '\ufeff' :: rest => rest
  | s => s

def parse? (text : String) : Option Value :=
  let s := withoutMark text.toList
  (linesFrom (s.length + 1) s).bind fun lines =>
    ((Table.empty .headed).addPairs (sections lines).1).bind fun root =>
      ((sections lines).2.foldlM (fun table part => Table.addSection part table) root).map
        Table.toValue

end ContentHub.Toml
