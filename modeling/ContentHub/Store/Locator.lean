import ContentHub.Files.Path
import ContentHub.Json.Reader

/-!
What a path asks the database engine for. A path that starts with `file:` names its file up to a
question mark, with characters by number, and has options behind it; any other path is the name of
a file itself. Some names and options ask for a database that is in no file.
-/

namespace ContentHub.Store

inductive Mode
  | create
  | existing
  | reading
  | memory
deriving DecidableEq, Repr, Inhabited

def Mode.rank : Mode → Nat
  | .create => 6
  | .existing => 2
  | .reading => 1
  | .memory => 128

def Mode.demand : Mode → Nat
  | .memory => 0
  | mode => mode.rank

structure Locator where
  name : String
  mode : Mode := .create
  /-- Whether the file is taken for one that nobody changes. -/
  immutable : Bool := false
  /-- Whether the files of the engine are in memory. -/
  detached : Bool := false
deriving DecidableEq, Repr, Inhabited

namespace Locator

def percentBytes : List Char → List UInt8
  | '%' :: a :: b :: rest =>
    match Json.hexValue? a, Json.hexValue? b with
    | some x, some y => UInt8.ofNat (x * 16 + y) :: percentBytes rest
    | _, _ => 0x25 :: percentBytes (a :: b :: rest)
  | c :: rest => String.utf8EncodeChar c ++ percentBytes rest
  | [] => []

def ofBytes (bytes : List UInt8) : String :=
  (String.fromUTF8? ⟨bytes.toArray⟩).getD (String.ofList (bytes.map fun b => Char.ofNat b.toNat))

def decode (s : List Char) : String :=
  ofBytes ((percentBytes s).takeWhile (· ≠ 0))

def splitAt (mark : Char) (s : List Char) : List Char × List Char :=
  (s.takeWhile (· ≠ mark), (s.dropWhile (· ≠ mark)).drop 1)

def options (s : List Char) : List (String × String) :=
  ((Files.pieces '&' s).map fun option =>
    let (name, value) := splitAt '=' option
    (decode name, decode value)).filter fun option => option.1 ≠ ""

def mode? (s : String) : Option Mode :=
  match s with
  | "ro" => some .reading
  | "rw" => some .existing
  | "rwc" => some .create
  | "memory" => some .memory
  | _ => none

/-- Whether an option that is a switch is on: a word for yes, or a number whose low byte is not
zero. -/
def isOn (s : String) : Bool :=
  let digits := s.toList.takeWhile Char.isDigit
  if digits = [] then s.toLower ∈ ["on", "yes", "true"]
  else Json.digitsValue digits % 256 ≠ 0

def withOption (locator : Locator) : String × String → Except Nat Locator
  | ("mode", value) =>
    match mode? value with
    | none => .error 1
    | some mode =>
      if locator.mode.rank < mode.demand then .error 3 else .ok { locator with mode }
  | ("cache", value) => if value = "shared" ∨ value = "private" then .ok locator else .error 1
  | _ => .ok locator

def fileSystems : List String :=
  ["unix", "unix-none", "unix-dotfile", "unix-excl", "memdb"]

def withFileSystem (options : List (String × String)) (locator : Locator) : Except Nat Locator :=
  match options.reverse.lookup "vfs" with
  | none => .ok locator
  | some name =>
    if name ∈ fileSystems then .ok { locator with detached := name == "memdb" } else .error 1

def afterAuthority : List Char → Except Nat (List Char)
  | '/' :: '/' :: rest =>
    let authority := String.ofList (rest.takeWhile (· ≠ '/'))
    if authority = "" ∨ authority = "localhost" then .ok (rest.dropWhile (· ≠ '/')) else .error 1
  | s => .ok s

def ofReference (s : List Char) : Except Nat Locator := do
  let (name, rest) := splitAt '?' ((← afterAuthority s).takeWhile (· ≠ '#'))
  let options := options rest
  let immutable := ((options.lookup "immutable").map isOn).getD false
  let locator ← options.foldlM withOption { name := decode name, immutable }
  locator.withFileSystem options

def ofPath (path : String) : Except Nat Locator :=
  match path.toList with
  | 'f' :: 'i' :: 'l' :: 'e' :: ':' :: rest => ofReference rest
  | _ => .ok { name := path }

def isPrivate (locator : Locator) : Bool :=
  locator.name == "" || locator.name == ":memory:" || locator.mode == .memory || locator.detached

def isFrozen (locator : Locator) : Bool :=
  locator.mode == .reading || (locator.immutable && !locator.isPrivate)

end Locator

def isMemoryPath (path : String) : Bool :=
  Files.withoutIdleEnd (Files.pathParts path) == [":memory:"]

def isRemotePath (path : String) : Bool :=
  ["libsql:", "http:"].any fun start => start.toList.isPrefixOf path.toList

end ContentHub.Store
