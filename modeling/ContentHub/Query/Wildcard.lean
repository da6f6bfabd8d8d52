import ContentHub.Error
import ContentHub.Query.Basic

/-!
Query texts in canonical form: no blanks at the ends, and no two wildcards next to each other. An
asterisk stands for any text and a question mark for any character, so an asterisk absorbs its
neighbouring wildcards, and a question mark absorbs question marks.
-/

namespace ContentHub.Query

def isWildcard (c : Char) : Bool :=
  c == '*' || c == '?'

def joinWildcards (c d : Char) : Char :=
  if c = '*' ∨ d = '*' then '*' else '?'

def absorb (c : Char) : List Char → List Char
  | [] => [c]
  | d :: rest =>
    if isWildcard c && isWildcard d then joinWildcards c d :: rest else c :: d :: rest

def collapse (s : List Char) : List Char :=
  s.foldr absorb []

def matchAll : String := "match_all:\x7b\x7d"

def canonicalText : Option String → String
  | none => matchAll
  | some text => String.ofList (collapse (Text.trimChars text.toList))

def Settings.canonical (settings : Settings) : Settings :=
  { settings with text := some (canonicalText settings.text) }

def canonicalSettings (settings : Option Settings) : Except Error Settings :=
  match settings with
  | some settings => .ok settings.canonical
  | none => .error (.invalidInput "No query settings provided!")

end ContentHub.Query
