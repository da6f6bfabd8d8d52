namespace ContentHub.Files

def pieces (mark : Char) : List Char → List (List Char)
  | [] => [[]]
  | c :: rest =>
    if c = mark then [] :: pieces mark rest
    else
      match pieces mark rest with
      | piece :: others => (c :: piece) :: others
      | [] => [[c]]

def pathParts (path : String) : List String :=
  (pieces '/' path.toList).map String.ofList

def isAbsolute (path : String) : Bool :=
  path.toList.head? = some '/'

def isIdle (part : String) : Bool :=
  part == "" || part == "."

def withoutIdleEnd : List String → List String
  | [] => []
  | first :: rest => first :: (rest.reverse.dropWhile isIdle).reverse

def ofParts : List String → String
  | [""] => "/"
  | parts => "/".intercalate parts

def parentParts? (parts : List String) : Option (List String) :=
  match withoutIdleEnd parts with
  | [] => none
  | [""] => none
  | kept => some (withoutIdleEnd kept.dropLast)

def parent? (path : String) : Option String :=
  (parentParts? (pathParts path)).map ofParts

def join (base rest : String) : String :=
  if isAbsolute rest then rest
  else if base.isEmpty ∨ base.toList.getLast? = some '/' then base ++ rest
  else base ++ "/" ++ rest

def ancestry : Nat → List String → List String
  | 0, _ => []
  | fuel + 1, parts =>
    ofParts parts ::
      match parentParts? parts with
      | some above => ancestry fuel above
      | none => []

def selfAndAncestors (path : String) : List String :=
  path :: ((parentParts? (pathParts path)).map fun above =>
    ancestry (above.length + 1) above).getD []

end ContentHub.Files
