import ContentHub.Command.Grammar

namespace ContentHub.Command

inductive Task
  | canonicalText (text : Option String)
  | querySettings (parameters : List (String × String)) (strict : Bool)
  | importDocuments (file : String)
  | listDocuments
  | showProvider (name : String)
  | deleteDocument (id : String)
  | authenticate (name password : String)
  | hashPassword (name password : String)
  | showType (id : String)
  | contentId (tag localId : String)
  | initConfig
  | showConfig
deriving DecidableEq, Repr, Inhabited

structure Request where
  database : Option String
  task : Task
deriving DecidableEq, Repr

def splitParameter (argument : String) : Option (String × String) :=
  let s := argument.toList
  match s.dropWhile (· ≠ '=') with
  | _ :: value => some (String.ofList (s.takeWhile (· ≠ '=')), String.ofList value)
  | [] => none

def checkParameter (argument : String) : Option UsageFault :=
  if (splitParameter argument).isSome then none
  else some (@UsageFault.refusedValue ("expected key=value, got '" ++ argument ++ "'"))

def checkPath (argument : String) : Option UsageFault :=
  if argument.isEmpty then some .badValue else none

def checkLogFormat (argument : String) : Option UsageFault :=
  if argument = "text" ∨ argument = "json" then none else some .badValue

def commonOptions : Options where
  slots := [
    { name := "log-format", check := checkLogFormat },
    { name := "verbose", intake := .tally },
    { name := "db", check := checkPath }]
  letters := [('v', "verbose")]

def text (given : Given) (name : String) : String :=
  (given.first? name).getD ""

def simple (operands : List Slot) (build : Given → Task) : Grammar Task :=
  .leaf [] operands operands.length build

def queryCommands : Grammar Task :=
  .group [
    ("sanitize", .leaf [] [{ name := "text" }] 0 fun given => .canonicalText (given.first? "text")),
    ("parse",
      .leaf
        [{ name := "param", intake := .values, check := checkParameter },
          { name := "rest", intake := .flag }]
        [] 0
        fun given =>
          .querySettings ((given.values "param").filterMap splitParameter) (given.has "rest"))]

def providerCommands : Grammar Task :=
  .group [
    ("import",
      simple [{ name := "file", check := checkPath }] fun given =>
        .importDocuments (text given "file")),
    ("list", simple [] fun _ => .listDocuments),
    ("show", simple [{ name := "name" }] fun given => .showProvider (text given "name")),
    ("delete", simple [{ name := "id" }] fun given => .deleteDocument (text given "id")),
    ("auth",
      simple [{ name := "name" }, { name := "password" }] fun given =>
        .authenticate (text given "name") (text given "password")),
    ("hash",
      simple [{ name := "name" }, { name := "password" }] fun given =>
        .hashPassword (text given "name") (text given "password"))]

def typeCommands : Grammar Task :=
  .group [
    ("show", simple [{ name := "type_id" }] fun given => .showType (text given "type_id"))]

def configCommands : Grammar Task :=
  .group [("init", simple [] fun _ => .initConfig), ("show", simple [] fun _ => .showConfig)]

def commands : Grammar Task :=
  .group [
    ("query", queryCommands),
    ("provider", providerCommands),
    ("type", typeCommands),
    ("id",
      simple [{ name := "dcp_type" }, { name := "content_id" }] fun given =>
        .contentId (text given "dcp_type") (text given "content_id")),
    ("config", configCommands)]

def parseArguments (arguments : List String) : Except UsageFault Request :=
  (Grammar.parse commonOptions commands arguments).map fun understood =>
    ⟨understood.common.first? "db", understood.command⟩

def title : String := "dcp 0.1.0"

def helpText : String :=
  "\n".intercalate (title :: commands.overview "dcp" ++
    ["Options: " ++ " ".intercalate (commonOptions.slots.map Grammar.optionText)])

end ContentHub.Command
