import ContentHub.Entries

/-!
Grammars of command lines: groups of commands, and commands with options and operands. Options that
every command takes may stand at any level; where the inner one and the outer one both give a value,
the inner one counts. A value is checked when the next argument shows that it is complete, so an
argument that nothing accepts is reported before a bad value just in front of it.
-/

namespace ContentHub.Command

inductive UsageFault
  | displayHelp
  | displayVersion
  | helpInstead
  | missingCommand
  | missingOperand
  | unknownArgument
  | unknownCommand
  | badValue
  -- the reason is implicit because a fault is mostly asked for its kind only
  | refusedValue {reason : String}
  | surplusValue
  | repeated
deriving DecidableEq, Repr

namespace UsageFault

def message : UsageFault → String
  | .displayHelp => "help was asked for"
  | .displayVersion => "the version was asked for"
  | .helpInstead => "no command was given"
  | .missingCommand => "options were given without a command"
  | .missingOperand => "an operand is missing"
  | .unknownArgument => "an argument is not known"
  | .unknownCommand => "a command is not known"
  | .badValue => "a value is missing or not one of those allowed"
  | @refusedValue reason => "a value has the wrong form: " ++ reason
  | .surplusValue => "a flag was given a value"
  | .repeated => "an option was given twice"

def exitCode : UsageFault → Nat
  | .displayHelp => 0
  | .displayVersion => 0
  | _ => 2

end UsageFault

inductive Intake
  | flag
  | tally
  | value
  | values
deriving DecidableEq, Repr

structure Slot where
  name : String
  intake : Intake := .value
  check : String → Option UsageFault := fun _ => none

def Slot.takesValue (slot : Slot) : Bool :=
  slot.intake = .value || slot.intake = .values

abbrev Given := List (String × List String)

namespace Given

def values (given : Given) (name : String) : List String :=
  (given.filter fun entry => entry.1 == name).flatMap Prod.snd

def first? (given : Given) (name : String) : Option String :=
  (given.values name).head?

def has (given : Given) (name : String) : Bool :=
  given.any fun entry => entry.1 == name

end Given

structure Understood (α : Type) where
  common : Given
  command : α

inductive Grammar (α : Type)
  | group (commands : List (String × Grammar α))
  | leaf (options : List Slot) (operands : List Slot) (required : Nat) (build : Given → α)

structure Options where
  slots : List Slot
  letters : List (Char × String)

namespace Grammar

variable {α : Type}

def commands : Grammar α → List (String × Grammar α)
  | .group commands => commands
  | .leaf _ _ _ _ => []

def options : Grammar α → List Slot
  | .group _ => []
  | .leaf options _ _ _ => options

def operands : Grammar α → List Slot
  | .group _ => []
  | .leaf _ operands _ _ => operands

def command? (grammar : Grammar α) (name : String) : Option (Grammar α) :=
  Entries.get? name grammar.commands

def isCommand (grammar : Grammar α) (name : String) : Bool :=
  !grammar.commands.isEmpty && (name == "help" || (grammar.command? name).isSome)

def help (grammar : Grammar α) : List String → UsageFault
  | [] => .displayHelp
  | name :: rest =>
    match grammar.command? name with
    | some inner => help inner rest
    | none =>
      if grammar.isCommand name && rest.isEmpty then .displayHelp else .unknownCommand

def optionText (slot : Slot) : String :=
  "[--" ++ slot.name ++ (if slot.takesValue then " <value>" else "") ++ "]"

mutual

def overview (path : String) : Grammar α → List String
  | .group commands => overviews path commands
  | .leaf options operands required _ =>
    [" ".intercalate ([path] ++ options.map optionText ++
      (operands.take required).map (fun slot => "<" ++ slot.name ++ ">") ++
      (operands.drop required).map (fun slot => "[" ++ slot.name ++ "]"))]

def overviews (path : String) : List (String × Grammar α) → List String
  | [] => []
  | (name, inner) :: rest => overview (path ++ " " ++ name) inner ++ overviews path rest

end

end Grammar

structure Progress where
  given : Given := []
  pending : Option (Slot × List String) := none
  waiting : Bool := false
  plain : Bool := false
  operands : Nat := 0

namespace Progress

def record (slot : Slot) (values : List String) (progress : Progress) :
    Except UsageFault Progress :=
  if slot.takesValue ∧ values = [] then .error .badValue
  else if (slot.intake = .flag ∨ slot.intake = .value) ∧ progress.given.has slot.name then
    .error .repeated
  else
    match values.findSome? slot.check with
    | some fault => .error fault
    | none => .ok { progress with given := progress.given ++ [(slot.name, values)] }

def settle (progress : Progress) : Except UsageFault Progress :=
  match progress.pending with
  | none => .ok progress
  | some (slot, values) => record slot values { progress with pending := none }

def meet (slot : Slot) (attached : Option String) (progress : Progress) :
    Except UsageFault Progress :=
  if slot.takesValue then do
    let settled ← progress.settle
    match attached with
    | some value => record slot [value] { settled with waiting := false }
    | none => return { settled with pending := some (slot, []), waiting := true }
  else
    match attached with
    | some _ => .error .surplusValue
    | none => do
      let settled ← progress.settle
      record slot [] { settled with waiting := false }

end Progress

def helpSlot : Slot := { name := "help", intake := .flag }

def versionSlot : Slot := { name := "version", intake := .flag }

namespace Progress

def meetOrAnswer (slot : Slot) (attached : Option String) (progress : Progress) :
    Except UsageFault Progress :=
  (progress.meet slot attached).bind fun met =>
    if slot.name = helpSlot.name then .error .displayHelp
    else if slot.name = versionSlot.name then .error .displayVersion
    else .ok met

def long (options : Options) (body : List Char) (progress : Progress) :
    Except UsageFault Progress :=
  let name := String.ofList (body.takeWhile (· ≠ '='))
  let attached :=
    match body.dropWhile (· ≠ '=') with
    | [] => none
    | _ :: value => some (String.ofList value)
  match options.slots.find? fun slot => slot.name == name with
  | some slot => progress.meetOrAnswer slot attached
  | none => .error .unknownArgument

def short (options : Options) : List Char → Progress → Except UsageFault Progress
  | [], progress => .ok progress
  | letter :: rest, progress =>
    match options.letters.lookup letter with
    | none => .error .unknownArgument
    | some name =>
      match options.slots.find? fun slot => slot.name == name with
      | some slot => (progress.meetOrAnswer slot none).bind (short options rest)
      | none => .error .unknownArgument

end Progress

namespace Grammar

variable {α : Type}

def operand (grammar : Grammar α) (argument : String) (progress : Progress) :
    Except UsageFault Progress :=
  match grammar.operands[progress.operands]? with
  | some slot => do
    let settled ← progress.settle
    return { settled with
      pending := some (slot, [argument])
      operands := settled.operands + 1 }
  | none =>
    if progress.plain && grammar.isCommand argument then .error .unknownArgument
    else if grammar.commands.isEmpty then .error .unknownArgument
    else .error .unknownCommand

def finish (grammar : Grammar α) (common : List Slot) (progress : Progress) :
    Except UsageFault (Understood α) :=
  progress.settle.bind fun settled =>
    match grammar with
    | .group _ => .error (if settled.given.isEmpty then .helpInstead else .missingCommand)
    | .leaf _ _ required build =>
      if settled.operands < required then .error .missingOperand
      else
        .ok ⟨settled.given.filter fun entry => common.any fun slot => slot.name == entry.1,
          build settled.given⟩

def enclose (common : List Slot) (progress : Progress) (inner : Understood α) :
    Except UsageFault (Understood α) :=
  progress.settle.map fun settled =>
    let outer := settled.given.filter fun entry => common.any fun slot => slot.name == entry.1
    ⟨inner.common ++ outer, inner.command⟩

def optionsAt (common : Options) (top : Bool) (grammar : Grammar α) : Options where
  slots := common.slots ++ [helpSlot] ++ (if top then [versionSlot] else []) ++ grammar.options
  letters := common.letters ++ [('h', helpSlot.name)] ++
    (if top then [('V', versionSlot.name)] else [])

def parseFrom (common : Options) (top : Bool) (grammar : Grammar α) (progress : Progress) :
    List String → Except UsageFault (Understood α)
  | [] => grammar.finish common.slots progress
  | argument :: rest =>
    let continueWith := fun (step : Except UsageFault Progress) =>
      step.bind fun progress => parseFrom common top grammar progress rest
    if progress.plain then continueWith (grammar.operand argument progress)
    else if !progress.waiting && grammar.isCommand argument then
      match grammar.command? argument with
      | some inner =>
        (parseFrom common false inner {} rest).bind (enclose common.slots progress)
      | none => .error (grammar.help rest)
    else
      match argument.toList with
      | ['-', '-'] => continueWith (.ok { progress with plain := true })
      | '-' :: '-' :: body => continueWith (progress.long (optionsAt common top grammar) body)
      | '-' :: letter :: letters =>
        continueWith (progress.short (optionsAt common top grammar) (letter :: letters))
      | _ =>
        match progress.pending with
        | some (slot, values) =>
          if progress.waiting then
            continueWith (.ok { progress with
              pending := some (slot, values ++ [argument])
              waiting := false })
          else continueWith (grammar.operand argument progress)
        | none => continueWith (grammar.operand argument progress)

def parse (common : Options) (grammar : Grammar α) (arguments : List String) :
    Except UsageFault (Understood α) :=
  parseFrom common true grammar {} arguments

end Grammar

end ContentHub.Command
