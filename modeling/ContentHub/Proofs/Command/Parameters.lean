import ContentHub.Proofs.Command.Course
import ContentHub.Proofs.Query.Canonical
import ContentHub.Proofs.Query.Document
import ContentHub.Proofs.Query.Pairs
import Mathlib.Data.List.TakeWhile
import Mathlib.Tactic

/-!
Command lines that give the parameters of a query. Every parameter is a key and a value around its
first equals sign, and what the command answers depends on the values of each key alone. So the
parameters may come in any order that keeps those with one key in order.
-/

namespace ContentHub.Command

open Query

def keyOf? (parameter : String) : Option String :=
  (splitParameter parameter).map Prod.fst

def pairsOf (parameters : List String) : Pairs :=
  parameters.filterMap splitParameter

structure Shuffled (parameters others : List String) : Prop where
  perm : parameters.Perm others
  order : ∀ key, parameters.filter (fun parameter => keyOf? parameter = some key) =
    others.filter fun parameter => keyOf? parameter = some key

structure Reordered (parameters others : List String) : Prop extends
    Shuffled parameters others where
  keyless : parameters.filter (fun parameter => keyOf? parameter = none) =
    others.filter fun parameter => keyOf? parameter = none

def refusal (parameter : String) : UsageFault :=
  @UsageFault.refusedValue ("expected key=value, got '" ++ parameter ++ "'")

/-- The words behind `query parse`, the parameters they give and whether they ask for the strict
reading. A parameter may be joined to the name of its option, and may stand by itself if it does not
look like an option. -/
inductive QueryWords : List String → List String → Bool → Prop
  | nil : QueryWords [] [] false
  | joined {words parameters : List String} {strict : Bool} (parameter : String)
      (h : QueryWords words parameters strict) :
      QueryWords (("--param=" ++ parameter) :: words) (parameter :: parameters) strict
  | apart {words parameters : List String} {strict : Bool} (parameter : String)
      (hplain : parameter = "-" ∨ parameter.toList.head? ≠ some '-')
      (h : QueryWords words parameters strict) :
      QueryWords ("--param" :: parameter :: words) (parameter :: parameters) strict
  | strict {words parameters : List String} (h : QueryWords words parameters false) :
      QueryWords ("--rest" :: words) parameters true

def settingsReply (settings : Except Error Settings) : Reply :=
  .of (fun settings => ⟨.ok (), [settings.toJson.pretty]⟩)
    (settings.bind fun settings => canonicalSettings (some settings))

lemma splitParameter_joined (key value : String) (hkey : '=' ∉ key.toList) :
    splitParameter (key ++ "=" ++ value) = some (key, value) := by
  have hbefore : ∀ c ∈ key.toList, decide (c ≠ '=') = true := by
    intro c hc
    exact decide_eq_true fun h => hkey (h ▸ hc)
  have htext : (key ++ "=" ++ value).toList = key.toList ++ '=' :: value.toList := by simp
  simp only [splitParameter, htext]
  rw [List.takeWhile_append_of_pos hbefore, List.dropWhile_append_of_pos hbefore]
  simp

lemma splitParameter_eq_none (parameter : String) :
    splitParameter parameter = none ↔ '=' ∉ parameter.toList := by
  constructor
  · intro hnone hmem
    obtain ⟨before, after, hsplit, hbefore⟩ := List.eq_append_cons_of_mem hmem
    have hjoined : parameter = String.ofList before ++ "=" ++ String.ofList after := by
      rw [← String.toList_inj, hsplit]
      simp
    rw [hjoined, splitParameter_joined _ _ (by simpa using hbefore)] at hnone
    cases hnone
  · intro hmem
    have hdrop : parameter.toList.dropWhile (fun c => decide (c ≠ '=')) = [] := by
      rw [List.dropWhile_eq_nil_iff]
      intro c hc
      exact decide_eq_true fun h => hmem (h ▸ hc)
    simp only [splitParameter, hdrop]

lemma splitParameter_eq_some (parameter key value : String) :
    splitParameter parameter = some (key, value) ↔
      '=' ∉ key.toList ∧ parameter = key ++ "=" ++ value := by
  constructor
  · intro hsome
    have hmem : '=' ∈ parameter.toList := by
      by_contra hnone
      rw [(splitParameter_eq_none parameter).mpr hnone] at hsome
      cases hsome
    obtain ⟨before, after, hsplit, hbefore⟩ := List.eq_append_cons_of_mem hmem
    have hkey : '=' ∉ (String.ofList before).toList := by simpa using hbefore
    have hjoined : parameter = String.ofList before ++ "=" ++ String.ofList after := by
      rw [← String.toList_inj, hsplit]
      simp
    rw [hjoined, splitParameter_joined _ _ hkey] at hsome
    obtain ⟨rfl, rfl⟩ := Prod.mk.inj (Option.some.inj hsome)
    exact ⟨hkey, hjoined⟩
  · rintro ⟨hkey, rfl⟩
    exact splitParameter_joined key value hkey

lemma keyOf?_eq_none (parameter : String) : keyOf? parameter = none ↔ '=' ∉ parameter.toList := by
  rw [keyOf?, Option.map_eq_none_iff, splitParameter_eq_none]

lemma checkParameter_eq (parameter : String) :
    checkParameter parameter =
      if keyOf? parameter = none then some (refusal parameter) else none := by
  cases hsplit : splitParameter parameter <;> simp [checkParameter, keyOf?, hsplit, refusal]

lemma findSome?_checkParameter (parameters : List String) :
    parameters.findSome? checkParameter =
      (parameters.filter fun parameter => keyOf? parameter = none).head?.map refusal := by
  induction parameters with
  | nil => rfl
  | cons parameter rest ih =>
    by_cases hkey : keyOf? parameter = none
    · simp [checkParameter_eq, hkey]
    · simp [checkParameter_eq, hkey, ih]

lemma findSome?_checkParameter_eq_none (parameters : List String) :
    parameters.findSome? checkParameter = none ↔
      ∀ parameter ∈ parameters, '=' ∈ parameter.toList := by
  rw [List.findSome?_eq_none_iff]
  refine forall₂_congr fun parameter _ => ?_
  simp [checkParameter_eq, keyOf?_eq_none]

section Words

def paramSlot : Slot :=
  { name := "param", intake := .values, check := checkParameter }

def strictSlot : Slot :=
  { name := "rest", intake := .flag }

def parseCommand : Grammar Task :=
  .leaf [paramSlot, strictSlot] [] 0 fun given =>
    .querySettings ((given.values "param").filterMap splitParameter) (given.has "rest")

def understood (parameters : List String) (strict : Bool) : Except UsageFault (Understood Task) :=
  match parameters.findSome? checkParameter with
  | some fault => .error fault
  | none => .ok ⟨[], .querySettings (pairsOf parameters) strict⟩

structure Takes (progress : Progress) (done pending : List String) (strict : Bool) : Prop where
  values : progress.given.values "param" = done
  strict : progress.given.has "rest" = strict
  own : ∀ entry ∈ progress.given, entry.1 = "param" ∨ entry.1 = "rest"
  checked : done.findSome? checkParameter = none
  pending : progress.pending = if pending = [] then none else some (paramSlot, pending)
  waiting : progress.waiting = false
  plain : progress.plain = false

variable {progress : Progress} {done pending words parameters : List String} {strict : Bool}

lemma record_paramSlot (progress : Progress) (hpending : pending ≠ []) :
    progress.record paramSlot pending =
      match pending.findSome? checkParameter with
      | some fault => .error fault
      | none => .ok { progress with given := progress.given ++ [("param", pending)] } := by
  rw [Progress.record, if_neg (by simp [hpending]), if_neg (by simp [paramSlot])]
  rfl

lemma Takes.settle (h : Takes progress done pending strict) :
    (∃ settled, progress.settle = .ok settled ∧ Takes settled (done ++ pending) [] strict) ∨
      ∃ fault, pending.findSome? checkParameter = some fault ∧
        progress.settle = .error fault := by
  have hpending := h.pending
  by_cases hnone : pending = []
  · subst hnone
    rw [if_pos rfl] at hpending
    refine Or.inl ⟨progress, by rw [Progress.settle, hpending], ?_⟩
    rwa [List.append_nil]
  · rw [if_neg hnone] at hpending
    rw [Progress.settle, hpending]
    simp only [record_paramSlot _ hnone]
    cases hchecked : pending.findSome? checkParameter with
    | some fault => exact Or.inr ⟨fault, rfl, rfl⟩
    | none =>
      refine Or.inl ⟨_, rfl, ?_, ?_, ?_, ?_, rfl, h.waiting, h.plain⟩
      · simp [Given.values, ← h.values]
      · simp [Given.has, ← h.strict]
      · intro entry hentry
        rcases List.mem_append.mp hentry with hentry | hentry
        · exact h.own entry hentry
        · exact Or.inl (by rw [List.mem_singleton.mp hentry])
      · rw [List.findSome?_append, h.checked, hchecked]
        rfl

def Progress.awaiting (parameter : String) (progress : Progress) : Progress :=
  { progress with pending := some (paramSlot, [parameter]) }

lemma Takes.awaiting (h : Takes progress done [] strict) (parameter : String) :
    Takes (progress.awaiting parameter) done [parameter] strict where
  values := h.values
  strict := h.strict
  own := h.own
  checked := h.checked
  pending := rfl
  waiting := h.waiting
  plain := h.plain

def parseOptions : Options :=
  Grammar.optionsAt commonOptions false parseCommand

def parseWords (progress : Progress) (words : List String) :
    Except UsageFault (Understood Task) :=
  Grammar.parseFrom commonOptions false parseCommand progress words

lemma meetOrAnswer_eq_meet {slot : Slot} (hhelp : slot.name ≠ helpSlot.name)
    (hversion : slot.name ≠ versionSlot.name) (attached : Option String) (progress : Progress) :
    progress.meetOrAnswer slot attached = progress.meet slot attached := by
  simp only [Progress.meetOrAnswer, if_neg hhelp, if_neg hversion]
  cases progress.meet slot attached <;> rfl

lemma parseWords_option {word : String} {body : List Char}
    {act : Progress → Except UsageFault Progress} (hword : word.toList = '-' :: '-' :: body)
    (hbody : body ≠ []) (hwaiting : progress.waiting = false) (hplain : progress.plain = false)
    (hlong : progress.long parseOptions body = progress.settle.bind act) (words : List String) :
    parseWords progress (word :: words) = progress.settle.bind fun settled =>
      (act settled).bind fun next => parseWords next words := by
  have hparse : parseWords progress (word :: words) =
      (progress.long parseOptions body).bind fun next => parseWords next words := by
    obtain ⟨c, rest, rfl⟩ := List.exists_cons_of_ne_nil hbody
    simp [parseWords, Grammar.parseFrom, hplain, hwaiting, Grammar.isCommand, Grammar.commands,
      parseCommand, hword, parseOptions]
  rw [hparse, hlong]
  cases progress.settle <;> rfl

lemma find?_param :
    parseOptions.slots.find? (fun slot => slot.name == "param") = some paramSlot :=
  rfl

lemma long_joined (parameter : String) (progress : Progress) :
    progress.long parseOptions ("param=".toList ++ parameter.toList) =
      progress.settle.bind fun settled =>
        Progress.record paramSlot [parameter] { settled with waiting := false } := by
  have hname : String.ofList (("param=".toList ++ parameter.toList).takeWhile
      fun c => decide (c ≠ '=')) = "param" := by simp
  have hvalue : ("param=".toList ++ parameter.toList).dropWhile (fun c => decide (c ≠ '=')) =
      '=' :: parameter.toList := by simp
  rw [Progress.long]
  simp only [hname, hvalue, find?_param, String.ofList_toList]
  exact meetOrAnswer_eq_meet (by decide) (by decide) _ progress

lemma long_param (progress : Progress) :
    progress.long parseOptions "param".toList = progress.settle.bind fun settled =>
      .ok { settled with pending := some (paramSlot, []), waiting := true } :=
  meetOrAnswer_eq_meet (by decide) (by decide) none progress

lemma long_strict (progress : Progress) :
    progress.long parseOptions "rest".toList = progress.settle.bind fun settled =>
      Progress.record strictSlot [] { settled with waiting := false } :=
  meetOrAnswer_eq_meet (by decide) (by decide) none progress

lemma parseWords_value (parameter : String)
    (hvalue : parameter = "-" ∨ parameter.toList.head? ≠ some '-')
    (hplain : progress.plain = false) (words : List String) :
    parseWords { progress with pending := some (paramSlot, []), waiting := true }
      (parameter :: words) =
        parseWords { progress.awaiting parameter with waiting := false } words := by
  rw [parseWords, Grammar.parseFrom]
  simp only [hplain, Bool.false_eq_true, if_false, Bool.not_true, Bool.false_and]
  split
  · next hword => simp [hword, ← String.toList_inj] at hvalue
  · next hword => simp [hword, ← String.toList_inj] at hvalue
  · next hword => simp [hword, ← String.toList_inj] at hvalue
  · simp only [if_true, Progress.awaiting, hplain]
    rfl

lemma Takes.record (h : Takes progress done [] strict) (parameter : String) :
    Progress.record paramSlot [parameter] { progress with waiting := false } =
      (progress.awaiting parameter).settle := by
  have hpending : progress.pending = none := h.pending
  have hwaiting := h.waiting
  cases progress
  subst hpending hwaiting
  rfl

lemma Takes.strictly (h : Takes progress done [] false) :
    ∃ later, Progress.record strictSlot [] { progress with waiting := false } = .ok later ∧
      Takes later done [] true := by
  refine ⟨{ progress with given := progress.given ++ [("rest", [])], waiting := false }, ?_, ?_⟩
  · simp [Progress.record, strictSlot, Slot.takesValue, h.strict]
  · refine ⟨?_, ?_, ?_, h.checked, h.pending, rfl, h.plain⟩
    · rw [← h.values]
      simp [Given.values]
    · simp [Given.has]
    · intro entry hentry
      rcases List.mem_append.mp hentry with hentry | hentry
      · exact h.own entry hentry
      · exact Or.inr (by rw [List.mem_singleton.mp hentry])

lemma Takes.finish (h : Takes progress done [] strict) :
    parseCommand.finish commonOptions.slots progress = understood done strict := by
  have hpending : progress.pending = none := h.pending
  have hcommon : (progress.given.filter fun entry =>
      commonOptions.slots.any fun slot => slot.name == entry.1) = [] := by
    rw [List.filter_eq_nil_iff]
    intro entry hentry
    rcases h.own entry hentry with hname | hname <;> rw [hname] <;> decide
  simp [Grammar.finish, Progress.settle, hpending, Except.bind, parseCommand, hcommon, h.values,
    h.strict, understood, h.checked, pairsOf]

lemma Takes.bind_settle (h : Takes progress done pending strict)
    {next : Progress → Except UsageFault (Understood Task)} {later : Bool}
    (hnext : ∀ settled, Takes settled (done ++ pending) [] strict →
      next settled = understood (done ++ pending ++ parameters) later) :
    progress.settle.bind next = understood (done ++ pending ++ parameters) later := by
  rcases h.settle with ⟨settled, hsettle, hsettled⟩ | ⟨fault, hrefused, hsettle⟩
  · rw [hsettle, ← hnext settled hsettled]
    rfl
  · have hspoiled : (done ++ pending ++ parameters).findSome? checkParameter = some fault := by
      simp [List.findSome?_append, h.checked, hrefused]
    rw [hsettle, understood, hspoiled]
    rfl

lemma parseWords_takes {later : Bool} (h : QueryWords words parameters later)
    (htakes : Takes progress done pending strict) (honce : strict = true → later = false) :
    parseWords progress words = understood (done ++ pending ++ parameters) (strict || later) := by
  induction h generalizing progress done pending strict with
  | nil =>
    rw [parseWords, Grammar.parseFrom, Grammar.finish, Bool.or_false]
    apply htakes.bind_settle
    intro settled hsettled
    have hnone : settled.settle = .ok settled := by
      rw [Progress.settle, hsettled.pending, if_pos rfl]
    rw [List.append_nil, ← hsettled.finish, Grammar.finish, hnone]
    rfl
  | @joined words parameters later parameter h ih =>
    have hword : ("--param=" ++ parameter).toList =
        '-' :: '-' :: ("param=".toList ++ parameter.toList) := by simp
    rw [parseWords_option hword (by simp) htakes.waiting htakes.plain (long_joined _ _)]
    apply htakes.bind_settle
    intro settled hsettled
    rw [hsettled.record, List.append_cons]
    apply (hsettled.awaiting parameter).bind_settle
    intro next hnext
    rw [ih hnext honce, List.append_nil]
  | @apart words parameters later parameter hplain h ih =>
    rw [parseWords_option rfl (by simp) htakes.waiting htakes.plain (long_param progress)]
    apply htakes.bind_settle
    intro settled hsettled
    have hawaiting := hsettled.awaiting parameter
    have hlater : { settled.awaiting parameter with waiting := false } =
        settled.awaiting parameter := by
      rw [← hawaiting.waiting]
    rw [Except.bind, parseWords_value parameter hplain hsettled.plain, hlater, ih hawaiting honce,
      ← List.append_cons]
  | @strict words parameters h ih =>
    have hbefore : strict = false := by
      cases strict with
      | false => rfl
      | true => cases honce rfl
    subst hbefore
    rw [parseWords_option rfl (by simp) htakes.waiting htakes.plain (long_strict progress)]
    apply htakes.bind_settle
    intro settled hsettled
    obtain ⟨later, hrecord, hlater⟩ := hsettled.strictly
    rw [hrecord, Except.bind, ih hlater fun _ => rfl, List.append_nil]
    rfl

lemma parseFrom_command {grammar inner : Grammar Task} {name : String} (top : Bool)
    (hinner : grammar.command? name = some inner) (words : List String) :
    Grammar.parseFrom commonOptions top grammar {} (name :: words) =
      Grammar.parseFrom commonOptions false inner {} words := by
  have hcommand : grammar.isCommand name = true := by
    have hfilled : grammar.commands.isEmpty = false := by
      cases hcommands : grammar.commands with
      | nil => simp [Grammar.command?, hcommands, Entries.get?] at hinner
      | cons _ _ => rfl
    simp [Grammar.isCommand, hfilled, hinner]
  rw [Grammar.parseFrom]
  simp only [Bool.false_eq_true, if_false, Bool.not_false, Bool.true_and, hcommand, if_true, hinner]
  cases Grammar.parseFrom commonOptions false inner {} words with
  | error fault => rfl
  | ok found => simp [Except.bind, Grammar.enclose, Progress.settle, Except.map]

lemma parseArguments_query (h : QueryWords words parameters strict) :
    parseArguments ("query" :: "parse" :: words) =
      match parameters.findSome? checkParameter with
      | some fault => .error fault
      | none => .ok ⟨none, .querySettings (pairsOf parameters) strict⟩ := by
  have hstart : Takes {} [] [] false := ⟨rfl, rfl, by simp, by simp, rfl, rfl, rfl⟩
  have hwords : parseWords {} words = understood parameters strict :=
    parseWords_takes h hstart (by simp)
  have hparse : Grammar.parse commonOptions commands ("query" :: "parse" :: words) =
      parseWords {} words := by
    have hquery : commands.command? "query" = some queryCommands := rfl
    have hcommand : queryCommands.command? "parse" = some parseCommand := rfl
    rw [Grammar.parse, parseFrom_command true hquery, parseFrom_command false hcommand, parseWords]
  rw [parseArguments, hparse, hwords, understood]
  cases parameters.findSome? checkParameter <;> rfl

end Words

section Answers

variable {words parameters others : List String} {strict : Bool} {pairs : Pairs}

lemma values_pairsOf (key : String) (parameters : List String) :
    (pairsOf parameters).values key =
      (parameters.filter fun parameter => keyOf? parameter = some key).filterMap fun parameter =>
        (splitParameter parameter).map Prod.snd := by
  induction parameters with
  | nil => rfl
  | cons parameter rest ih =>
    have hrest : (pairsOf rest).values key = _ := ih
    simp only [Pairs.values, pairsOf] at hrest ⊢
    cases hsplit : splitParameter parameter with
    | none => simp [keyOf?, hsplit, hrest]
    | some pair => by_cases hkey : pair.1 = key <;> simp [keyOf?, hsplit, hkey, hrest]

lemma Shuffled.values (h : Shuffled parameters others) (key : String) :
    (pairsOf others).values key = (pairsOf parameters).values key := by
  rw [values_pairsOf, values_pairsOf, h.order key]

lemma settingsOf_congr {other : Pairs} (h : ∀ key, other.values key = pairs.values key)
    (strict : Bool) : settingsOf other strict = settingsOf pairs strict := by
  cases strict with
  | false =>
    have hgathers : (Form.ofPairs other).Gathers pairs := fun key => by
      rw [Form.gathers_ofPairs other key, h key]
    have hsettings := Form.settings_of_gathers (Form.gathers_ofPairs pairs) hgathers
    simp only [settingsOf, Bool.false_eq_true, if_false, settingsOfForm, hsettings]
  | true =>
    have hgathers : (Request.ofPairs other).Gathers pairs := fun key => by
      rw [Request.gathers_ofPairs other key, h key]
    have hsettings := Request.settings_of_gathers (Request.gathers_ofPairs pairs) hgathers
    simp only [settingsOf, if_true, settingsOfRequest, hsettings]

variable {environment : Environment} {world : World} {arguments : List String} {config : Config}

lemma replies_querySettings
    (hissued : Issued environment arguments world.files ⟨none, .querySettings pairs strict⟩ config)
    {read : Except Error Settings} (hread : settingsOf pairs strict =
      read.bind fun settings => canonicalSettings (some settings)) :
    Replies (settingsReply read) (run environment arguments world) := by
  have hgives : Gives (do Run.printLine (← Run.check (settingsOf pairs strict)).toJson.pretty)
      (settingsReply read) := by
    rw [settingsReply, hread]
    cases read.bind fun settings => canonicalSettings (some settings) with
    | error e => exact gives_throw_bind _ _
    | ok settings => exact gives_printLine _
  rw [run_issued hissued]
  simp only [runTask, hgives { world with output := "" }]
  exact replies_ended _ world.files world

structure QueryAnswered (environment : Environment) (world : World) (parameters : List String)
    (strict : Bool) (result : Outcome × World) : Prop where
  refused : (∃ parameter ∈ parameters, '=' ∉ parameter.toList) →
    ∃ before parameter after, parameters = before ++ parameter :: after ∧
      (∀ earlier ∈ before, '=' ∈ earlier.toList) ∧ '=' ∉ parameter.toList ∧
      result = (.usage (refusal parameter), world)
  unconfigured : (∀ parameter ∈ parameters, '=' ∈ parameter.toList) →
    ∀ e, Config.load environment.home world.files = .error e →
      result = (.failure (.hub e), { world with output := "" })
  lenient : strict = false → (∀ parameter ∈ parameters, '=' ∈ parameter.toList) →
    ∀ config, Config.load environment.home world.files = .ok config →
      (∃ form : Form, form.Gathers (pairsOf parameters)) ∧
        ∀ form : Form, form.Gathers (pairsOf parameters) →
          (∀ key, form.first? key = ((pairsOf parameters).values key).head?) ∧
            Replies (settingsReply (settingsOfForm (some form))) result
  strict : strict = true → (∀ parameter ∈ parameters, '=' ∈ parameter.toList) →
    ∀ config, Config.load environment.home world.files = .ok config →
      (∃ request : Query.Request, request.Gathers (pairsOf parameters)) ∧
        ∀ request : Query.Request, request.Gathers (pairsOf parameters) →
          Replies (settingsReply (settingsOfRequest (some request))) result

lemma exists_first_keyless (h : ∃ parameter ∈ parameters, '=' ∉ parameter.toList) :
    ∃ before parameter after, parameters = before ++ parameter :: after ∧
      (∀ earlier ∈ before, '=' ∈ earlier.toList) ∧ '=' ∉ parameter.toList ∧
      parameters.findSome? checkParameter = some (refusal parameter) := by
  obtain ⟨parameter, hmem, hkeyless⟩ := h
  have hsome : parameters.findSome? checkParameter ≠ none := fun hnone =>
    hkeyless ((findSome?_checkParameter_eq_none parameters).mp hnone parameter hmem)
  obtain ⟨fault, hfault⟩ := Option.ne_none_iff_exists'.mp hsome
  obtain ⟨before, first, after, rfl, hfirst, hbefore⟩ := List.findSome?_eq_some_iff.mp hfault
  have hsplit : keyOf? first = none := by
    by_contra hkey
    simp [checkParameter_eq, hkey] at hfirst
  rw [checkParameter_eq, if_pos hsplit] at hfirst
  refine ⟨before, first, after, rfl, ?_, (keyOf?_eq_none first).mp hsplit, hfault.trans hfirst.symm⟩
  rw [← findSome?_checkParameter_eq_none, List.findSome?_eq_none_iff]
  exact hbefore

lemma queryAnswered (h : QueryWords words parameters strict) (environment : Environment)
    (world : World) :
    QueryAnswered environment world parameters strict
      (run environment ("query" :: "parse" :: words) world) := by
  have hparse := parseArguments_query h
  refine ⟨fun hrefused => ?_, fun hall e hloaded => ?_, fun hlenient hall config hloaded => ?_,
    fun hstrict hall config hloaded => ?_⟩
  · obtain ⟨before, first, after, hparameters, hbefore, hkeyless, hfault⟩ :=
      exists_first_keyless hrefused
    rw [hfault] at hparse
    refine ⟨before, first, after, hparameters, hbefore, hkeyless, ?_⟩
    simp only [run, hparse]
  · rw [(findSome?_checkParameter_eq_none parameters).mpr hall] at hparse
    simp only [run, hparse, run_runRequest, hloaded]
  · subst hlenient
    rw [(findSome?_checkParameter_eq_none parameters).mpr hall] at hparse
    refine ⟨⟨_, Form.gathers_ofPairs _⟩, fun form hform => ⟨fun key => ?_, ?_⟩⟩
    · rw [Form.first?, hform.values]
    · apply replies_querySettings ⟨hparse, hloaded⟩
      have hsettings := Form.settings_of_gathers hform (Form.gathers_ofPairs (pairsOf parameters))
      simp only [settingsOf, settingsOfForm, hsettings, Bool.false_eq_true, if_false]
  · subst hstrict
    rw [(findSome?_checkParameter_eq_none parameters).mpr hall] at hparse
    refine ⟨⟨_, Request.gathers_ofPairs _⟩, fun request hrequest => ?_⟩
    apply replies_querySettings ⟨hparse, hloaded⟩
    have hsettings :=
      Request.settings_of_gathers hrequest (Request.gathers_ofPairs (pairsOf parameters))
    simp only [settingsOf, settingsOfRequest, hsettings, if_true]

lemma run_refused (h : QueryWords words parameters strict)
    (hrefused : ∃ parameter ∈ parameters, '=' ∉ parameter.toList) (environment : Environment)
    (world : World) :
    ∃ parameter ∈ parameters, '=' ∉ parameter.toList ∧
      run environment ("query" :: "parse" :: words) world =
        (.usage (refusal parameter), world) := by
  obtain ⟨before, first, after, hparameters, -, hkeyless, hrun⟩ :=
    (queryAnswered h environment world).refused hrefused
  exact ⟨first, by simp [hparameters], hkeyless, hrun⟩

variable {otherWords : List String}

lemma run_eq_of_checked (h : QueryWords words parameters strict)
    (ho : QueryWords otherWords others strict) (hshuffled : Shuffled parameters others)
    (hchecked : others.findSome? checkParameter = parameters.findSome? checkParameter)
    (environment : Environment) (world : World) :
    run environment ("query" :: "parse" :: otherWords) world =
      run environment ("query" :: "parse" :: words) world := by
  have hsettings := settingsOf_congr hshuffled.values strict
  have hparse := parseArguments_query h
  have hother := parseArguments_query ho
  rw [hchecked] at hother
  cases hfault : parameters.findSome? checkParameter with
  | some fault =>
    rw [hfault] at hparse hother
    simp only [run, hparse, hother]
  | none =>
    rw [hfault] at hparse hother
    simp only [run, hparse, hother, run_runRequest, runTask, hsettings]

lemma run_reordered (h : QueryWords words parameters strict)
    (ho : QueryWords otherWords others strict) (hreordered : Reordered parameters others)
    (environment : Environment) (world : World) :
    run environment ("query" :: "parse" :: otherWords) world =
      run environment ("query" :: "parse" :: words) world := by
  apply run_eq_of_checked h ho hreordered.toShuffled
  rw [findSome?_checkParameter, findSome?_checkParameter, hreordered.keyless]

def SameAnswer (parameters : List String) (world : World) (one other : Outcome × World) : Prop :=
  one = other ∨ ∃ p ∈ parameters, ∃ q ∈ parameters, '=' ∉ p.toList ∧ '=' ∉ q.toList ∧
    one = (.usage (refusal p), world) ∧ other = (.usage (refusal q), world)

lemma run_shuffled (h : QueryWords words parameters strict)
    (ho : QueryWords otherWords others strict) (hshuffled : Shuffled parameters others)
    (environment : Environment) (world : World) :
    SameAnswer parameters world (run environment ("query" :: "parse" :: otherWords) world)
      (run environment ("query" :: "parse" :: words) world) := by
  by_cases hall : ∀ parameter ∈ parameters, '=' ∈ parameter.toList
  · have hothers : ∀ parameter ∈ others, '=' ∈ parameter.toList := fun parameter hmem =>
      hall parameter (hshuffled.perm.mem_iff.mpr hmem)
    left
    apply run_eq_of_checked h ho hshuffled
    rw [(findSome?_checkParameter_eq_none _).mpr hall,
      (findSome?_checkParameter_eq_none _).mpr hothers]
  · have hrefused : ∃ parameter ∈ parameters, '=' ∉ parameter.toList := by simpa using hall
    obtain ⟨keyless, hmem, hkeyless⟩ := hrefused
    obtain ⟨p, hp, hpkey, hprun⟩ :=
      run_refused ho ⟨keyless, hshuffled.perm.mem_iff.mp hmem, hkeyless⟩ environment world
    obtain ⟨q, hq, hqkey, hqrun⟩ := run_refused h ⟨keyless, hmem, hkeyless⟩ environment world
    exact Or.inr ⟨p, hshuffled.perm.mem_iff.mpr hp, q, hq, hpkey, hqkey, hprun, hqrun⟩

lemma settingsReply_ok (settings : Settings) :
    ∃ printed text, settingsReply (.ok settings) = ⟨.ok (), [printed]⟩ ∧
      (Json.parse? printed).map Settings.ofJson = some (.ok { settings with text := some text }) ∧
      text = canonicalText settings.text ∧ Canonical text := by
  have htidy : Json.Tidy Json.maxDepth settings.canonical.toJson := settings.canonical.tidy_toJson
  exact ⟨_, _, rfl, ofJson_parse? settings.canonical htidy.parse?_eq.2, rfl,
    canonical_canonicalText settings.text⟩

/-- A parameter is split at its first equals sign and refused without one. A query prints the
canonical form of the settings of all values of each key, or in the strict reading of the last ones.
The order of parameters with different keys matters only to which one without a key is refused. -/
theorem query_parameters (h : QueryWords words parameters strict) (environment : Environment)
    (world : World) :
    (∀ parameter ∈ parameters,
      ((∃ pair, splitParameter parameter = some pair) ↔ '=' ∈ parameter.toList) ∧
        ∀ key value, splitParameter parameter = some (key, value) ↔
          '=' ∉ key.toList ∧ parameter = key ++ "=" ++ value) ∧
      QueryAnswered environment world parameters strict
        (run environment ("query" :: "parse" :: words) world) ∧
      (∀ settings, ∃ printed text, settingsReply (.ok settings) = ⟨.ok (), [printed]⟩ ∧
        (Json.parse? printed).map Settings.ofJson =
          some (.ok { settings with text := some text }) ∧
        text = canonicalText settings.text ∧ Canonical text) ∧
      (∀ e, settingsReply (.error e) = ⟨.error (.hub e), []⟩) ∧
      (∀ otherWords others, QueryWords otherWords others strict → Reordered parameters others →
        run environment ("query" :: "parse" :: otherWords) world =
          run environment ("query" :: "parse" :: words) world) ∧
      ∀ otherWords others, QueryWords otherWords others strict → Shuffled parameters others →
        SameAnswer parameters world
          (run environment ("query" :: "parse" :: otherWords) world)
          (run environment ("query" :: "parse" :: words) world) := by
  refine ⟨fun parameter _ => ⟨?_, splitParameter_eq_some parameter⟩,
    queryAnswered h environment world, settingsReply_ok, fun _ => rfl,
    fun otherWords others ho hreordered => run_reordered h ho hreordered environment world,
    fun otherWords others ho hshuffled => run_shuffled h ho hshuffled environment world⟩
  rw [← Option.ne_none_iff_exists', Ne, splitParameter_eq_none, not_not]

end Answers

section Samples

def askedWords : List String :=
  ["--param=start=7", "--rest", "--param", "sortBy=New", "--param=sortBy=old"]

def reorderedWords : List String :=
  ["--param", "sortBy=New", "--param=sortBy=old", "--param=start=7", "--rest"]

def askedRequest : Query.Request :=
  [("sortBy", "old"), ("start", "7")]

def asker : Environment where
  home := some "/"
  fresh _ := ("", "")

lemma queryWords_asked :
    QueryWords askedWords ["start=7", "sortBy=New", "sortBy=old"] true :=
  .joined "start=7" (.strict (.apart "sortBy=New" (Or.inr (by decide))
    (.joined "sortBy=old" .nil)))

lemma queryWords_reordered :
    QueryWords reorderedWords ["sortBy=New", "sortBy=old", "start=7"] true :=
  .apart "sortBy=New" (Or.inr (by decide))
    (.joined "sortBy=old" (.joined "start=7" (.strict .nil)))

lemma reordered_sample :
    Reordered ["start=7", "sortBy=New", "sortBy=old"] ["sortBy=New", "sortBy=old", "start=7"] where
  perm := by decide
  order key := by
    have hstart : keyOf? "start=7" = some "start" := by decide
    have hnew : keyOf? "sortBy=New" = some "sortBy" := by decide
    have hold : keyOf? "sortBy=old" = some "sortBy" := by decide
    by_cases hkey : "start" = key
    · subst hkey
      simp [hstart, hnew, hold]
    · simp [List.filter_cons, hstart, hnew, hold, hkey]
  keyless := by decide

lemma gathers_askedRequest :
    askedRequest.Gathers (pairsOf ["start=7", "sortBy=New", "sortBy=old"]) := by
  intro key
  have hpairs : pairsOf ["start=7", "sortBy=New", "sortBy=old"] =
      [("start", "7"), ("sortBy", "New"), ("sortBy", "old")] := by decide
  rw [hpairs]
  by_cases hstart : "start" = key
  · subst hstart
    rfl
  · by_cases hsort : "sortBy" = key
    · subst hsort
      rfl
    · simp [askedRequest, Entries.get?, Pairs.values, hstart, hsort]

theorem query_parameters_sample :
    QueryWords askedWords ["start=7", "sortBy=New", "sortBy=old"] true ∧
      splitParameter "sortBy=New" = some ("sortBy", "New") ∧
      Replies (settingsReply (settingsOfRequest (some askedRequest)))
        (run asker ("query" :: "parse" :: askedWords) { files := {} }) ∧
      run asker ("query" :: "parse" :: reorderedWords) { files := {} } =
        run asker ("query" :: "parse" :: askedWords) { files := {} } := by
  obtain ⟨hsplit, hanswered, -, -, hreordered, -⟩ :=
    query_parameters queryWords_asked asker { files := {} }
  obtain ⟨config, hloaded⟩ : ∃ config, Config.load asker.home {} = .ok config :=
    ⟨{}, by decide +kernel⟩
  refine ⟨queryWords_asked, ?_, ?_, hreordered _ _ queryWords_reordered reordered_sample⟩
  · exact ((hsplit "sortBy=New" (by decide)).2 "sortBy" "New").mpr ⟨by decide, by decide⟩
  · exact (hanswered.strict rfl (by decide) config hloaded).2 askedRequest gathers_askedRequest

end Samples

end ContentHub.Command
