/-! # Argument grammars

How the arguments of a program are read. Options may stand anywhere, a value follows
its option or is attached to it, and a command inside a choice has options of its
own. A request for help counts as soon as it is met.
-/

namespace PromptClient.Arguments

/-- What an option does. -/
inductive Effect
  | value (accepts : String → Bool)
  | flag
  | help
  | version

/-- An option that may stand among the arguments. -/
structure Rule where
  name : String
  letter : Option Char
  effect : Effect

/-- What may stand among the arguments of a command. -/
inductive Grammar
  | words (rules : List Rule) (count : Nat)
  | choice (rules : List Rule) (commands : List (String × Grammar))

namespace Grammar

def rules : Grammar → List Rule
  | .words rules _ => rules
  | .choice rules _ => rules

def commands : Grammar → List (String × Grammar)
  | .words _ _ => []
  | .choice _ commands => commands

def wordCount : Grammar → Nat
  | .words _ count => count
  | .choice _ _ => 0

def isChoice : Grammar → Bool
  | .words _ _ => false
  | .choice _ _ => true

/-- Asks for help on the commands that are named after it. -/
def helpCommand : String := "help"

def leadsAlong (grammar : Grammar) : List String → Bool
  | [] => true
  | name :: rest =>
      match grammar.commands.lookup name with
      | some inner => inner.leadsAlong rest
      | none => grammar.isChoice && name = helpCommand && rest.isEmpty

end Grammar

/-- What has been given to one command: its options, each with its value, and its
words. -/
structure Given where
  options : List (String × String)
  words : List String
deriving DecidableEq, Repr

/-- The value given to an option; a flag has an empty one. -/
def Given.value? (given : Given) (name : String) : Option String :=
  given.options.lookup name

/-- What arguments come to. -/
inductive Outcome
  | help
  | version
  | misuse
  /-- The commands chosen, outermost first, and what each level has been given. -/
  | accepted (path : List String) (levels : List Given)
deriving DecidableEq, Repr

/-! ## Reading -/

structure Reading where
  given : Given
  /-- The option read last, while its value is missing or has not been looked at. -/
  pending : Option (Rule × Option String)
  /-- Nothing but words may follow. -/
  onlyWords : Bool

namespace Reading

def start : Reading :=
  ⟨⟨[], []⟩, none, false⟩

/-- The option read last has no value yet. -/
def isWaiting (reading : Reading) : Bool :=
  match reading.pending with
  | some (_, none) => true
  | _ => false

/-- Add an option, which may occur only once. -/
def add? (reading : Reading) (rule : Rule) (value : String) : Option Reading :=
  let isGood := match rule.effect with
    | .value accepts => accepts value
    | _ => true
  if isGood && (reading.given.value? rule.name).isNone then
    some { reading with
      given := { reading.given with options := (rule.name, value) :: reading.given.options } }
  else none

/-- Look at the value of the option read last; none if that is missing or wrong. -/
def settle? (reading : Reading) : Option Reading :=
  match reading.pending with
  | none => some reading
  | some (_, none) => none
  | some (rule, some value) => { reading with pending := none }.add? rule value

end Reading

inductive Move
  | stay (reading : Reading)
  | enter (name : String) (inner : Grammar)
  | helpOn
  | stop (outcome : Outcome)

/-- Go on with a reading, if there is one. -/
def Move.ofReading? : Option Reading → Move
  | some reading => .stay reading
  | none => .stop .misuse

/-- End with an outcome, unless the option read last is wrong. -/
def Move.endWith (reading : Reading) (outcome : Outcome) : Move :=
  .stop (match reading.settle? with
    | some _ => outcome
    | none => .misuse)

/-- An option that takes no value. -/
def meetBare (reading : Reading) (rule : Rule) : Move :=
  match rule.effect with
  | .value _ => .ofReading? (reading.settle?.map fun settled =>
      { settled with pending := some (rule, none) })
  | .flag => .ofReading? (reading.settle?.bind fun settled => settled.add? rule "")
  | .help => .endWith reading .help
  | .version => .endWith reading .version

def meetAttached (reading : Reading) (rule : Rule) (value : String) : Move :=
  match rule.effect with
  | .value _ => .ofReading? (reading.settle?.bind fun settled => settled.add? rule value)
  | _ => .stop .misuse

/-- An argument that begins with two hyphens, without these. -/
def meetName (rules : List Rule) (reading : Reading) (text : List Char) : Move :=
  let (name, attached) := text.span (· ≠ '=')
  match rules.find? (·.name = String.ofList name), attached with
  | none, _ => .stop .misuse
  | some rule, [] => meetBare reading rule
  | some rule, _ :: value => meetAttached reading rule (String.ofList value)

/-- An argument that begins with one hyphen: the letter after it and the rest, which
is the letter's value if it takes one. -/
def meetLetter (rules : List Rule) (reading : Reading) (letter : Char) (rest : List Char) :
    Move :=
  match rules.find? (·.letter = some letter) with
  | none => .stop .misuse
  | some rule =>
      match rule.effect, rest with
      | .value _, '=' :: value => meetAttached reading rule (String.ofList value)
      | .value _, head :: tail => meetAttached reading rule (String.ofList (head :: tail))
      | .flag, _ :: _ => .stop .misuse
      | _, _ => meetBare reading rule

def meetWord (grammar : Grammar) (reading : Reading) (word : String) : Move :=
  if reading.given.words.length < grammar.wordCount then
    .ofReading? (reading.settle?.map fun settled =>
      { settled with
        given := { settled.given with words := settled.given.words ++ [word] } })
  else .stop .misuse

/-- The value of the option read last, or else a word. -/
def meetPlain (grammar : Grammar) (reading : Reading) (argument : String) : Move :=
  match reading.pending with
  | some (rule, none) => .stay { reading with pending := some (rule, some argument) }
  | _ => meetWord grammar reading argument

def meetOther (grammar : Grammar) (reading : Reading) (argument : String) : Move :=
  match argument.toList with
  | ['-', '-'] => .stay { reading with onlyWords := true }
  | '-' :: '-' :: text => meetName grammar.rules reading text
  | '-' :: letter :: rest => meetLetter grammar.rules reading letter rest
  | _ => meetPlain grammar reading argument

/-- What an argument brings about where the reading stands. -/
def meet (grammar : Grammar) (reading : Reading) (argument : String) : Move :=
  if reading.onlyWords then meetWord grammar reading argument
  else if reading.isWaiting then meetOther grammar reading argument
  else match grammar.commands.lookup argument with
    | some inner => .enter argument inner
    | none =>
        if grammar.isChoice && argument = Grammar.helpCommand then .helpOn
        else meetOther grammar reading argument

def finish (grammar : Grammar) (reading : Reading) : Outcome :=
  match reading.settle? with
  | none => .misuse
  | some settled =>
      if !grammar.isChoice && settled.given.words.length = grammar.wordCount then
        .accepted [] [settled.given]
      else .misuse

def enclose (reading : Reading) (name : String) : Outcome → Outcome
  | .accepted path levels =>
      match reading.settle? with
      | some settled => .accepted (name :: path) (settled.given :: levels)
      | none => .misuse
  | other => other

/-- Read the arguments of a command from where the reading stands. -/
def readFrom (grammar : Grammar) (reading : Reading) : List String → Outcome
  | [] => finish grammar reading
  | argument :: rest =>
      match meet grammar reading argument with
      | .stop outcome => outcome
      | .stay next => readFrom grammar next rest
      | .helpOn => if grammar.leadsAlong rest then .help else .misuse
      | .enter name inner => enclose reading name (readFrom inner .start rest)

def read (grammar : Grammar) (arguments : List String) : Outcome :=
  readFrom grammar .start arguments

end PromptClient.Arguments
