import SchemaBinding.Code.Target

/-!
# `SchemaBinding.Command.Arguments`: the arguments of a run

One argument names the schema. The others are options, with one dash and a letter or two dashes and a word.
Some of them take a value, which stands behind them or is the next argument. Letters may be put together
behind one dash. After two dashes alone no argument is an option.
-/

set_option autoImplicit false

namespace SchemaBinding

/-- What the arguments ask for. -/
structure Arguments where
  input : Option String := none
  output : Option String := none
  target : Option Target := none
  namespacePrefix : Option String := none
  config : Option String := none
  capitalizedAccessors : Bool := false
  force : Bool := false
  deriving Repr, DecidableEq, Inhabited

/-- Why there is no run. -/
inductive NoRun where
  | misuse
  | version
  | help
  deriving Repr, DecidableEq, Inhabited

/-- An option with a value. -/
inductive ValueOption where
  | output
  | generator
  | namespacePrefix
  | config
  deriving Repr, DecidableEq, Inhabited

/-- An option without one. -/
inductive Switch where
  | capitalizedAccessors
  | force
  | version
  | help
  deriving Repr, DecidableEq, Inhabited

/-- An option. -/
inductive CommandOption where
  | value (o : ValueOption)
  | switch (s : Switch)
  deriving Repr, DecidableEq, Inhabited

/-- The option with a word. -/
def CommandOption.ofWord? : String → Option CommandOption
  | "output" => some (.value .output)
  | "generator" => some (.value .generator)
  | "namespace-prefix" => some (.value .namespacePrefix)
  | "config" => some (.value .config)
  | "use-old-getter-setter" => some (.switch .capitalizedAccessors)
  | "force" => some (.switch .force)
  | "version" => some (.switch .version)
  | "help" => some (.switch .help)
  | _ => none

/-- The option with a letter. -/
def CommandOption.ofLetter? : Char → Option CommandOption
  | 'o' => some (.value .output)
  | 'g' => some (.value .generator)
  | 'f' => some (.switch .force)
  | 'V' => some (.switch .version)
  | 'h' => some (.switch .help)
  | _ => none

namespace Arguments

/-- Stores what may be given once. -/
def once {α : Type} (old : Option α) (new : α) : Except NoRun (Option α) :=
  if old.isNone then .ok (some new) else .error .misuse

/-- A path, which is not empty. -/
def pathOf (value : String) : Except NoRun String := if value.isEmpty then .error .misuse else .ok value

/-- Stores the value of an option. -/
def setValue (a : Arguments) (value : String) : ValueOption → Except NoRun Arguments
  | .output => do return { a with output := ← once a.output (← pathOf value) }
  | .config => do return { a with config := ← once a.config (← pathOf value) }
  | .namespacePrefix => do return { a with namespacePrefix := ← once a.namespacePrefix value }
  | .generator =>
    match Target.ofLabel? value with
    | some target => do return { a with target := ← once a.target target }
    | none => .error .misuse

/-- Turns a switch, which may be turned once. -/
def turn (a : Arguments) : Switch → Except NoRun Arguments
  | .capitalizedAccessors =>
    if a.capitalizedAccessors then .error .misuse else .ok { a with capitalizedAccessors := true }
  | .force => if a.force then .error .misuse else .ok { a with force := true }
  | .version => .error .version
  | .help => .error .help

/-- Stores the name of the schema. -/
def setInput (a : Arguments) (value : String) : Except NoRun Arguments := do
  return { a with input := ← once a.input value }

/-- Reads the letters behind one dash. An option among them takes the rest as its value; when nothing is left
the value is the next argument, and the option is part of the result. -/
def readLetters (a : Arguments) : List Char → Except NoRun (Arguments × Option ValueOption)
  | [] => .ok (a, none)
  | letter :: rest =>
    match CommandOption.ofLetter? letter with
    | none => .error .misuse
    | some (.switch s) => do readLetters (← a.turn s) rest
    | some (.value o) =>
      match rest with
      | [] => .ok (a, some o)
      | '=' :: value => (a.setValue (String.ofList value) o).map (·, none)
      | value => (a.setValue (String.ofList value) o).map (·, none)

/-- Reads the word behind two dashes, with the value behind an equals sign if there is one. -/
def readWord (a : Arguments) (cs : List Char) : Except NoRun (Arguments × Option ValueOption) :=
  let word := cs.takeWhile (· ≠ '=')
  let value := (cs.drop word.length).tail?.map String.ofList
  match CommandOption.ofWord? (String.ofList word), value with
  | none, _ => .error .misuse
  | some (.switch s), none => (a.turn s).map (·, none)
  | some (.switch _), some _ => .error .misuse
  | some (.value o), none => .ok (a, some o)
  | some (.value o), some value => (a.setValue value o).map (·, none)

/-- Whether an argument has the form of an option. A dash alone has not. -/
def isOption (arg : String) : Bool := arg.length > 1 && arg.toList.head? = some '-'

/-- Reads arguments. An option that waits for its value takes the next argument, which must not have the form
of an option. -/
def readAll (a : Arguments) (waiting : Option ValueOption) : List String → Except NoRun Arguments
  | [] => if waiting.isSome then .error .misuse else .ok a
  | arg :: rest =>
    match waiting with
    | some o => if isOption arg then .error .misuse else do readAll (← a.setValue arg o) none rest
    | none =>
      match arg.toList with
      | ['-', '-'] => rest.foldlM setInput a
      | '-' :: '-' :: word => do
        let (a, waiting) ← a.readWord word
        readAll a waiting rest
      | '-' :: letter :: letters => do
        let (a, waiting) ← a.readLetters (letter :: letters)
        readAll a waiting rest
      | _ => do readAll (← a.setInput arg) none rest

/-- The arguments of a run. The schema must be named. -/
def ofList (args : List String) : Except NoRun Arguments := do
  let a ← readAll {} none args
  if a.input.isNone then .error .misuse else .ok a

end Arguments

end SchemaBinding
