import CardToolkit.CommandLine.Number

/-!
# Arguments

How the words of a command line are taken apart. A *form* says which arguments
there are: options, which are announced by their name, some of which are
followed by a value, and positional arguments, which are known by their order.

The value of an option may be in the same word, behind an equals sign, or in the
next one. In the second case, as for a positional argument, it *waits* to be
read: it is read when the next argument is taken, or at the end. A word that is
no argument at all is thus found before a value in front of it that cannot be
read. After the word `--`, every word is positional.

* `Form`: which arguments there are, and which exclude or require each other;
* `Form.parse`: the arguments that are given, or why the words are refused
  (`UsageFault`).
-/

namespace CardToolkit.CommandLine

/-- Why the words of a command line are refused, or are no command. -/
inductive UsageFault
  /-- There is no word at all. -/
  | noArguments
  /-- Help is asked for. -/
  | help
  /-- The version is asked for. -/
  | version
  /-- There is no command of this name. -/
  | unknownCommand
  /-- There is no command. -/
  | noCommand
  /-- There is no such argument. -/
  | unknownArgument
  /-- An argument is missing. -/
  | missingArgument
  /-- Arguments exclude each other, or one is given twice. -/
  | conflict
  /-- A value is missing, or is none of those there are. -/
  | invalidValue
  /-- A value is not that of a number. -/
  | notANumber
  /-- An option without a value has one. -/
  | unexpectedValue
  deriving DecidableEq

/-- What the value of an argument may be. -/
inductive ValueKind
  /-- Any text. -/
  | text
  /-- A byte in decimal. -/
  | decimalByte
  /-- A byte in hexadecimal. -/
  | hexByte
  /-- One of these words. -/
  | oneOf (words : List String)
  deriving DecidableEq

/-- The value of an argument. -/
inductive Value
  | text (text : String)
  | byte (b : UInt8)
  deriving DecidableEq

/-- The value of a text. -/
def ValueKind.read (kind : ValueKind) (text : String) : Except UsageFault Value :=
  match kind with
  | .text => .ok (.text text)
  | .decimalByte =>
    match CommandLine.decimalByte? text with
    | some b => .ok (.byte b)
    | none => .error .notANumber
  | .hexByte =>
    match CommandLine.hexByte text with
    | .ok b => .ok (.byte b)
    | .error _ => .error .notANumber
  | .oneOf words => if text ∈ words then .ok (.text text) else .error .invalidValue

/-- An option, with what its value may be if it has one. -/
structure OptionForm where
  /-- The name behind two dashes. -/
  name : String
  /-- The letter behind one dash. -/
  letter : Option Char := none
  kind : Option ValueKind := none
  deriving DecidableEq

/-- A positional argument, which is given exactly once. -/
structure PositionalForm where
  name : String
  kind : ValueKind
  deriving DecidableEq

/-- Which arguments there are. -/
structure Form where
  options : List OptionForm := []
  positionals : List PositionalForm := []
  /-- The options that must be given. -/
  required : List String := []
  /-- Pairs of options that exclude each other. -/
  exclusions : List (String × String) := []
  /-- Pairs of options of which the first requires the second. -/
  requirements : List (String × String) := []
  /-- The version may be asked for. -/
  hasVersion : Bool := false
  deriving DecidableEq

/-- An argument that is given: its name, and its value if it has one. -/
structure Given where
  name : String
  value : Option Value
  deriving DecidableEq

/-- An argument whose value waits to be read, or has not come yet. -/
structure Waiting where
  name : String
  kind : ValueKind
  text : Option String
  deriving DecidableEq

/-- How far the words are taken apart. -/
structure Progress where
  given : List Given := []
  waiting : Option Waiting := none
  /-- The positional arguments that are still to come. -/
  positionals : List PositionalForm
  /-- The word `--` has come. -/
  onlyPositionals : Bool := false
  deriving DecidableEq

namespace Progress

/-- The argument of this name is given. -/
def has (p : Progress) (name : String) : Bool := p.given.any fun g => g.name == name

/-- An argument is given, unless it is so already. -/
def add (p : Progress) (name : String) (value : Except UsageFault (Option Value)) :
    Except UsageFault Progress :=
  if p.has name then .error .conflict
  else value.map fun v => { p with given := p.given ++ [⟨name, v⟩] }

/-- What waits is read. -/
def resolve (p : Progress) : Except UsageFault Progress :=
  match p.waiting with
  | none => .ok p
  | some ⟨_, _, none⟩ => .error .invalidValue
  | some ⟨name, kind, some text⟩ =>
    { p with waiting := none }.add name ((kind.read text).map some)

end Progress

/-- The word has one dash in front, and more behind it. -/
def isCluster (word : String) : Bool :=
  match word.toList with
  | '-' :: c :: _ => c != '-'
  | _ => false

/-- The name of a word with two dashes in front, and the value behind its first
    equals sign. -/
def longParts? (word : String) : Option (String × Option String) :=
  match word.toList with
  | '-' :: '-' :: cs =>
    let name := String.ofList (cs.takeWhile (· != '='))
    match cs.dropWhile (· != '=') with
    | [] => some (name, none)
    | _ :: value => some (name, some (String.ofList value))
  | _ => none

namespace Form

variable (f : Form)

/-- A flag is taken, once what waits is read. -/
def takeFlag (p : Progress) (name : String) : Except UsageFault Progress := do
  let p ← p.resolve
  p.add name (.ok none)

/-- A word with two dashes in front. -/
def takeLong (p : Progress) (name : String) (value : Option String) :
    Except UsageFault Progress :=
  match f.options.find? fun o => o.name == name with
  | some ⟨_, _, some kind⟩ => do
    let p ← p.resolve
    match value with
    | some text => p.add name ((kind.read text).map some)
    | none => return { p with waiting := some ⟨name, kind, none⟩ }
  | some ⟨_, _, none⟩ => if value.isSome then .error .unexpectedValue else takeFlag p name
  | none =>
    -- Help is given only where the words up to here can be read.
    if name = "help" ∨ (name = "version" ∧ f.hasVersion) then
      if value.isSome then .error .unexpectedValue
      else do
        let _ ← p.resolve
        .error (if name = "help" then .help else .version)
    else .error .unknownArgument

/-- The letters of a word with one dash in front, which are flags. -/
def takeLetters (p : Progress) : List Char → Except UsageFault Progress
  | [] => .ok p
  | c :: cs =>
    match f.options.find? fun o => o.letter == some c with
    | some o => do
      let p ← takeFlag p o.name
      takeLetters p cs
    | none =>
      if c = 'h' ∨ (c = 'V' ∧ f.hasVersion) then do
        let _ ← p.resolve
        .error (if c = 'h' then .help else .version)
      else .error .unknownArgument

/-- A word that is a positional argument. -/
def takePositional (p : Progress) (word : String) : Except UsageFault Progress :=
  match p.positionals with
  | [] => .error .unknownArgument
  | a :: rest => do
    let p ← p.resolve
    return { p with waiting := some ⟨a.name, a.kind, some word⟩, positionals := rest }

/-- A word that does not look like an option: the value that has not come yet, or
    a positional argument. -/
def takePlain (p : Progress) (word : String) : Except UsageFault Progress :=
  match p.waiting with
  -- It is not read yet, so that a fault in a later word may come before its own.
  | some ⟨name, kind, none⟩ => .ok { p with waiting := some ⟨name, kind, some word⟩ }
  | _ => takePositional p word

/-- A word. -/
def take (p : Progress) (word : String) : Except UsageFault Progress :=
  if p.onlyPositionals then takePositional p word
  else if word = "--" then .ok { p with onlyPositionals := true }
  else
    match longParts? word with
    | some (name, value) => f.takeLong p name value
    | none =>
      if isCluster word then f.takeLetters p (word.toList.drop 1) else takePlain p word

/-- The options exclude each other. -/
def excludes (a b : String) : Bool := (a, b) ∈ f.exclusions || (b, a) ∈ f.exclusions

/-- The argument may be missing: one that excludes it is given. -/
def isExcluded (p : Progress) (name : String) : Bool :=
  p.given.any fun g => f.excludes name g.name

/-- The arguments that must be given with those that are. -/
def needed (p : Progress) : List String :=
  f.required ++ f.positionals.map PositionalForm.name ++
    (f.requirements.filter fun r => p.has r.1).map Prod.snd

/-- What is given once no more words come. -/
def finish (p : Progress) : Except UsageFault (List Given) := do
  let p ← p.resolve
  if f.exclusions.any fun e => p.has e.1 && p.has e.2 then .error .conflict
  else if (f.needed p).all fun name => p.has name || f.isExcluded p name then return p.given
  else .error .missingArgument

/-- How far words are taken apart, one after the other. -/
def takeAll (p : Progress) : List String → Except UsageFault Progress
  | [] => .ok p
  | word :: words => do
    let p ← f.take p word
    takeAll p words

/-- The arguments that words give. -/
def parse (words : List String) : Except UsageFault (List Given) := do
  let p ← f.takeAll { positionals := f.positionals } words
  f.finish p

end Form

/-! ## What is given -/

/-- The argument of this name is given. -/
def isGiven (given : List Given) (name : String) : Bool := given.any fun g => g.name == name

/-- The value of the argument of this name. -/
def value? (given : List Given) (name : String) : Option Value :=
  (given.find? fun g => g.name == name).bind Given.value

/-- The text of the argument of this name. -/
def text? (given : List Given) (name : String) : Option String :=
  match value? given name with
  | some (.text t) => some t
  | _ => none

/-- The byte of the argument of this name. -/
def byte? (given : List Given) (name : String) : Option UInt8 :=
  match value? given name with
  | some (.byte b) => some b
  | _ => none

end CardToolkit.CommandLine
