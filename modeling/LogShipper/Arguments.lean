import LogShipper.Number.Numeral
import LogShipper.Setting
import LogShipper.Yaml.Value

/-!
# Arguments of the command line

Flags and the one input file may come in any order.  A flag takes one value, from behind an equals
sign or from the next word; any beginning of its name that no other flag shares stands for it.  Of
a flag that is repeated the last value counts, but each is read as it is met.  A word that looks
like a negative number, or holds a space, is no flag.  Behind a separating `--` there are no flags,
and a flag whose value is the separator is given the empty list of words.
-/

namespace LogShipper

structure Arguments where
  configPath : Option Text := none
  values : List (Setting × Yaml.Value) := []
  deriving Inhabited

/-- What a flag is for. -/
inductive Flag where
  | help
  | config
  | setting (setting : Setting)
  deriving DecidableEq, Repr

/-- The kinds of numbers that flags take. -/
inductive NumberKind where
  | int
  | float
  deriving DecidableEq, Repr

def NumberKind.name : NumberKind → Text
  | .int => "int"
  | .float => "float"

/-- What is wrong with the words of a command line. -/
inductive UsageFault where
  | ambiguous (word : Text) (candidates : List Text)
  | valueMissing (flag : Text)
  | valueInvalid (flag : Text) (kind : NumberKind) (value : Text)
  | helpValue (value : Text)
  | unrecognized (words : List Text)
  deriving DecidableEq, Repr

def UsageFault.message : UsageFault → Text
  | .ambiguous word candidates =>
    "error: ambiguous option: " ++ word ++ " could match " ++ Text.joinWith ", " candidates
  | .valueMissing flag => "error: argument " ++ flag ++ ": expected one argument"
  | .valueInvalid flag kind value =>
    "error: argument " ++ flag ++ ": invalid " ++ kind.name ++ " value: " ++ Text.quoted value
  | .helpValue value =>
    "error: argument -h/--help: ignored explicit argument " ++ Text.quoted value
  | .unrecognized words => "error: unrecognized arguments: " ++ Text.joinWith " " words

/-- Why the arguments lead to no run: help is asked for, or the words are wrong. -/
inductive Leave where
  | help
  | usage (fault : UsageFault)
  deriving DecidableEq, Repr

/-- The exit code. -/
def Leave.code : Leave → Nat
  | .help => 0
  | .usage _ => 2

namespace Arguments

/-! ## 1. Words -/

/-- The word behind which there are no flags. -/
def separator : Text := "--"

/-- The flags by name. -/
def flags : List (Text × Flag) := [
  ("-h", .help), ("--help", .help), ("--config", .config), ("--url", .setting .url),
  ("--api-key", .setting .apiKey), ("--message-field", .setting .messageField),
  ("--server-host-field", .setting .serverHostField), ("--logfile-field", .setting .logfileField),
  ("--parser-field", .setting .parserField), ("--batch-size", .setting .batchSize),
  ("--request-timeout", .setting .requestTimeout)]

/-- What a word is.  A flag has its full name and the value that is given with it; a flag for help
may have a value that it does not take. -/
inductive Word where
  | plain (t : Text)
  | separator
  | unknownFlag (t : Text)
  | help (value : Option Text)
  | flag (name : Text) (flag : Flag) (value : Option Text)
  deriving DecidableEq, Repr

/-- What is left of a value of `-h` when the letters that ask for help once more are taken off. -/
def helpRest? : Text → Option Text
  | .char 'h' :: [] => none
  | .char 'h' :: rest => helpRest? rest
  | rest => some rest

/-- The word of a flag. -/
def Word.ofFlag (name : Text) (value : Option Text) : Flag → Word
  | .help => .help (if name = Text.ofString "-h" then value.bind helpRest? else value)
  | other => .flag name other value

/-- Whether a word looks like a negative number; a line feed may end it. -/
def isNegativeNumber (t : Text) : Bool :=
  let t := if t.getLast? = some (.char '\n') then t.dropLast else t
  match t with
  | .char '-' :: digits =>
    match Text.splitOn '.' digits with
    | [whole] => !whole.isEmpty && whole.all CodePoint.isDigit
    | [whole, fraction] =>
      whole.all CodePoint.isDigit && !fraction.isEmpty && fraction.all CodePoint.isDigit
    | _ => false
  | _ => false

/-- A word that begins with a hyphen but is no flag's name. -/
def otherWord (t : Text) : Word :=
  if isNegativeNumber t || t.contains ' ' then .plain t else .unknownFlag t

/-- A word up to its first equals sign, and what follows that. -/
def cutValue (t : Text) : Text × Option Text :=
  match Text.cutAt? '=' t with
  | some (name, value) => (name, some value)
  | none => (t, none)

/-- A word that begins with two hyphens, as a beginning of a flag's name. -/
def abbreviated (t : Text) : Except UsageFault Word :=
  let (beginning, value) := cutValue t
  match flags.filter fun (name, _) => Text.startsWith beginning name with
  | [] => .ok (otherWord t)
  | [(name, flag)] => .ok (.ofFlag name value flag)
  | candidates => .error (.ambiguous t (candidates.map Prod.fst))

/-- What a word before the separator is. -/
def classify (t : Text) : Except UsageFault Word :=
  match t with
  | .char '-' :: second :: tail =>
    match flags.lookup t with
    | some flag => .ok (.ofFlag t none flag)
    | none =>
      let (name, value) := cutValue t
      match value, flags.lookup name with
      | some value, some flag => .ok (.ofFlag name (some value) flag)
      | _, _ =>
        if second = '-' then abbreviated t
        else if second = 'h' then .ok (.ofFlag "-h" (some tail) .help)
        else .ok (otherWord t)
  | t => .ok (.plain t)

/-- What the words are. -/
def classifyAll : List Text → Except UsageFault (List Word)
  | [] => .ok []
  | t :: rest =>
    if t = separator then .ok (.separator :: rest.map .plain)
    else do return (← classify t) :: (← classifyAll rest)

/-! ## 2. Reading -/

/-- The value of a setting as its flag gives it. -/
def flagValue (name : Text) (setting : Setting) (t : Text) : Except UsageFault Yaml.Value :=
  if t = separator then .ok (.list [])
  else
    match setting with
    | .batchSize =>
      match Numeral.readInteger 10 t with
      | .ok n => .ok (.int n)
      | .error _ => .error (.valueInvalid name .int t)
    | .requestTimeout =>
      match Numeral.readReal t with
      | .ok x => .ok (.float x)
      | .error _ => .error (.valueInvalid name .float t)
    | _ => .ok (.text t)

/-- How far the words have been read: the arguments, the words that are left over, and whether the
last word was the input file. -/
structure Progress where
  arguments : Arguments := {}
  leftOver : List Text := []
  tookFile : Bool := false

namespace Progress

/-- Takes the value of a flag. -/
def take (progress : Progress) (name : Text) (flag : Flag) (t : Text) :
    Except UsageFault Progress := do
  let arguments := progress.arguments
  match flag with
  | .help => return progress
  | .config =>
    let configPath := if t = separator then none else some t
    return { progress with arguments := { arguments with configPath }, tookFile := false }
  | .setting setting =>
    let value ← flagValue name setting t
    return { progress with
      arguments := { arguments with values := (setting, value) :: arguments.values }
      tookFile := false }

def hasFile (progress : Progress) : Bool :=
  (progress.arguments.values.lookup .inputFile).isSome

def leave (progress : Progress) (t : Text) : Progress :=
  { progress with leftOver := progress.leftOver ++ [t], tookFile := false }

/-- Takes a word that is no flag: the first one is the input file. -/
def takePlain (progress : Progress) (t : Text) : Progress :=
  if progress.hasFile then progress.leave t
  else
    { progress with
      arguments := { progress.arguments with
        values := (.inputFile, .text t) :: progress.arguments.values }
      tookFile := true }

/-- Passes the separator, which is left over unless the input file is still to come or came just
before it. -/
def takeSeparator (progress : Progress) : Progress :=
  if !progress.hasFile || progress.tookFile then { progress with tookFile := false }
  else progress.leave separator

end Progress

/-- Reads the words that follow. -/
def readWords (progress : Progress) : List Word → Except Leave Progress
  | [] => .ok progress
  | .plain t :: rest => readWords (progress.takePlain t) rest
  | .separator :: rest => readWords progress.takeSeparator rest
  | .unknownFlag t :: rest => readWords (progress.leave t) rest
  | .help none :: _ => .error .help
  | .help (some value) :: _ => .error (.usage (.helpValue value))
  | .flag name flag (some value) :: rest =>
    match progress.take name flag value with
    | .ok progress => readWords progress rest
    | .error fault => .error (.usage fault)
  | .flag name flag none :: .plain t :: rest =>
    match progress.take name flag t with
    | .ok progress => readWords progress rest
    | .error fault => .error (.usage fault)
  | .flag name _ none :: _ => .error (.usage (.valueMissing name))

/-- Reads the words of a command line. -/
def read (words : List Text) : Except Leave Arguments :=
  match classifyAll words with
  | .error fault => .error (.usage fault)
  | .ok words =>
    match readWords {} words with
    | .error exit => .error exit
    | .ok progress =>
      if progress.leftOver.isEmpty then .ok progress.arguments
      else .error (.usage (.unrecognized progress.leftOver))

end Arguments

end LogShipper
