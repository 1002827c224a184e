/-
This file reads settings from the words of a command line and from the environment. The words
are read from left to right, and the first mistake decides the answer; the environment is asked
afterwards, and only about options that were not on the command line. An option collects the
words that follow it, and they are judged when the next option begins or the words end. An
unknown word is reported at once, before the words collected so far are judged.
-/

import MemoryLending.Settings

namespace MemoryLending

/-- Everything that can be written on the command line. -/
inductive Setting where
  | threads
  | iterations
  | frameSize
  | foreignBuffers
  | leakEvery
  | retainMebibytes
  | retainBlocks
  | unknownReturn
  | verbose
  | journald
  | tracy
  | help
  | version
  deriving DecidableEq, Repr

namespace Setting

/-- All of them, in the order in which the environment is asked. -/
def all : List Setting :=
  [threads, iterations, frameSize, foreignBuffers, leakEvery, retainMebibytes, retainBlocks,
    unknownReturn, verbose, journald, tracy, help, version]

/-- The word after the two dashes. -/
def word : Setting → String
  | threads => "threads"
  | iterations => "iterations"
  | frameSize => "frame-size"
  | foreignBuffers => "foreign-buffers"
  | leakEvery => "leak-every"
  | retainMebibytes => "pool-retain-mb"
  | retainBlocks => "pool-retain-buffers"
  | unknownReturn => "unknown-free"
  | verbose => "verbose"
  | journald => "journald"
  | tracy => "tracy"
  | help => "help"
  | version => "version"

/-- The letter after a single dash. -/
def letter? : Setting → Option Char
  | verbose => some 'v'
  | help => some 'h'
  | version => some 'V'
  | _ => none

/-- The variable of the environment. -/
def environmentName? : Setting → Option String
  | threads => some "SOAK_THREADS"
  | iterations => some "SOAK_ITERATIONS"
  | frameSize => some "FRAME_SIZE"
  | foreignBuffers => some "FOREIGN_BUFFERS"
  | leakEvery => some "LEAK_EVERY"
  | retainMebibytes => some "POOL_RETAIN_MB"
  | retainBlocks => some "POOL_RETAIN_BUFFERS"
  | unknownReturn => some "UNKNOWN_FREE"
  | journald => some "JOURNALD"
  | tracy => some "TRACY"
  | verbose | help | version => none

/-- The number of words a setting takes on the command line. -/
def arity : Setting → Nat
  | frameSize => 2
  | verbose | journald | tracy | help | version => 0
  | _ => 1

/-- A setting as it is named in a mistake: its word, and a place for each word it takes. -/
def label (setting : Setting) : String :=
  let place := " <" ++ (setting.word.toUpper.map fun c => if c = '-' then '_' else c) ++ ">"
  "--" ++ setting.word ++ String.join (List.replicate setting.arity place)

/-- The setting with a word. -/
def ofWord? (word : String) : Option Setting := all.find? (·.word == word)

/-- The setting with a letter. -/
def ofLetter? (letter : Char) : Option Setting := all.find? (·.letter? == some letter)

end Setting

/-- What can be wrong with a command line, or asked by it. -/
inductive MistakeKind where
  /-- A word is neither an option nor taken by one. -/
  | unknownWord
  /-- A value is none of those that are allowed. -/
  | notAllowed
  /-- A value is no number of the right range. -/
  | notANumber
  /-- An option is given twice. -/
  | repeated
  /-- An option has another number of words than it takes. -/
  | wrongCount
  /-- A flag has a value. -/
  | unneededValue
  /-- The operator asks for help. -/
  | helpAsked
  /-- The operator asks for the version. -/
  | versionAsked
  deriving DecidableEq, Repr

/-- The name under which a mistake is reported. -/
def MistakeKind.name : MistakeKind → String
  | unknownWord => "UnknownArgument"
  | notAllowed => "InvalidValue"
  | notANumber => "ValueValidation"
  | repeated => "ArgumentConflict"
  | wrongCount => "WrongNumberOfValues"
  | unneededValue => "TooManyValues"
  | helpAsked => "DisplayHelp"
  | versionAsked => "DisplayVersion"

/-- Why a command line gives no settings: the kind, the option or word, and the value. -/
structure Mistake where
  kind : MistakeKind
  argument : Option String
  value : Option String
  deriving DecidableEq, Repr

namespace Mistake

/-- A word that is neither an option nor taken by one. -/
def unknown (word : String) : Mistake := ⟨.unknownWord, some word, none⟩

/-- A mistake about a setting. -/
def about (setting : Setting) (kind : MistakeKind) (value : Option String) : Mistake :=
  ⟨kind, some setting.label, value⟩

/-- The answer to the question for help or the version. -/
def question (kind : MistakeKind) : Mistake := ⟨kind, none, none⟩

/-- Whether nothing is wrong and the operator only asked something. -/
def isQuestion (mistake : Mistake) : Bool :=
  mistake.kind == .helpAsked || mistake.kind == .versionAsked

/-- One sentence for an operator. -/
def message (mistake : Mistake) : String :=
  let about := match mistake.argument with
    | some argument => " at " ++ argument
    | none => ""
  let value := match mistake.value with
    | some value => " (" ++ value ++ ")"
    | none => ""
  mistake.kind.name ++ about ++ value

end Mistake

/-! ### Values -/

/-- The number that decimal digits stand for. -/
def readDigits? (digits : List Char) : Option Nat :=
  if digits.isEmpty || !digits.all Char.isDigit then none
  else some (digits.foldl (fun number digit => number * 10 + (digit.toNat - '0'.toNat)) 0)

/-- A number below `bound`: decimal digits, with a plus sign in front or not. -/
def readNumber? (bound : Nat) (text : String) : Option Nat :=
  let digits := match text.toList with
    | '+' :: digits => digits
    | digits => digits
  (readDigits? digits).filter (· < bound)

/-- A side of a frame, below `2 ^ 32`. A minus sign may stand in front of it as well, but then
zero is the only number in range. -/
def readSide? (text : String) : Option Nat :=
  match text.toList with
  | '-' :: digits => (readDigits? digits).filter (· = 0)
  | _ => readNumber? UInt32.size text

/-- A truth value, spelled exactly. -/
def readFlag? : String → Option Bool
  | "true" => some true
  | "false" => some false
  | _ => none

/-- The settings while a command line is read, and which of them it has given. -/
structure Draft where
  settings : Settings
  given : List Setting
  deriving Repr

namespace Draft

/-- The draft before the first word. -/
def blank : Draft := ⟨Settings.standard, []⟩

/-- Notes that a setting has been given. -/
def mark (draft : Draft) (setting : Setting) : Draft :=
  { draft with given := setting :: draft.given }

/-- Reads a value with a reader for numbers, or says that it is no number. -/
def number (setting : Setting) (read? : String → Option Nat) (value : String) :
    Except Mistake Nat :=
  match read? value with
  | some number => .ok number
  | none => .error (.about setting .notANumber (some value))

/-- Reads a value with a reader for spelled-out values, or says that it is not allowed. -/
def choice {Value : Type} (setting : Setting) (read? : String → Option Value) (value : String) :
    Except Mistake Value :=
  match read? value with
  | some choice => .ok choice
  | none => .error (.about setting .notAllowed (some value))

/-- Puts a single value into the settings. -/
def put (draft : Draft) (setting : Setting) (value : String) : Except Mistake Draft := do
  let settings := draft.settings
  let word := number setting (readNumber? Word.limit) value
  let changed ← match setting with
    | .threads => word.map fun threads => { settings with threads }
    | .iterations => word.map fun iterations => { settings with iterations }
    | .foreignBuffers => word.map fun foreignBuffers => { settings with foreignBuffers }
    | .leakEvery => word.map fun leakEvery => { settings with leakEvery }
    | .retainMebibytes => word.map fun retainMebibytes => { settings with retainMebibytes }
    | .retainBlocks => word.map fun retainBlocks => { settings with retainBlocks }
    | .unknownReturn =>
      (choice setting UnknownReturn.ofWord? value).map fun unknownReturn =>
        { settings with unknownReturn }
    | .verbose =>
      (choice setting readFlag? value).map fun verbose => { settings with verbose }
    | .journald =>
      (choice setting readFlag? value).map fun journald => { settings with journald }
    | .tracy => (choice setting readFlag? value).map fun tracy => { settings with tracy }
    | .frameSize | .help | .version => .ok settings
  return { draft with settings := changed }

/-- Appends the sides in some words to the frame size. Each word is split at its spaces. The
first word given replaces what was there before. -/
def putSides (draft : Draft) (words : List String) : Except Mistake Draft := do
  let pieces := words.flatMap (·.splitOn " ")
  let sides ← pieces.mapM (number .frameSize readSide?)
  let before := if .frameSize ∈ draft.given then draft.settings.frameSize else []
  return { draft with settings := { draft.settings with frameSize := before ++ sides } }

/-- Gives a setting the words that were collected for it on the command line. -/
def supply (draft : Draft) (setting : Setting) (words : List String) : Except Mistake Draft :=
  if words.isEmpty then .error (.about setting .notAllowed (some ""))
  else if words.length ≠ setting.arity then .error (.about setting .wrongCount none)
  else if setting = .frameSize then (draft.putSides words).map (·.mark setting)
  else if setting ∈ draft.given then .error (.about setting .repeated none)
  else
    match words with
    | value :: _ => (draft.put setting value).map (·.mark setting)
    | [] => .ok draft

/-- Sets a flag, or answers a question. -/
def raise (draft : Draft) (setting : Setting) : Except Mistake Draft :=
  match setting with
  | .help => .error (.question .helpAsked)
  | .version => .error (.question .versionAsked)
  | _ =>
    if setting ∈ draft.given then .error (.about setting .repeated none)
    else (draft.put setting "true").map (·.mark setting)

/-- Judges the words collected for the last option. -/
def settle (draft : Draft) : Option (Setting × List String) → Except Mistake Draft
  | some (setting, words) => draft.supply setting words
  | none => .ok draft

/-- Reads the letters after a single dash. -/
def letters (draft : Draft) : List Char → Except Mistake Draft
  | [] => .ok draft
  | letter :: later =>
    match Setting.ofLetter? letter with
    | some setting => do (← draft.raise setting).letters later
    | none => .error (.unknown ("-" ++ letter.toString))

/-- The two sides of the first equals sign. -/
def splitAtEquals (text : List Char) : String × Option String :=
  match text.dropWhile (· != '=') with
  | [] => (String.ofList text, none)
  | _ :: value => (String.ofList (text.takeWhile (· != '=')), some (String.ofList value))

/-- What one word of the command line is. -/
inductive Reading where
  /-- Two dashes alone: no options follow. -/
  | endOfOptions
  /-- An option by its word, with an attached value or none. -/
  | option (name : String) (attached : Option String)
  /-- Options by their letters. -/
  | cluster (letters : List Char)
  /-- Anything else. -/
  | plain

/-- Tells options from other words. A single dash is no option. -/
def Reading.of (word : String) : Reading :=
  match word.toList with
  | ['-', '-'] => .endOfOptions
  | '-' :: '-' :: name =>
    let (name, attached) := splitAtEquals name
    .option name attached
  | ['-'] => .plain
  | '-' :: letters => .cluster letters
  | _ => .plain

/-- Reads the words from left to right. `pending` is the last option with the words collected
for it so far. -/
def readWords (draft : Draft) (pending : Option (Setting × List String)) :
    List String → Except Mistake Draft
  | [] => draft.settle pending
  | word :: later =>
    match Reading.of word with
    | .endOfOptions =>
      match later with
      | [] => draft.settle pending
      | extra :: _ => .error (.unknown extra)
    | .cluster [] => .error (.unknown word)
    | .cluster (letter :: letters) =>
      match Setting.ofLetter? letter with
      | none => .error (.unknown ("-" ++ letter.toString))
      | some _ => do
        let draft ← draft.settle pending
        (← draft.letters (letter :: letters)).readWords none later
    | .option name attached =>
      match Setting.ofWord? name with
      | none => .error (.unknown ("--" ++ name))
      | some setting =>
        match setting.arity, attached with
        | 0, some value => .error (.about setting .unneededValue (some value))
        | 0, none => do
          let draft ← draft.settle pending
          (← draft.raise setting).readWords none later
        | _, some value => do
          let draft ← draft.settle pending
          (← draft.supply setting [value]).readWords none later
        | _, none => do
          let draft ← draft.settle pending
          draft.readWords (some (setting, [])) later
    | .plain =>
      match pending with
      | none => .error (.unknown word)
      | some (setting, words) =>
        if words.length < setting.arity then
          draft.readWords (some (setting, words ++ [word])) later
        else .error (.unknown word)

/-- Asks the environment about the settings that the command line has not given. -/
def readEnvironment (draft : Draft) (environment : String → Option String) :
    List Setting → Except Mistake Draft
  | [] => .ok draft
  | setting :: later =>
    let value := if setting ∈ draft.given then none else setting.environmentName?.bind environment
    match value with
    | none => draft.readEnvironment environment later
    | some value => do
      let changed ←
        if setting = .frameSize then draft.putSides [value] else draft.put setting value
      changed.readEnvironment environment later

end Draft

/-- What is shown to an operator who asks for help. -/
def Settings.usage : String :=
  let option (setting : Setting) : String :=
    let letter := match setting.letter? with
      | some letter => "-" ++ letter.toString ++ ", "
      | none => ""
    let environment := match setting.environmentName? with
      | some name => " [env: " ++ name ++ "]"
      | none => ""
    "  " ++ letter ++ setting.label ++ environment
  "Usage: memory-lending-soak [OPTIONS]\n\nOptions:\n" ++
    "\n".intercalate (Setting.all.map option)

/-- What is shown to an operator who asks for the version. -/
def Settings.versionText : String := "memory-lending-soak 0.1.0"

/-- The settings that a command line and an environment give. -/
def Settings.read (words : List String) (environment : String → Option String) :
    Except Mistake Settings := do
  let draft ← Draft.blank.readWords none words
  let draft ← draft.readEnvironment environment Setting.all
  return draft.settings

end MemoryLending
