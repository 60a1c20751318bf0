import LibraryDetection.Text.Fields

/-!
# Options on a command line

The words of a command line are told apart into options, with their values, and plain
words.  A long option has its value behind an equals sign or in the next word, a short one
at once behind it or in the next word; short options without values may stand together.
Two dashes alone end the options.
-/

namespace LibraryDetection.CommandLine

set_option autoImplicit false

open LibraryDetection.Text

inductive Setting
  | help
  | version
  | logLevel
  | description
  | profiles
  | filterInnerClasses
  | filterDuplicates
  | fuzzy
  | allMembers
  | minScore
  | pathAware
  | noPathAware
  | pathAwareWeight
  | format
  | workers
  deriving DecidableEq, Repr

structure OptionForm where
  setting : Setting
  long : String
  short : Option Char := none
  takesValue : Bool

structure GivenOption where
  setting : Setting
  value : String
  deriving DecidableEq, Repr

inductive UsageError
  | unknownOption (word : String)
  | missingValue (option : String)
  | unexpectedValue (option : String)
  | missingCommand
  | unknownCommand (name : String)
  | missingOption (name : String)
  | missingArgument (name : String)
  | extraArgument (word : String)
  | badValue (option value : String)
  /-- A path does not lead to a file or a folder as it should. -/
  | badPath (word : String)
  deriving DecidableEq, Repr

def UsageError.message : UsageError → String
  | .unknownOption word => "No such option: " ++ word
  | .missingValue option => "Option '" ++ option ++ "' requires an argument."
  | .unexpectedValue option => "Option '" ++ option ++ "' does not take a value."
  | .missingCommand => "Missing command."
  | .unknownCommand name => "No such command '" ++ name ++ "'."
  | .missingOption name => "Missing option '" ++ name ++ "'."
  | .missingArgument name => "Missing argument '" ++ name ++ "'."
  | .extraArgument word => "Got unexpected extra argument (" ++ word ++ ")"
  | .badValue option value => "Invalid value for '" ++ option ++ "': '" ++ value ++ "'."
  | .badPath word => "Invalid path '" ++ word ++ "'."

/-- What a word says: the options it holds, and an option whose value is in the next word. -/
structure WordReading where
  given : List GivenOption
  pending : Option OptionForm := none

def longForm? (forms : List OptionForm) (name : String) : Option OptionForm :=
  forms.find? fun form => form.long = name

def shortForm? (forms : List OptionForm) (char : Char) : Option OptionForm :=
  forms.find? fun form => form.short = some char

def readShort (forms : List OptionForm) : List Char → Except UsageError WordReading
  | [] => .ok ⟨[], none⟩
  | char :: rest =>
      match shortForm? forms char with
      | none => .error (.unknownOption (String.ofList ['-', char]))
      | some form =>
          if form.takesValue then
            if rest.isEmpty then .ok ⟨[], some form⟩
            else .ok ⟨[⟨form.setting, String.ofList rest⟩], none⟩
          else match readShort forms rest with
            | .error error => .error error
            | .ok reading => .ok { reading with given := ⟨form.setting, ""⟩ :: reading.given }

def atEquals (word : List Char) : String × Option String :=
  match word.span (· ≠ '=') with
  | (name, _ :: value) => (String.ofList name, some (String.ofList value))
  | (name, []) => (String.ofList name, none)

def readOption (forms : List OptionForm) (word : String) : Except UsageError WordReading :=
  let (name, value?) := atEquals word.toList
  match longForm? forms name, value? with
  | some form, some value =>
      if form.takesValue then .ok ⟨[⟨form.setting, value⟩], none⟩
      else .error (.unexpectedValue name)
  | some form, none =>
      if form.takesValue then .ok ⟨[], some form⟩ else .ok ⟨[⟨form.setting, ""⟩], none⟩
  | none, _ =>
      if startsWith ['-', '-'] word.toList then .error (.unknownOption name)
      else readShort forms (word.toList.drop 1)

def isOptionWord (word : String) : Bool :=
  startsWith ['-'] word.toList && 1 < word.length

structure Scanned where
  given : List GivenOption
  words : List String
  deriving DecidableEq, Repr

def Scanned.plain (words : List String) : Scanned := ⟨[], words⟩

def Scanned.withGiven (given : List GivenOption) (scanned : Scanned) : Scanned :=
  { scanned with given := given ++ scanned.given }

def Scanned.withWord (word : String) (scanned : Scanned) : Scanned :=
  { scanned with words := word :: scanned.words }

/-- Tells the words apart.  Unless options may stand behind plain words, the first plain
word ends the options. -/
def scan (forms : List OptionForm) (mixed : Bool) : List String → Except UsageError Scanned
  | [] => .ok (Scanned.plain [])
  | word :: rest =>
      if word = "--" then .ok (Scanned.plain rest)
      else if isOptionWord word then
        match readOption forms word with
        | .error error => .error error
        | .ok ⟨given, none⟩ => (scan forms mixed rest).map (Scanned.withGiven given)
        | .ok ⟨given, some form⟩ =>
            match rest with
            | [] => .error (.missingValue form.long)
            | value :: rest =>
                (scan forms mixed rest).map
                  (Scanned.withGiven (given ++ [⟨form.setting, value⟩]))
      else if mixed then (scan forms mixed rest).map (Scanned.withWord word)
      else .ok (Scanned.plain (word :: rest))

namespace Scanned

def value? (scanned : Scanned) (setting : Setting) : Option String :=
  (scanned.given.reverse.find? fun option => option.setting = setting).map (·.value)

def has (scanned : Scanned) (setting : Setting) : Bool :=
  scanned.given.any fun option => option.setting = setting

end Scanned

theorem is_option_word_iff {word : String} :
    isOptionWord word = true ↔ (∃ rest, word.toList = '-' :: rest) ∧ 1 < word.length := by
  unfold isOptionWord
  cases chars : word.toList with
  | nil => simp [startsWith, withoutStart?]
  | cons head tail =>
      by_cases same : '-' = head
      · subst same
        simp [startsWith, withoutStart?]
      · simp [startsWith, withoutStart?, same, Ne.symm same]

end LibraryDetection.CommandLine
