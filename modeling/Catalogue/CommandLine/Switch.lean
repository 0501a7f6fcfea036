import Catalogue.CommandLine.Usage

/-!
# Switches

A switch has a long name after two dashes and may have a short one of a single letter after one
dash.  A long switch takes its value from behind an equals sign or from the next word.  Short
switches can be written together after one dash; the first one of them that takes a value takes the
rest of the word or, if nothing is left of it, the next word, whatever it is.  Two dashes alone end
the switches.
-/

namespace Catalogue.CommandLine

/-- A switch of the command line. -/
structure Switch where
  /-- The name after two dashes. -/
  long : String
  /-- The letter after one dash. -/
  short : Option Char := none
  takesValue : Bool := true
  deriving DecidableEq, Repr

namespace Switch

/-- The names as they are written. -/
def names (s : Switch) : List String :=
  match s.short with
  | some letter => ["--" ++ s.long, String.ofList ['-', letter]]
  | none => ["--" ++ s.long]

/-- The switch with a long name, dashes included. -/
def ofLong? (switches : List Switch) (name : String) : Option Switch :=
  switches.find? fun s => "--" ++ s.long = name

/-- The switch with a letter. -/
def ofShort? (switches : List Switch) (letter : Char) : Option Switch :=
  switches.find? fun s => s.short = some letter

end Switch

/-- A switch as it was given, with its value if it takes one. -/
structure Given where
  switch : Switch
  value : String := ""
  deriving DecidableEq, Repr

/-- What a word with switches gives, and the switch that waits for the next word, if any, with its
name as it was written. -/
structure WordReading where
  given : List Given
  waiting : Option (Switch × String) := none
  deriving DecidableEq, Repr

/-- Reads the letters of a word after one dash. -/
def readLetters (switches : List Switch) : List Char → Except UsageFault WordReading
  | [] => .ok ⟨[], none⟩
  | letter :: rest =>
    let name := String.ofList ['-', letter]
    match Switch.ofShort? switches letter with
    | none => .error (.unknownSwitch name)
    | some s =>
      if s.takesValue then
        if rest.isEmpty then .ok ⟨[], some (s, name)⟩ else .ok ⟨[⟨s, String.ofList rest⟩], none⟩
      else
        (readLetters switches rest).map fun more => { more with given := ⟨s, ""⟩ :: more.given }

/-- Splits a word at its first equals sign. -/
def splitValue (word : List Char) : String × Option String :=
  match word.dropWhile (· ≠ '=') with
  | [] => (String.ofList word, none)
  | _ :: value => (String.ofList (word.takeWhile (· ≠ '=')), some (String.ofList value))

/-- Reads a word that starts with a dash. -/
def readSwitch (switches : List Switch) (word : String) : Except UsageFault WordReading :=
  let (name, value) := splitValue word.toList
  match Switch.ofLong? switches name, value with
  | some s, some value =>
    if s.takesValue then .ok ⟨[⟨s, value⟩], none⟩ else .error (.unwantedValue name)
  | some s, none =>
    if s.takesValue then .ok ⟨[], some (s, name)⟩ else .ok ⟨[⟨s, ""⟩], none⟩
  | none, _ =>
    match word.toList with
    | '-' :: '-' :: _ => .error (.unknownSwitch name)
    | _ => readLetters switches (word.toList.drop 1)

/-- The switches and the other words of a command line, both in order. -/
structure Words where
  given : List Given
  others : List String
  deriving DecidableEq, Repr

/-- Whether a word is read as a switch. -/
def isSwitch (word : String) : Bool :=
  match word.toList with
  | '-' :: _ :: _ => true
  | _ => false

/-- Reads words from left to right.  If switches may not be mixed with other words, the first other
word ends them. -/
def readWords (switches : List Switch) (mixed : Bool) : List String → Except UsageFault Words
  | [] => .ok ⟨[], []⟩
  | word :: rest =>
    if word = "--" then
      .ok ⟨[], rest⟩
    else if isSwitch word then
      match readSwitch switches word with
      | .error fault => .error fault
      | .ok reading =>
        match reading.waiting with
        | none =>
          (readWords switches mixed rest).map fun more =>
            { more with given := reading.given ++ more.given }
        | some (s, name) =>
          match rest with
          | [] => .error (.missingValue name)
          | value :: rest =>
            (readWords switches mixed rest).map fun more =>
              { more with given := reading.given ++ ⟨s, value⟩ :: more.given }
    else if mixed then
      (readWords switches mixed rest).map fun more => { more with others := word :: more.others }
    else
      .ok ⟨[], word :: rest⟩

/-- A switch with all the values it was given, in order. -/
abbrev Gathered := List (Switch × List String)

/-- Adds a value to those of its switch. -/
def Gathered.add : Gathered → Given → Gathered
  | [], g => [(g.switch, [g.value])]
  | entry :: rest, g =>
    if entry.1 = g.switch then (entry.1, entry.2 ++ [g.value]) :: rest else entry :: add rest g

/-- The given switches in order of their first appearance, each with all its values. -/
def gather (given : List Given) : Gathered :=
  given.foldl Gathered.add []

end Catalogue.CommandLine
