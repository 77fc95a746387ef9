import ShaderLift.Command.Request

namespace ShaderLift.Arguments

structure Draft where
  request : Request := {}
  plain : List Text := []

def Draft.apply (draft : Draft) (setting : Setting) (value : Text) : Draft :=
  { draft with request := setting.apply value draft.request }

/-- What one argument leaves: a draft, and the option that still waits for its value. -/
abbrev Reading := Option (Draft × Option Setting)

/-- Reads options of one letter written together. What follows the letter of an option with a value
is that value. -/
def readLetters (verb : Verb) (draft : Draft) : Text → Reading
  | [] => some (draft, none)
  | letter :: rest =>
    match (Setting.ofLetter? letter).filter verb.accepts with
    | none => none
    | some setting =>
      if setting.takesValue then
        if rest.isEmpty then some (draft, some setting) else some (draft.apply setting rest, none)
      else readLetters verb (draft.apply setting []) rest

/-- Reads an option with a long name, which may bring its value behind an equals sign. -/
def readLong (verb : Verb) (draft : Draft) (argument : Text) : Reading :=
  let (name, value) : Text × Option Text := match Text.breakAt? ['='] argument with
    | some (name, value) => (name, some value)
    | none => (argument, none)
  match (Setting.ofName? name).filter verb.accepts with
  | none => none
  | some setting =>
    match setting.takesValue, value with
    | true, some value => some (draft.apply setting value, none)
    | true, none => some (draft, some setting)
    | false, some _ => none
    | false, none => some (draft.apply setting [], none)

def isOption (argument : Text) : Bool := argument.length > 1 && argument.head? == some '-'

def readOption (verb : Verb) (draft : Draft) (argument : Text) : Reading :=
  if Text.startsWith "--" argument then readLong verb draft argument
  else readLetters verb draft (argument.drop 1)

/-- Reads the arguments behind the command. Two dashes end the options. -/
def readRest (verb : Verb) (draft : Draft) : List Text → Option Draft
  | [] => some draft
  | argument :: rest =>
    if argument = "--" then some { draft with plain := draft.plain ++ rest }
    else if isOption argument then
      match readOption verb draft argument, rest with
      | none, _ => none
      | some (draft, none), rest => readRest verb draft rest
      | some (_, some _), [] => none
      | some (draft, some setting), value :: rest => readRest verb (draft.apply setting value) rest
    else readRest verb { draft with plain := draft.plain ++ [argument] } rest

/-- Reads the command and what is asked of it: exactly one listing. -/
def readCommand : List Text → Option Invocation
  | [] => none
  | name :: rest => do
    let verb ← Verb.ofName? name
    let draft ← readRest verb {} rest
    match draft.plain with
    | [input] => some ⟨verb, { draft.request with input }⟩
    | _ => none

def read (arguments : List Text) : Option Invocation :=
  match arguments with
  | ['-', '-'] :: rest => readCommand rest
  | _ => readCommand arguments

end ShaderLift.Arguments
