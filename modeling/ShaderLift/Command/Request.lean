import ShaderLift.Text.Basic

namespace ShaderLift

inductive Verb where
  | convert
  | print
  | watch
  deriving DecidableEq

structure Request where
  input : Text := []
  output : Option Text := none
  entryPoint : Text := "main"
  strict : Bool := false
  stamp : Bool := false
  verbose : Bool := false
  deriving DecidableEq

structure Invocation where
  verb : Verb
  request : Request
  deriving DecidableEq

inductive Setting where
  | output | entryPoint | strict | stamp | verbose
  deriving DecidableEq

namespace Verb

def ofName? (name : Text) : Option Verb :=
  if name = "convert" then some convert
  else if name = "show" then some print
  else if name = "watch" then some watch
  else none

/-- Printing needs neither the place nor the stamp of a file. -/
def accepts (verb : Verb) (setting : Setting) : Bool :=
  match verb, setting with
  | print, .output | print, .stamp => false
  | _, _ => true

end Verb

namespace Setting

def ofName? (name : Text) : Option Setting :=
  if name = "--output" then some output
  else if name = "--entry" then some entryPoint
  else if name = "--strict" then some strict
  else if name = "--stamp" then some stamp
  else if name = "--verbose" then some verbose
  else none

def ofLetter? : Char → Option Setting
  | 'o' => some output
  | 'e' => some entryPoint
  | 'v' => some verbose
  | _ => none

def takesValue : Setting → Bool
  | output | entryPoint => true
  | strict | stamp | verbose => false

/-- Applies an option with its value; a later one replaces an earlier one. -/
def apply (setting : Setting) (value : Text) (request : Request) : Request :=
  match setting with
  | output => { request with output := some value }
  | entryPoint => { request with entryPoint := value }
  | strict => { request with strict := true }
  | stamp => { request with stamp := true }
  | verbose => { request with verbose := true }

end Setting
end ShaderLift
