import Brainfuck.Text.Integer
import Brainfuck.Text.Quoted

/-!
Flags: named settings at the start of a list of arguments. A flag is written with one or two
dashes; a text or an integer follows in the same argument after an equals sign or is the next
argument, whatever that is, and a switch has a value only after an equals sign. Scanning stops
at the first argument that is no flag, or after a bare pair of dashes.
-/

namespace Brainfuck

inductive Flag.Kind (Setting : Type) where
  | text (setting : Bytes → Setting)
  | integer (setting : Int64 → Setting)
  | switch (setting : Bool → Setting)

structure Flag (Setting : Type) where
  name : String
  kind : Flag.Kind Setting
  description : String
  shownDefault : Option String := none

namespace Flag

inductive Fault where
  | badSyntax (argument : Bytes)
  | undefined (name : Bytes)
  | needsArgument (name : Bytes)
  | notBoolean (value name : Bytes)
  | notInteger (value name : Bytes) (why : Integer.Fault)
  | helpRequested
  deriving DecidableEq, Repr

namespace Fault

def reason : Integer.Fault → Bytes
  | .malformed => utf8 "parse error"
  | .outOfRange => utf8 "value out of range"

def message : Fault → Bytes
  | .badSyntax argument => utf8 "bad flag syntax: " ++ argument
  | .undefined name => utf8 "flag provided but not defined: -" ++ name
  | .needsArgument name => utf8 "flag needs an argument: -" ++ name
  | .notBoolean value name =>
      utf8 "invalid boolean value " ++ Quoted.encode value ++ utf8 " for -" ++ name ++
        utf8 ": parse error"
  | .notInteger value name why =>
      utf8 "invalid value " ++ Quoted.encode value ++ utf8 " for flag -" ++ name ++ utf8 ": " ++
        reason why
  | .helpRequested => utf8 "flag: help requested"

end Fault

inductive Shape where
  | operand
  | terminator
  | malformed
  | named (name : Bytes) (value : Option Bytes)
  deriving DecidableEq, Repr

def splitValue : Bytes → Bytes × Option Bytes
  | [] => ([], none)
  | byte :: rest =>
      if byte = 0x3D then ([], some rest)
      else
        let (name, value) := splitValue rest
        (byte :: name, value)

/-- What follows the dashes: a name does not begin with a dash or an equals sign. -/
def Shape.ofBody : Bytes → Shape
  | [] => .malformed
  | byte :: rest =>
      if byte = 0x2D ∨ byte = 0x3D then .malformed
      else
        let (name, value) := splitValue rest
        .named (byte :: name) value

def Shape.ofArgument : Bytes → Shape
  | 0x2D :: 0x2D :: [] => .terminator
  | 0x2D :: 0x2D :: body => .ofBody body
  | 0x2D :: byte :: body => .ofBody (byte :: body)
  | _ => .operand

def boolean? (value : Bytes) : Option Bool :=
  if ["1", "t", "T", "TRUE", "true", "True"].any (utf8 · = value) then some true
  else if ["0", "f", "F", "FALSE", "false", "False"].any (utf8 · = value) then some false
  else none

def Kind.read {Setting : Type} (name value : Bytes) : Kind Setting → Except Fault Setting
  | .text setting => .ok (setting value)
  | .integer setting =>
      match Integer.readLiteral value with
      | .ok number => .ok (setting number)
      | .error why => .error (.notInteger value name why)
  | .switch setting =>
      match boolean? value with
      | some on => .ok (setting on)
      | none => .error (.notBoolean value name)

def find? {Setting : Type} (flags : List (Flag Setting)) (name : Bytes) : Option (Flag Setting) :=
  flags.find? fun flag => utf8 flag.name = name

/-- A name that no flag has may still ask for help. -/
def unknown (name : Bytes) : Fault :=
  if name = utf8 "help" ∨ name = utf8 "h" then .helpRequested else .undefined name

/-- The settings that the flags at the start of the arguments make, in order, and the
arguments after them. -/
def scan {Setting : Type} (flags : List (Flag Setting)) :
    List Bytes → Except Fault (List Setting × List Bytes)
  | [] => .ok ([], [])
  | argument :: rest =>
      match Shape.ofArgument argument with
      | .operand => .ok ([], argument :: rest)
      | .terminator => .ok ([], rest)
      | .malformed => .error (.badSyntax argument)
      | .named name value =>
          match find? flags name with
          | none => .error (unknown name)
          | some flag =>
              match flag.kind, value with
              | .switch setting, none => do
                  let (settings, operands) ← scan flags rest
                  return (setting true :: settings, operands)
              | kind, some value => do
                  let setting ← kind.read name value
                  let (settings, operands) ← scan flags rest
                  return (setting :: settings, operands)
              | kind, none =>
                  match rest with
                  | [] => .error (.needsArgument name)
                  | value :: rest => do
                      let setting ← kind.read name value
                      let (settings, operands) ← scan flags rest
                      return (setting :: settings, operands)

section Usage

def Kind.placeholder {Setting : Type} : Kind Setting → String
  | .text _ => " string"
  | .integer _ => " int"
  | .switch _ => ""

def usageLines {Setting : Type} (flag : Flag Setting) : String :=
  "  -" ++ flag.name ++ flag.kind.placeholder ++ "\n    \t" ++ flag.description ++
    (match flag.shownDefault with
      | none => ""
      | some shown => " (default " ++ shown ++ ")") ++ "\n"

def usage {Setting : Type} (program : String) (flags : List (Flag Setting)) : Bytes :=
  utf8 ("Usage of " ++ program ++ ":\n") ++ flags.flatMap fun flag => utf8 flag.usageLines

end Usage

end Flag

end Brainfuck
