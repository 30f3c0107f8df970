import Brainfuck.Json.Number

/-!
Shapes of JSON values. A shape says which values may stand at a place, without keeping them. Null
may stand everywhere, and an object may have members that its shape does not name.
-/

namespace Brainfuck.Bundle

section Names

/-- A character for comparing names without regard to case. The long s and the Kelvin sign are
the only characters outside ASCII that fold into it. -/
def folded (char : Char) : Char :=
  if char.toNat = 0x17F then 's' else if char.toNat = 0x212A then 'k' else char.toLower

def foldedName (name : Bytes) : List Utf8.Piece :=
  (Utf8.pieces name).map fun piece =>
    match piece with
    | .char value => .char (folded value)
    | stray => stray

def isNamed (member : String) (name : Bytes) : Bool :=
  foldedName (utf8 member) = foldedName name

end Names

inductive Shape where
  | text
  | bool
  | unsigned (bits : Nat)
  | signed (bits : Nat)
  /-- Anything whose numbers are doubles. -/
  | free
  | list (item : Shape)
  | table (value : Shape)
  | record (members : List (String × Shape))
  deriving Repr

namespace Shape

/-- The shape of the member with a name; nothing is asked of a member that has none. -/
def member? (members : List (String × Shape)) (name : Bytes) : Option Shape :=
  (members.find? fun member => isNamed member.1 name).map Prod.snd

mutual

def accepts : Shape → Json → Bool
  | _, .null => true
  | .text, .string _ => true
  | .bool, .bool _ => true
  | .unsigned bits, .number literal => Json.Number.isUnsigned bits literal
  | .signed bits, .number literal => Json.Number.isSigned bits literal
  | .list item, .array items => acceptsItems item items
  | .table value, .object members => acceptsMembers (fun _ => some value) members
  | .record shapes, .object members => acceptsMembers (member? shapes) members
  | .free, .bool _ => true
  | .free, .string _ => true
  | .free, .number literal => Json.Number.isDouble literal
  | .free, .array items => acceptsItems .free items
  | .free, .object members => acceptsMembers (fun _ => some .free) members
  | _, _ => false

def acceptsItems : Shape → List Json → Bool
  | _, [] => true
  | shape, item :: items => accepts shape item && acceptsItems shape items

def acceptsMembers : (Bytes → Option Shape) → List (Bytes × Json) → Bool
  | _, [] => true
  | shape?, (name, value) :: members =>
      (match shape? name with
        | some shape => accepts shape value
        | none => true) && acceptsMembers shape? members

end

end Shape

end Brainfuck.Bundle
