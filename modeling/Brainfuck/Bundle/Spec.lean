import Brainfuck.Bundle.Platform
import Brainfuck.Table

/-!
The specification of a container, as far as it is used here. It is read from JSON member by
member: a member that occurs again changes what the earlier one left, members without a meaning
are passed over, and a value of the wrong sort makes the whole text no specification, also where
the value is not used.
-/

namespace Brainfuck.Bundle

/-- A list of texts that can be read again. A null item leaves what was last read at its place,
also if a shorter list has come in between. -/
structure Texts where
  slots : List Bytes := []
  size : Nat := 0
  deriving DecidableEq, Repr

def Texts.items (texts : Texts) : List Bytes :=
  texts.slots.take texts.size

structure Root where
  path : Bytes := []
  deriving DecidableEq, Repr

structure Process where
  args : Texts := {}
  env : Texts := {}
  deriving DecidableEq, Repr

structure Spec where
  root : Option Root := none
  process : Option Process := none
  annotations : Table Bytes Bytes := []
  deriving DecidableEq, Repr

abbrev Update (Value : Type) := Value → Json → Option Value

namespace Update

def text : Update Bytes
  | old, .null => some old
  | _, .string text => some text
  | _, _ => none

def slots : List Bytes → List Json → Option (List Bytes)
  | old, [] => some old
  | old, item :: items => do
      let first ← text (old.headD []) item
      let rest ← slots old.tail items
      return first :: rest

/-- An empty list and null forget what was read before. -/
def texts : Update Texts
  | _, .null => some {}
  | _, .array [] => some {}
  | old, .array items => (slots old.slots items).map fun slots => ⟨slots, items.length⟩
  | _, _ => none

/-- A table of texts, changed key by key. Under a key, null is the empty text. -/
def table : Update (Table Bytes Bytes)
  | _, .null => some []
  | old, .object members =>
      members.foldlM (fun entries (key, value) => (text [] value).map (Table.put entries key)) old
  | _, _ => none

def optional {Value : Type} (start : Value) (update : Update Value) : Update (Option Value)
  | _, .null => some none
  | old, json => (update (old.getD start) json).map some

structure Member (Value : Type) where
  name : String
  update : Update Value

def member {Value Field : Type} (name : String) (update : Update Field) (get : Value → Field)
    (set : Value → Field → Value) : Member Value :=
  ⟨name, fun value json => (update (get value) json).map (set value)⟩

def checked {Value : Type} (name : String) (shape : Shape) : Member Value :=
  ⟨name, fun value json => if shape.accepts json then some value else none⟩

/-- The members of a record in the order of the text. Null leaves the record as it was. -/
def record {Value : Type} (members : List (Member Value)) : Update Value
  | old, .null => some old
  | old, .object entries =>
      entries.foldlM
        (fun value (name, json) =>
          match members.find? fun member => isNamed member.name name with
          | some member => member.update value json
          | none => some value)
        old
  | _, _ => none

def root : Update Root :=
  record [
    member "path" text Root.path fun root path => { root with path },
    checked "readonly" .bool]

def process : Update Process :=
  record [
    checked "terminal" .bool,
    checked "consoleSize" Platform.consoleSize,
    checked "user" Platform.user,
    member "args" texts Process.args fun process args => { process with args },
    checked "commandLine" .text,
    member "env" texts Process.env fun process env => { process with env },
    checked "cwd" .text,
    checked "capabilities" Platform.capabilities,
    checked "rlimits" (.list Platform.resourceLimit),
    checked "noNewPrivileges" .bool,
    checked "apparmorProfile" .text,
    checked "oomScoreAdj" (.signed 64),
    checked "scheduler" Platform.scheduler,
    checked "selinuxLabel" .text,
    checked "ioPriority" Platform.ioPriority,
    checked "execCPUAffinity" Platform.cpuAffinity]

def spec : Update Spec :=
  record [
    checked "ociVersion" .text,
    member "process" (optional {} process) Spec.process fun spec process => { spec with process },
    member "root" (optional {} root) Spec.root fun spec root => { spec with root },
    checked "hostname" .text,
    checked "domainname" .text,
    checked "mounts" (.list Platform.mount),
    checked "hooks" Platform.hooks,
    member "annotations" table Spec.annotations fun spec annotations => { spec with annotations },
    checked "linux" Platform.Linux.settings,
    checked "solaris" Platform.Solaris.settings,
    checked "windows" Platform.Windows.settings,
    checked "vm" Platform.virtualMachine,
    checked "zos" Platform.zos]

end Update

def Spec.parse (text : Bytes) : Option Spec := do
  Update.spec {} (← Json.parse text)

end Brainfuck.Bundle
