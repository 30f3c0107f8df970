import Brainfuck.CommandLine.Run
import Brainfuck.Proofs.Decimal
import Mathlib.Data.List.Induction

/-!
Rendering settings as arguments. A setting has many renderings: one dash or two, the value in the
same argument or in the next one, a number in any base, a switch without a value. Each of them is
scanned as that setting and nothing more, whatever its value looks like and whatever follows, so
parsing a rendering of a list of settings gives each option the value that was set last.
-/

namespace Brainfuck

namespace Flag

variable {Setting : Type}

inductive Dashes where
  | one
  | two
  deriving DecidableEq, Repr

def Dashes.bytes : Dashes → Bytes
  | .one => [0x2D]
  | .two => [0x2D, 0x2D]

/-- The argument that names a flag, with a value in it or without. -/
def argument (dashes : Dashes) (name : Bytes) (value : Option Bytes) : Bytes :=
  dashes.bytes ++ (name ++ value.elim [] (0x3D :: ·))

def spellings : Bool → List String
  | true => ["1", "t", "T", "TRUE", "true", "True"]
  | false => ["0", "f", "F", "FALSE", "false", "False"]

/-- The texts of a setting's value. A text stands for itself, a number has its literals in the
base, and a truth value its spellings. -/
inductive Kind.Writes (base : Integer.Base) : Kind Setting → Setting → Bytes → Prop where
  | text (make : Bytes → Setting) (value : Bytes) : Writes base (.text make) (make value) value
  | integer (make : Int64 → Setting) {number : Int64} {literal : Bytes}
      (written : Integer.Literal base number.toInt literal) :
      Writes base (.integer make) (make number) literal
  | switch (make : Bool → Setting) {on : Bool} {word : String} (known : word ∈ spellings on) :
      Writes base (.switch make) (make on) (utf8 word)

/-- The arguments that make a setting of a flag. Only a switch can go without a value, and only a
flag that is none can have it in the next argument. -/
inductive Renders (name : Bytes) (kind : Kind Setting) : Setting → List Bytes → Prop where
  | joined (dashes : Dashes) {base : Integer.Base} {setting : Setting} {value : Bytes}
      (writes : kind.Writes base setting value) :
      Renders name kind setting [argument dashes name (some value)]
  | apart (dashes : Dashes) {base : Integer.Base} {setting : Setting} {value : Bytes}
      (valued : ∀ make, kind ≠ .switch make) (writes : kind.Writes base setting value) :
      Renders name kind setting [argument dashes name none, value]
  | bare (dashes : Dashes) {make : Bool → Setting} (switch : kind = .switch make) :
      Renders name kind (make true) [argument dashes name none]

section Shapes

/-- A name that can be told from the dashes before it and from the value after it. -/
def Plain (name : Bytes) : Prop :=
  name ≠ [] ∧ name.head? ≠ some 0x2D ∧ 0x3D ∉ name

instance (name : Bytes) : Decidable (Plain name) :=
  inferInstanceAs (Decidable (name ≠ [] ∧ name.head? ≠ some 0x2D ∧ 0x3D ∉ name))

/-- The first equals sign ends the name, so a value may hold others. -/
theorem splitValue_append {name : Bytes} (unequal : 0x3D ∉ name) (value : Option Bytes) :
    splitValue (name ++ value.elim [] (0x3D :: ·)) = (name, value) := by
  induction name with
  | nil => cases value <;> rfl
  | cons byte rest ih =>
      have other : byte ≠ 0x3D := fun same => unequal (same ▸ List.mem_cons_self)
      have later := ih fun member => unequal (List.mem_cons_of_mem byte member)
      rw [List.cons_append, splitValue, if_neg other, later]

theorem Shape.ofArgument_eq {name : Bytes} (plain : Plain name) (dashes : Dashes)
    (value : Option Bytes) : Shape.ofArgument (argument dashes name value) = .named name value := by
  obtain ⟨filled, undashed, unequal⟩ := plain
  cases name with
  | nil => exact absurd rfl filled
  | cons byte rest =>
      have dash : byte ≠ 0x2D := fun same => undashed (congrArg some same)
      have equals : byte ≠ 0x3D := fun same => unequal (same ▸ List.mem_cons_self)
      have split := splitValue_append (fun member => unequal (List.mem_cons_of_mem byte member)) value
      have body : Shape.ofBody (byte :: (rest ++ value.elim [] (0x3D :: ·))) =
          .named (byte :: rest) value := by
        rw [Shape.ofBody, if_neg (not_or.mpr ⟨dash, equals⟩), split]
      cases dashes with
      | one =>
          -- The name begins with no dash, so a single dash is not taken for a pair.
          change Shape.ofArgument (0x2D :: byte :: _) = _
          rw [Shape.ofArgument]
          · exact body
          · exact fun same _ => dash same
          · exact dash
      | two => exact body

end Shapes

section Scanning

theorem boolean?_spelling : ∀ on, ∀ word ∈ spellings on, boolean? (utf8 word) = some on := by
  decide

theorem Kind.Writes.read_eq {base : Integer.Base} {kind : Kind Setting} {setting : Setting}
    {value : Bytes} (writes : kind.Writes base setting value) (name : Bytes) :
    kind.read name value = .ok setting := by
  cases writes with
  | text make => rfl
  | integer make written => rw [Kind.read, written.readLiteral_eq]
  | switch make known => rw [Kind.read, boolean?_spelling _ _ known]

variable {flags : List (Flag Setting)} {name : Bytes} {kind : Kind Setting} {setting : Setting}

theorem scan_joined {argument value : Bytes}
    (shape : Shape.ofArgument argument = .named name (some value))
    (found : (find? flags name).map Flag.kind = some kind)
    (read : kind.read name value = .ok setting) (rest : List Bytes) :
    scan flags (argument :: rest) =
      (scan flags rest).map fun (settings, operands) => (setting :: settings, operands) := by
  obtain ⟨flag, named, rfl⟩ := Option.map_eq_some_iff.mp found
  rw [scan]
  simp only [shape, named, read, bind, Except.bind]
  cases scan flags rest <;> rfl

/-- A flag whose value is the next argument, whatever that argument looks like. -/
theorem scan_value {argument value : Bytes}
    (shape : Shape.ofArgument argument = .named name none)
    (found : (find? flags name).map Flag.kind = some kind) (valued : ∀ set, kind ≠ .switch set)
    (read : kind.read name value = .ok setting) (rest : List Bytes) :
    scan flags (argument :: value :: rest) =
      (scan flags rest).map fun (settings, operands) => (setting :: settings, operands) := by
  obtain ⟨flag, named, rfl⟩ := Option.map_eq_some_iff.mp found
  rw [scan]
  simp only [shape, named]
  cases kind : flag.kind with
  | switch set => exact absurd kind (valued set)
  | text set =>
      rw [kind] at read
      simp only [read, bind, Except.bind]
      cases scan flags rest <;> rfl
  | integer set =>
      rw [kind] at read
      simp only [read, bind, Except.bind]
      cases scan flags rest <;> rfl

theorem scan_bare {argument : Bytes} {make : Bool → Setting}
    (shape : Shape.ofArgument argument = .named name none)
    (found : (find? flags name).map Flag.kind = some (.switch make)) (rest : List Bytes) :
    scan flags (argument :: rest) =
      (scan flags rest).map fun (settings, operands) => (make true :: settings, operands) := by
  obtain ⟨flag, named, switch⟩ := Option.map_eq_some_iff.mp found
  rw [scan]
  simp only [shape, named, switch, bind, Except.bind]
  cases scan flags rest <;> rfl

/-- A rendering in front of other arguments is scanned as its setting. -/
theorem scan_renders {front : List Bytes} (plain : Plain name)
    (found : (find? flags name).map Flag.kind = some kind)
    (renders : Renders name kind setting front) (rest : List Bytes) :
    scan flags (front ++ rest) =
      (scan flags rest).map fun (settings, operands) => (setting :: settings, operands) := by
  cases renders with
  | joined dashes writes =>
      exact scan_joined (Shape.ofArgument_eq plain dashes _) found (writes.read_eq name) rest
  | apart dashes valued writes =>
      exact scan_value (Shape.ofArgument_eq plain dashes none) found valued (writes.read_eq name) rest
  | bare dashes switch =>
      subst switch
      exact scan_bare (Shape.ofArgument_eq plain dashes none) found rest

end Scanning

end Flag

namespace CommandLine

namespace Setting

/-- The name of the flag that a setting belongs to. -/
def name : Setting → Bytes
  | .file _ => utf8 "file"
  | .logLevel _ => utf8 "log-level"
  | .loopLimit _ => utf8 "loop-limit"
  | .noInput _ => utf8 "no-input"
  | .tapeSize _ => utf8 "tape-size"
  | .timed _ => utf8 "time"

def kind : Setting → Flag.Kind Setting
  | .file _ => .text .file
  | .logLevel _ => .text .logLevel
  | .loopLimit _ => .integer .loopLimit
  | .noInput _ => .switch .noInput
  | .tapeSize _ => .integer .tapeSize
  | .timed _ => .switch .timed

theorem plain_name (setting : Setting) : Flag.Plain setting.name := by
  cases setting <;> exact of_decide_eq_true rfl

theorem find?_name (setting : Setting) :
    (Flag.find? flags setting.name).map Flag.kind = some setting.kind := by
  cases setting <;> rfl

/-- Every value has a text, and every number one in each base. -/
theorem exists_writes (base : Integer.Base) (setting : Setting) :
    ∃ value, setting.kind.Writes base setting value := by
  cases setting with
  | file path => exact ⟨path, .text file path⟩
  | logLevel level => exact ⟨level, .text logLevel level⟩
  | loopLimit limit =>
      obtain ⟨literal, written⟩ := Integer.exists_literal base limit.toInt
      exact ⟨literal, .integer loopLimit written⟩
  | tapeSize size =>
      obtain ⟨literal, written⟩ := Integer.exists_literal base size.toInt
      exact ⟨literal, .integer tapeSize written⟩
  | noInput on => cases on <;> exact ⟨_, .switch noInput List.mem_cons_self⟩
  | timed on => cases on <;> exact ⟨_, .switch timed List.mem_cons_self⟩

def Renders (setting : Setting) (arguments : List Bytes) : Prop :=
  Flag.Renders setting.name setting.kind setting arguments

theorem Renders.scan_eq {setting : Setting} {front : List Bytes} (renders : setting.Renders front)
    (rest : List Bytes) :
    Flag.scan flags (front ++ rest) =
      (Flag.scan flags rest).map fun (settings, operands) => (setting :: settings, operands) :=
  Flag.scan_renders setting.plain_name setting.find?_name renders rest

theorem renders_file (path : Bytes) : Renders (.file path) [utf8 "-file", path] := by
  have writes : Flag.Kind.Writes .decimal (.text file) (file path) path := .text file path
  exact Flag.Renders.apart .one nofun writes

section Values

def file? : Setting → Option Bytes
  | .file path => some path
  | _ => none

def logLevel? : Setting → Option Bytes
  | .logLevel level => some level
  | _ => none

def loopLimit? : Setting → Option Int64
  | .loopLimit limit => some limit
  | _ => none

def noInput? : Setting → Option Bool
  | .noInput on => some on
  | _ => none

def tapeSize? : Setting → Option Int64
  | .tapeSize size => some size
  | _ => none

def timed? : Setting → Option Bool
  | .timed on => some on
  | _ => none

end Values

end Setting

/-- The arguments that make settings one after the other, with or without a pair of dashes at the
end. -/
inductive Rendering : List Setting → List Bytes → Prop where
  | nothing : Rendering [] []
  | terminator : Rendering [] [[0x2D, 0x2D]]
  | next {setting : Setting} {settings : List Setting} {front arguments : List Bytes}
      (renders : setting.Renders front) (rendering : Rendering settings arguments) :
      Rendering (setting :: settings) (front ++ arguments)

theorem Rendering.scan_eq {settings : List Setting} {arguments : List Bytes}
    (rendering : Rendering settings arguments) :
    Flag.scan flags arguments = .ok (settings, []) := by
  induction rendering with
  | nothing => rfl
  | terminator => rfl
  | next renders rendering ih =>
      -- A switch leaves the next argument alone and a value is taken whole, so the scan goes on
      -- exactly where the rest begins.
      rw [renders.scan_eq, ih]
      rfl

theorem Rendering.parse_eq {settings : List Setting} {arguments : List Bytes}
    (rendering : Rendering settings arguments) :
    Options.parse arguments = .ok (settings.foldl Options.set {}) := by
  rw [Options.parse, rendering.scan_eq]

namespace Options

/-- Each option as it was set last, or its default. -/
def last (settings : List Setting) : Options where
  file := (settings.filterMap Setting.file?).getLastD []
  limits :=
    { tapeSize := (settings.filterMap Setting.tapeSize?).getLastD 1024
      loopLimit := (settings.filterMap Setting.loopLimit?).getLastD (-1) }
  noInput := (settings.filterMap Setting.noInput?).getLastD false
  timed := (settings.filterMap Setting.timed?).getLastD false
  logLevel := (settings.filterMap Setting.logLevel?).getLastD (utf8 "warn")

theorem last_append (settings : List Setting) (setting : Setting) :
    last (settings ++ [setting]) = (last settings).set setting := by
  simp only [last, List.filterMap_append]
  cases setting <;> simp [set, Setting.file?, Setting.logLevel?, Setting.loopLimit?,
    Setting.noInput?, Setting.tapeSize?, Setting.timed?]

theorem foldl_set_eq (settings : List Setting) : settings.foldl set {} = last settings := by
  induction settings using List.reverseRecOn with
  | nil => rfl
  | append_singleton settings setting ih =>
      rw [List.foldl_append, ih, last_append]
      rfl

theorem set_comm {first second : Setting} (different : first.name ≠ second.name)
    (options : Options) : (options.set first).set second = (options.set second).set first := by
  cases first <;> cases second <;> first | rfl | exact absurd rfl different

theorem set_again {first second : Setting} (same : first.name = second.name)
    (options : Options) : (options.set first).set second = options.set second := by
  cases first <;> cases second <;> first | rfl | exact absurd same (of_decide_eq_false rfl)

theorem foldl_set_again {dropped kept : Setting} (same : dropped.name = kept.name)
    (between after : List Setting) (options : Options) :
    (between ++ kept :: after).foldl set (options.set dropped) =
      (between ++ kept :: after).foldl set options := by
  induction between generalizing options with
  | nil =>
      change after.foldl set ((options.set dropped).set kept) = after.foldl set (options.set kept)
      rw [set_again same]
  | cons setting rest ih =>
      change (rest ++ kept :: after).foldl set ((options.set dropped).set setting) =
        (rest ++ kept :: after).foldl set (options.set setting)
      -- What stands between is of the same flag and takes over, or of another one and commutes.
      by_cases repeated : dropped.name = setting.name
      · rw [set_again repeated]
      · rw [set_comm repeated, ih]

end Options

/-- Parsing undoes rendering. However a list of settings is rendered, its arguments are accepted
and the run goes on with the options as they were set last, and nothing has been said until then.
So neighbours of different names can change places, and a setting that is made again later can be
left out. All values can be rendered, and numbers in every base. -/
theorem rendered_settings_are_parsed (settings : List Setting) :
    (∀ base, ∀ setting ∈ settings, ∃ value, setting.kind.Writes base setting value) ∧
    ∀ arguments, Rendering settings arguments →
      Options.parse arguments = .ok (Options.last settings) ∧
      (∀ fuel surroundings, run fuel surroundings arguments =
        runOptions fuel surroundings (Options.last settings)) ∧
      (∀ before first second after swapped, settings = before ++ first :: second :: after →
        first.name ≠ second.name → Rendering (before ++ second :: first :: after) swapped →
        Options.parse swapped = Options.parse arguments) ∧
      ∀ before dropped between kept after shortened,
        settings = before ++ dropped :: (between ++ kept :: after) → dropped.name = kept.name →
        Rendering (before ++ (between ++ kept :: after)) shortened →
        Options.parse shortened = Options.parse arguments := by
  refine ⟨fun base setting _ => setting.exists_writes base, fun arguments rendering => ?_⟩
  have parsed : Options.parse arguments = .ok (Options.last settings) := by
    rw [rendering.parse_eq, Options.foldl_set_eq]
  refine ⟨parsed, fun fuel surroundings => ?_, ?_, ?_⟩
  · rw [run, parsed]
  · intro before first second after swapped same different other
    subst same
    rw [rendering.parse_eq, other.parse_eq, List.foldl_append, List.foldl_append]
    simp only [List.foldl_cons, Options.set_comm different]
  · intro before dropped between kept after shortened same again other
    subst same
    rw [rendering.parse_eq, List.foldl_append, List.foldl_cons, Options.foldl_set_again again,
      ← List.foldl_append, other.parse_eq]

def assorted : List Setting :=
  [.noInput true, .file (utf8 "-x="), .tapeSize 255, .loopLimit Int64.minValue, .noInput false]

/-- The assorted settings after the tape size. -/
def assortedEnd : List Bytes :=
  [utf8 "-loop-limit", Integer.ofInt Int64.minValue.toInt, utf8 "--no-input=F", utf8 "--"]

theorem assorted_settings_are_parsed :
    Rendering assorted
      (utf8 "-no-input" :: utf8 "--file" :: utf8 "-x=" :: utf8 "--tape-size=+0x_fF" ::
        assortedEnd) ∧
    Options.parse
      (utf8 "-no-input" :: utf8 "--file" :: utf8 "-x=" :: utf8 "--tape-size=+0x_fF" ::
        assortedEnd) =
      .ok { file := utf8 "-x=", limits := ⟨255, Int64.minValue⟩ } ∧
    Options.parse
      (utf8 "-no-input" :: utf8 "--tape-size=+0x_fF" :: utf8 "--file" :: utf8 "-x=" ::
        assortedEnd) =
      .ok { file := utf8 "-x=", limits := ⟨255, Int64.minValue⟩ } ∧
    Options.parse (utf8 "--file" :: utf8 "-x=" :: utf8 "--tape-size=+0x_fF" :: assortedEnd) =
      .ok { file := utf8 "-x=", limits := ⟨255, Int64.minValue⟩ } := by
  have path : Flag.Kind.Writes .decimal (.text Setting.file) (.file (utf8 "-x=")) (utf8 "-x=") :=
    .text Setting.file _
  have digits : Integer.Spells 16 true 255 (utf8 "fF") :=
    .more (.digit (.lower (by decide : 5 < 6)) (by decide)) (.upper (by decide : 5 < 6)) (by decide)
  have size : Integer.Literal .hexadecimal (255 : Int64).toInt (utf8 "+0x_fF") :=
    .positive (.spaced List.mem_cons_self digits)
  have limit := Integer.ofInt_literal Int64.minValue.toInt
  have off : Flag.Kind.Writes .decimal (.switch Setting.noInput) (.noInput false) (utf8 "F") :=
    .switch Setting.noInput (by decide)
  have silent : Setting.Renders (.noInput true) [utf8 "-no-input"] := Flag.Renders.bare .one rfl
  have file : Setting.Renders (.file (utf8 "-x=")) [utf8 "--file", utf8 "-x="] :=
    Flag.Renders.apart .two nofun path
  have tapeSize : Setting.Renders (.tapeSize 255) [utf8 "--tape-size=+0x_fF"] :=
    Flag.Renders.joined .two (.integer Setting.tapeSize size)
  have loopLimit : Setting.Renders (.loopLimit Int64.minValue)
      [utf8 "-loop-limit", Integer.ofInt Int64.minValue.toInt] :=
    Flag.Renders.apart .one nofun (.integer Setting.loopLimit limit)
  have heard : Setting.Renders (.noInput false) [utf8 "--no-input=F"] :=
    Flag.Renders.joined .two off
  have ending : Rendering [.loopLimit Int64.minValue, .noInput false] assortedEnd :=
    .next loopLimit (.next heard .terminator)
  have rendering : Rendering assorted _ := .next silent (.next file (.next tapeSize ending))
  obtain ⟨parsed, _, commutes, drops⟩ := (rendered_settings_are_parsed assorted).2 _ rendering
  exact ⟨rendering, parsed,
    (commutes [.noInput true] _ _ _ _ rfl (by decide)
      (.next silent (.next tapeSize (.next file ending)))).trans parsed,
    (drops [] (.noInput true) [.file (utf8 "-x="), .tapeSize 255, .loopLimit Int64.minValue]
      (.noInput false) [] _ rfl rfl (.next file (.next tapeSize ending))).trans parsed⟩

end CommandLine

end Brainfuck
