/-!
Byte texts. Sources, paths, arguments and messages need not be valid UTF-8, so a text is a
list of bytes and every position in it is a byte offset.
-/

namespace Brainfuck

abbrev Bytes := List UInt8

def utf8 (text : String) : Bytes :=
  text.toList.flatMap String.utf8EncodeChar

namespace Bytes

/-- The pieces between the occurrences of a byte. There is always at least one piece. -/
def splitOn (separator : UInt8) : Bytes → List Bytes
  | [] => [[]]
  | byte :: rest =>
      if byte = separator then [] :: splitOn separator rest
      else
        match splitOn separator rest with
        | [] => [[byte]]
        | piece :: pieces => (byte :: piece) :: pieces

def joinWith (separator : UInt8) : List Bytes → Bytes
  | [] => []
  | [piece] => piece
  | piece :: pieces => piece ++ separator :: joinWith separator pieces

def after? (start text : Bytes) : Option Bytes :=
  start.isPrefixOf? text

def dropTrailing (byte : UInt8) (text : Bytes) : Bytes :=
  if text.getLast? = some byte then text.dropLast else text

theorem splitOn_ne_nil (separator : UInt8) (text : Bytes) : splitOn separator text ≠ [] := by
  cases text with
  | nil => simp [splitOn]
  | cons byte rest =>
      simp only [splitOn]
      split
      · simp
      · split <;> simp

theorem joinWith_cons {separator : UInt8} {pieces : List Bytes} (more : pieces ≠ [])
    (piece : Bytes) :
    joinWith separator (piece :: pieces) = piece ++ separator :: joinWith separator pieces := by
  cases pieces with
  | nil => contradiction
  | cons => rfl

theorem joinWith_cons_cons (separator byte : UInt8) (piece : Bytes) (pieces : List Bytes) :
    joinWith separator ((byte :: piece) :: pieces) =
      byte :: joinWith separator (piece :: pieces) := by
  cases pieces <;> rfl

theorem joinWith_splitOn (separator : UInt8) (text : Bytes) :
    joinWith separator (splitOn separator text) = text := by
  induction text with
  | nil => rfl
  | cons byte rest ih =>
      simp only [splitOn]
      split
      · rename_i same
        rw [joinWith_cons (splitOn_ne_nil separator rest), ih, same]
        rfl
      · split
        · rename_i nothing
          exact absurd nothing (splitOn_ne_nil separator rest)
        · rename_i piece pieces split
          rw [joinWith_cons_cons, ← split, ih]

theorem not_mem_of_mem_splitOn {separator : UInt8} {text piece : Bytes}
    (member : piece ∈ splitOn separator text) : separator ∉ piece := by
  induction text generalizing piece with
  | nil => simp_all [splitOn]
  | cons byte rest ih =>
      simp only [splitOn] at member
      split at member
      · rcases List.mem_cons.mp member with rfl | member
        · simp
        · exact ih member
      · rename_i differs
        split at member
        · rename_i nothing
          exact absurd nothing (splitOn_ne_nil separator rest)
        · rename_i first pieces split
          rcases List.mem_cons.mp member with rfl | member
          · have kept : separator ∉ first := ih (split ▸ List.mem_cons_self)
            simp [kept, Ne.symm differs]
          · exact ih (split ▸ List.mem_cons_of_mem first member)

@[simp] theorem dropTrailing_concat (byte : UInt8) (text : Bytes) :
    dropTrailing byte (text ++ [byte]) = text := by
  simp [dropTrailing]

theorem dropTrailing_of_ne {byte : UInt8} {text : Bytes} (differs : text.getLast? ≠ some byte) :
    dropTrailing byte text = text :=
  if_neg differs

end Bytes

end Brainfuck
