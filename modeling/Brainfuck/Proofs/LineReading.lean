import Brainfuck.LineSource

/-!
Lines of byte streams. A text is cut at its line feeds, and a carriage return in front of one goes
with it. Nothing else is lost and nothing is added: the answers of a stream are the pieces of its
text, and then its error for ever. So a list of lines can be written down and read back.
-/

namespace Brainfuck

namespace LineSource

/-- A source that serves these lines and from then on an empty line with an error. -/
def Gives (source : LineSource) (lines : List Bytes) (ending : Error) : Prop :=
  ∀ index, source.answer index =
    match lines[index]? with
    | some line => ⟨line, none⟩
    | none => ⟨[], some ending⟩

variable {source : LineSource} {lines : List Bytes} {ending : Error}

theorem Gives.next {line : Bytes} {later : LineSource} (rest : later.Gives lines ending)
    (served : source.next = (⟨line, none⟩, later)) : source.Gives (line :: lines) ending := by
  intro index
  cases index with
  | zero => simp [answer, drop, served]
  | succ index =>
      simp only [answer, drop, served, List.getElem?_cons_succ]
      exact rest index

theorem gives_nothing (served : source.next = (⟨[], some ending⟩, source)) :
    source.Gives [] ending := by
  have still : ∀ count, source.drop count = source := by
    intro count
    induction count with
    | zero => rfl
    | succ count ih => rw [drop_succ, ih, served]
  intro index
  simp [answer, still, served]

theorem Gives.unique {other : LineSource} (first : source.Gives lines ending)
    (second : other.Gives lines ending) (index : Nat) :
    source.answer index = other.answer index := by
  rw [first index, second index]

theorem listed_gives (lines : List Bytes) : (listed lines).Gives lines .endOfInput := by
  induction lines with
  | nil => exact gives_nothing rfl
  | cons line lines ih => exact ih.next rfl

end LineSource

namespace Reader

open LineSource

theorem gives_ending (ending : Error) : (reading ⟨[], ending⟩).Gives [] ending := by
  apply gives_nothing
  simp [LineSource.next, Reader.next, cutLine?]

/-- What is left after the last line feed. -/
theorem gives_last {last : Bytes} (whole : 0x0A ∉ last) (ending : Error) :
    (reading ⟨last, ending⟩).Gives
      (if ending = .endOfInput ∧ last ≠ [] then [last.dropTrailing 0x0D] else []) ending := by
  split
  · rename_i ended
    apply (gives_ending ending).next
    simp [LineSource.next, Reader.next, cutLine?_eq_none whole, ended]
  · rename_i cut
    -- The rest of a stream that fails is dropped with the first answer, so this one is special.
    intro index
    cases index with
    | zero => simp [answer, drop, LineSource.next, Reader.next, cutLine?_eq_none whole, cut]
    | succ index =>
        simp only [answer, drop, LineSource.next, Reader.next, cutLine?_eq_none whole, cut,
          ↓reduceIte]
        exact gives_ending ending index

/-- The lines of a text that is given by its pieces: all that end with a line feed, and what comes
after the last line feed, if it is not empty and the stream ends there without an error. -/
def linesOf (ending : Error) (pieces : List Bytes) (last : Bytes) : List Bytes :=
  pieces.map (Bytes.dropTrailing 0x0D) ++
    if ending = .endOfInput ∧ last ≠ [] then [last.dropTrailing 0x0D] else []

theorem reading_gives {pieces : List Bytes} {last : Bytes}
    (whole : ∀ piece ∈ pieces ++ [last], 0x0A ∉ piece) (ending : Error) :
    (reading ⟨Bytes.joinWith 0x0A (pieces ++ [last]), ending⟩).Gives (linesOf ending pieces last)
      ending := by
  induction pieces with
  | nil =>
      exact gives_last (whole last (by simp)) ending
  | cons piece pieces ih =>
      have rest := ih fun other member => whole other (List.mem_cons_of_mem piece member)
      apply rest.next
      rw [List.cons_append, Bytes.joinWith_cons (by simp), LineSource.next,
        next_of_line (whole piece (by simp))]

theorem exists_pieces (text : Bytes) :
    ∃ pieces last, text = Bytes.joinWith 0x0A (pieces ++ [last]) ∧
      ∀ piece ∈ pieces ++ [last], 0x0A ∉ piece := by
  have joined := Bytes.joinWith_splitOn 0x0A text
  have cut : ∀ piece ∈ Bytes.splitOn 0x0A text, 0x0A ∉ piece :=
    fun piece member => Bytes.not_mem_of_mem_splitOn member
  rcases List.eq_nil_or_concat (Bytes.splitOn 0x0A text) with nothing | ⟨pieces, last, split⟩
  · exact absurd nothing (Bytes.splitOn_ne_nil 0x0A text)
  · rw [split, List.concat_eq_append] at joined cut
    exact ⟨pieces, last, joined.symm, cut⟩

end Reader

/-- A line together with the way in which its end is marked: by a line feed, or by a carriage
return and a line feed. A line feed alone is not enough if the line ends in a carriage return. -/
structure Terminated where
  line : Bytes
  returned : Bool
  whole : 0x0A ∉ line
  marked : returned = false → line.getLast? ≠ some 0x0D

namespace Terminated

/-- The bytes in front of the line feed. -/
def body (item : Terminated) : Bytes :=
  if item.returned then item.line ++ [0x0D] else item.line

def text (item : Terminated) : Bytes :=
  item.body ++ [0x0A]

theorem dropTrailing_body (item : Terminated) : item.body.dropTrailing 0x0D = item.line := by
  unfold body
  cases returned : item.returned with
  | true => simp
  | false => simpa using Bytes.dropTrailing_of_ne (item.marked returned)

theorem body_whole (item : Terminated) : 0x0A ∉ item.body := by
  unfold body
  split <;> simp [item.whole]

theorem flatMap_text (items : List Terminated) :
    items.flatMap text = Bytes.joinWith 0x0A (items.map body ++ [[]]) := by
  induction items with
  | nil => rfl
  | cons item items ih =>
      rw [List.flatMap_cons, ih, List.map_cons, List.cons_append, Bytes.joinWith_cons (by simp)]
      simp [text]

theorem written_gives (items : List Terminated) :
    (LineSource.reading (.ofText (items.flatMap text))).Gives (items.map line) .endOfInput := by
  have whole : ∀ piece ∈ items.map body ++ [[]], 0x0A ∉ piece := by
    intro piece member
    rcases List.mem_append.mp member with member | member
    · obtain ⟨item, _, rfl⟩ := List.mem_map.mp member
      exact item.body_whole
    · simp_all
  have given := Reader.reading_gives whole .endOfInput
  have lines : Reader.linesOf .endOfInput (items.map body) [] = items.map line := by
    simp [Reader.linesOf, Function.comp_def, dropTrailing_body]
  rwa [← flatMap_text, lines] at given

end Terminated

namespace LineSource

/-- A line reader loses nothing and invents nothing. Every text is made of pieces without line
feeds. Its answers are those pieces without a carriage return at their end, the last one only if
it is not empty and the stream ends without an error, and then the error of the stream for ever.
So lines that are written with line ends and read back are served as from the list. -/
theorem line_reader_keeps_text :
    (∀ text : Bytes, ∃ pieces last, text = Bytes.joinWith 0x0A (pieces ++ [last]) ∧
      ∀ piece ∈ pieces ++ [last], 0x0A ∉ piece) ∧
    (∀ pieces last ending, (∀ piece ∈ pieces ++ [last], 0x0A ∉ piece) →
      (reading ⟨Bytes.joinWith 0x0A (pieces ++ [last]), ending⟩).Gives
        (Reader.linesOf ending pieces last) ending) ∧
    ∀ items : List Terminated, ∀ index,
      (reading (.ofText (items.flatMap Terminated.text))).answer index =
        (listed (items.map Terminated.line)).answer index := by
  refine ⟨Reader.exists_pieces, ?_, ?_⟩
  · intro pieces last ending whole
    exact Reader.reading_gives whole ending
  · intro items
    exact (Terminated.written_gives items).unique (listed_gives _)

/-- Of the two carriage returns in front of the line feed one is part of the line. The one behind
it is a last line with nothing in it, unless the stream fails there. -/
theorem lone_return_is_empty_line :
    (reading (.ofText (utf8 "a\r\r\n\r"))).Gives [utf8 "a\r", []] .endOfInput ∧
      (reading ⟨utf8 "a\r\r\n\r", .labelled (utf8 "wrapped") .endOfInput⟩).Gives [utf8 "a\r"]
        (.labelled (utf8 "wrapped") .endOfInput) := by
  have whole : ∀ piece ∈ [utf8 "a\r\r"] ++ [utf8 "\r"], 0x0A ∉ piece := by decide +kernel
  have gives := line_reader_keeps_text.2.1 [utf8 "a\r\r"] (utf8 "\r")
  exact ⟨gives .endOfInput whole, gives (.labelled (utf8 "wrapped") .endOfInput) whole⟩

end LineSource

end Brainfuck
