import ContractCompiler.Proofs.Output.Texts

/-!
# Comments in embedded text

A comment goes from its mark to the end of the line, whatever stands there. This module follows a
comment that begins with the mark of an omission through the ways in which text is put together.

A comment is alone on its line if only its description stands there, up to a line ending in the
description (`Alone`). It swallows code if something else follows the description on the same line
(`Swallows`). Text that is written after the comment leaves either as it is. So does embedding, which
takes the text apart into lines and writes each of them at an indentation: a piece of a line is
written as it is (`Indentation.embedded_piece_of_line`), and so is the mark of a comment
(`Indentation.embedded_comment`). A comment that ends its text is alone on its line as soon as it is
embedded.
-/

namespace ContractCompiler

set_option autoImplicit false

/-! ## Lines -/

namespace Text

theorem chomp_eq_self {line : List Char} (noReturn : '\r' ∉ line) : chomp line = line := by
  rw [chomp, if_neg]
  intro last
  exact noReturn (List.mem_of_getLast? last)

/-- A carriage return is taken from the end of a line only. -/
theorem chomp_append {front : List Char} (kept : front.getLast? ≠ some '\r') (line : List Char) :
    chomp (front ++ line) = front ++ chomp line := by
  unfold chomp
  cases line with
  | nil => simp [kept]
  | cons c rest =>
      have last : (front ++ c :: rest).getLast? = (c :: rest).getLast? := by
        rw [List.getLast?_append, List.getLast?_cons, Option.some_or]
      rw [last]
      split
      · rw [List.dropLast_append_of_ne_nil (List.cons_ne_nil c rest)]
      · rfl

/-- A line without its carriage return, and what was taken from it. -/
theorem chomp_cases (line : List Char) : chomp line = line ∨ line = chomp line ++ ['\r'] := by
  unfold chomp
  split
  · next ends =>
      obtain ⟨kept, rfl⟩ := List.getLast?_eq_some_iff.mp ends
      exact .inr (by rw [List.dropLast_concat])
  · exact .inl rfl

/-- Text without a line feed belongs to the line that is open. -/
theorem linesFrom_unbroken {front : List Char} (unbroken : '\n' ∉ front)
    (current rest : List Char) :
    linesFrom current (front ++ rest) = linesFrom (front.reverse ++ current) rest := by
  induction front generalizing current with
  | nil => rfl
  | cons c further ih =>
      rw [List.mem_cons, not_or] at unbroken
      rw [List.cons_append, linesFrom, if_neg (Ne.symm unbroken.1), ih unbroken.2,
        List.reverse_cons, List.append_assoc, List.singleton_append]

/-- Up to a line feed the text belongs to the line that is open. -/
theorem linesFrom_line {line : List Char} (unbroken : '\n' ∉ line) (current rest : List Char) :
    linesFrom current (line ++ '\n' :: rest) =
      chomp (current.reverse ++ line) :: linesFrom [] rest := by
  rw [linesFrom_unbroken unbroken, linesFrom, if_pos rfl, List.reverse_append, List.reverse_reverse]

/-- The last line may lack its line feed. -/
theorem linesFrom_last {line : List Char} (unbroken : '\n' ∉ line) {current : List Char}
    (begun : current.reverse ++ line ≠ []) :
    linesFrom current line = [current.reverse ++ line] := by
  have whole : (line.reverse ++ current).reverse = current.reverse ++ line := by simp
  have opened : ¬ (line.reverse ++ current).isEmpty = true := by
    rw [List.isEmpty_iff, ← List.reverse_eq_nil_iff, whole]
    exact begun
  have read := linesFrom_unbroken unbroken current []
  rwa [List.append_nil, linesFrom, if_neg opened, whole] at read

/-- The lines of a text that goes on: those that are ended, and the one that is open. -/
theorem linesFrom_append (front current : List Char) :
    ∃ ended opened, ∀ rest, linesFrom current (front ++ rest) = ended ++ linesFrom opened rest := by
  induction front generalizing current with
  | nil => exact ⟨[], current, fun _ => rfl⟩
  | cons c further ih =>
      by_cases feed : c = '\n'
      · obtain ⟨ended, opened, lines⟩ := ih []
        refine ⟨chomp current.reverse :: ended, opened, fun rest => ?_⟩
        rw [List.cons_append, linesFrom, if_pos feed, lines, List.cons_append]
      · obtain ⟨ended, opened, lines⟩ := ih (c :: current)
        refine ⟨ended, opened, fun rest => ?_⟩
        rw [List.cons_append, linesFrom, if_neg feed, lines]

end Text

/-- A text has no line feed, or there is a first one. -/
theorem unbroken_or_split (text : List Char) :
    '\n' ∉ text ∨ ∃ line rest, text = line ++ '\n' :: rest ∧ '\n' ∉ line := by
  by_cases broken : '\n' ∈ text
  · obtain ⟨line, rest, rfl, unbroken⟩ := List.eq_append_cons_of_mem broken
    exact .inr ⟨line, rest, rfl, unbroken⟩
  · exact .inl broken

/-! ## Comments -/

/-- The mark at the beginning of a placeholder. -/
def omissionMark : String := "// Omitted: "

/-- A comment with the mark of an omission, and the text after the mark. -/
def commented (text : List Char) : String :=
  omissionMark ++ String.ofList text

/-- The text begins with a line ending, if it is not empty. -/
def AtLineEnding (text : List Char) : Prop :=
  ∀ c, text.head? = some c → c = '\n' ∨ c = '\r'

/-- Nothing but the description stands on the line of the comment, up to a line ending in it. -/
def Alone (description text : List Char) : Prop :=
  ∃ shown hidden rest, description = shown ++ hidden ∧ AtLineEnding hidden ∧ '\n' ∉ shown ∧
    text = shown ++ '\n' :: rest

/-- The description and something else after it stand on the line of the comment. -/
def Swallows (description text : List Char) : Prop :=
  '\n' ∉ description ∧ ∃ c rest, c ≠ '\n' ∧ c ≠ '\r' ∧ text = description ++ c :: rest

/-- The text begins with a character that does not end a line. -/
def GoesOn (text : List Char) : Prop :=
  ∃ c rest, c ≠ '\n' ∧ c ≠ '\r' ∧ text = c :: rest

theorem goesOn_cons_iff {c : Char} {rest : List Char} :
    GoesOn (c :: rest) ↔ c ≠ '\n' ∧ c ≠ '\r' := by
  constructor
  · rintro ⟨first, further, notFeed, notReturn, same⟩
    rw [(List.cons.inj same).1]
    exact ⟨notFeed, notReturn⟩
  · rintro ⟨notFeed, notReturn⟩
    exact ⟨c, rest, notFeed, notReturn, rfl⟩

theorem not_goesOn_nil : ¬ GoesOn [] := by
  rintro ⟨c, rest, _, _, same⟩
  cases same

instance : DecidablePred GoesOn
  | [] => isFalse not_goesOn_nil
  | _ :: _ => decidable_of_iff _ goesOn_cons_iff.symm

theorem GoesOn.append {text : List Char} (goesOn : GoesOn text) (added : List Char) :
    GoesOn (text ++ added) := by
  obtain ⟨c, rest, notFeed, notReturn, rfl⟩ := goesOn
  exact ⟨c, rest ++ added, notFeed, notReturn, rfl⟩

theorem commented_append (text : List Char) (added : String) :
    commented text ++ added = commented (text ++ added.toList) := by
  rw [commented, commented, String.append_assoc, String.ofList_append, String.ofList_toList]

section Comments

variable {description text : List Char}

theorem Alone.append (alone : Alone description text) (added : List Char) :
    Alone description (text ++ added) := by
  obtain ⟨shown, hidden, rest, split, ending, unbroken, rfl⟩ := alone
  refine ⟨shown, hidden, rest ++ added, split, ending, unbroken, ?_⟩
  rw [List.append_assoc, List.cons_append]

theorem Swallows.append (swallows : Swallows description text) (added : List Char) :
    Swallows description (text ++ added) := by
  obtain ⟨unbroken, c, rest, notFeed, notReturn, rfl⟩ := swallows
  refine ⟨unbroken, c, rest ++ added, notFeed, notReturn, ?_⟩
  rw [List.append_assoc, List.cons_append]

/-- A description with a line feed in it is cut there, whatever follows. -/
theorem Alone.of_broken (broken : '\n' ∈ description) (added : List Char) :
    Alone description (description ++ added) := by
  rcases unbroken_or_split description with unbroken | ⟨line, rest, rfl, unbroken⟩
  · exact absurd broken unbroken
  · refine ⟨line, '\n' :: rest, rest ++ added, rfl, ?_, unbroken, ?_⟩
    · intro c first
      exact .inl (Option.some.inj first).symm
    · rw [List.append_assoc, List.cons_append]

/-- What goes on after a description without a line feed is swallowed. -/
theorem Swallows.of_goesOn (unbroken : '\n' ∉ description) {added : List Char}
    (goesOn : GoesOn added) : Swallows description (description ++ added) := by
  obtain ⟨c, rest, notFeed, notReturn, rfl⟩ := goesOn
  exact ⟨unbroken, c, rest, notFeed, notReturn, rfl⟩

/-- A line goes on through text without a line feed. -/
theorem takeWhile_unbroken {front : List Char} (unbroken : '\n' ∉ front) (rest : List Char) :
    (front ++ rest).takeWhile (· ≠ '\n') = front ++ rest.takeWhile (· ≠ '\n') := by
  refine List.takeWhile_append_of_pos fun c listed => decide_eq_true ?_
  rintro rfl
  exact unbroken listed

/-- The line of a comment that is alone on it is a part of the description. -/
theorem Alone.line_isPrefix (alone : Alone description text) :
    text.takeWhile (· ≠ '\n') <+: description := by
  obtain ⟨shown, hidden, rest, rfl, _, unbroken, rfl⟩ := alone
  rw [takeWhile_unbroken unbroken, List.takeWhile_cons, if_neg (by simp), List.append_nil]
  exact List.prefix_append shown hidden

/-- Code that is swallowed makes the line longer than the description. -/
theorem Swallows.line_not_isPrefix (swallows : Swallows description text) :
    ¬ text.takeWhile (· ≠ '\n') <+: description := by
  obtain ⟨unbroken, c, rest, notFeed, _, rfl⟩ := swallows
  intro shorter
  have line : (description ++ c :: rest).takeWhile (· ≠ '\n') =
      description ++ c :: rest.takeWhile (· ≠ '\n') := by
    rw [takeWhile_unbroken unbroken, List.takeWhile_cons, if_pos (by simpa using notFeed)]
  have length := shorter.length_le
  rw [line, List.length_append, List.length_cons] at length
  omega

end Comments

/-! ## Embedding a comment -/

/-- The comment that becomes of another one: what it is about, it is still about. -/
structure Carried (before after : List Char) : Prop where
  alone : ∀ {description}, Alone description before → Alone description after
  swallows : ∀ {description}, Swallows description before → Swallows description after
  /-- A comment that ended the text is alone on its line. -/
  ended : Alone before after

/-- A comment without a line feed is ended by one. -/
theorem Carried.of_unbroken {text : List Char} (unbroken : '\n' ∉ text) :
    Carried text (text ++ ['\n']) where
  alone alone := alone.append _
  swallows swallows := swallows.append _
  ended := ⟨text, [], [], by simp, by simp [AtLineEnding], unbroken, rfl⟩

/-- The part of a description up to a line ending may lose a carriage return. -/
theorem Alone.of_chomp {description shown hidden : List Char}
    (split : description = shown ++ hidden) (ending : AtLineEnding hidden) (unbroken : '\n' ∉ shown)
    (rest : List Char) : Alone description (Text.chomp shown ++ '\n' :: rest) := by
  rcases Text.chomp_cases shown with same | shorter
  · rw [same]
    exact ⟨shown, hidden, rest, split, ending, unbroken, rfl⟩
  · refine ⟨Text.chomp shown, '\r' :: hidden, rest, ?_, ?_, ?_, rfl⟩
    · rw [split, ← List.singleton_append, ← List.append_assoc, ← shorter]
    · intro c first
      exact .inr (Option.some.inj first).symm
    · rw [shorter] at unbroken
      exact fun listed => unbroken (List.mem_append_left _ listed)

/-- The line of a comment may lose the carriage return at its end, and what comes after the line is
of no importance. -/
theorem Carried.of_split {line : List Char} (unbroken : '\n' ∉ line) (rest other : List Char) :
    Carried (line ++ '\n' :: rest) (Text.chomp line ++ '\n' :: other) where
  alone := by
    rintro description ⟨shown, hidden, later, split, ending, unbrokenShown, same⟩
    have sameLine := congrArg (List.takeWhile (· ≠ '\n')) same
    rw [takeWhile_unbroken unbroken, takeWhile_unbroken unbrokenShown, List.takeWhile_cons,
      List.takeWhile_cons, if_neg (by simp), if_neg (by simp), List.append_nil,
      List.append_nil] at sameLine
    rw [sameLine]
    exact Alone.of_chomp split ending unbrokenShown other
  swallows := by
    rintro description ⟨unbrokenDescription, c, later, notFeed, notReturn, same⟩
    -- The line feed stands beyond the first character that is swallowed.
    have longer : ∃ swallowed, line = description ++ c :: swallowed := by
      rcases List.append_eq_append_iff.mp same with ⟨front, longer, tail⟩ | ⟨front, longer, tail⟩
      · cases front with
        | nil => exact absurd (List.cons.inj tail).1.symm notFeed
        | cons first further =>
            rw [longer] at unbrokenDescription
            have feed : first = '\n' := (List.cons.inj tail).1.symm
            rw [feed] at unbrokenDescription
            exact absurd (by simp) unbrokenDescription
      · cases front with
        | nil => exact absurd (List.cons.inj tail).1 notFeed
        | cons first further =>
            obtain ⟨rfl, _⟩ := List.cons.inj tail
            exact ⟨further, longer⟩
    obtain ⟨swallowed, rfl⟩ := longer
    have kept : (description ++ [c]).getLast? ≠ some '\r' := by simpa using notReturn
    refine ⟨unbrokenDescription, c, Text.chomp swallowed ++ '\n' :: other, notFeed, notReturn, ?_⟩
    rw [List.append_cons description, Text.chomp_append kept]
    simp
  ended := by
    refine Alone.of_chomp rfl ?_ unbroken other
    intro c first
    exact .inl (Option.some.inj first).symm

namespace Indentation

/-- Lines at an indentation. -/
def linesText (indentation : Indentation) (lines : List (List Char)) : String :=
  String.join (lines.map fun line => indentation.line (String.ofList line))

theorem embedded_eq_linesText (indentation : Indentation) (content : String) :
    indentation.embedded content = indentation.linesText (Text.linesFrom [] content.toList) := by
  rw [embedded, Text.lines, List.map_map]
  rfl

theorem linesText_append_cons (indentation : Indentation) (ended : List (List Char))
    (line : List Char) (further : List (List Char)) :
    indentation.linesText (ended ++ line :: further) =
      indentation.linesText ended ++ indentation.line (String.ofList line) ++
        indentation.linesText further := by
  simp only [linesText, List.map_append, List.map_cons, String.join_append, String.join_cons,
    String.append_assoc]

/-- **A piece of a line is embedded as it is.** What is written before it depends on the text before
it only. After it comes the rest of its line, which may lose a carriage return at a line feed, and
then the text behind the line feed, embedded on its own. -/
theorem embedded_piece_of_line (indentation : Indentation) (front : String) :
    ∃ opening : String, ∀ piece : String, piece ≠ "" → '\n' ∉ piece.toList →
      (∀ back : List Char, '\n' ∉ back →
        indentation.embedded (front ++ piece ++ String.ofList back) =
          opening ++ piece ++ (String.ofList back ++ "\n")) ∧
      (piece.toList.getLast? ≠ some '\r' → ∀ line rest : List Char, '\n' ∉ line →
        indentation.embedded (front ++ piece ++ String.ofList (line ++ '\n' :: rest)) =
          opening ++ piece ++ (String.ofList (Text.chomp line) ++ "\n" ++
            indentation.embedded (String.ofList rest))) := by
  obtain ⟨ended, opened, lines⟩ := Text.linesFrom_append front.toList []
  refine ⟨indentation.linesText ended ++ (indentation.text ++ String.ofList opened.reverse),
    fun piece visible unbroken => ?_⟩
  have whole : ∀ back : List Char, indentation.embedded (front ++ piece ++ String.ofList back) =
      indentation.linesText (ended ++ Text.linesFrom opened (piece.toList ++ back)) := by
    intro back
    rw [embedded_eq_linesText, String.toList_append, String.toList_append, List.append_assoc,
      String.toList_ofList, lines]
  have onLine : ∀ tail : List Char,
      indentation.line (String.ofList (opened.reverse ++ (piece.toList ++ tail))) =
        indentation.text ++ String.ofList opened.reverse ++ piece ++
          (String.ofList tail ++ "\n") := by
    intro tail
    rw [line, if_neg]
    · simp only [String.ofList_append, String.ofList_toList, String.append_assoc]
    · intro empty
      have none := congrArg String.toList empty
      simp [visible] at none
  refine ⟨fun back backUnbroken => ?_, fun kept tail rest tailUnbroken => ?_⟩
  · have begun : opened.reverse ++ (piece.toList ++ back) ≠ [] := by simp [visible]
    have single : '\n' ∉ piece.toList ++ back := by simp [unbroken, backUnbroken]
    rw [whole, Text.linesFrom_last single begun, linesText_append_cons, onLine]
    simp only [linesText, List.map_nil, String.join_nil, String.append_empty, String.append_assoc]
  · have single : '\n' ∉ piece.toList ++ tail := by simp [unbroken, tailUnbroken]
    have last : (opened.reverse ++ piece.toList).getLast? ≠ some '\r' := by
      rw [List.getLast?_append]
      cases ends : piece.toList.getLast? with
      | none => simp [visible] at ends
      | some c => rwa [ends, ← Option.some_or] at kept
    rw [whole, ← List.append_assoc, Text.linesFrom_line single, ← List.append_assoc,
      Text.chomp_append last, List.append_assoc, linesText_append_cons, onLine,
      embedded_eq_linesText, String.toList_ofList]
    simp only [String.append_assoc]

/-- **A comment stays what it is where the text around it is embedded.** What is written before it
depends on the text before it only. -/
theorem embedded_comment (indentation : Indentation) (front : String) :
    ∃ opening : String, ∀ text, ∃ carried, Carried text carried ∧
      indentation.embedded (front ++ commented text) = opening ++ commented carried := by
  obtain ⟨opening, written⟩ := indentation.embedded_piece_of_line front
  obtain ⟨toTheEnd, toLineFeed⟩ := written omissionMark (by decide) (by decide)
  refine ⟨opening, fun text => ?_⟩
  rw [commented, ← String.append_assoc]
  rcases unbroken_or_split text with unbroken | ⟨line, rest, rfl, unbroken⟩
  · refine ⟨_, .of_unbroken unbroken, ?_⟩
    rw [toTheEnd text unbroken, commented, String.ofList_append, String.append_assoc]
  · refine ⟨_, .of_split unbroken rest (indentation.embedded (String.ofList rest)).toList, ?_⟩
    rw [toLineFeed (by decide) line rest unbroken, commented, String.ofList_append,
      String.ofList_cons, String.ofList_toList]
    simp only [String.append_assoc]
    rfl

end Indentation

end ContractCompiler
