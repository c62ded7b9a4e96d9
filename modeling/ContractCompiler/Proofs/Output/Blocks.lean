import ContractCompiler.Proofs.Output.Margins
import ContractCompiler.Proofs.Text.Tidy

/-!
# Blocks and their indentation

A text is properly nested if its braces match and every line is indented by the blocks that are open
before it (`ProperlyNested`). A line that begins with a closing brace stands one level further out.

Braces are counted by reading (`blocksAfter`), which stops where a brace closes nothing. Lines that
are indented by what is open are put together from left to right (`Nests`). Embedding them at an
indentation adds its level to all that is open (`Nests.embedded`), so text that was nested properly
from the margin is so wherever it is embedded.
-/

namespace ContractCompiler

set_option autoImplicit false

/-! ## Properly nested texts -/

/-- How many more blocks a text opens than it closes. -/
def blockBalance (text : List Char) : Int :=
  text.count '\x7b' - text.count '\x7d'

/-- How many levels further out a line stands for its first character. -/
def outdent (content : List Char) : Nat :=
  if content.head? = some '\x7d' then 1 else 0

/-- The text begins with something other than white space. -/
def Begins (content : List Char) : Prop :=
  ∃ c rest, content = c :: rest ∧ Text.isSpace c = false

/-- A text in which blocks are closed after they are opened and every line that is not empty is
indented by the blocks that are open before it, less one if it begins with a closing brace. -/
structure ProperlyNested (style : IndentStyle) (text : String) : Prop where
  neverBelow : ∀ front, front <+: text.toList → 0 ≤ blockBalance front
  allClosed : blockBalance text.toList = 0
  indented : ∀ before line after, text.toList.splitOn '\n' = before ++ line :: after → line ≠ [] →
    ∃ level content, line = (List.replicate level style.unit.toList).flatten ++ content ∧
      Begins content ∧ blockBalance before.flatten = level + outdent content

/-! ## Counting blocks by reading -/

/-- How many blocks are open after a character. A brace that closes nothing is refused. -/
def blockStep (opened : Nat) (c : Char) : Option Nat :=
  if c = '\x7b' then some (opened + 1)
  else if c = '\x7d' then if opened = 0 then none else some (opened - 1)
  else some opened

/-- How many blocks are open after a text. -/
def blocksAfter (opened : Nat) (text : List Char) : Option Nat :=
  text.foldlM blockStep opened

theorem blockBalance_append (text rest : List Char) :
    blockBalance (text ++ rest) = blockBalance text + blockBalance rest := by
  unfold blockBalance
  rw [List.count_append, List.count_append]
  omega

section Reading

variable {opened next : Nat} {c : Char} {text : List Char}

theorem blockBalance_of_step (step : blockStep opened c = some next) :
    (next : Int) = opened + blockBalance [c] := by
  unfold blockStep at step
  unfold blockBalance
  simp only [List.count_cons, List.count_nil, beq_iff_eq]
  split at step
  · next isOpening =>
      cases step
      simp [isOpening]
  · next notOpening =>
      split at step
      · next isClosing =>
          split at step
          · cases step
          · cases step
            simp [isClosing]
            omega
      · next notClosing =>
          cases step
          simp [notOpening, notClosing]

/-- A character that is read within further blocks leaves these open. -/
theorem blockStep_add (step : blockStep opened c = some next) (depth : Nat) :
    blockStep (opened + depth) c = some (next + depth) := by
  unfold blockStep at step ⊢
  split at step
  · next isOpening =>
      cases step
      rw [if_pos isOpening, Nat.add_right_comm]
  · next notOpening =>
      rw [if_neg notOpening]
      split at step
      · next isClosing =>
          split at step
          · cases step
          · cases step
            rw [if_pos isClosing, if_neg (by omega), Option.some.injEq]
            omega
      · next notClosing =>
          cases step
          rw [if_neg notClosing]

theorem blockStep_plain (opened : Nat) (plain : Text.isPlain c = true) :
    blockStep opened c = some opened := by
  simp only [Text.isPlain, Bool.and_eq_true, bne_iff_ne] at plain
  rw [blockStep, if_neg plain.1.1.1, if_neg plain.1.1.2]

theorem blocksAfter_cons (opened : Nat) (c : Char) (rest : List Char) :
    blocksAfter opened (c :: rest) = (blockStep opened c).bind (blocksAfter · rest) := by
  rw [blocksAfter, List.foldlM_cons]
  rfl

theorem blocksAfter_append (opened : Nat) (text rest : List Char) :
    blocksAfter opened (text ++ rest) = (blocksAfter opened text).bind (blocksAfter · rest) := by
  rw [blocksAfter, List.foldlM_append]
  rfl

/-- **Reading counts blocks**, and never are more closed than opened. -/
theorem blockBalance_of_read (read : blocksAfter opened text = some next) :
    (next : Int) = opened + blockBalance text ∧
      ∀ front, front <+: text → 0 ≤ opened + blockBalance front := by
  induction text generalizing opened with
  | nil =>
      cases read
      refine ⟨(Int.add_zero _).symm, ?_⟩
      intro front isFront
      rw [List.prefix_nil.mp isFront]
      exact Int.natCast_nonneg _
  | cons c rest ih =>
      rw [blocksAfter_cons, Option.bind_eq_some_iff] at read
      obtain ⟨middle, step, behind⟩ := read
      obtain ⟨counted, above⟩ := ih behind
      have change := blockBalance_of_step step
      refine ⟨?_, ?_⟩
      · rw [← List.singleton_append, blockBalance_append]
        omega
      · intro front isFront
        rcases List.prefix_cons_iff.mp isFront with rfl | ⟨further, rfl, isFurther⟩
        · exact Int.natCast_nonneg _
        · have enough := above further isFurther
          rw [← List.singleton_append, blockBalance_append]
          omega

/-- What is read within further blocks leaves these open. -/
theorem blocksAfter_add (read : blocksAfter opened text = some next) (depth : Nat) :
    blocksAfter (opened + depth) text = some (next + depth) := by
  induction text generalizing opened with
  | nil =>
      cases read
      rfl
  | cons c rest ih =>
      rw [blocksAfter_cons, Option.bind_eq_some_iff] at read
      obtain ⟨middle, step, behind⟩ := read
      rw [blocksAfter_cons, blockStep_add step, Option.bind_some]
      exact ih behind

/-- Text without braces has no effect. -/
theorem blocksAfter_plain (opened : Nat) (plain : text.all Text.isPlain = true) :
    blocksAfter opened text = some opened := by
  induction text with
  | nil => rfl
  | cons c rest ih =>
      rw [List.all_cons, Bool.and_eq_true] at plain
      rw [blocksAfter_cons, blockStep_plain opened plain.1, Option.bind_some]
      exact ih plain.2

end Reading

/-! ## Pieces of a line -/

theorem Begins.append {content : List Char} (begins : Begins content) (added : List Char) :
    Begins (content ++ added) := by
  obtain ⟨c, rest, rfl, visible⟩ := begins
  exact ⟨c, rest ++ added, rfl, visible⟩

/-- The first character decides how far out a line stands. -/
theorem Begins.outdent_append {content : List Char} (begins : Begins content)
    (added : List Char) : outdent (content ++ added) = outdent content := by
  obtain ⟨c, rest, rfl, _⟩ := begins
  rfl

/-- A text for the inside of a line, which closes the blocks that it opens. -/
structure Inline (text : String) : Prop where
  unbroken : '\n' ∉ text.toList
  noReturn : '\r' ∉ text.toList
  closed : ∀ opened, blocksAfter opened text.toList = some opened

namespace Inline

variable {text further : String}

theorem of_plain (plain : text.toList.all Text.isPlain = true) : Inline text where
  unbroken listed := absurd (List.all_eq_true.mp plain _ listed) (by decide)
  noReturn listed := absurd (List.all_eq_true.mp plain _ listed) (by decide)
  closed opened := blocksAfter_plain opened plain

theorem of_tidy (tidy : Text.IsTidy text) : Inline text :=
  of_plain tidy.plain

theorem append (inline : Inline text) (furtherInline : Inline further) :
    Inline (text ++ further) where
  unbroken := by
    rw [String.toList_append, List.mem_append, not_or]
    exact ⟨inline.unbroken, furtherInline.unbroken⟩
  noReturn := by
    rw [String.toList_append, List.mem_append, not_or]
    exact ⟨inline.noReturn, furtherInline.noReturn⟩
  closed opened := by
    rw [String.toList_append, blocksAfter_append, inline.closed, Option.bind_some,
      furtherInline.closed]

theorem empty : Inline "" :=
  .of_plain rfl

/-- Braces around a piece of a line. -/
theorem braced (inline : Inline text) : Inline ("\x7b" ++ text ++ "\x7d") where
  unbroken := by
    have unbroken := inline.unbroken
    simp [String.toList_append, unbroken]
  noReturn := by
    have noReturn := inline.noReturn
    simp [String.toList_append, noReturn]
  closed opened := by
    rw [String.toList_append, String.toList_append, blocksAfter_append, blocksAfter_append]
    show ((blocksAfter (opened + 1) text.toList).bind fun _ => _) = _
    rw [inline.closed]
    rfl

/-- Pieces with another one between them. -/
theorem intercalate {separator : String} (between : Inline separator) {texts : List String}
    (each : ∀ text ∈ texts, Inline text) : Inline (separator.intercalate texts) := by
  induction texts with
  | nil =>
      rw [String.intercalate_nil]
      exact .empty
  | cons text rest ih =>
      have first := each text List.mem_cons_self
      cases rest with
      | nil => rwa [String.intercalate_singleton]
      | cons next rest =>
          rw [String.intercalate_cons_cons]
          exact (first.append between).append
            (ih fun other listed => each other (List.mem_cons_of_mem text listed))

end Inline

/-- A text that can begin a line within the blocks that are open: it begins visibly, but not with a
closing brace. -/
structure Piece (text : String) : Prop extends Inline text where
  begins : Begins text.toList
  outdent_eq : outdent text.toList = 0

namespace Piece

variable {text further : String}

theorem append (piece : Piece text) (inline : Inline further) : Piece (text ++ further) where
  toInline := piece.toInline.append inline
  begins := by
    rw [String.toList_append]
    exact piece.begins.append further.toList
  outdent_eq := by
    rw [String.toList_append, piece.begins.outdent_append, piece.outdent_eq]

theorem of_tidy (tidy : Text.IsTidy text) : Piece text where
  toInline := .of_tidy tidy
  begins := tidy.begins
  outdent_eq := by
    refine if_neg ?_
    intro first
    exact absurd (List.all_eq_true.mp tidy.plain _ (List.mem_of_head? first)) (by decide)

end Piece

/-! ## Lines within blocks -/

namespace Indentation

/-- Only blanks stand before the content of a line. -/
theorem text_inline {unit : String} (blanks : IsMargin unit.toList) (level : Nat) :
    Inline (Indentation.mk unit level).text := by
  have margin : IsMargin (Indentation.mk unit level).text.toList := text_isMargin blanks
  refine .of_plain (List.all_eq_true.mpr ?_)
  intro c listed
  have blank := margin c listed
  simp only [isBlank, Bool.or_eq_true, beq_iff_eq] at blank
  rcases blank with rfl | rfl
  · rfl
  · rfl

theorem text_toList (indentation : Indentation) :
    indentation.text.toList =
      (List.replicate indentation.level indentation.unit.toList).flatten := by
  rw [text, String.toList_join, List.flatMap_def, List.map_replicate]

theorem text_add (unit : String) (depth level : Nat) :
    (Indentation.mk unit depth).text ++ (Indentation.mk unit level).text =
      (Indentation.mk unit (level + depth)).text := by
  rw [text, text, text, ← String.join_append, List.replicate_append_replicate, Nat.add_comm]

/-- A text is embedded line by line. -/
theorem embedded_cons (indentation : Indentation) (line rest : String)
    (unbroken : '\n' ∉ line.toList) (noReturn : '\r' ∉ line.toList) :
    indentation.embedded (line ++ "\n" ++ rest) =
      indentation.line line ++ indentation.embedded rest := by
  have split : (line ++ "\n" ++ rest).toList = line.toList ++ '\n' :: rest.toList := by
    simp only [String.toList_append, List.append_assoc]
    rfl
  rw [embedded_eq_linesText, split, Text.linesFrom_line unbroken, List.reverse_nil,
    List.nil_append, Text.chomp_eq_self noReturn, ← List.nil_append (line.toList :: _),
    linesText_append_cons, String.ofList_toList, ← embedded_eq_linesText]
  exact congrArg (· ++ _) String.empty_append

/-- A line at a level, embedded at another level, is a line at the sum of both. -/
theorem embedded_line {unit : String} (blanks : IsMargin unit.toList) (level depth : Nat)
    (content : String) (unbroken : '\n' ∉ content.toList) (noReturn : '\r' ∉ content.toList)
    (rest : String) :
    (Indentation.mk unit depth).embedded ((Indentation.mk unit level).line content ++ rest) =
      (Indentation.mk unit (level + depth)).line content ++
        (Indentation.mk unit depth).embedded rest := by
  by_cases empty : content = ""
  · -- An empty line has no margin at either level.
    subst empty
    have blank := (Indentation.mk unit depth).embedded_cons "" rest unbroken noReturn
    rw [String.empty_append] at blank
    exact blank
  · have margin := text_inline blanks level
    have visible : (Indentation.mk unit level).text ++ content ≠ "" := by
      intro none
      exact empty (String.append_eq_empty_iff.mp none).2
    rw [line, if_neg empty, embedded_cons]
    · rw [line, if_neg visible, line, if_neg empty, ← String.append_assoc, text_add]
    · rw [String.toList_append, List.mem_append, not_or]
      exact ⟨margin.unbroken, unbroken⟩
    · rw [String.toList_append, List.mem_append, not_or]
      exact ⟨margin.noReturn, noReturn⟩

end Indentation

/-- A line at a level, within the blocks that its level and its first character ask for, and the
blocks that are open after it. -/
structure IsLine (level : Nat) (content : String) (next : Nat) : Prop where
  begins : Begins content.toList
  unbroken : '\n' ∉ content.toList
  noReturn : '\r' ∉ content.toList
  read : blocksAfter (level + outdent content.toList) content.toList = some next

namespace IsLine

variable {level next : Nat} {content : String}

theorem ne_empty (isLine : IsLine level content next) : content ≠ "" := by
  rintro rfl
  obtain ⟨c, rest, split, _⟩ := isLine.begins
  cases split

/-- A line goes on behind its margin. -/
theorem unbroken_behind (isLine : IsLine level content next) {unit : String}
    (blanks : IsMargin unit.toList) :
    '\n' ∉ ((Indentation.mk unit level).text ++ content).toList := by
  rw [String.toList_append, List.mem_append, not_or]
  exact ⟨(Indentation.text_inline blanks level).unbroken, isLine.unbroken⟩

/-- What is open after a line, with its margin. -/
theorem read_behind (isLine : IsLine level content next) {unit : String}
    (blanks : IsMargin unit.toList) :
    blocksAfter (level + outdent content.toList)
      ((Indentation.mk unit level).text ++ content).toList = some next := by
  rw [String.toList_append, blocksAfter_append, (Indentation.text_inline blanks level).closed,
    Option.bind_some, isLine.read]

/-- A line within further blocks. -/
theorem deeper (isLine : IsLine level content next) (depth : Nat) :
    IsLine (level + depth) content (next + depth) where
  begins := isLine.begins
  unbroken := isLine.unbroken
  noReturn := isLine.noReturn
  read := by
    rw [Nat.add_right_comm]
    exact blocksAfter_add isLine.read depth

end IsLine

/-- Whole lines, from the blocks that are open before them to those that are open after them. Each
is empty, or it is indented by what is open, less one level if it begins with a closing brace. -/
inductive Nests (unit : String) : Nat → String → Nat → Prop
  | done (opened : Nat) : Nests unit opened "" opened
  | blank {opened closed : Nat} {text : String} (rest : Nests unit opened text closed) :
      Nests unit opened ("\n" ++ text) closed
  | line {level next closed : Nat} {content text : String} (isLine : IsLine level content next)
      (rest : Nests unit next text closed) :
      Nests unit (level + outdent content.toList)
        ((Indentation.mk unit level).text ++ content ++ "\n" ++ text) closed

namespace Nests

variable {unit : String} {opened middle closed : Nat} {text further content : String}

theorem append (nests : Nests unit opened text middle) (rest : Nests unit middle further closed) :
    Nests unit opened (text ++ further) closed := by
  induction nests with
  | done => rwa [String.empty_append]
  | blank _ ih =>
      rw [String.append_assoc]
      exact .blank (ih rest)
  | line isLine _ ih =>
      rw [String.append_assoc]
      exact .line isLine (ih rest)

/-- Texts that leave the blocks as they are can be joined. -/
theorem join {α : Type} {items : List α} {write : α → String}
    (each : ∀ item ∈ items, Nests unit opened (write item) opened) :
    Nests unit opened (String.join (items.map write)) opened := by
  induction items with
  | nil => exact .done opened
  | cons item rest ih =>
      rw [List.map_cons, String.join_cons]
      exact (each item List.mem_cons_self).append
        (ih fun other listed => each other (List.mem_cons_of_mem item listed))

/-! ### Single lines -/

theorem emptyLine (opened : Nat) : Nests unit opened "\n" opened :=
  .blank (.done opened)

theorem single {level : Nat} (isLine : IsLine level content closed) :
    Nests unit (level + outdent content.toList) ((Indentation.mk unit level).line content)
      closed := by
  have nests : Nests unit (level + outdent content.toList)
      ((Indentation.mk unit level).text ++ content ++ "\n" ++ "") closed :=
    .line isLine (.done closed)
  rw [String.append_empty] at nests
  rw [Indentation.line, if_neg isLine.ne_empty]
  exact nests

/-- A piece is a line that leaves the blocks as they are. -/
theorem piece (isPiece : Piece content) (level : Nat) :
    Nests unit level ((Indentation.mk unit level).line content) level := by
  have isLine : IsLine level content level :=
    { isPiece with read := by rw [isPiece.outdent_eq]; exact isPiece.closed level }
  have nests : Nests unit _ _ level := single isLine
  rwa [isPiece.outdent_eq] at nests

/-- A piece that a block is opened after. -/
theorem opening (isPiece : Piece content) (level : Nat) :
    Nests unit level ((Indentation.mk unit level).line (content ++ " \x7b")) (level + 1) := by
  have whole : (content ++ " \x7b").toList = content.toList ++ [' ', '\x7b'] :=
    String.toList_append
  have outdented : outdent (content ++ " \x7b").toList = 0 := by
    rw [whole, isPiece.begins.outdent_append, isPiece.outdent_eq]
  have isLine : IsLine level (content ++ " \x7b") (level + 1) :=
    { begins := by
        rw [whole]
        exact isPiece.begins.append _
      unbroken := by
        rw [whole, List.mem_append, not_or]
        exact ⟨isPiece.unbroken, by decide⟩
      noReturn := by
        rw [whole, List.mem_append, not_or]
        exact ⟨isPiece.noReturn, by decide⟩
      read := by
        rw [outdented, whole, blocksAfter_append, isPiece.closed]
        rfl }
  have nests : Nests unit _ _ (level + 1) := single isLine
  rwa [outdented] at nests

/-- The brace that closes a block. -/
theorem closing (level : Nat) :
    Nests unit (level + 1) ((Indentation.mk unit level).line "\x7d") level := by
  have isLine : IsLine level "\x7d" level :=
    { begins := ⟨'\x7d', [], rfl, by decide⟩
      unbroken := by decide
      noReturn := by decide
      read := rfl }
  exact single isLine

/-- A line that closes a block and opens another one. -/
theorem reopening (inline : Inline content) (level : Nat) :
    Nests unit (level + 1) ((Indentation.mk unit level).line ("\x7d" ++ content ++ " \x7b"))
      (level + 1) := by
  have whole : ("\x7d" ++ content ++ " \x7b").toList =
      '\x7d' :: (content.toList ++ [' ', '\x7b']) := by
    simp only [String.toList_append]
    rfl
  have outdented : outdent ("\x7d" ++ content ++ " \x7b").toList = 1 := by
    rw [whole]
    rfl
  have isLine : IsLine level ("\x7d" ++ content ++ " \x7b") (level + 1) :=
    { begins := ⟨'\x7d', _, whole, by decide⟩
      unbroken := by
        rw [whole]
        simp [inline.unbroken]
      noReturn := by
        rw [whole]
        simp [inline.noReturn]
      read := by
        rw [outdented, whole, blocksAfter_cons]
        show blocksAfter level (content.toList ++ [' ', '\x7b']) = _
        rw [blocksAfter_append, inline.closed]
        rfl }
  have nests : Nests unit _ _ (level + 1) := single isLine
  rwa [outdented] at nests

/-! ### Embedding -/

/-- **Nested lines are nested wherever they are embedded**: the level of the place is added to all
that is open. -/
theorem embedded (blanks : IsMargin unit.toList) (nests : Nests unit opened text closed)
    (depth : Nat) :
    Nests unit (opened + depth) ((Indentation.mk unit depth).embedded text) (closed + depth) := by
  induction nests with
  | done opened => exact .done (opened + depth)
  | @blank opened closed text _ ih =>
      have lines := Indentation.embedded_line blanks 0 depth "" (by decide) (by decide) text
      exact lines ▸ .blank ih
  | @line level next closed content text isLine _ ih =>
      have lines := Indentation.embedded_line blanks level depth content isLine.unbroken
        isLine.noReturn text
      rw [Indentation.line, if_neg isLine.ne_empty, Indentation.line,
        if_neg isLine.ne_empty] at lines
      rw [lines, Nat.add_right_comm]
      exact .line (isLine.deeper depth) ih

/-! ### Nested lines as a text -/

/-- What is read in nested lines. -/
theorem read (blanks : IsMargin unit.toList) (nests : Nests unit opened text closed) :
    blocksAfter opened text.toList = some closed := by
  induction nests with
  | done => rfl
  | blank _ ih =>
      rw [String.toList_append, blocksAfter_append]
      exact ih
  | @line level _ _ _ _ isLine _ ih =>
      rw [String.toList_append, String.toList_append, blocksAfter_append,
        blocksAfter_append, isLine.read_behind blanks]
      exact ih

/-- The lines of a text that begins with a line. -/
theorem splitOn_line {line : List Char} (unbroken : '\n' ∉ line) (rest : List Char) :
    (line ++ '\n' :: rest).splitOn '\n' = line :: rest.splitOn '\n' := by
  rw [Reindented.splitOn_unbroken unbroken, List.splitOn_cons_eq_if_modifyHead,
    if_pos (beq_self_eq_true '\n'), List.modifyHead_cons, List.append_nil]

/-- **Every line is indented by what is open before it.** -/
theorem indented (blanks : IsMargin unit.toList) (nests : Nests unit opened text closed)
    {before after : List (List Char)} {line : List Char}
    (lines : text.toList.splitOn '\n' = before ++ line :: after) (visible : line ≠ []) :
    ∃ level content, line = (List.replicate level unit.toList).flatten ++ content ∧
      Begins content ∧ blocksAfter opened before.flatten = some (level + outdent content) := by
  induction nests generalizing before with
  | done opened =>
      have alone : [[]] = before ++ line :: after := lines
      rw [eq_comm, List.append_eq_singleton_iff] at alone
      rcases alone with ⟨_, same⟩ | ⟨_, none⟩
      · exact absurd (List.cons.inj same).1 visible
      · cases none
  | @blank opened closed text _ ih =>
      rw [String.toList_append] at lines
      change ([] ++ '\n' :: text.toList).splitOn '\n' = _ at lines
      rw [splitOn_line (by simp)] at lines
      cases before with
      | nil => exact absurd (List.cons.inj lines).1.symm visible
      | cons first before =>
          obtain ⟨rfl, further⟩ := List.cons.inj lines
          have found := ih further
          exact found
  | @line level next closed content text isLine _ ih =>
      have split : ((Indentation.mk unit level).text ++ content ++ "\n" ++ text).toList =
          ((Indentation.mk unit level).text ++ content).toList ++ '\n' :: text.toList := by
        simp only [String.toList_append, List.append_assoc]
        rfl
      rw [split, splitOn_line (isLine.unbroken_behind blanks)] at lines
      cases before with
      | nil =>
          obtain ⟨rfl, _⟩ := List.cons.inj lines
          refine ⟨level, content.toList, ?_, isLine.begins, rfl⟩
          rw [String.toList_append, Indentation.text_toList]
      | cons first before =>
          obtain ⟨rfl, further⟩ := List.cons.inj lines
          obtain ⟨found, rest, same, begins, count⟩ := ih further
          refine ⟨found, rest, same, begins, ?_⟩
          rw [List.flatten_cons, blocksAfter_append, isLine.read_behind blanks]
          exact count

end Nests

/-- Lines that are nested from the margin on, and close every block, are a properly nested text. -/
theorem Nests.properlyNested {style : IndentStyle} {text : String}
    (nests : Nests style.unit 0 text 0) : ProperlyNested style text := by
  have blanks := style.unit_isMargin
  obtain ⟨counted, above⟩ := blockBalance_of_read (nests.read blanks)
  refine ⟨?_, ?_, ?_⟩
  · intro front isFront
    have enough := above front isFront
    omega
  · omega
  · intro before line after lines visible
    obtain ⟨level, content, same, begins, count⟩ := nests.indented blanks lines visible
    refine ⟨level, content, same, begins, ?_⟩
    have opened := (blockBalance_of_read count).1
    omega

end ContractCompiler
