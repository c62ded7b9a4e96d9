import ContractCompiler.Proofs.Output.Comments
import Mathlib.Data.List.Forall2

/-!
# Margins of lines

Two texts that differ in the blanks at the beginning of lines are reindented (`Reindented`). A line
may have another margin if a line feed stands before it and after it: the first line of a text can
continue a line that was begun before, and the last one can be continued.

Reindented texts can be put together, and into the middle of a line. Taken apart into lines they
have the same lines up to margins, so that they stay reindented where they are embedded, at whatever
indentation (`Reindented.embedded`). The lines of the whole texts are the same as soon as leading
blanks are removed (`Reindented.bareLines_eq`).
-/

namespace ContractCompiler

set_option autoImplicit false

/-! ## Margins -/

/-- Whether a character may stand in a margin. -/
def isBlank (c : Char) : Bool :=
  c == ' ' || c == '\t'

/-- The lines of a text without the blanks at their beginning. -/
def bareLines (text : String) : List (List Char) :=
  (text.toList.splitOn '\n').map (List.dropWhile isBlank)

/-- Only blanks stand in the text. -/
def IsMargin (text : List Char) : Prop :=
  ∀ c ∈ text, isBlank c = true

namespace IsMargin

variable {margin other : List Char}

theorem nil : IsMargin [] := by
  intro c listed
  cases listed

theorem append (isMargin : IsMargin margin) (otherIsMargin : IsMargin other) :
    IsMargin (margin ++ other) := by
  intro c listed
  rcases List.mem_append.mp listed with first | second
  · exact isMargin c first
  · exact otherIsMargin c second

theorem unbroken (isMargin : IsMargin margin) : '\n' ∉ margin := by
  intro listed
  exact absurd (isMargin _ listed) (by decide)

/-- A margin does not end in a carriage return. -/
theorem getLast?_ne (isMargin : IsMargin margin) : margin.getLast? ≠ some '\r' := by
  intro last
  exact absurd (isMargin _ (List.mem_of_getLast? last)) (by decide)

/-- Without leading blanks the margin is gone. -/
theorem dropWhile_append (isMargin : IsMargin margin) (line : List Char) :
    (margin ++ line).dropWhile isBlank = line.dropWhile isBlank :=
  List.dropWhile_append_of_pos isMargin

end IsMargin

theorem IndentStyle.unit_isMargin (style : IndentStyle) : IsMargin style.unit.toList := by
  cases style with
  | spaces count =>
      intro c listed
      rw [IndentStyle.unit, String.toList_ofList] at listed
      rw [List.eq_of_mem_replicate listed]
      rfl
  | tabs =>
      intro c listed
      rw [List.mem_singleton.mp listed]
      rfl

/-- Every indentation that a style leads to is a margin. -/
theorem Indentation.text_isMargin {indentation : Indentation}
    (unit : IsMargin indentation.unit.toList) : IsMargin indentation.text.toList := by
  obtain ⟨blanks, level⟩ := indentation
  induction level with
  | zero => exact .nil
  | succ level ih =>
      have deeper : (Indentation.mk blanks (level + 1)).text =
          blanks ++ (Indentation.mk blanks level).text := by
        rw [Indentation.text, Indentation.text, List.replicate_succ, String.join_cons]
      rw [deeper, String.toList_append]
      exact unit.append (ih unit)

theorem Indentation.ofStyle_isMargin (style : IndentStyle) :
    IsMargin (Indentation.ofStyle style).text.toList :=
  .nil

theorem Indentation.deeper_isMargin (style : IndentStyle) :
    IsMargin (Indentation.ofStyle style).deeper.text.toList := by
  apply Indentation.text_isMargin
  exact style.unit_isMargin

/-! ## Lines with another margin -/

/-- Lines that are the same behind their margins. -/
inductive Shifted : List Char → List Char → Prop
  | behind {margin other : List Char} (isMargin : IsMargin margin) (otherIsMargin : IsMargin other)
      (line : List Char) : Shifted (margin ++ line) (other ++ line)

namespace Shifted

variable {line other : List Char}

theorem refl (line : List Char) : Shifted line line :=
  .behind .nil .nil line

theorem append (shifted : Shifted line other) (added : List Char) :
    Shifted (line ++ added) (other ++ added) := by
  obtain ⟨isMargin, otherIsMargin, shared⟩ := shifted
  rw [List.append_assoc, List.append_assoc]
  exact .behind isMargin otherIsMargin (shared ++ added)

/-- A carriage return is taken from both lines or from none. -/
theorem chomp (shifted : Shifted line other) : Shifted (Text.chomp line) (Text.chomp other) := by
  obtain ⟨isMargin, otherIsMargin, shared⟩ := shifted
  rw [Text.chomp_append isMargin.getLast?_ne, Text.chomp_append otherIsMargin.getLast?_ne]
  exact .behind isMargin otherIsMargin (Text.chomp shared)

end Shifted

/-! ## Reindented texts -/

/-- Texts that are the same up to the margins of lines that begin and end in them. -/
inductive Reindented : List Char → List Char → Prop
  | nil : Reindented [] []
  | keep (c : Char) {text other : List Char} (rest : Reindented text other) :
      Reindented (c :: text) (c :: other)
  | line {front back text other : List Char} (isMargin : IsMargin front)
      (otherIsMargin : IsMargin back) (ended : '\n' ∈ text) (rest : Reindented text other) :
      Reindented ('\n' :: (front ++ text)) ('\n' :: (back ++ other))

namespace Reindented

variable {text other further furtherOther : List Char}

theorem refl (text : List Char) : Reindented text text := by
  induction text with
  | nil => exact .nil
  | cons c rest ih => exact .keep c ih

/-- Reindented texts can be put together. -/
theorem append (first : Reindented text other) (second : Reindented further furtherOther) :
    Reindented (text ++ further) (other ++ furtherOther) := by
  induction first with
  | nil => exact second
  | keep c _ ih => exact .keep c ih
  | line isMargin otherIsMargin ended _ ih =>
      rw [List.cons_append, List.cons_append, List.append_assoc, List.append_assoc]
      exact .line isMargin otherIsMargin (List.mem_append_left _ ended) ih

/-- On a single line nothing can differ. -/
theorem eq_of_unbroken (reindented : Reindented text other)
    (unbroken : '\n' ∉ text ∨ '\n' ∉ other) : text = other := by
  induction reindented with
  | nil => rfl
  | keep c _ ih =>
      refine congrArg (c :: ·) (ih (unbroken.imp ?_ ?_))
      · exact fun absent listed => absent (List.mem_cons_of_mem c listed)
      · exact fun absent listed => absent (List.mem_cons_of_mem c listed)
  | line _ _ _ _ _ =>
      rcases unbroken with absent | absent
      · exact absurd List.mem_cons_self absent
      · exact absurd List.mem_cons_self absent

theorem concat {first firstOther second secondOther : String}
    (front : Reindented first.toList firstOther.toList)
    (back : Reindented second.toList secondOther.toList) :
    Reindented (first ++ second).toList (firstOther ++ secondOther).toList := by
  rw [String.toList_append, String.toList_append]
  exact front.append back

/-! ### Lines of reindented texts -/

/-- The lines of reindented texts are the same behind their margins. The line that is open may have
another margin only if it is ended. -/
theorem linesFrom (reindented : Reindented text other) : ∀ current otherCurrent : List Char,
    Shifted current.reverse otherCurrent.reverse → '\n' ∈ text ∨ current = otherCurrent →
    List.Forall₂ Shifted (Text.linesFrom current text) (Text.linesFrom otherCurrent other) := by
  induction reindented with
  | nil =>
      rintro current otherCurrent shifted (ended | rfl)
      · cases ended
      · exact List.forall₂_same.mpr fun line _ => .refl line
  | keep c _ ih =>
      intro current otherCurrent shifted ended
      rw [Text.linesFrom, Text.linesFrom]
      by_cases feed : c = '\n'
      · rw [if_pos feed, if_pos feed]
        exact .cons shifted.chomp (ih [] [] (.refl []) (.inr rfl))
      · rw [if_neg feed, if_neg feed]
        refine ih _ _ ?_ (ended.imp ?_ (congrArg (c :: ·)))
        · rw [List.reverse_cons, List.reverse_cons]
          exact shifted.append [c]
        · intro listed
          exact (List.mem_cons.mp listed).resolve_left (Ne.symm feed)
  | @line front back text other isMargin otherIsMargin ended _ ih =>
      intro current otherCurrent shifted _
      have margins : Shifted front back := by
        simpa using Shifted.behind isMargin otherIsMargin []
      rw [Text.linesFrom, if_pos rfl, Text.linesFrom, if_pos rfl,
        Text.linesFrom_unbroken isMargin.unbroken, Text.linesFrom_unbroken otherIsMargin.unbroken]
      refine .cons shifted.chomp (ih _ _ ?_ (.inl ended))
      simpa using margins

/-- What stands before a line feed belongs to the first line. -/
theorem splitOn_unbroken {front : List Char} (unbroken : '\n' ∉ front) (rest : List Char) :
    (front ++ rest).splitOn '\n' = (rest.splitOn '\n').modifyHead (front ++ ·) := by
  induction front with
  | nil => exact (congrFun List.modifyHead_id _).symm
  | cons c further ih =>
      rw [List.mem_cons, not_or] at unbroken
      have notFeed : ¬ (c == '\n') = true := by simpa using Ne.symm unbroken.1
      rw [List.cons_append, List.splitOn_cons_eq_if_modifyHead, if_neg notFeed, ih unbroken.2,
        List.modifyHead_modifyHead]
      rfl

/-- The first lines are the same, and the others are so without leading blanks. -/
theorem splitOn_eq (reindented : Reindented text other) :
    ∃ first lines otherLines, text.splitOn '\n' = first :: lines ∧
      other.splitOn '\n' = first :: otherLines ∧
      lines.map (List.dropWhile isBlank) = otherLines.map (List.dropWhile isBlank) := by
  induction reindented with
  | nil => exact ⟨[], [], [], rfl, rfl, rfl⟩
  | keep c _ ih =>
      obtain ⟨first, lines, otherLines, split, otherSplit, same⟩ := ih
      rw [List.splitOn_cons_eq_if_modifyHead, List.splitOn_cons_eq_if_modifyHead, split, otherSplit]
      by_cases feed : (c == '\n') = true
      · rw [if_pos feed, if_pos feed]
        exact ⟨[], first :: lines, first :: otherLines, rfl, rfl, congrArg (_ :: ·) same⟩
      · rw [if_neg feed, if_neg feed]
        exact ⟨c :: first, lines, otherLines, rfl, rfl, same⟩
  | line isMargin otherIsMargin _ _ ih =>
      obtain ⟨first, lines, otherLines, split, otherSplit, same⟩ := ih
      have feed : ('\n' == '\n') = true := beq_self_eq_true '\n'
      rw [List.splitOn_cons_eq_if_modifyHead, List.splitOn_cons_eq_if_modifyHead, if_pos feed,
        if_pos feed, splitOn_unbroken isMargin.unbroken, splitOn_unbroken otherIsMargin.unbroken,
        split, otherSplit]
      refine ⟨[], _, _, rfl, rfl, ?_⟩
      rw [List.modifyHead_cons, List.modifyHead_cons, List.map_cons, List.map_cons,
        isMargin.dropWhile_append, otherIsMargin.dropWhile_append, same]

/-- **Reindented texts have the same lines** once leading blanks are removed. -/
theorem bareLines_eq {text other : String} (reindented : Reindented text.toList other.toList) :
    bareLines text = bareLines other := by
  obtain ⟨first, lines, otherLines, split, otherSplit, same⟩ := reindented.splitOn_eq
  rw [bareLines, bareLines, split, otherSplit, List.map_cons, List.map_cons, same]

end Reindented

/-! ## Lines at different indentations -/

/-- Whole lines that stand after a line feed and are the same up to their margins: the texts are
reindented with what follows them. -/
def ReindentedLines (block other : String) : Prop :=
  ∀ rest restOther : List Char, Reindented ('\n' :: rest) ('\n' :: restOther) →
    Reindented ('\n' :: (block.toList ++ rest)) ('\n' :: (other.toList ++ restOther))

namespace ReindentedLines

variable {block other further furtherOther : String}

theorem empty : ReindentedLines "" "" :=
  fun _ _ following => following

theorem blank : ReindentedLines "\n" "\n" :=
  fun _ _ following => .keep '\n' following

/-- The brace at the margin that closes a block. -/
theorem closing : ReindentedLines "\x7d\n" "\x7d\n" :=
  fun _ _ following => .keep '\n' (.keep '\x7d' following)

theorem append (first : ReindentedLines block other)
    (second : ReindentedLines further furtherOther) :
    ReindentedLines (block ++ further) (other ++ furtherOther) := by
  intro rest restOther following
  rw [String.toList_append, String.toList_append, List.append_assoc, List.append_assoc]
  exact first _ _ (second rest restOther following)

/-- The lines of items that are related one by one. -/
theorem join {α β : Type} {relation : α → β → Prop} {items : List α} {others : List β}
    {write : α → String} {writeOther : β → String} (related : List.Forall₂ relation items others)
    (each : ∀ item other, relation item other → ReindentedLines (write item) (writeOther other)) :
    ReindentedLines (String.join (items.map write)) (String.join (others.map writeOther)) := by
  induction related with
  | nil => exact empty
  | cons first _ ih =>
      rw [List.map_cons, List.map_cons, String.join_cons, String.join_cons]
      exact (each _ _ first).append ih

/-- Lines after a text that opens a block. -/
theorem opened {head headOther : String} (heads : Reindented head.toList headOther.toList)
    (lines : ReindentedLines block other) :
    Reindented (head ++ (" \x7b\n" ++ block)).toList
      (headOther ++ (" \x7b\n" ++ other)).toList := by
  have following := lines [] [] (.refl _)
  rw [List.append_nil, List.append_nil] at following
  refine heads.concat ?_
  rw [String.toList_append, String.toList_append]
  exact .keep ' ' (.keep '\x7b' following)

end ReindentedLines

section Indentations

variable {indentation other : Indentation}

/-- A line at an indentation has a margin, which is empty if there is nothing else on it. -/
theorem Indentation.exists_line_eq (blanks : IsMargin indentation.text.toList) (content : String) :
    ∃ margin, IsMargin margin ∧
      (indentation.line content).toList = margin ++ (content.toList ++ ['\n']) := by
  unfold Indentation.line
  split
  · next empty =>
      rw [empty]
      exact ⟨[], .nil, rfl⟩
  · refine ⟨_, blanks, ?_⟩
    simp only [String.toList_append, List.append_assoc]
    rfl

variable (blanks : IsMargin indentation.text.toList) (otherBlanks : IsMargin other.text.toList)
include blanks otherBlanks

/-- Contents that are reindented behind margins of their own are lines at any indentations. -/
theorem Reindented.line_behind {front back content contentOther : List Char}
    (isMargin : IsMargin front) (otherIsMargin : IsMargin back)
    (reindented : Reindented content contentOther) :
    ReindentedLines (indentation.line (String.ofList (front ++ content)))
      (other.line (String.ofList (back ++ contentOther))) := by
  intro rest restOther following
  obtain ⟨margin, marginBlanks, line⟩ :=
    Indentation.exists_line_eq blanks (String.ofList (front ++ content))
  obtain ⟨otherMargin, otherMarginBlanks, otherLine⟩ :=
    Indentation.exists_line_eq otherBlanks (String.ofList (back ++ contentOther))
  have whole := Reindented.line (marginBlanks.append isMargin)
    (otherMarginBlanks.append otherIsMargin) (by simp) (reindented.append following)
  rw [line, otherLine]
  simpa only [String.toList_ofList, List.append_assoc, List.singleton_append] using whole

/-- Reindented contents are lines at any indentations. -/
theorem Reindented.indentedLine {content contentOther : String}
    (reindented : Reindented content.toList contentOther.toList) :
    ReindentedLines (indentation.line content) (other.line contentOther) := by
  have lines := Reindented.line_behind blanks otherBlanks .nil .nil reindented
  rwa [List.nil_append, List.nil_append, String.ofList_toList, String.ofList_toList] at lines

/-- **Reindented texts can be embedded** at any indentations. -/
theorem Reindented.embedded {content contentOther : String}
    (reindented : Reindented content.toList contentOther.toList) :
    ReindentedLines (indentation.embedded content) (other.embedded contentOther) := by
  have lines := reindented.linesFrom [] [] (.refl []) (.inr rfl)
  rw [Indentation.embedded_eq_linesText, Indentation.embedded_eq_linesText]
  refine ReindentedLines.join lines ?_
  rintro _ _ ⟨isMargin, otherIsMargin, line⟩
  exact Reindented.line_behind blanks otherBlanks isMargin otherIsMargin (.refl line)

end Indentations

end ContractCompiler
