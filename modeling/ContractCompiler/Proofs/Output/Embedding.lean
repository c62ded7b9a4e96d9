import ContractCompiler.Proofs.Output.Blocks
import ContractCompiler.Proofs.State.Expressions
import ContractCompiler.Proofs.Text.Literals

/-!
# Embedding text that was embedded before

What is written for a construct is embedded in the text of the construct around it, and that text in
the next one, so that a line is indented once for every construct that it is in. Embedding takes a
text apart into lines and puts them together again behind their margins. A line that was embedded is
found again as it was written, so the margins add up: to embed a text at one level and the result
at another is to embed it once at the sum of both (`Writer.embed_embed`).

A piece of a line stays a piece of a line. It is never cut, and what is written before and after it
does not depend on it (`Indentation.embedded_intact`). That goes for the literals that strings are
lowered to, which are read back from the text wherever it is embedded (`Literal.lower_string`).
-/

namespace ContractCompiler

set_option autoImplicit false

/-! ## Lines of a text without carriage returns -/

namespace Text

/-- A line is without line ends. -/
structure IsBare (line : List Char) : Prop where
  unbroken : '\n' ∉ line
  noReturn : '\r' ∉ line

/-- In a text without carriage returns the lines have no line ends in them. -/
theorem isBare_of_mem_linesFrom {text : List Char} (noReturn : '\r' ∉ text) :
    ∀ current : List Char, IsBare current.reverse →
      ∀ line ∈ linesFrom current text, IsBare line := by
  induction text with
  | nil =>
      intro current bare line listed
      rw [linesFrom] at listed
      split at listed
      · cases listed
      · rw [List.mem_singleton.mp listed]
        exact bare
  | cons c rest ih =>
      rw [List.mem_cons, not_or] at noReturn
      intro current bare line listed
      rw [linesFrom] at listed
      split at listed
      · rcases List.mem_cons.mp listed with rfl | further
        · rw [chomp_eq_self bare.noReturn]
          exact bare
        · exact ih noReturn.2 [] ⟨List.not_mem_nil, List.not_mem_nil⟩ line further
      · next notFeed =>
          refine ih noReturn.2 _ ⟨?_, ?_⟩ line listed
          · simpa [Ne.symm notFeed] using bare.unbroken
          · simpa [noReturn.1] using bare.noReturn

end Text

/-! ## Embedding twice -/

namespace Indentation

variable {unit : String}

/-- The lines of a text at a level, embedded at another level, are at the sum of both. -/
theorem embedded_linesText (blanks : IsMargin unit.toList) (level depth : Nat)
    {lines : List (List Char)} (bare : ∀ line ∈ lines, Text.IsBare line) :
    (Indentation.mk unit depth).embedded ((Indentation.mk unit level).linesText lines) =
      (Indentation.mk unit (level + depth)).linesText lines := by
  induction lines with
  | nil => rfl
  | cons line rest ih =>
      obtain ⟨first, others⟩ := List.forall_mem_cons.mp bare
      rw [linesText, List.map_cons, String.join_cons, ← linesText,
        embedded_line blanks level depth, ih others]
      · rw [linesText, linesText, List.map_cons, String.join_cons]
      · rw [String.toList_ofList]
        exact first.unbroken
      · rw [String.toList_ofList]
        exact first.noReturn

/-- **Levels of embedding add up.** -/
theorem embedded_embedded (blanks : IsMargin unit.toList) (level depth : Nat) {content : String}
    (noReturn : '\r' ∉ content.toList) :
    (Indentation.mk unit depth).embedded ((Indentation.mk unit level).embedded content) =
      (Indentation.mk unit (level + depth)).embedded content := by
  have bare := Text.isBare_of_mem_linesFrom noReturn [] ⟨List.not_mem_nil, List.not_mem_nil⟩
  rw [embedded_eq_linesText (mk unit level), embedded_linesText blanks level depth bare,
    ← embedded_eq_linesText]

end Indentation

theorem Writer.text_embed (writer : Writer) (content : String) :
    (writer.embed content).text = writer.text ++ writer.indentation.embedded content :=
  congrArg Writer.text (Writer.adds_embed content writer)

/-- **To embed twice is to embed once**, at the sum of both levels: a text without carriage returns
is embedded at one level, in any style and with nothing before it, and what was written then is
embedded at another level behind any text. -/
theorem Writer.embed_embed (style : IndentStyle) (level depth : Nat) (before content : String)
    (noReturn : '\r' ∉ content.toList) :
    ((Writer.mk before ⟨style.unit, depth⟩).embed
        ((Writer.mk "" ⟨style.unit, level⟩).embed content).text).text =
      ((Writer.mk before ⟨style.unit, level + depth⟩).embed content).text := by
  rw [Writer.text_embed, Writer.text_embed, Writer.text_embed, String.empty_append,
    Indentation.embedded_embedded style.unit_isMargin level depth noReturn]

/-- Empty lines stay empty and the last line gets its line feed, with tabs and with no blanks at
all. -/
theorem Writer.guardedCall_embed_embed :
    '\r' ∉ "if a:\n\n\tf()\n \n\ng()".toList ∧
    ((Writer.mk "x\n" ⟨"\t", 2⟩).embed
        ((Writer.mk "" ⟨"\t", 1⟩).embed "if a:\n\n\tf()\n \n\ng()").text).text =
      "x\n\t\t\tif a:\n\n\t\t\t\tf()\n\t\t\t \n\n\t\t\tg()\n" ∧
    ((Writer.mk "" ⟨(IndentStyle.spaces 0).unit, 1⟩).embed
        ((Writer.mk "" ⟨(IndentStyle.spaces 0).unit, 3⟩).embed "\n\na").text).text = "\n\na\n" := by
  have noReturn : '\r' ∉ "if a:\n\n\tf()\n \n\ng()".toList := by decide
  refine ⟨noReturn, ?_, ?_⟩
  · exact (Writer.embed_embed .tabs 1 2 "x\n" _ noReturn).trans (by decide)
  · exact (Writer.embed_embed (.spaces 0) 3 1 "" _ (by decide)).trans (by decide)

/-! ## Pieces of lines -/

namespace Indentation

/-- **A piece of a line is embedded in one piece**, whatever stands around it. What is written
before it depends on the text before it only, and nothing around it depends on the piece. -/
theorem embedded_intact (indentation : Indentation) (front : String) :
    ∃ opening : String, ∀ back : String, ∃ closing : String, ∀ piece : String,
      piece ≠ "" → '\n' ∉ piece.toList → piece.toList.getLast? ≠ some '\r' →
        indentation.embedded (front ++ piece ++ back) = opening ++ piece ++ closing := by
  obtain ⟨opening, written⟩ := indentation.embedded_piece_of_line front
  refine ⟨opening, fun back => ?_⟩
  rcases unbroken_or_split back.toList with unbroken | ⟨line, rest, split, unbroken⟩
  · refine ⟨back ++ "\n", fun piece visible single _ => ?_⟩
    have whole := (written piece visible single).1 back.toList unbroken
    rwa [String.ofList_toList] at whole
  · refine ⟨String.ofList (Text.chomp line) ++ "\n" ++ indentation.embedded (String.ofList rest),
      fun piece visible single kept => ?_⟩
    have whole := (written piece visible single).2 kept line rest unbroken
    rwa [← split, String.ofList_toList] at whole

end Indentation

/-! ## Literals -/

/-- **A string is lowered to a literal for it.** Reading the literal gives the string back, and so
different strings are lowered to different texts. Where the text around a literal is embedded, the
literal stays in one piece, and nothing around it depends on what it stands for. -/
theorem Literal.lower_string :
    (∀ (value : String) (renderer : Renderer) (env : Env),
      ∃ text, (Node.literal (.str value)).lower renderer env = .ok (.fragment text) env ∧
        Text.IsLiteral value text) ∧
    (∀ (value other : String) (renderer : Renderer) (env : Env),
      (Node.literal (.str value)).lower renderer env =
        (Node.literal (.str other)).lower renderer env ↔ value = other) ∧
    ∀ (writer : Writer) (front : String), ∃ opening : String, ∀ back : String,
      ∃ closing : String, ∀ value : String,
        (writer.embed (front ++ (Literal.str value).spelling ++ back)).text =
          opening ++ (Literal.str value).spelling ++ closing := by
  have lowered : ∀ (value : String) (renderer : Renderer) (env : Env),
      (Node.literal (.str value)).lower renderer env = .ok (.fragment (Text.quoted value)) env :=
    fun value renderer env => (Node.IsTerm.literal (.str value)).lower_eq renderer env
  refine ⟨?_, ?_, ?_⟩
  · intro value renderer env
    exact ⟨Text.quoted value, lowered value renderer env, Text.quoted_isLiteral value⟩
  · intro value other renderer env
    rw [lowered, lowered, ← Text.quoted_inj]
    constructor
    · intro same
      injection same with sameValue
      injection sameValue
    · intro same
      rw [same]
  · intro writer front
    obtain ⟨opening, intact⟩ := writer.indentation.embedded_intact front
    refine ⟨writer.text ++ opening, fun back => ?_⟩
    obtain ⟨closing, whole⟩ := intact back
    refine ⟨closing, fun value => ?_⟩
    have isLiteral := Text.quoted_isLiteral value
    have closed : (Text.quoted value).toList.getLast? ≠ some '\r' :=
      fun last => isLiteral.notMem (by decide) (List.mem_of_getLast? last)
    have embedded := whole (Text.quoted value) isLiteral.ne_empty (isLiteral.notMem (by decide)) closed
    show (writer.embed (front ++ Text.quoted value ++ back)).text = _
    rw [Writer.text_embed, embedded]
    simp only [String.append_assoc]
    rfl

end ContractCompiler
