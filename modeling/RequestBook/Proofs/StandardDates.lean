import RequestBook.Proofs.Offsets

/-! Dates in the standard form. A date with an offset does not depend on how the offset is written: in one word
or with its unit apart, with a sign or leading zeros, behind the name of the standard form or without it. -/
namespace RequestBook

open Text

namespace Generator

open Calendar

/-- The arguments of a date in the standard form with an offset; the form may be named in front. -/
inductive StandardArguments (o : Offset) : List Argument → Prop where
  | offset {arguments : List Argument} : OffsetWords o arguments → StandardArguments o arguments
  | format {name : String} {arguments : List Argument} : sameName name "iso8601" = true →
      OffsetWords o arguments → StandardArguments o (⟨name, false⟩ :: arguments)

section Dates

variable {o : Offset} {arguments : List Argument} {name : String}

/-- The name of the standard form begins with a letter, so it does not look like an offset. -/
theorem startsLikeOffset_iso (named : foldName name = "iso8601") : startsLikeOffset name.toList = false := by
  have letters : lowerAscii name.toList = "iso8601".toList := by
    rw [← named, foldName, String.toList_ofList]
  cases spelled : name.toList with
  | nil => simp [spelled, lowerAscii] at letters
  | cons c rest =>
    have first : c.toLower = 'i' := by simp_all [lowerAscii]
    have plus : c ≠ '+' := by rintro rfl; exact absurd first (by decide)
    have minus : c ≠ '-' := by rintro rfl; exact absurd first (by decide)
    have digit : isAsciiDigit c = false := by
      rw [Bool.eq_false_iff]
      intro digit
      have below : c ≤ '9' := by simp_all [isAsciiDigit]
      have same : c.toLower = c :=
        dif_neg fun both => absurd (Char.le_trans both.1 below) (by decide)
      rw [← same, first] at digit
      cases digit
    simp [startsLikeOffset, plus, minus, digit]

theorem splitFormat_iso (named : sameName name "iso8601" = true) (arguments : List Argument) :
    splitFormat (⟨name, false⟩ :: arguments) = (.iso, arguments) := by
  have folded : foldName name = "iso8601" := by
    rw [sameName_iff.mp named]
    decide
  have other : sameName name "rfc1123" = false := by
    rw [sameName, folded]
    decide
  simp [splitFormat, startsLikeOffset_iso folded, Format.ofArgument, named, other]

theorem splitFormat_standard (standard : StandardArguments o arguments) :
    ∃ words, splitFormat arguments = (.iso, words) ∧ OffsetWords o words := by
  cases standard with
  | offset words => exact ⟨_, words.splitFormat_eq, words⟩
  | format named words => exact ⟨_, splitFormat_iso named _, words⟩

theorem datetime?_standard (standard : StandardArguments o arguments) (low : -signedLimit ≤ o.amount)
    (high : o.amount < signedLimit) (now : Instant) :
    datetime? now none arguments = (now.shift? o).map fun i => i.isoText ++ ['Z'] := by
  obtain ⟨words, split, offset⟩ := splitFormat_standard standard
  rw [datetime?, split]
  simp only [moment?, offset.offset?_eq low high]
  refine congrArg (Option.map · _) (funext fun i => ?_)
  simp [Format.text]

end Dates

/-- Arguments in a row are read as they are written. Of all rows that give one offset from the present, with the
standard form in front or without it, the same date is generated. -/
theorem evaluate?_row (sources : Sources) :
    (∀ arguments text, Argument.Written arguments text → Argument.parse text = arguments) ∧
    ∀ o : Offset, -signedLimit ≤ o.amount → o.amount < signedLimit →
      ∀ arguments text, StandardArguments o arguments → Argument.Written arguments text.toList →
        evaluate? sources "datetime" (some text) =
          (sources.now.shift? o).map fun i => String.ofList (i.isoText ++ ['Z']) := by
  refine ⟨fun arguments text => Argument.parse_written, ?_⟩
  intro o low high arguments text standard written
  have read : Argument.parse text.toList = arguments := Argument.parse_written written
  simp [evaluate?, read, datetime?_standard standard low high, Function.comp_def]

/-- A row with quotes inside of a bare word and of a quoted text, and one offset in two rows. -/
theorem evaluate?_row_respelled :
    let sources : Sources := ⟨⟨⟨1706702400, 0⟩, .universal⟩, fun _ => none, 0⟩
    Argument.Written [⟨"a'b", false⟩, ⟨"it's ", true⟩, ⟨"", true⟩] " a'b \t\"it's \" ''".toList ∧
    Argument.parse " a'b \t\"it's \" ''".toList = [⟨"a'b", false⟩, ⟨"it's ", true⟩, ⟨"", true⟩] ∧
    StandardArguments ⟨3, .day⟩ [⟨"iSo8601", false⟩, ⟨"+03", false⟩, ⟨"d", false⟩] ∧
    Argument.Written [⟨"iSo8601", false⟩, ⟨"+03", false⟩, ⟨"d", false⟩] "iSo8601 +03  d\n".toList ∧
    StandardArguments ⟨3, .day⟩ [⟨"3d", false⟩] ∧ Argument.Written [⟨"3d", false⟩] "3d".toList ∧
    evaluate? sources "datetime" (some "iSo8601 +03  d\n") = evaluate? sources "datetime" (some "3d") := by
  intro sources
  have quotes : Argument.Written [⟨"a'b", false⟩, ⟨"it's ", true⟩, ⟨"", true⟩]
      " a'b \t\"it's \" ''".toList := by
    have word : Argument.Spells ⟨"a'b", false⟩ "a'b".toList :=
      @Argument.Spells.bare ['a', '\'', 'b'] (by decide) (by decide) (by simp)
    have text : Argument.Spells ⟨"it's ", true⟩ "\"it's \"".toList :=
      @Argument.Spells.quoted '"' ['i', 't', '\'', 's', ' '] (.inr rfl) (by decide)
    have nothing : Argument.Spells ⟨"", true⟩ "''".toList :=
      @Argument.Spells.quoted '\'' [] (.inl rfl) (by decide)
    have row := Argument.InRow.cons word (List.cons_ne_nil ' ' ['\t']) rfl
      (.cons text (List.cons_ne_nil ' ' []) rfl (.single nothing))
    exact @Argument.Written.intro _ [' '] _ [] rfl row rfl
  have three : SpellsInt 3 ['3'] := @SpellsInt.plain ['3'] (by decide) (by simp [isAsciiDigit])
  have three' : SpellsInt 3 ['+', '0', '3'] :=
    @SpellsInt.plus ['0', '3'] (by decide) (by simp [isAsciiDigit])
  have long : StandardArguments ⟨3, .day⟩ [⟨"iSo8601", false⟩, ⟨"+03", false⟩, ⟨"d", false⟩] :=
    .format (by decide) (@OffsetWords.apart ⟨3, .day⟩ _ three')
  have short : StandardArguments ⟨3, .day⟩ [⟨"3d", false⟩] :=
    .offset (@OffsetWords.together ⟨3, .day⟩ _ three)
  have row : Argument.Written [⟨"iSo8601", false⟩, ⟨"+03", false⟩, ⟨"d", false⟩]
      "iSo8601 +03  d\n".toList := by
    have form : Argument.Spells ⟨"iSo8601", false⟩ "iSo8601".toList :=
      @Argument.Spells.bare ['i', 'S', 'o', '8', '6', '0', '1'] (by decide) (by decide) (by simp)
    have unit : Argument.Spells ⟨"d", false⟩ "d".toList :=
      @Argument.Spells.bare ['d'] (by decide) (by decide) (by simp)
    have amount : Argument.Spells ⟨"+03", false⟩ "+03".toList :=
      spells_word three' (show Inked [] by decide)
    have row := Argument.InRow.cons form (List.cons_ne_nil ' ' []) rfl
      (.cons amount (List.cons_ne_nil ' ' [' ']) rfl (.single unit))
    exact @Argument.Written.intro _ [] _ ['\n'] rfl row rfl
  have alone : Argument.Written [⟨"3d", false⟩] "3d".toList :=
    @Argument.Written.intro _ [] _ [] rfl (.single (spells_word three (inked_letters .day))) rfl
  obtain ⟨parsed, dated⟩ := evaluate?_row sources
  have generated := dated ⟨3, .day⟩ (by decide) (by decide)
  exact ⟨quotes, parsed _ _ quotes, long, row, short, alone,
    (generated _ _ long row).trans (generated _ _ short alone).symm⟩

end Generator

end RequestBook
