import RequestBook.Markup.Event
import RequestBook.Proofs.Grammar

/-! Reading an XML text piece by piece. What has been read as whole pieces is read the same whatever
comes behind it; only character data at its end goes together with character data behind it. -/
namespace RequestBook.Markup

open Text (dropStart? cutAtWord? keeping)

section Readers

variable {text content after word more : List Char} {p : Char → Bool}

theorem dropWhile_append_of_ne_nil (stopped : text.dropWhile p ≠ []) :
    (text ++ more).dropWhile p = text.dropWhile p ++ more := by
  rw [List.dropWhile_append, if_neg (by simpa using stopped)]

theorem takeWhile_append_of_ne_nil (stopped : text.dropWhile p ≠ []) :
    (text ++ more).takeWhile p = text.takeWhile p := by
  rw [List.takeWhile_append, if_neg]
  intro all
  have lengths := congrArg List.length (List.takeWhile_append_dropWhile (p := p) (l := text))
  rw [List.length_append, all] at lengths
  exact stopped (List.length_eq_zero_iff.mp (by omega))

theorem keeping_append {c : Char} {read read' : Option (List Char × List Char)} (more : List Char)
    (inner : ∀ {content}, read = some (content, after) → read' = some (content, after ++ more))
    (kept : keeping c read = some (content, after)) : keeping c read' = some (content, after ++ more) := by
  obtain ⟨⟨inside, behind⟩, found, eq⟩ := Option.map_eq_some_iff.mp kept
  cases eq
  rw [inner found]
  rfl

theorem tagContent?_append {quote : Option Char} (more : List Char)
    (read : tagContent? quote text = some (content, after)) :
    tagContent? quote (text ++ more) = some (content, after ++ more) := by
  fun_induction tagContent? quote text generalizing content with
  | case1 => cases read
  | case2 c rest q ih => exact keeping_append more ih read
  | case3 =>
    cases read
    rfl
  | case4 c rest plain quoted ih =>
    simp only [List.cons_append, tagContent?, if_neg plain, if_pos quoted]
    exact keeping_append more ih read
  | case5 c rest plain unquoted ih =>
    simp only [List.cons_append, tagContent?, if_neg plain, if_neg unquoted]
    exact keeping_append more ih read

theorem balanced?_append {depth : Nat} (more : List Char)
    (read : balanced? depth text = some (content, after)) :
    balanced? depth (text ++ more) = some (content, after ++ more) := by
  fun_induction balanced? depth text generalizing content with
  | case1 => cases read
  | case2 depth rest ih => exact keeping_append more ih read
  | case3 =>
    cases read
    rfl
  | case4 rest _ depth ih => exact keeping_append more ih read
  | case5 depth c rest other other' ih =>
    simp only [List.cons_append, balanced?.eq_def depth (c :: (rest ++ more)), if_neg other, if_neg other']
    exact keeping_append more ih read

theorem keeping_content {c : Char} {read : Option (List Char × List Char)}
    (inner : ∀ {content}, read = some (content, after) → content.length < text.length)
    (kept : keeping c read = some (content, after)) : content.length < (c :: text).length := by
  obtain ⟨⟨inside, behind⟩, found, eq⟩ := Option.map_eq_some_iff.mp kept
  cases eq
  exact Nat.succ_lt_succ (inner found)

theorem length_of_balanced?_content {depth : Nat} (read : balanced? depth text = some (content, after)) :
    content.length < text.length := by
  fun_induction balanced? depth text generalizing content with
  | case1 => cases read
  | case2 depth rest ih => exact keeping_content ih read
  | case3 =>
    cases read
    exact Nat.succ_pos _
  | case4 rest _ depth ih => exact keeping_content ih read
  | case5 depth c rest _ _ ih => exact keeping_content ih read

/-- A text that is long enough for a word but does not start with it does not with more behind it. -/
theorem dropStart?_append_eq_none (more : List Char) (long : word.length ≤ text.length)
    (apart : dropStart? word text = none) : dropStart? word (text ++ more) = none := by
  refine Text.dropStart?_eq_none fun start => ?_
  obtain ⟨rest, rfl⟩ := List.prefix_of_prefix_length_le start (List.prefix_append text more) long
  rw [Text.dropStart?_append] at apart
  cases apart

theorem dropStart?_append_of_some (more : List Char) (found : dropStart? word text = some after) :
    dropStart? word (text ++ more) = some (after ++ more) := by
  rw [Text.dropStart?_eq_some.mp found, List.append_assoc, Text.dropStart?_append]

theorem cutAtWord?_append (more : List Char) (found : cutAtWord? word text = some (content, after)) :
    cutAtWord? word (text ++ more) = some (content, after ++ more) := by
  induction text generalizing content with
  | nil =>
    rw [cutAtWord?] at found
    split at found
    next empty =>
      cases found
      obtain rfl := List.isEmpty_iff.mp empty
      cases more <;> rfl
    next => cases found
  | cons c rest ih =>
    have long := Text.length_of_cutAtWord? found
    rw [cutAtWord?] at found
    rw [List.cons_append, cutAtWord?, ← List.cons_append]
    split at found
    next behind start =>
      cases found
      rw [dropStart?_append_of_some more start]
    next apart =>
      rw [dropStart?_append_eq_none more (by omega) apart]
      obtain ⟨⟨before, behind⟩, found', eq⟩ := Option.map_eq_some_iff.mp found
      cases eq
      simp only [ih found', Option.map_some]

theorem readReference_append (more : List Char) (read : readReference text = some (content, after)) :
    readReference (text ++ more) = some (content, after ++ more) := by
  simp only [readReference] at read ⊢
  split at read
  next rest found =>
    cases read
    have stopped : text.dropWhile (fun c => c != ';' && c != '&' && c != '<') ≠ [] := by simp [found]
    rw [dropWhile_append_of_ne_nil stopped, found, takeWhile_append_of_ne_nil stopped]
    rfl
  next => cases read

theorem length_of_isDoctype (doctype : isDoctype content = true) : 7 ≤ content.length := by
  rw [isDoctype, Bool.and_eq_true, beq_iff_eq] at doctype
  have lengths := congrArg List.length doctype.1
  rw [List.length_map, List.length_take] at lengths
  have : "doctype".toList.length = 7 := rfl
  omega

theorem readDeclaration_append {e : Event} (more : List Char) (read : readDeclaration text = some (e, after)) :
    readDeclaration (text ++ more) = some (e, after ++ more) := by
  simp only [readDeclaration] at read ⊢
  split at read
  next body start =>
    obtain ⟨⟨_, _⟩, found, eq⟩ := Option.map_eq_some_iff.mp read
    cases eq
    rw [dropStart?_append_of_some more start]
    simp only [cutAtWord?_append more found, Option.map_some]
  next noComment =>
    split at read
    next body start =>
      obtain ⟨⟨_, _⟩, found, eq⟩ := Option.map_eq_some_iff.mp read
      cases eq
      have long : "--".toList.length ≤ text.length :=
        Nat.le_trans (by decide) (Nat.le.intro (Text.length_of_dropStart? start).symm)
      rw [dropStart?_append_eq_none more long noComment, dropStart?_append_of_some more start]
      simp only [cutAtWord?_append more found, Option.map_some]
    next noCdata =>
      split at read
      next content behind found =>
        split at read
        next doctype =>
          cases read
          have long : 7 ≤ text.length :=
            Nat.le_trans (length_of_isDoctype doctype) (Nat.le_of_lt (length_of_balanced?_content found))
          rw [dropStart?_append_eq_none more (Nat.le_trans (by decide) long) noComment,
            dropStart?_append_eq_none more (Nat.le_trans (by decide) long) noCdata, balanced?_append more found]
          exact if_pos doctype
        next => cases read
      next => cases read

theorem readMarkup_opening {c : Char} (slash : c ≠ '/') (mark : c ≠ '!') (question : c ≠ '?') :
    readMarkup (c :: text) =
      (tagContent? none (c :: text)).map fun (content, after) => (openingTag content, after) := by
  unfold readMarkup
  split <;> simp_all

theorem readMarkup_instruction {c : Char} (open' : c ≠ '>') :
    readMarkup ('?' :: c :: text) =
      (cutAtWord? "?>".toList (c :: text)).map fun (_, after) => (.aside, after) := by
  unfold readMarkup
  split <;> simp_all

theorem readMarkup_append {e : Event} (more : List Char) (read : readMarkup text = some (e, after)) :
    readMarkup (text ++ more) = some (e, after ++ more) := by
  unfold readMarkup at read
  split at read
  case h_1 => cases read
  case h_2 rest => exact readDeclaration_append more read
  case h_3 => cases read
  case h_4 rest other =>
    obtain ⟨⟨_, _⟩, found, eq⟩ := Option.map_eq_some_iff.mp read
    cases eq
    cases rest with
    | nil => cases found
    | cons c rest =>
      have apart : c ≠ '>' := fun closed => other rest (by rw [closed])
      have found' := cutAtWord?_append more found
      rw [List.cons_append] at found'
      rw [List.cons_append, List.cons_append, readMarkup_instruction apart, found', Option.map_some]
  case h_5 rest =>
    obtain ⟨⟨_, _⟩, found, eq⟩ := Option.map_eq_some_iff.mp read
    cases eq
    simp only [List.cons_append, readMarkup, tagContent?_append more found, Option.map_some]
  case h_6 filled noMark _ noQuestion noSlash =>
    obtain ⟨⟨_, _⟩, found, eq⟩ := Option.map_eq_some_iff.mp read
    cases eq
    cases text with
    | nil => exact absurd rfl filled
    | cons c rest =>
      have found' := tagContent?_append more found
      rw [List.cons_append] at found' ⊢
      rw [readMarkup_opening, found', Option.map_some]
      all_goals
        rintro rfl
      · exact noSlash rest rfl
      · exact noMark rest rfl
      · exact noQuestion rest rfl

end Readers

def textPiece (data : List Char) : List Event := if data = [] then [] else [.text data]

section Reading

variable {before data more : List Char} {pieces : List Event}

theorem readEvents_markup {rest after : List Char} {e : Event} (read : readMarkup rest = some (e, after)) :
    readEvents ('<' :: rest) = (readEvents after).map (e :: ·) := by
  rw [readEvents]
  split
  next e' after' read' =>
    cases read.symm.trans read'
    rfl
  next none => cases read.symm.trans none

theorem readEvents_reference {rest name after : List Char} (read : readReference rest = some (name, after)) :
    readEvents ('&' :: rest) = (readEvents after).map (.reference name :: ·) := by
  rw [readEvents]
  split
  next name' after' read' =>
    cases read.symm.trans read'
    rfl
  next none => cases read.symm.trans none

theorem readEvents_data {c : Char} {rest : List Char} (data : isCharacterData c = true) :
    readEvents (c :: rest) =
      (readEvents (rest.dropWhile isCharacterData)).map (.text (c :: rest.takeWhile isCharacterData) :: ·) := by
  obtain ⟨noMarkup, noReference⟩ : c ≠ '<' ∧ c ≠ '&' := by simpa [isCharacterData] using data
  rw [readEvents]
  · exact noMarkup
  · exact noReference

/-- Character data is one piece where none follows. -/
theorem readEvents_textPiece (literal : ∀ c ∈ data, isCharacterData c = true)
    (ends : ∀ c ∈ more.head?, isCharacterData c = false) :
    readEvents (data ++ more) = (readEvents more).map (textPiece data ++ ·) := by
  cases data with
  | nil => simp [textPiece]
  | cons c rest =>
    obtain ⟨first, others⟩ := List.forall_mem_cons.mp literal
    have stop : more.takeWhile isCharacterData = [] ∧ more.dropWhile isCharacterData = more := by
      cases more with
      | nil => exact ⟨rfl, rfl⟩
      | cons d more => simp [ends d rfl]
    rw [List.cons_append, readEvents_data first, List.dropWhile_append_of_pos others,
      List.takeWhile_append_of_pos others, stop.1, stop.2, List.append_nil]
    rfl

/-- What has been read as whole pieces is read the same whatever comes behind it, but for character data
at its end. -/
theorem readEvents_append (read : readEvents before = some pieces) :
    ∃ whole data, pieces = whole ++ textPiece data ∧ (∀ c ∈ data, isCharacterData c = true) ∧
      ∀ more, readEvents (before ++ more) = (readEvents (data ++ more)).map (whole ++ ·) := by
  have piece {text after : List Char} {e : Event} {whole : List Event} {data : List Char}
      (step : ∀ more, readEvents (text ++ more) = (readEvents (after ++ more)).map (e :: ·))
      (onward : ∀ more, readEvents (after ++ more) = (readEvents (data ++ more)).map (whole ++ ·))
      (more : List Char) :
      readEvents (text ++ more) = (readEvents (data ++ more)).map (e :: whole ++ ·) := by
    rw [step, onward, Option.map_map]
    rfl
  fun_induction readEvents before generalizing pieces with
  | case1 =>
    cases read
    exact ⟨[], [], rfl, by simp, fun more => by simp⟩
  | case2 rest e after found _ ih =>
    obtain ⟨pieces, read', rfl⟩ := Option.map_eq_some_iff.mp read
    obtain ⟨whole, data, rfl, literal, onward⟩ := ih read'
    exact ⟨e :: whole, data, rfl, literal,
      piece (fun more => readEvents_markup (readMarkup_append more found)) onward⟩
  | case3 => cases read
  | case4 rest name after found _ ih =>
    obtain ⟨pieces, read', rfl⟩ := Option.map_eq_some_iff.mp read
    obtain ⟨whole, data, rfl, literal, onward⟩ := ih read'
    exact ⟨.reference name :: whole, data, rfl, literal,
      piece (fun more => readEvents_reference (readReference_append more found)) onward⟩
  | case5 => cases read
  | case6 c rest noMarkup noReference ih =>
    have first : isCharacterData c = true := by
      have apart : c ≠ '<' ∧ c ≠ '&' := ⟨noMarkup, noReference⟩
      simpa [isCharacterData] using apart
    obtain ⟨others, read', rfl⟩ := Option.map_eq_some_iff.mp read
    by_cases all : rest.dropWhile isCharacterData = []
    -- the text ends with this character data
    · rw [all, readEvents] at read'
      cases read'
      have literal := List.dropWhile_eq_nil_iff.mp all
      rw [List.takeWhile_eq_self_iff.mpr literal]
      exact ⟨[], c :: rest, rfl, List.forall_mem_cons.mpr ⟨first, literal⟩, fun more => by simp⟩
    · obtain ⟨whole, data, rfl, literal, onward⟩ := ih read'
      refine ⟨_, data, rfl, literal, piece (fun more => ?_) onward⟩
      rw [List.cons_append, readEvents_data first, dropWhile_append_of_ne_nil all, takeWhile_append_of_ne_nil all]

/-- Behind whole pieces a tag or a reference begins a piece of its own. -/
theorem readEvents_append_markup (read : readEvents before = some pieces)
    (ends : ∀ c ∈ more.head?, isCharacterData c = false) :
    readEvents (before ++ more) = (readEvents more).map (pieces ++ ·) := by
  obtain ⟨whole, data, rfl, literal, onward⟩ := readEvents_append read
  rw [onward, readEvents_textPiece literal ends, Option.map_map]
  exact congrArg (Option.map · _) (funext fun _ => (List.append_assoc _ _ _).symm)

/-- A text read behind pieces is read behind the same pieces without a byte order mark; the first character
of a text is none. -/
theorem events?_append (read : events? before = some pieces) :
    ∃ start, readEvents start = some pieces ∧
      ∀ more, (before ≠ [] ∨ ∀ c ∈ more.head?, c ≠ Char.ofNat 0xFEFF) →
        events? (before ++ more) = readEvents (start ++ more) := by
  cases before with
  | nil =>
    refine ⟨[], read, fun more unmarked => ?_⟩
    obtain filled | unmarked := unmarked
    · exact absurd rfl filled
    cases more with
    | nil => rfl
    | cons c more =>
      rw [List.nil_append, events?, Text.dropStart?, if_neg (unmarked c rfl).symm, Option.getD_none]
  | cons c rest =>
    refine ⟨(Text.dropStart? [Char.ofNat 0xFEFF] (c :: rest)).getD (c :: rest), read, fun more _ => ?_⟩
    by_cases mark : Char.ofNat 0xFEFF = c
    all_goals
      simp only [events?, List.cons_append, Text.dropStart?, mark, if_true, if_false]
      rfl

end Reading

end RequestBook.Markup
