import RequestBook.Placeholder.Argument
import RequestBook.Proofs.Grammar

/-! Written arguments. A bare word spells itself and ends at a blank; a quoted text ends at its quote. Either
way it is read as one argument, whatever stands behind it. So arguments that are written with blanks between
them are read as they are, whatever blanks stand around them. -/
namespace RequestBook.Argument

open Text

inductive Spells : Argument → List Char → Prop where
  | bare {word : List Char} : word ≠ [] → Inked word → (∀ c ∈ word.head?, c ≠ '\'' ∧ c ≠ '"') →
      Spells ⟨String.ofList word, false⟩ word
  | quoted {quote : Char} {text : List Char} : quote = '\'' ∨ quote = '"' → quote ∉ text →
      Spells ⟨String.ofList text, true⟩ (quote :: (text ++ [quote]))

/-- Arguments in a row, at least one blank between neighbours. -/
inductive InRow : List Argument → List Char → Prop where
  | nil : InRow [] []
  | single {a : Argument} {word : List Char} : a.Spells word → InRow [a] word
  | cons {a b : Argument} {arguments : List Argument} {word gap rest : List Char} : a.Spells word →
      gap ≠ [] → allBlank gap = true → InRow (b :: arguments) rest →
      InRow (a :: b :: arguments) (word ++ (gap ++ rest))

inductive Written (arguments : List Argument) : List Char → Prop where
  | intro {before row behind : List Char} : allBlank before = true → InRow arguments row →
      allBlank behind = true → Written arguments (before ++ (row ++ behind))

variable {a : Argument} {arguments : List Argument} {word gap rest text : List Char}

theorem isBlank_of_quote {quote : Char} (quoted : quote = '\'' ∨ quote = '"') : isBlank quote = false := by
  rcases quoted with rfl | rfl <;> rfl

theorem Spells.ne_nil (spells : Spells a word) : word ≠ [] := by
  cases spells with
  | bare filled => exact filled
  | quoted => exact List.cons_ne_nil _ _

theorem Spells.trimmed (spells : Spells a word) : Trimmed word := by
  cases spells with
  | bare _ inked _ => exact trimmed_of_inked inked
  | @quoted quote text quoted _ =>
    have visible := isBlank_of_quote quoted
    refine trimmed_append (List.cons_ne_nil quote text) (List.cons_ne_nil quote []) ?_ ?_ <;>
      simpa using visible

theorem InRow.ne_nil (row : InRow (a :: arguments) text) : text ≠ [] := by
  cases row with
  | single spells => exact spells.ne_nil
  | cons spells => simp [spells.ne_nil]

theorem InRow.trimmed (row : InRow arguments text) : Trimmed text := by
  induction row with
  | nil => decide
  | single spells => exact spells.trimmed
  | cons spells _ _ row ih =>
    refine trimmed_append spells.ne_nil (by simp [row.ne_nil]) spells.trimmed.1 fun c last => ?_
    rw [List.getLast?_append_of_ne_nil _ row.ne_nil] at last
    exact ih.2 c last

theorem readAll_nil : readAll [] = [] := by rw [readAll]

/-- Blanks between arguments do not count. -/
theorem readAll_blanks (blank : allBlank gap = true) (rest : List Char) :
    readAll (gap ++ rest) = readAll rest := by
  induction gap with
  | nil => rfl
  | cons c gap ih =>
    simp only [allBlank, List.all_cons, Bool.and_eq_true] at blank
    rw [List.cons_append, readAll, if_pos blank.1, ih blank.2]

/-- A written argument is read as it is; a bare word ends at the blank behind it. -/
theorem readAll_spelled (spells : Spells a word) (rest : List Char)
    (ends : ∀ c ∈ rest.head?, isBlank c = true) :
    readAll (word ++ rest) = a :: readAll rest := by
  cases spells with
  | bare filled inked unquoted =>
    cases word with
    | nil => contradiction
    | cons c word =>
      obtain ⟨visible, others⟩ := List.forall_mem_cons.mp inked
      have plain := unquoted c rfl
      have stop := span_run (fun d => !isBlank d) word rest
        (fun d member => by simp [others d member]) (fun d first => by simp [ends d first])
      rw [List.cons_append, readAll, if_neg (by simp [visible]), if_neg (by simp [plain]), stop.1, stop.2]
  | @quoted quote text quoted unquoted =>
    have visible := isBlank_of_quote quoted
    have stop := span_until unquoted (quote :: rest) (by simp)
    rw [List.cons_append, List.append_assoc, List.singleton_append, readAll, if_neg (by simp [visible]),
      if_pos quoted, stop.1, stop.2]
    rfl

theorem readAll_inRow (row : InRow arguments text) : readAll text = arguments := by
  induction row with
  | nil => exact readAll_nil
  | single spells =>
    have alone := readAll_spelled spells [] (by simp)
    rwa [List.append_nil, readAll_nil] at alone
  | @cons a b arguments word gap rest spells filled blank row ih =>
    rw [readAll_spelled spells _ (isBlank_of_head? filled blank rest), readAll_blanks blank, ih]

theorem parse_written (written : Written arguments text) : parse text = arguments := by
  cases written with
  | intro blank row blank' =>
    rw [parse, row.trimmed.trim_surrounded blank blank', readAll_inRow row]

end RequestBook.Argument
