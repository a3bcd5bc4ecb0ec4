/-! Cutting texts: what follows a given beginning, what stands on either side of a mark, and the
lines of a text. -/
namespace RequestBook.Text

def dropStart? : (start text : List Char) → Option (List Char)
  | [], text => some text
  | _ :: _, [] => none
  | c :: start, d :: text => if c = d then dropStart? start text else none

def dropEnd? (stop text : List Char) : Option (List Char) :=
  (dropStart? stop.reverse text.reverse).map List.reverse

def cutAt? (mark : Char) : List Char → Option (List Char × List Char)
  | [] => none
  | c :: rest =>
    if c = mark then some ([], rest)
    else (cutAt? mark rest).map fun (before, after) => (c :: before, after)

def cutAtWord? (word : List Char) : List Char → Option (List Char × List Char)
  | [] => if word.isEmpty then some ([], []) else none
  | c :: rest =>
    match dropStart? word (c :: rest) with
    | some after => some ([], after)
    | none => (cutAtWord? word rest).map fun (before, after) => (c :: before, after)

/-- The texts between the marks; one more than there are marks. -/
def splitAll (mark : Char) : List Char → List (List Char)
  | [] => [[]]
  | c :: rest =>
    if c = mark then [] :: splitAll mark rest
    else match splitAll mark rest with
      | [] => [[c]]
      | part :: parts => (c :: part) :: parts

/-- The lines of a text. A line ends at a carriage return with a line feed, at a carriage return
alone or at a line feed alone, so that a text of `n` line ends has `n + 1` lines. -/
def lines : List Char → List (List Char)
  | [] => [[]]
  | '\r' :: '\n' :: rest => [] :: lines rest
  | c :: rest =>
    if c = '\r' ∨ c = '\n' then [] :: lines rest
    else match lines rest with
      | [] => [[c]]
      | line :: more => (c :: line) :: more

def keeping (c : Char) (read : Option (List Char × List Char)) : Option (List Char × List Char) :=
  read.map fun (content, after) => (c :: content, after)

def joinWith (glue : List Char) (parts : List (List Char)) : List Char :=
  List.intercalate glue parts

theorem length_dropWhile_le (p : Char → Bool) (text : List Char) :
    (text.dropWhile p).length ≤ text.length := (List.dropWhile_sublist p).length_le

theorem length_of_dropWhile {p : Char → Bool} {text rest : List Char} {c : Char}
    (found : text.dropWhile p = c :: rest) : rest.length < text.length := by
  have := length_dropWhile_le p text
  rw [found] at this
  exact this

theorem length_of_dropStart? {start text rest : List Char} (cut : dropStart? start text = some rest) :
    text.length = start.length + rest.length := by
  induction start generalizing text with
  | nil => simp_all [dropStart?]
  | cons c start ih =>
    cases text with
    | nil => simp [dropStart?] at cut
    | cons d text =>
      simp only [dropStart?] at cut
      split at cut
      · have := ih cut; simp only [List.length_cons]; omega
      · contradiction

theorem length_of_cutAt? {mark : Char} {text before after : List Char}
    (cut : cutAt? mark text = some (before, after)) :
    text.length = before.length + after.length + 1 := by
  induction text generalizing before with
  | nil => simp [cutAt?] at cut
  | cons c rest ih =>
    simp only [cutAt?] at cut
    split at cut
    · cases cut; simp
    · obtain ⟨parts, found, eq⟩ := Option.map_eq_some_iff.mp cut
      cases eq
      have := ih found
      simp only [List.length_cons] at *
      omega

theorem length_of_cutAtWord? {word text before after : List Char}
    (cut : cutAtWord? word text = some (before, after)) :
    text.length = before.length + word.length + after.length := by
  induction text generalizing before with
  | nil =>
    simp only [cutAtWord?] at cut
    split at cut
    · cases cut; simp_all
    · contradiction
  | cons c rest ih =>
    simp only [cutAtWord?] at cut
    split at cut
    next found => cases cut; simpa using length_of_dropStart? found
    next =>
      obtain ⟨parts, found, eq⟩ := Option.map_eq_some_iff.mp cut
      cases eq
      have := ih found
      simp only [List.length_cons] at *
      omega

theorem length_of_keeping {c : Char} {read : Option (List Char × List Char)}
    {content after rest : List Char} (kept : keeping c read = some (content, after))
    (shorter : ∀ inner, read = some (inner, after) → after.length < rest.length) :
    after.length < (c :: rest).length := by
  obtain ⟨⟨inner, after'⟩, found, eq⟩ := Option.map_eq_some_iff.mp kept
  cases eq
  exact Nat.lt_succ_of_lt (shorter inner found)

end RequestBook.Text
