import RequestBook.Proofs.Escaping

/-! Characters of a text written in different ways. A character that stands for itself may be written as a
reference instead, and what is extracted stays the same: unless white space stands behind it and no more
character data follows, since that is taken for layout behind a reference. -/
namespace RequestBook.Markup

open Text (isBlank allBlank)

inductive Writes (c : Char) : List Char → Prop where
  | literal : isCharacterData c = true → Writes c [c]
  | predefined {name : List Char} : predefined? c = some name → Writes c ('&' :: (name ++ [';']))
  | numeric {name : List Char} : c.toNat ≠ 0 → NumericReference c name → Writes c ('&' :: (name ++ [';']))

/-- Whether character data other than white space comes before the next tag of a text. -/
def GoesOn (text : List Char) : Prop :=
  ∀ events, readEvents text = some events → Speaks (stretches events).1

section Pieces

variable {c : Char} {front behind more written : List Char}

theorem Writes.cases (writes : Writes c written) :
    (written = [c] ∧ isCharacterData c = true) ∨
    (∃ name, written = '&' :: (name ++ [';']) ∧ resolveReference? name = some c ∧ IsReferenceName name) := by
  cases writes with
  | literal plain => exact .inl ⟨rfl, plain⟩
  | predefined named => exact .inr ⟨_, rfl, resolveReference?_predefined named⟩
  | numeric notNull reference => exact .inr ⟨_, rfl, resolveReference?_numeric reference notNull⟩

/-- White space held back is said before anything else that is said. -/
theorem characterData_held {events : List Event} (speaks : Speaks events) (held : List Char) :
    characterData (.text held :: events) = held ++ characterData events :=
  characterData_cons (speaks_cons.mpr (.inr speaks))

/-- The pieces that a character makes together with the character data around it say that character,
in whichever way it is written. -/
theorem Writes.pieces (writes : Writes c written) (ink : isBlank c = false)
    (before : ∀ d ∈ front, isCharacterData d = true) (after : ∀ d ∈ behind, isCharacterData d = true)
    (ends : ∀ d ∈ more.head?, isCharacterData d = false) :
    ∃ others, (∀ e ∈ others, e.isTag = false) ∧
      readEvents (front ++ (written ++ (behind ++ more))) = (readEvents more).map (others ++ ·) ∧
      ∀ held rest, (written = [c] → behind = [] ∨ Speaks (textPiece behind ++ rest)) →
        characterData (.text held :: (others ++ rest)) =
          held ++ (front ++ c :: characterData (textPiece behind ++ rest)) := by
  obtain ⟨rfl, plain⟩ | ⟨name, rfl, resolved, plain⟩ := writes.cases
  · have whole : ∀ d ∈ front ++ c :: behind, isCharacterData d = true := by
      simpa [or_imp, forall_and] using ⟨before, plain, after⟩
    refine ⟨textPiece (front ++ c :: behind), isTag_textPiece _, ?_, fun held rest goes => ?_⟩
    · simpa using readEvents_textPiece whole ends
    · have speaks : Speaks (textPiece (front ++ c :: behind) ++ rest) := speaks_textPiece ⟨c, by simp, ink⟩ rest
      rw [characterData_held speaks, characterData_textPiece (.inr speaks), characterData_textPiece (goes rfl)]
      simp
  · refine ⟨textPiece front ++ .reference name :: textPiece behind,
      isTag_reference (isTag_textPiece behind) front name, ?_, fun held rest _ => ?_⟩
    · have read : readReference (name ++ ';' :: (behind ++ more)) = some (name, behind ++ more) :=
        readReference_name plain
      simp only [List.cons_append, List.append_assoc, List.nil_append]
      rw [readEvents_textPiece before (by simp; decide), readEvents_reference read,
        readEvents_textPiece after ends, Option.map_map, Option.map_map]
      rfl
    · have speaks : Speaks (textPiece front ++ .reference name :: (textPiece behind ++ rest)) :=
        speaks_of_reference resolved _ _
      rw [List.append_assoc, List.cons_append, characterData_held speaks, characterData_reference resolved]

end Pieces

section Respelling

variable {before after written written' : List Char} {c : Char} {pieces : List Event}

theorem Writes.head?_ne (writes : Writes c written) (after : List Char) (mark : c ≠ Char.ofNat 0xFEFF) :
    ∀ d ∈ (written ++ after).head?, d ≠ Char.ofNat 0xFEFF := by
  obtain ⟨rfl, -⟩ | ⟨name, rfl, -⟩ := writes.cases
  · simpa using mark
  · simp

theorem extract?_unread {body : List Char} (unread : events? body = none) (path : List Char) :
    extract? body path = none := by
  rw [extract?, parse?, unread]
  cases query? path <;> rfl

/-- Behind character data the rest goes on, unless it is white space. -/
theorem GoesOn.ahead {data more : List Char} {events : List Event}
    (literal : ∀ d ∈ data, isCharacterData d = true)
    (ends : ∀ d ∈ more.head?, isCharacterData d = false) (rest : readEvents more = some events)
    (goes : ∀ d ∈ (data ++ more).head?, isBlank d = true → GoesOn (data ++ more)) :
    data = [] ∨ Speaks (textPiece data ++ (stretches events).1) := by
  cases data with
  | nil => exact .inl rfl
  | cons d behind =>
    refine .inr ?_
    cases blank : isBlank d with
    | false => exact speaks_textPiece ⟨d, List.mem_cons_self, blank⟩ _
    | true =>
      have read : readEvents (d :: behind ++ more) = some (textPiece (d :: behind) ++ events) := by
        rw [readEvents_textPiece literal ends, rest, Option.map_some]
      have speaks := goes d rfl blank _ read
      rwa [stretches_append (isTag_textPiece _)] at speaks

/-- A character other than white space may be written in another way without a difference to any query. Where
it is written as it stands, this asks that white space behind it is followed by more character data. -/
theorem extract?_respelled (read : events? before = some pieces) (inside : before ≠ [] ∨ c ≠ Char.ofNat 0xFEFF)
    (ink : isBlank c = false) (writes : Writes c written) (writes' : Writes c written')
    (goes : written = [c] ∨ written' = [c] → ∀ d ∈ after.head?, isBlank d = true → GoesOn after)
    (path : List Char) :
    extract? (before ++ written ++ after) path = extract? (before ++ written' ++ after) path := by
  obtain ⟨start, read', behind⟩ := events?_append read
  obtain ⟨whole, front, rfl, literal, onward⟩ := readEvents_append read'
  have parts : after.takeWhile isCharacterData ++ after.dropWhile isCharacterData = after :=
    List.takeWhile_append_dropWhile
  have literal' : ∀ d ∈ after.takeWhile isCharacterData, isCharacterData d = true :=
    fun d => List.mem_takeWhile_imp
  have ends : ∀ d ∈ (after.dropWhile isCharacterData).head?, isCharacterData d = false := by
    intro d head
    have stop := List.head?_dropWhile_not isCharacterData after
    simpa [Option.mem_def.mp head] using stop
  generalize after.takeWhile isCharacterData = data at *
  generalize after.dropWhile isCharacterData = more at *
  subst parts
  have body {written : List Char} (writes : Writes c written) {others : List Event}
      (said : readEvents (front ++ (written ++ (data ++ more))) = (readEvents more).map (others ++ ·)) :
      events? (before ++ written ++ (data ++ more)) = (readEvents more).map (whole ++ others ++ ·) := by
    have unmarked := inside.imp_right fun mark => writes.head?_ne (data ++ more) mark
    rw [List.append_assoc, behind _ unmarked, onward, said, Option.map_map]
    exact congrArg (Option.map · _) (funext fun _ => (List.append_assoc _ _ _).symm)
  obtain ⟨others, plain, said, heard⟩ := writes.pieces ink literal literal' ends
  obtain ⟨others', plain', said', heard'⟩ := writes'.pieces ink literal literal' ends
  cases rest : readEvents more with
  | none =>
    rw [extract?_unread (by rw [body writes said, rest]; rfl),
      extract?_unread (by rw [body writes' said', rest]; rfl)]
  | some events =>
    have events₁ : events? (before ++ written ++ (data ++ more)) = some (whole ++ others ++ events) := by
      rw [body writes said, rest]
      rfl
    have events₂ : events? (before ++ written' ++ (data ++ more)) = some (whole ++ others' ++ events) := by
      rw [body writes' said', rest]
      rfl
    have untagged {others : List Event} (plain : ∀ e ∈ others, e.isTag = false) :
        others.filter Event.isTag = [] :=
      List.filter_eq_nil_iff.mpr fun e member => by simp [plain e member]
    refine extract?_congr events₁ events₂ ?_ ?_ path
    · simp only [List.filter_append, untagged plain, untagged plain']
    · rw [← spokenAfter_empty, ← spokenAfter_empty, List.append_assoc, List.append_assoc]
      refine spokenAfter_append whole rfl fun held _ => ?_
      rw [spokenAfter, spokenAfter, stretches_append plain, stretches_append plain',
        heard held _ fun same => GoesOn.ahead literal' ends rest (goes (.inl same)),
        heard' held _ fun same => GoesOn.ahead literal' ends rest (goes (.inr same))]

end Respelling

/-- Escaping is undone: in an element but for white space that is taken for layout, in an attribute where
nothing has to be escaped, and wherever one character of a text is written in another way. -/
theorem extract?_escape :
    (∀ text, (∃ c ∈ text, isBlank c = false) →
      extract? ("<r>".toList ++ escape text ++ "</r>".toList) "/r".toList = some (kept text)) ∧
    (∀ text, (∀ c ∈ text, isSpecial c = false) →
      extract? ("<r a=\"".toList ++ escape text ++ "\"/>".toList) "/r/@a".toList = some text) ∧
    ∀ (before after path written reference : List Char) (c : Char), (events? before).isSome →
      (before ≠ [] ∨ c ≠ Char.ofNat 0xFEFF) → isBlank c = false → c.toNat ≠ 0 → Writes c written →
      NumericReference c reference → (written = [c] → ∀ d ∈ after.head?, isBlank d = true → GoesOn after) →
      extract? (before ++ '&' :: (reference ++ ';' :: after)) path =
        extract? (before ++ (written ++ after)) path := by
  refine ⟨fun text => extract?_element, fun text => extract?_attribute, ?_⟩
  intro before after path written reference c readable inside ink notNull writes numeric goes
  obtain ⟨pieces, read⟩ := Option.isSome_iff_exists.mp readable
  have longer : '&' :: (reference ++ [';']) ≠ [c] := by simp
  have same := extract?_respelled read inside ink (.numeric notNull numeric) writes
    (fun either => goes (either.resolve_left longer)) path
  simpa using same

theorem extract?_escape_mixed :
    extract? ("<r>".toList ++ escape "a < b ".toList ++ "</r>".toList) "/r".toList = some "a < b ".toList ∧
    extract? ("<r a=\"".toList ++ escape " x y".toList ++ "\"/>".toList) "/r/@a".toList = some " x y".toList ∧
    extract? "<r>a &#x3C; &#98; c</r>".toList "/r".toList =
      extract? "<r>a &#x3C; b c</r>".toList "/r".toList := by
  obtain ⟨elements, attributes, respelled⟩ := extract?_escape
  have goes : GoesOn " c</r>".toList := by
    have read : readEvents " c</r>".toList = some [.text " c".toList, .finish "r"] := by decide +kernel
    rintro events read'
    cases read.symm.trans read'
    exact ⟨.text " c".toList, by decide, rfl, rfl⟩
  have first := elements "a < b ".toList ⟨'a', by decide, by decide⟩
  refine ⟨first.trans (by decide), attributes " x y".toList (by simp [isSpecial, predefined?]), ?_⟩
  exact respelled "<r>a &#x3C; ".toList " c</r>".toList "/r".toList "b".toList "#98".toList 'b'
    (by decide +kernel) (.inl (by decide)) (by decide) (by decide) (.literal (by decide)) (.decimal 0)
    fun _ _ _ _ => goes

/-- White space behind a reference is lost where nothing more is said, a reference in an attribute is not
resolved, and the null character has no reference. -/
theorem extract?_escape_ne :
    extract? ("<r>".toList ++ escape "& ".toList ++ "</r>".toList) "/r".toList ≠ some "& ".toList ∧
    extract? ("<r a=\"".toList ++ escape "&".toList ++ "\"/>".toList) "/r/@a".toList ≠ some "&".toList ∧
    extract? "<r>&#97; </r>".toList "/r".toList ≠ extract? "<r>a </r>".toList "/r".toList ∧
    extract? "<r>a&#0;</r>".toList "/r".toList ≠ extract? "<r>a\x00</r>".toList "/r".toList := by
  decide +kernel

end RequestBook.Markup
