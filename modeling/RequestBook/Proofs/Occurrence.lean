import RequestBook.Proofs.Bytes
import RequestBook.Proofs.Grammar
import RequestBook.Proofs.Groupwise

/-! Where references stand. A text is searched from left to right, group by group, and what is found
is every place at which a reference is spelled: groups cannot overlap, so no group that is passed over
hides another. Finding, replacing and reading a single reference agree on these places. -/
namespace RequestBook

open Text

/-- A text begins with a group, or its first character is a piece of its own. -/
theorem pieces_cons_cases (c : Char) (rest : List Char) :
    pieces (c :: rest) = .char c :: pieces rest ∨
    ∃ inner after, Braceless inner ∧ c :: rest = groupText inner ++ after ∧
      pieces (c :: rest) = .group inner :: pieces after := by
  by_cases opens : ∃ after, c = '{' ∧ rest = '{' :: after
  · obtain ⟨after, rfl, rfl⟩ := opens
    cases found : groupInner? after with
    | none =>
      refine .inl ?_
      rw [pieces]
      split
      next inside => rw [found] at inside; cases inside
      next => rfl
    | some parts =>
      obtain ⟨inner, behind⟩ := parts
      obtain ⟨rfl, braceless⟩ := groupInner?_eq_some.mp found
      have whole : '{' :: '{' :: (inner ++ '}' :: '}' :: behind) = groupText inner ++ behind := by
        simp [groupText]
      refine .inr ⟨inner, behind, braceless, whole, ?_⟩
      rw [whole, pieces_group braceless]
  · refine .inl (pieces_char ?_)
    rintro rfl opening
    obtain ⟨after, rfl⟩ := List.head?_eq_some_iff.mp opening
    exact opens ⟨after, rfl, rfl⟩

/-- No group begins inside another one. -/
theorem groupText_apart {inner other before after behind : List Char} (braceless : Braceless inner)
    (eq : groupText inner ++ after = before ++ (groupText other ++ behind)) :
    before = [] ∨ ∃ rest, before = groupText inner ++ rest := by
  have unopened : '{' ∉ inner := fun member => braceless.ne_opening member rfl
  simp only [groupText, List.cons_append, List.append_assoc, List.nil_append] at eq
  cases before with
  | nil => exact .inl rfl
  | cons c before =>
    obtain ⟨rfl, opened⟩ := List.cons.inj eq
    cases before with
    | nil =>
      -- the second opening brace would open the other group, and a third one stand behind it
      obtain ⟨_, inside⟩ := List.cons.inj opened
      cases inner with
      | nil => cases inside
      | cons d inner =>
        obtain ⟨rfl, _⟩ := List.cons.inj inside
        exact absurd List.mem_cons_self unopened
    | cons d before =>
      obtain ⟨rfl, inside⟩ := List.cons.inj opened
      rcases List.append_eq_append_iff.mp inside with ⟨more, rfl, closing⟩ | ⟨part, rfl, closing⟩
      · cases more with
        | nil => cases closing
        | cons e more =>
          obtain ⟨rfl, closed⟩ := List.cons.inj closing
          cases more with
          | nil => cases closed
          | cons f more =>
            obtain ⟨rfl, _⟩ := List.cons.inj closed
            exact .inr ⟨more, by simp [groupText]⟩
      · cases part with
        | nil => cases closing
        | cons e part =>
          obtain ⟨rfl, _⟩ := List.cons.inj closing
          exact absurd (List.mem_append_right _ List.mem_cons_self) unopened

/-- Wherever a group stands in a text, it is one of the pieces. -/
theorem pieces_split (before : List Char) {inner : List Char} (braceless : Braceless inner)
    (behind : List Char) : ∃ front, front.flatMap Piece.text = before ∧
      pieces (before ++ (groupText inner ++ behind)) = front ++ .group inner :: pieces behind := by
  induction length : before.length using Nat.strong_induction_on generalizing before with
  | _ n ih =>
    cases before with
    | nil => exact ⟨[], rfl, pieces_group braceless behind⟩
    | cons c before =>
      rcases pieces_cons_cases c (before ++ (groupText inner ++ behind)) with
        single | ⟨other, after, plain, eq, first⟩
      · obtain ⟨front, rfl, found⟩ := ih before.length (by simp [← length]) before rfl
        exact ⟨.char c :: front, rfl, by rw [List.cons_append, single, found, List.cons_append]⟩
      · have apart : groupText other ++ after = (c :: before) ++ (groupText inner ++ behind) := eq.symm
        rcases groupText_apart plain apart with none | ⟨rest, whole⟩
        · cases none
        · have same : after = rest ++ (groupText inner ++ behind) := by
            rw [← List.cons_append, whole, List.append_assoc] at eq
            exact (List.append_cancel_left eq).symm
          have shorter : rest.length < n := by
            rw [← length, whole]
            simp [groupText]
            omega
          obtain ⟨front, rfl, found⟩ := ih rest.length shorter rest rfl
          refine ⟨.group other :: front, whole.symm, ?_⟩
          rw [List.cons_append, first, same, found, List.cons_append]

def Side.word : Side → List Char
  | .response => "response".toList
  | .request => "request".toList

def Part.word : Part → List Char
  | .body => "body".toList
  | .headers => "headers".toList

def readWord {α : Type} (word : α → List Char) (first second : α) (text : List Char) :
    Option (α × List Char) :=
  match dropStart? (word first ++ ['.']) text with
  | some rest => some (first, rest)
  | none => (dropStart? (word second ++ ['.']) text).map fun rest => (second, rest)

theorem readWord_eq_some {α : Type} {word : α → List Char} {first second own : α} {text rest : List Char}
    (either : own = first ∨ own = second)
    (apart : ∀ behind, dropStart? (word first ++ ['.']) (word second ++ '.' :: behind) = none) :
    readWord word first second text = some (own, rest) ↔ text = word own ++ '.' :: rest := by
  have pointed : ∀ a : α, word a ++ '.' :: rest = (word a ++ ['.']) ++ rest := fun a => by simp
  unfold readWord
  constructor
  · intro read
    rw [pointed]
    split at read
    next found =>
      cases read
      exact dropStart?_eq_some.mp found
    next =>
      obtain ⟨behind, found, eq⟩ := Option.map_eq_some_iff.mp read
      cases eq
      exact dropStart?_eq_some.mp found
  · rintro rfl
    rcases either with rfl | rfl
    · rw [pointed, dropStart?_append]
    · rw [apart, pointed, dropStart?_append, Option.map_some]

theorem Side.read_eq_some {text rest : List Char} {side : Side} :
    Side.read text = some (side, rest) ↔ text = side.word ++ '.' :: rest := by
  have words : Side.read text = readWord Side.word .response .request text := rfl
  rw [words]
  exact readWord_eq_some (by cases side <;> decide) fun _ => rfl

theorem Part.read_eq_some {text rest : List Char} {part : Part} :
    Part.read text = some (part, rest) ↔ text = part.word ++ '.' :: rest := by
  have words : Part.read text = readWord Part.word .body .headers text := rfl
  rw [words]
  exact readWord_eq_some (by cases part <;> decide) fun _ => rfl

/-- What a reference is spelled with: blanks before the name, and a path as it is written. -/
structure Spelling where
  blanks : List Char
  name : List Char
  side : Side
  part : Part
  path : List Char
  blank : allBlank blanks = true
  identifier : IsIdentifier requestMarks name
  filled : path ≠ []
  braceless : Braceless path

namespace Spelling

def inner (s : Spelling) : List Char :=
  s.blanks ++ (s.name ++ '.' :: (s.side.word ++ '.' :: (s.part.word ++ '.' :: s.path)))

def text (s : Spelling) : List Char := '{' :: '{' :: (s.inner ++ ['}', '}'])

def reference (s : Spelling) : Reference :=
  ⟨String.ofList s.name, s.side, s.part, String.ofList (trim s.path)⟩

theorem text_eq (s : Spelling) : s.text = groupText s.inner := rfl

end Spelling

theorem Braceless.append {first second : List Char} (left : Braceless first) (right : Braceless second) :
    Braceless (first ++ second) := List.forall_mem_append.mpr ⟨left, right⟩

theorem isBrace_of_isBlank {c : Char} (blank : isBlank c = true) : isBrace c = false := by
  rw [Bool.eq_false_iff]
  intro brace
  simp only [isBrace, Bool.or_eq_true, beq_iff_eq] at brace
  rcases brace with rfl | rfl <;> cases blank

theorem isBrace_of_continues {c : Char} (continues : continuesIdentifier requestMarks c = true) :
    isBrace c = false := by
  rw [Bool.eq_false_iff]
  intro brace
  simp only [isBrace, Bool.or_eq_true, beq_iff_eq] at brace
  rcases brace with rfl | rfl <;> cases continues

theorem continues_of_starts {marks : List Char} {c : Char} (starts : startsIdentifier c = true) :
    continuesIdentifier marks c = true := by
  simp only [startsIdentifier, Bool.or_eq_true, beq_iff_eq] at starts
  rcases starts with letter | rfl
  · simp [continuesIdentifier, letter]
  · simp [continuesIdentifier]

theorem Text.IsIdentifier.braceless {name : List Char} (identifier : IsIdentifier requestMarks name) :
    Braceless name := by
  cases name with
  | nil => exact identifier.elim
  | cons d rest =>
    intro c member
    apply isBrace_of_continues
    rcases List.mem_cons.mp member with rfl | inside
    · exact continues_of_starts identifier.1
    · exact identifier.2 c inside

namespace Spelling

theorem braceless_inner (s : Spelling) : Braceless s.inner := by
  have point : Braceless ['.'] := by decide
  have side : Braceless s.side.word := by cases s.side <;> decide
  have part : Braceless s.part.word := by cases s.part <;> decide
  have blanks : Braceless s.blanks := fun c member =>
    isBrace_of_isBlank (List.all_eq_true.mp s.blank c member)
  exact blanks.append (s.identifier.braceless.append
    (point.append (side.append (point.append (part.append (point.append s.braceless))))))

/-- A spelling is read back. -/
theorem ofInner?_inner (s : Spelling) : Reference.ofInner? s.inner = some s.reference := by
  have start : trimStart s.inner =
      s.name ++ '.' :: (s.side.word ++ '.' :: (s.part.word ++ '.' :: s.path)) := by
    rw [inner, trimStart_append s.blank]
    apply trimStart_of_head
    intro c head
    cases name : s.name with
    | nil => exact (name ▸ s.identifier).elim
    | cons d rest =>
      have visible := s.identifier.inked (by decide)
      rw [name] at head visible
      exact visible c (by simpa using Or.inl head.symm)
  have name := @readIdentifier_append requestMarks s.name s.identifier
    ('.' :: (s.side.word ++ '.' :: (s.part.word ++ '.' :: s.path))) (by simp; decide)
  have point : ∀ rest, dropStart? ['.'] ('.' :: rest) = some rest := fun rest => rfl
  rw [Reference.ofInner?, start, name]
  simp only [Option.bind_eq_bind, Option.bind_some, point, Side.read_eq_some.mpr rfl,
    Part.read_eq_some.mpr rfl, List.isEmpty_iff, s.filled, if_false]
  rfl

end Spelling

/-- What is read as a reference is a spelling of it. -/
theorem Reference.exists_spelling {inner : List Char} {r : Reference} (braceless : Braceless inner)
    (read : ofInner? inner = some r) : ∃ s : Spelling, s.inner = inner ∧ s.reference = r := by
  simp only [ofInner?, Option.bind_eq_bind, Option.bind_eq_some_iff] at read
  obtain ⟨⟨name, behind⟩, named, rest, dotted, ⟨side, rest'⟩, sided, ⟨part, path⟩, parted, eq⟩ := read
  dsimp only at dotted sided parted eq
  split at eq
  next => cases eq
  next filled =>
    cases eq
    obtain ⟨identifier, split⟩ := readIdentifier_eq_some named
    have shape : inner = inner.takeWhile isBlank ++
        (name ++ '.' :: (side.word ++ '.' :: (part.word ++ '.' :: path))) := by
      rw [← Part.read_eq_some.mp parted, ← Side.read_eq_some.mp sided]
      have dot : behind = '.' :: rest := dropStart?_eq_some.mp dotted
      rw [← dot, ← split]
      exact List.takeWhile_append_dropWhile.symm
    have blank : allBlank (inner.takeWhile isBlank) = true :=
      List.all_eq_true.mpr fun c member => List.mem_takeWhile_imp member
    have plain : Braceless path := by
      intro c member
      apply braceless
      rw [shape]
      simp [member]
    exact ⟨⟨inner.takeWhile isBlank, name, side, part, path, blank, identifier,
      by simpa using filled, plain⟩, shape.symm, rfl⟩

namespace Reference

theorem locate_group (offset : Nat) (inner : List Char) (rest : List Piece) :
    locate offset (.group inner :: rest) =
      ((ofInner? inner).map fun r => ((offset, offset + byteLength (groupText inner)), r)).toList ++
        locate (offset + byteLength (groupText inner)) rest := rfl

theorem locate_append (offset : Nat) (front back : List Piece) :
    locate offset (front ++ back) =
      locate offset front ++ locate (offset + byteLength (front.flatMap Piece.text)) back := by
  induction front generalizing offset with
  | nil => rfl
  | cons piece front ih =>
    rw [List.cons_append, List.flatMap_cons, byteLength_append, ← Nat.add_assoc]
    cases piece with
    | char c => exact ih _
    | group inner =>
      rw [locate_group, locate_group, ih, List.append_assoc]
      rfl

/-- What is located among pieces is a group that spells a reference, behind those before it. -/
theorem mem_locate {offset start stop : Nat} {ps : List Piece} {r : Reference} :
    ((start, stop), r) ∈ locate offset ps ↔ ∃ front inner back, ps = front ++ .group inner :: back ∧
      ofInner? inner = some r ∧ offset + byteLength (front.flatMap Piece.text) = start ∧
      start + byteLength (groupText inner) = stop := by
  constructor
  · intro member
    induction ps generalizing offset with
    | nil => cases member
    | cons piece ps ih =>
      rcases List.mem_append.mp member with here | later
      · cases piece with
        | char c => cases here
        | group inner =>
          obtain ⟨found, read, eq⟩ := Option.map_eq_some_iff.mp (Option.mem_toList.mp here)
          cases eq
          exact ⟨[], inner, ps, rfl, read, rfl, rfl⟩
      · obtain ⟨front, inner, back, rfl, read, rfl, rfl⟩ := ih later
        refine ⟨piece :: front, inner, back, rfl, read, ?_, rfl⟩
        rw [List.flatMap_cons, byteLength_append, Nat.add_assoc]
  · rintro ⟨front, inner, back, rfl, read, rfl, rfl⟩
    rw [locate_append, locate_group, read]
    simp

theorem locate_ordered (offset : Nat) (ps : List Piece) :
    (locate offset ps).Pairwise fun a b => a.1.2 ≤ b.1.1 := by
  induction ps generalizing offset with
  | nil => exact List.Pairwise.nil
  | cons piece ps ih =>
    cases piece with
    | char c => exact ih _
    | group inner =>
      rw [locate_group]
      cases read : ofInner? inner with
      | none => exact ih _
      | some r =>
        refine List.pairwise_cons.mpr ⟨?_, ih _⟩
        rintro ⟨⟨start, stop⟩, other⟩ later
        obtain ⟨front, _, _, _, _, behind, _⟩ := mem_locate.mp later
        dsimp only
        omega

/-- What is found are the places where references are spelled. -/
theorem mem_findAll {text : List Char} {start stop : Nat} {r : Reference} :
    ((start, stop), r) ∈ findAll text ↔
      ∃ s : Spelling, s.reference = r ∧ StandsAt s.text text start stop := by
  rw [findAll, mem_locate]
  constructor
  · rintro ⟨front, inner, back, parts, read, start', stop'⟩
    have member : .group inner ∈ pieces text := by simp [parts]
    obtain ⟨s, rfl, rfl⟩ := exists_spelling (braceless_of_mem_pieces member) read
    refine ⟨s, rfl, front.flatMap Piece.text, back.flatMap Piece.text, ?_, ?_, stop'⟩
    · rw [← text_pieces text, parts, List.flatMap_append, List.flatMap_cons, s.text_eq]
      rfl
    · rw [← start', Nat.zero_add]
  · rintro ⟨s, rfl, before, behind, rfl, start', stop'⟩
    obtain ⟨front, rfl, found⟩ := pieces_split before s.braceless_inner behind
    exact ⟨front, s.inner, pieces behind, found, s.ofInner?_inner, by rw [Nat.zero_add, start'], stop'⟩

/-- What is found in a text is every place in its bytes that spells a reference. All of them lie between
characters, and each begins where those before it have ended. -/
structure FindsAll (text : List Char) (found : List ((Nat × Nat) × Reference)) : Prop where
  exact : ∀ start stop r, ((start, stop), r) ∈ found ↔
    ∃ s : Spelling, s.reference = r ∧ Occupies s.text text start stop
  bounded : ∀ f ∈ found, ∃ s : Spelling, s.reference = f.2 ∧ StandsAt s.text text f.1.1 f.1.2
  ordered : found.Pairwise fun a b => a.1.2 ≤ b.1.1

theorem findsAll_findAll (text : List Char) : FindsAll text (findAll text) := by
  refine ⟨fun start stop r => ?_, fun f member => mem_findAll.mp member, locate_ordered 0 _⟩
  rw [mem_findAll]
  constructor
  · rintro ⟨s, same, stands⟩
    exact ⟨s, same, stands.occupies⟩
  · rintro ⟨s, same, occupies⟩
    exact ⟨s, same, Occupies.standsAt (by decide) occupies⟩

theorem parse?_text (s : Spelling) : parse? s.text = some s.reference := by
  have trimmed : Trimmed s.text := by
    constructor
    · simp [Spelling.text, isBlank]
    · intro c last
      have closing : s.text.getLast? = some '}' := by
        rw [Spelling.text, show '{' :: '{' :: (s.inner ++ ['}', '}']) =
          ('{' :: '{' :: (s.inner ++ ['}'])) ++ ['}'] by simp]
        exact List.getLast?_concat
      rw [closing] at last
      cases last
      rfl
  rw [parse?, trimmed.trim_eq, s.text_eq, pieces_groupText s.braceless_inner]
  exact s.ofInner?_inner

/-- A text is read as a reference if it spells one, blanks around it apart. -/
theorem parse?_eq_some_iff_spelled {text : List Char} {r : Reference} :
    parse? text = some r ↔ ∃ s : Spelling, s.text = trim text ∧ s.reference = r := by
  constructor
  · intro read
    unfold parse? at read
    split at read
    next inner parts =>
      have whole : trim text = groupText inner := by
        rw [← text_pieces (trim text), parts]
        exact List.append_nil _
      have member : .group inner ∈ pieces (trim text) := by simp [parts]
      have braceless : Braceless inner := braceless_of_mem_pieces member
      obtain ⟨s, rfl, rfl⟩ := exists_spelling braceless read
      exact ⟨s, whole.symm, rfl⟩
    next => cases read
  · rintro ⟨s, spelled, rfl⟩
    have own := parse?_text s
    rw [spelled] at own
    unfold parse? at own ⊢
    rwa [trim_trim] at own

theorem findAll_text (s : Spelling) : findAll s.text = [((0, byteLength s.text), s.reference)] := by
  rw [findAll, s.text_eq, pieces_groupText s.braceless_inner, locate_group, s.ofInner?_inner,
    Nat.zero_add]
  rfl

/-- A text is read as a reference if one is all that is found in it. -/
theorem parse?_eq_some_iff {text : List Char} {r : Reference} :
    parse? text = some r ↔ findAll (trim text) = [((0, byteLength (trim text)), r)] := by
  rw [parse?_eq_some_iff_spelled]
  constructor
  · rintro ⟨s, spelled, rfl⟩
    rw [← spelled, findAll_text]
  · intro alone
    have member : ((0, byteLength (trim text)), r) ∈ findAll (trim text) := by simp [alone]
    obtain ⟨s, rfl, before, behind, eq, start, stop⟩ := mem_findAll.mp member
    obtain rfl := byteLength_eq_zero start
    have none : behind = [] := by
      rw [eq, List.nil_append, byteLength_append] at stop
      exact byteLength_eq_zero (by omega)
    exact ⟨s, by rw [eq, none, List.nil_append, List.append_nil], rfl⟩

end Reference

def Text.cutBytes : Nat → List Char → List Char × List Char
  | 0, text => ([], text)
  | _, [] => ([], [])
  | n + 1, c :: rest =>
    let (front, back) := cutBytes (n + 1 - c.utf8Size) rest
    (c :: front, back)

theorem Text.cutBytes_append (first second : List Char) :
    cutBytes (byteLength first) (first ++ second) = (first, second) := by
  induction first with
  | nil =>
    cases second <;> rfl
  | cons c rest ih =>
    have := c.utf8Size_pos
    obtain ⟨n, eq⟩ : ∃ n, byteLength (c :: rest) = n + 1 := ⟨byteLength (c :: rest) - 1, by
      rw [byteLength]; omega⟩
    have left : n + 1 - c.utf8Size = byteLength rest := by
      rw [← eq, byteLength]
      omega
    rw [eq, List.cons_append, cutBytes, left, ih]

namespace Reference

/-- A text that begins at a byte, with what stands in each of the given places put through `change`. -/
def putIn (change : Reference → List Char → List Char) (offset : Nat) :
    List ((Nat × Nat) × Reference) → List Char → List Char
  | [], text => text
  | ((start, stop), r) :: more, text =>
    let (before, rest) := cutBytes (start - offset) text
    let (word, behind) := cutBytes (stop - start) rest
    before ++ (change r word ++ putIn change stop more behind)

/-- The pieces are gone through one by one; `before` has been passed since the last place. -/
theorem putIn_locate (change : Reference → List Char → List Char) (offset : Nat) (before : List Char)
    (ps : List Piece) :
    putIn change offset (locate (offset + byteLength before) ps) (before ++ ps.flatMap Piece.text) =
      before ++ ps.flatMap
        (Piece.replace fun inner => (ofInner? inner).map fun r => change r (groupText inner)) := by
  have passed : ∀ (offset : Nat) (before own : List Char), offset + byteLength before + byteLength own =
      offset + byteLength (before ++ own) := by
    intro offset before own
    rw [byteLength_append, Nat.add_assoc]
  induction ps generalizing offset before with
  | nil => rfl
  | cons piece ps ih =>
    rw [List.flatMap_cons, List.flatMap_cons]
    cases piece with
    | char c =>
      have step := ih offset (before ++ [c])
      rw [← passed, List.append_assoc, List.append_assoc] at step
      exact step
    | group inner =>
      rw [locate_group]
      cases read : ofInner? inner with
      | none =>
        have step := ih offset (before ++ groupText inner)
        rw [← passed, List.append_assoc, List.append_assoc] at step
        simpa [Piece.replace, Piece.text, read] using step
      | some r =>
        have step := ih (offset + byteLength before + byteLength (groupText inner)) []
        rw [byteLength, Nat.add_zero, List.nil_append, List.nil_append] at step
        simp only [Option.map_some, Option.toList_some, List.singleton_append, putIn, Piece.text,
          Nat.add_sub_cancel_left, cutBytes_append, Piece.replace, read, Option.getD_some, step]

theorem replaceAll_eq_putIn (change : Reference → List Char → List Char) (text : List Char) :
    replaceAll change text = putIn change 0 (findAll text) text := by
  have whole := putIn_locate change 0 [] (pieces text)
  rw [List.nil_append, List.nil_append, text_pieces] at whole
  exact whole.symm

/-- Finding, reading and replacing references agree: a text is searched for all places where one is
spelled, a text is read as one if it is the only such place, and these are the places that are
replaced. -/
theorem findAll_exact (text : List Char) :
    FindsAll text (findAll text) ∧ (∀ s : Spelling, parse? s.text = some s.reference) ∧
    (∀ r, parse? text = some r ↔ findAll (trim text) = [((0, byteLength (trim text)), r)]) ∧
    ∀ change, replaceAll change text = putIn change 0 (findAll text) text :=
  ⟨findsAll_findAll text, parse?_text, fun _ => parse?_eq_some_iff, fun change => replaceAll_eq_putIn change text⟩

def adjoining : List Char := "é{{{ a.response.body. }}{{b.request.headers.É }}}".toList

theorem findAll_exact_adjoining :
    FindsAll adjoining
      [((3, 25), ⟨"a", .response, .body, ""⟩), ((25, 50), ⟨"b", .request, .headers, "É"⟩)] ∧
    replaceAll (fun r _ => r.name.toList) adjoining = "é{ab}".toList := by
  have found : findAll adjoining =
      [((3, 25), ⟨"a", .response, .body, ""⟩), ((25, 50), ⟨"b", .request, .headers, "É"⟩)] := by
    decide +kernel
  obtain ⟨all, _, _, replaced⟩ := findAll_exact adjoining
  rw [found] at all
  refine ⟨all, ?_⟩
  rw [replaced, found]
  rfl

end Reference

end RequestBook
