import RequestBook.Proofs.Independence
import RequestBook.Proofs.Occurrence

/-! What resolving a text depends on. The references of a text are resolved from the exchanges of the
names that are listed for it, whatever else has been captured. -/
namespace RequestBook

namespace Reference

/-- Every name that a text refers to is listed for it, in one spelling. -/
theorem listed_of_mem_allIn {text : List Char} {r : Reference} (member : r ∈ allIn text) :
    ∃ name ∈ collectNames [] text, sameName name r.name = true ∧ Text.Ascii name.toList := by
  have named : r.name ∈ namesIn text := List.mem_map_of_mem member
  rw [collectNames_eq]
  obtain ⟨name, listed, same⟩ := known_foldl_addName named []
  obtain ⟨added, eq, inside⟩ := foldl_addName_append (namesIn text) []
  have own : name ∈ namesIn text := inside name (by rwa [eq, List.nil_append] at listed)
  exact ⟨name, listed, same, ascii_of_mem_namesIn own⟩

/-- The reference that a text is read as is one of those in the text. -/
theorem mem_allIn_of_parse? {text : List Char} {r : Reference} (read : parse? text = some r) :
    r ∈ allIn text := by
  obtain ⟨s, spelled, rfl⟩ := parse?_eq_some_iff_spelled.mp read
  obtain ⟨before, behind, eq⟩ := Text.trim_split text
  rw [← spelled, s.text_eq] at eq
  obtain ⟨front, _, found⟩ := pieces_split before s.braceless_inner behind
  refine mem_allIn.mpr ⟨s.inner, ?_, s.ofInner?_inner⟩
  rw [eq, found]
  exact List.mem_append_right _ List.mem_cons_self

end Reference

namespace Store

def captureAll (store : Store) (captures : List (String × Exchange)) : Store :=
  captures.foldl (fun store captured => store.capture captured.1 captured.2) store

theorem get?_captureAll {name : String} {captures : List (String × Exchange)}
    (others : ∀ captured ∈ captures, storeKey captured.1 ≠ storeKey name) (store : Store) :
    (store.captureAll captures).get? name = store.get? name := by
  induction captures generalizing store with
  | nil => rfl
  | cons captured captures ih =>
    have first : (store.capture captured.1 captured.2).get? name = store.get? name := by
      rw [capture, Roster.get?_insert, if_neg (others captured List.mem_cons_self)]
    rw [← first]
    exact ih (fun other member => others other (List.mem_cons_of_mem _ member)) _

def AgreeOn (names : List String) (first second : Store) : Prop :=
  ∀ name ∈ names, first.get? name = second.get? name

instance (names : List String) (first second : Store) : Decidable (AgreeOn names first second) :=
  List.decidableBAll _ names

section Agree

variable {text : List Char} {first second : Store}

theorem AgreeOn.lookup? (agree : AgreeOn (Reference.collectNames [] text) first second) {r : Reference}
    (member : r ∈ Reference.allIn text) : first.lookup? r = second.lookup? r := by
  obtain ⟨name, listed, same, ascii⟩ := Reference.listed_of_mem_allIn member
  have own : Text.Ascii r.name.toList := Reference.ascii_of_mem_namesIn (List.mem_map_of_mem member)
  exact lookup?_congr same ascii own (agree name listed)

theorem AgreeOn.resolveAll (agree : AgreeOn (Reference.collectNames [] text) first second) :
    first.resolveAll text = second.resolveAll text := by
  refine replaceGroups_congr fun inner member => ?_
  cases read : Reference.ofInner? inner with
  | none => rfl
  | some r =>
    have same := agree.lookup? (Reference.mem_allIn.mpr ⟨inner, member, read⟩)
    simp only [Option.map_some, same]

theorem AgreeOn.resolveReference (agree : AgreeOn (Reference.collectNames [] text) first second) :
    first.resolveReference text = second.resolveReference text := by
  unfold Store.resolveReference
  cases read : Reference.parse? text with
  | none => rfl
  | some r =>
    have same := agree.lookup? (Reference.mem_allIn_of_parse? read)
    simp only [same]

end Agree

theorem resolveAll_empty (text : List Char) : resolveAll .empty text = text := by
  have unknown : ∀ r : Reference, lookup? .empty r = none := fun r => rfl
  refine (List.flatMap_congr fun piece _ => ?_).trans (text_pieces text)
  cases piece with
  | char c => rfl
  | group inner =>
    cases read : Reference.ofInner? inner <;> simp [Piece.replace, Piece.text, read, unknown]

theorem resolveReference_empty (text : List Char) : resolveReference .empty text = text := by
  unfold resolveReference
  cases Reference.parse? text <;> rfl

/-- A text that is a reference is the only group in it. -/
theorem resolveReference_text (store : Store) (s : Spelling) :
    store.resolveReference s.text = store.resolveAll s.text := by
  rw [resolveReference, Reference.parse?_text, resolveAll, Reference.replaceAll, replaceGroups, s.text_eq,
    pieces_groupText s.braceless_inner]
  simp [Piece.replace, s.ofInner?_inner]

/-- A text is resolved from the exchanges under these names and from nothing else. -/
structure ResolvesFrom (names : List String) (text : List Char) : Prop where
  agreeing : ∀ first second : Store, AgreeOn names first second →
    first.resolveAll text = second.resolveAll text ∧
    first.resolveReference text = second.resolveReference text
  /-- names are apart as the store tells them apart, by their full lower case: an exchange captured as
  `\u212A`, the Kelvin sign, is one of `k` -/
  others : ∀ (store : Store) (captures : List (String × Exchange)),
    (∀ captured ∈ captures, ∀ name ∈ names, storeKey captured.1 ≠ storeKey name) →
      (store.captureAll captures).resolveAll text = store.resolveAll text ∧
      (store.captureAll captures).resolveReference text = store.resolveReference text
  uncaptured : ∀ store : Store, (∀ name ∈ names, store.get? name = none) →
    store.resolveAll text = text ∧ store.resolveReference text = text

theorem resolvesFrom_listed (text : List Char) : ResolvesFrom (Reference.collectNames [] text) text := by
  refine ⟨fun first second agree => ⟨agree.resolveAll, agree.resolveReference⟩, ?_, ?_⟩
  · intro store captures apart
    have agree : AgreeOn (Reference.collectNames [] text) (store.captureAll captures) store :=
      fun name listed => get?_captureAll (fun captured member => apart captured member name listed) store
    exact ⟨agree.resolveAll, agree.resolveReference⟩
  · intro store missing
    have agree : AgreeOn (Reference.collectNames [] text) store .empty := missing
    exact ⟨agree.resolveAll.trans (resolveAll_empty text),
      agree.resolveReference.trans (resolveReference_empty text)⟩

/-- A text is resolved from the exchanges of the names that are listed for it. On a text that is a
reference the two ways to resolve agree; one of them leaves every other text as it is, unless it is a
reference with blanks around it. -/
theorem resolve_local (text : List Char) :
    ResolvesFrom (Reference.collectNames [] text) text ∧
    (∀ s : Spelling, s.text = text →
      ∀ store : Store, store.resolveReference text = store.resolveAll text) ∧
    ((∀ s : Spelling, s.text ≠ Text.trim text) →
      ∀ store : Store, store.resolveReference text = text) := by
  refine ⟨resolvesFrom_listed text, ?_, ?_⟩
  · rintro s rfl store
    exact resolveReference_text store s
  · intro unspelled store
    cases read : Reference.parse? text with
    | none => rw [resolveReference, read]
    | some r =>
      obtain ⟨s, spelled, _⟩ := Reference.parse?_eq_some_iff_spelled.mp read
      exact absurd spelled (unspelled s)

def respelled : List Char := "{{A.response.body.*}}-{{a.request.headers.X}}{{b.response.body.*}}".toList

theorem resolve_local_respelled : ResolvesFrom ["A", "b"] respelled ∧
    (threefold "3").resolveAll respelled = (threefold "4").resolveAll respelled ∧
    (threefold "3").resolveAll respelled = "1-{{a.request.headers.X}}2".toList := by
  have listed : Reference.collectNames [] respelled = ["A", "b"] := by cbv
  obtain ⟨listing, _, _⟩ := resolve_local respelled
  rw [listed] at listing
  have agree : AgreeOn ["A", "b"] (threefold "3") (threefold "4") := by decide +kernel
  exact ⟨listing, (listing.agreeing _ _ agree).1, by cbv⟩

end Store

end RequestBook
