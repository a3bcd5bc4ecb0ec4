import Mathlib.Data.List.Lex
import Mathlib.Order.Bounds.Basic
import RequestBook.Proofs.Selection

/-! Which of the selected elements a query answers from. A trail is made of the ways that the moves of
a query take one after the other. Trails are found in the order of words, so the answer comes from the
least trail. This is the selected element that begins first in the document as long as no element whose
children are looked for lies within another; if one does, the children of the outer element are found
before those of the inner one, wherever they stand. -/
namespace RequestBook.Markup

/-- The ways that moves take one after the other, the first from the document. -/
inductive Follows (document : Element) : List Move → List Place → Prop where
  | start : Follows document [] []
  | move {moves : List Move} {m : Move} {trail : List Place} {way : Place} {c : Element} :
      Follows document moves trail → document.at? trail.flatten = some c →
      m.Candidate c way → m.Meets c way → Follows document (moves ++ [m]) (trail ++ [way])

/-- Whether the predicate, if any, is about an element and not about its number. -/
def Move.Uncounted (m : Move) : Prop := ∀ n, m.predicate ≠ some (.position n)

/-- Whether no element whose children are looked for lies within another one. -/
def Level (document : Element) (moves : List Move) : Prop :=
  ∀ before m after, moves = before ++ m :: after → m.axis = .child → ∀ outer inner,
    Selected document before outer → Selected document before inner → outer <+: inner → outer = inner

/-- A smaller word is a beginning of the larger one, or stays smaller whatever follows either. -/
theorem isPrefix_or_append_lt {α : Type} [LinearOrder α] {a b : List α} (less : a < b) :
    a <+: b ∨ ∀ u v, a ++ u < b ++ v := by
  induction a generalizing b with
  | nil => exact .inl List.nil_prefix
  | cons x a ih =>
    cases b with
    | nil => exact absurd less (List.not_lt_nil _)
    | cons y b =>
      obtain first | ⟨rfl, later⟩ := List.cons_lt_cons_iff.mp less
      · exact .inr fun u v => List.cons_lt_cons_iff.mpr (.inl first)
      · obtain begins | apart := ih later
        · exact .inl (List.cons_prefix_cons.mpr ⟨rfl, begins⟩)
        · exact .inr fun u v => List.cons_lt_cons_iff.mpr (.inr ⟨rfl, apart u v⟩)

theorem append_lt_append_iff {α : Type} [LinearOrder α] (a : List α) {u v : List α} :
    a ++ u < a ++ v ↔ u < v := by
  induction a with
  | nil => rfl
  | cons x a ih => rw [List.cons_append, List.cons_append, List.cons_lt_cons_self, ih]

theorem append_lt_append {α : Type} [LinearOrder α] {a b u v : List α} (same : a.length = b.length)
    (less : a < b) : a ++ u < b ++ v := by
  obtain begins | apart := isPrefix_or_append_lt less
  · exact absurd less (begins.eq_of_length same ▸ lt_irrefl a)
  · exact apart u v

namespace Move

variable {m : Move} {c c' x : Element} {way way' : Place}

def picks (m : Move) (c : Element) : List Place :=
  match m.predicate with
  | none => m.ways c
  | some (.position n) => ((m.ways c).drop (n - 1)).take 1
  | some (.attributeEquals name value) =>
    (m.ways c).filter fun way => (c.at? way).any fun e => e.tag.attribute? name == some value

theorem map_at?_picks (m : Move) (c : Element) : (m.picks c).map c.at? = (m.select c).map some := by
  unfold picks select selectFrom
  cases m.predicate with
  | none => exact m.map_at?_ways c
  | some p =>
    cases p with
    | position n =>
      dsimp only
      rw [List.map_take, List.map_drop, m.map_at?_ways c, ← List.map_drop, ← List.map_take]
      rfl
    | attributeEquals name value =>
      let carrying : Option Element → Bool := fun found =>
        found.any fun e => e.tag.attribute? name == some value
      calc ((m.ways c).filter (carrying ∘ c.at?)).map c.at?
          = ((m.ways c).map c.at?).filter carrying := List.filter_map.symm
        _ = ((m.matching c).map some).filter carrying := by rw [m.map_at?_ways c]
        _ = ((m.matching c).filter (carrying ∘ some)).map some := List.filter_map

theorem picks_sublist (m : Move) (c : Element) : (m.picks c).Sublist (m.ways c) := by
  unfold picks
  split
  next => exact List.Sublist.refl _
  next => exact (List.take_sublist _ _).trans (List.drop_sublist _ _)
  next => exact List.filter_sublist

theorem picks_ordered (m : Move) (c : Element) : (m.picks c).Pairwise (· < ·) :=
  (m.ways_ordered c).sublist (m.picks_sublist c)

theorem mem_picks : way ∈ m.picks c ↔ m.Candidate c way ∧ m.Meets c way := by
  unfold picks
  split
  next unasked => rw [mem_ways, and_iff_left (.free unasked)]
  next n asked =>
    have index : ∀ count : Nat, count + 1 = n ↔ count = n - 1 := by
      have := m.counted n asked
      omega
    rw [List.take_one, List.head?_drop, Option.mem_toList, getElem?_ways, meets_position_iff asked]
    simp only [index]
  next name value asked =>
    rw [List.mem_filter, mem_ways, and_congr_right_iff]
    rintro ⟨-, e, stands, -⟩
    simp [meets_attribute_iff asked stands, stands]

/-- What is asked of an element does not depend on where it is looked for from. -/
theorem Meets.elsewhere (uncounted : m.Uncounted) (meets : m.Meets c way) (stands : c.at? way = some x)
    (again : c'.at? way' = some x) : m.Meets c' way' := by
  cases meets with
  | free unasked => exact .free unasked
  | carries asked reached equal =>
    cases stands.symm.trans reached
    exact .carries asked again equal
  | numbered asked => exact absurd asked (uncounted _)

end Move

section Trails

variable {document : Element} {moves : List Move} {m : Move} {place : Place} {trail : List Place}

theorem follows_nil_iff : Follows document [] trail ↔ trail = [] := by
  constructor
  · intro follows
    generalize none : [] = moves at follows
    cases follows with
    | start => rfl
    | move => exact absurd none.symm (List.append_ne_nil_of_right_ne_nil _ (List.cons_ne_nil _ _))
  · rintro rfl
    exact .start

theorem follows_append_iff : Follows document (moves ++ [m]) trail ↔ ∃ before c way,
    trail = before ++ [way] ∧ Follows document moves before ∧
      document.at? before.flatten = some c ∧ m.Candidate c way ∧ m.Meets c way := by
  constructor
  · intro follows
    generalize all : moves ++ [m] = longer at follows
    cases follows with
    | start => cases moves <;> cases all
    | move before stands candidate meets =>
      obtain ⟨rfl, same⟩ := List.append_inj' all rfl
      cases same
      exact ⟨_, _, _, rfl, before, stands, candidate, meets⟩
  · rintro ⟨before, c, way, rfl, follows, stands, candidate, meets⟩
    exact .move follows stands candidate meets

/-- A place is selected when a trail leads to it. -/
theorem selected_iff_follows :
    Selected document moves place ↔ ∃ trail, Follows document moves trail ∧ trail.flatten = place := by
  induction moves using List.reverseRecOn generalizing place with
  | nil => simp [selected_nil_iff, follows_nil_iff, eq_comm]
  | append_singleton moves m ih =>
    rw [selected_append_iff]
    constructor
    · rintro ⟨origin, c, way, rfl, selected, stands, candidate, meets⟩
      obtain ⟨trail, follows, rfl⟩ := ih.mp selected
      exact ⟨trail ++ [way], .move follows stands candidate meets, by simp⟩
    · rintro ⟨_, follows, rfl⟩
      obtain ⟨before, c, way, rfl, follows, stands, candidate, meets⟩ := follows_append_iff.mp follows
      exact ⟨before.flatten, c, way, by simp, ih.mpr ⟨before, follows, rfl⟩, stands, candidate, meets⟩

theorem Follows.length_eq (follows : Follows document moves trail) : trail.length = moves.length := by
  induction follows with
  | start => rfl
  | move _ _ _ _ ih => rw [List.length_append, List.length_append, ih]; rfl

def onwards (document : Element) (m : Move) (trail : List Place) : List (List Place) :=
  ((document.at? trail.flatten).elim [] m.picks).map fun way => trail ++ [way]

/-- The trails of moves, in the order in which evaluation finds them. -/
def trails (document : Element) (moves : List Move) : List (List Place) :=
  moves.foldl (fun found m => found.flatMap (onwards document m)) [[]]

theorem trails_append (document : Element) (moves : List Move) (m : Move) :
    trails document (moves ++ [m]) = (trails document moves).flatMap (onwards document m) := by
  rw [trails, List.foldl_append, List.foldl_cons, List.foldl_nil]
  rfl

theorem mem_onwards {before : List Place} : trail ∈ onwards document m before ↔ ∃ c way,
    trail = before ++ [way] ∧ document.at? before.flatten = some c ∧ m.Candidate c way ∧ m.Meets c way := by
  rw [onwards, List.mem_map]
  cases stands : document.at? before.flatten with
  | none => simp
  | some c => simp [Move.mem_picks, and_comm, eq_comm]

theorem mem_trails : trail ∈ trails document moves ↔ Follows document moves trail := by
  induction moves using List.reverseRecOn generalizing trail with
  | nil => simp [trails, follows_nil_iff]
  | append_singleton moves m ih =>
    rw [trails_append, List.mem_flatMap, follows_append_iff]
    constructor
    · rintro ⟨before, found, further⟩
      obtain ⟨c, way, rfl, stands, candidate, meets⟩ := mem_onwards.mp further
      exact ⟨before, c, way, rfl, ih.mp found, stands, candidate, meets⟩
    · rintro ⟨before, c, way, rfl, follows, stands, candidate, meets⟩
      exact ⟨before, ih.mpr follows, mem_onwards.mpr ⟨c, way, rfl, stands, candidate, meets⟩⟩

/-- Trails are found in the order of words. -/
theorem trails_ordered (document : Element) (moves : List Move) :
    (trails document moves).Pairwise (· < ·) := by
  induction moves using List.reverseRecOn with
  | nil => exact List.pairwise_singleton _ _
  | append_singleton moves m ih =>
    rw [trails_append, List.pairwise_flatMap]
    constructor
    case left =>
      intro before _
      have picked : ((document.at? before.flatten).elim [] m.picks).Pairwise (· < ·) := by
        cases document.at? before.flatten with
        | none => exact .nil
        | some c => exact m.picks_ordered c
      rw [onwards, List.pairwise_map]
      exact picked.imp fun less => (append_lt_append_iff before).mpr (List.cons_lt_cons_iff.mpr (.inl less))
    case right =>
      refine ih.imp_of_mem fun {first second} found found' less => ?_
      have same : first.length = second.length := by
        rw [(mem_trails.mp found).length_eq, (mem_trails.mp found').length_eq]
      intro trail further trail' further'
      obtain ⟨_, way, rfl, -⟩ := mem_onwards.mp further
      obtain ⟨_, way', rfl, -⟩ := mem_onwards.mp further'
      exact append_lt_append same less

/-- The trails lead to the elements that evaluation finds, one by one. -/
theorem map_at?_trails (document : Element) (moves : List Move) :
    (trails document moves).map (fun trail => document.at? trail.flatten) =
      (selection [document] moves).map some := by
  induction moves using List.reverseRecOn with
  | nil => rfl
  | append_singleton moves m ih =>
    have further (trail : List Place) : (onwards document m trail).map (fun t => document.at? t.flatten) =
        ((document.at? trail.flatten).elim [] m.select).map some := by
      rw [onwards, List.map_map]
      cases stands : document.at? trail.flatten with
      | none => rfl
      | some c =>
        rw [Option.elim_some, Option.elim_some, ← m.map_at?_picks]
        refine List.map_congr_left fun way _ => ?_
        simp [Element.at?_append, stands]
    rw [trails_append, List.map_flatMap, selection, List.foldl_append, List.foldl_cons, List.foldl_nil,
      List.map_flatMap]
    calc (trails document moves).flatMap (fun t => (onwards document m t).map fun t => document.at? t.flatten)
        = ((trails document moves).map fun t => document.at? t.flatten).flatMap
            (fun found => (found.elim [] m.select).map some) := by
          rw [List.flatMap_map]
          exact List.flatMap_congr fun trail _ => further trail
      _ = _ := by rw [ih, List.flatMap_map]; rfl

/-- The first element that evaluation finds stands at the end of the least trail. -/
theorem head?_selection {e : Element} : (selection [document] moves).head? = some e ↔ ∃ trail,
    IsLeast {t | Follows document moves t} trail ∧ document.at? trail.flatten = some e := by
  have heads : (trails document moves).head?.map (fun trail => document.at? trail.flatten) =
      (selection [document] moves).head?.map some := by
    rw [← List.head?_map, map_at?_trails, List.head?_map]
  have ordered := trails_ordered document moves
  have least (trail : List Place) : (trails document moves).head? = some trail ↔
      IsLeast {t | Follows document moves t} trail := by
    simp only [IsLeast, lowerBounds, Set.mem_ofPred_eq, ← mem_trails]
    cases found : trails document moves with
    | nil => simp
    | cons first others =>
      rw [found] at ordered
      have before := (List.pairwise_cons.mp ordered).1
      rw [List.head?_cons, Option.some_inj]
      constructor
      · rintro rfl
        refine ⟨List.mem_cons_self, fun other member => ?_⟩
        obtain rfl | later := List.mem_cons.mp member
        · exact le_refl other
        · exact (before other later).le
      · rintro ⟨member, below⟩
        obtain rfl | later := List.mem_cons.mp member
        · rfl
        · exact absurd (before trail later) (below List.mem_cons_self).not_gt
  simp only [← least]
  cases found : (trails document moves).head? with
  | none =>
    rw [found] at heads
    simp [Option.map_eq_none_iff.mp heads.symm]
  | some trail =>
    rw [found, Option.map_some] at heads
    obtain ⟨first, found', same⟩ := Option.map_eq_some_iff.mp heads.symm
    rw [found']
    simp [← same]

/-- Whatever is selected ahead of the end of a trail is the end of a smaller trail. -/
theorem exists_smaller (uncounted : ∀ m ∈ moves, m.Uncounted) (level : Level document moves)
    (follows : Follows document moves trail) (selected : Selected document moves place)
    (ahead : place < trail.flatten) :
    ∃ smaller, Follows document moves smaller ∧ smaller.flatten = place ∧ smaller < trail := by
  induction moves using List.reverseRecOn generalizing trail place with
  | nil =>
    obtain rfl := follows_nil_iff.mp follows
    obtain rfl := selected_nil_iff.mp selected
    exact absurd ahead (lt_irrefl _)
  | append_singleton moves m ih =>
    obtain ⟨before, c', way', rfl, follows, stands', candidate', meets'⟩ := follows_append_iff.mp follows
    obtain ⟨origin, c, way, rfl, selected, stands, candidate, meets⟩ := selected_append_iff.mp selected
    rw [List.flatten_append, List.flatten_singleton] at ahead
    -- From the origin of the trail itself a smaller way is taken.
    have aside (other : Place) (leads : m.axis.Leads other) (less : other < way')
        (ends : before.flatten ++ other = origin ++ way) :
        ∃ smaller, Follows document (moves ++ [m]) smaller ∧ smaller.flatten = origin ++ way ∧
          smaller < before ++ [way'] := by
      obtain ⟨-, e, reached, passing⟩ := candidate
      have reached' : c'.at? other = some e := by
        calc c'.at? other = document.at? (before.flatten ++ other) := by
              rw [Element.at?_append, stands', Option.bind_some]
          _ = document.at? (origin ++ way) := by rw [ends]
          _ = some e := by rw [Element.at?_append, stands, Option.bind_some, reached]
      refine ⟨before ++ [other], .move follows stands' ⟨leads, e, reached', passing⟩ ?_, by simp [ends], ?_⟩
      · exact meets.elsewhere (uncounted m (by simp)) reached reached'
      · exact (append_lt_append_iff before).mpr (List.cons_lt_cons_iff.mpr (.inl less))
    -- From an origin ahead of it the trail is smaller whatever way is taken.
    have forward (earlier : origin < before.flatten) :
        ∃ smaller, Follows document (moves ++ [m]) smaller ∧ smaller.flatten = origin ++ way ∧
          smaller < before ++ [way'] := by
      have level' : Level document moves := by
        rintro first m' after rfl child
        exact level first m' (after ++ [m]) (by simp) child
      obtain ⟨smaller, follows', rfl, less⟩ := ih (fun m' among => uncounted m' (by simp [among]))
        level' follows selected earlier
      refine ⟨smaller ++ [way], .move follows' stands candidate meets, by simp, ?_⟩
      exact append_lt_append (by rw [follows'.length_eq, follows.length_eq]) less
    obtain earlier | rfl | later := lt_trichotomy origin before.flatten
    · exact forward earlier
    · exact aside way candidate.1 ((append_lt_append_iff _).mp ahead) rfl
    · -- An origin that is not ahead lies within, where only descendants are looked for.
      obtain ⟨inner, rfl⟩ | apart := isPrefix_or_append_lt later
      · cases axis : m.axis with
        | child =>
          have same := level moves m [] rfl axis _ _ (selected_iff_follows.mpr ⟨before, follows, rfl⟩)
            selected (List.prefix_append _ _)
          rw [← same] at later
          exact absurd later (lt_irrefl _)
        | descendant =>
          have deeper : way ≠ [] := by
            have leads := candidate.1
            rw [axis] at leads
            exact leads
          rw [List.append_assoc] at ahead
          refine aside (inner ++ way) ?_ ((append_lt_append_iff _).mp ahead) (by simp)
          rw [axis]
          exact List.append_ne_nil_of_right_ne_nil _ deeper
      · exact absurd (apart way' way) (lt_asymm ahead)

/-- Where no element whose children are looked for lies within another, the least trail ends at the
selected element that begins first in the document. -/
theorem isLeast_flatten (uncounted : ∀ m ∈ moves, m.Uncounted) (level : Level document moves)
    (least : IsLeast {t | Follows document moves t} trail) :
    IsLeast {p | Selected document moves p} trail.flatten := by
  refine ⟨selected_iff_follows.mpr ⟨trail, least.1, rfl⟩, fun place selected => ?_⟩
  by_contra above
  obtain ⟨smaller, follows, -, less⟩ := exists_smaller uncounted level least.1 selected (not_le.mp above)
  exact absurd less (least.2 follows).not_gt

theorem length_of_children (children : ∀ m ∈ moves, m.axis = .child)
    (selected : Selected document moves place) : place.length = moves.length := by
  induction selected with
  | start => rfl
  | @move moves m origin way c _ _ candidate _ ih =>
    have single := candidate.1
    rw [children m (by simp)] at single
    rw [List.length_append, List.length_append, ih fun m' among => children m' (by simp [among])]
    exact congrArg _ single

/-- Where no step to children comes after one to descendants, elements whose children are looked for
have equally many around them. -/
theorem level_of_children_first (document : Element)
    (first : moves.Pairwise fun m later => later.axis = .child → m.axis = .child) :
    Level document moves := by
  rintro before m after rfl child outer inner selected selected' within
  have children : ∀ m' ∈ before, m'.axis = .child := fun m' among =>
    (List.pairwise_append.mp first).2.2 m' among m List.mem_cons_self child
  refine within.eq_of_length ?_
  rw [length_of_children children selected, length_of_children children selected']

end Trails

def Element.textAt? (e : Element) (place : Place) : Option (List Char) :=
  (e.at? place).map Element.textContent

/-- The text of the selected element that begins first in the document. -/
def FirstText (document : Element) (moves : List Move) (text : List Char) : Prop :=
  ∃ place, IsLeast {p | Selected document moves p} place ∧ document.textAt? place = some text

theorem extract?_eq_head? {body path : List Char} {document : Element} {moves : List Move}
    (built : parse? body = some document) (accepted : query? path = some (moves.map Move.step)) :
    extract? body path = (selection [document] moves).head?.map Element.textContent := by
  have found := select?_steps [document] moves .content
  rw [Ending.steps, List.append_nil] at found
  rw [extract?, accepted, built]
  change select? [document] (moves.map Move.step) = _
  rw [found]
  cases selection [document] moves <;> rfl

/-- A query for the content of elements answers from the end of the least trail, and answers whenever
anything is selected. Where no predicate is a number and no element whose children are looked for lies
within another, that is the selected element that begins first in the document. -/
theorem extract?_foremost {body path : List Char} {document : Element} {moves : List Move}
    (built : parse? body = some document) (accepted : query? path = some (moves.map Move.step)) :
    ((extract? body path).isSome ↔ ∃ place, Selected document moves place) ∧
    (∀ text, extract? body path = some text ↔ ∃ trail,
      IsLeast {t | Follows document moves t} trail ∧ document.textAt? trail.flatten = some text) ∧
    ((∀ m ∈ moves, m.Uncounted) → Level document moves →
      ∀ text, extract? body path = some text ↔ FirstText document moves text) := by
  have answers : (extract? body path).isSome ↔ ∃ place, Selected document moves place := by
    rw [extract?_eq_head? built accepted, Option.isSome_map, List.isSome_head?]
    constructor
    · intro found
      obtain ⟨e, member⟩ := List.exists_mem_of_ne_nil _ found
      obtain ⟨place, selected, -⟩ := mem_selection.mp member
      exact ⟨place, selected⟩
    · rintro ⟨place, selected⟩
      obtain ⟨e, stands⟩ := Option.isSome_iff_exists.mp selected.at?_isSome
      exact List.ne_nil_of_mem (mem_selection.mpr ⟨place, selected, stands⟩)
  have least (text : List Char) : extract? body path = some text ↔ ∃ trail,
      IsLeast {t | Follows document moves t} trail ∧ document.textAt? trail.flatten = some text := by
    rw [extract?_eq_head? built accepted, Option.map_eq_some_iff]
    simp only [head?_selection, Element.textAt?, Option.map_eq_some_iff]
    constructor
    · rintro ⟨e, ⟨trail, least, stands⟩, content⟩
      exact ⟨trail, least, e, stands, content⟩
    · rintro ⟨trail, least, e, stands, content⟩
      exact ⟨e, ⟨trail, least, stands⟩, content⟩
  refine ⟨answers, least, fun uncounted level text => ⟨fun answer => ?_, ?_⟩⟩
  · obtain ⟨trail, leads, content⟩ := (least text).mp answer
    exact ⟨trail.flatten, isLeast_flatten uncounted level leads, content⟩
  · rintro ⟨place, first, content⟩
    obtain ⟨other, answer⟩ := Option.isSome_iff_exists.mp (answers.mpr ⟨place, first.1⟩)
    obtain ⟨trail, leads, content'⟩ := (least other).mp answer
    rw [(isLeast_flatten uncounted level leads).unique first] at content'
    rw [answer, ← content, ← content']

def Move.free (axis : Axis) (test : String) : Move := ⟨axis, test, none, fun _ asked => by cases asked⟩

theorem uncounted_of_free {axes : List (Axis × String)} :
    ∀ m ∈ axes.map fun (axis, test) => Move.free axis test, m.Uncounted := by
  intro m among n asked
  obtain ⟨_, -, rfl⟩ := List.mem_map.mp among
  cases asked

theorem extract?_foremost_nested :
    let body := "<r><c><d><c><b>x</b></c></d><b>y</b></c></r>".toList
    let path := "/r//c//b".toList
    let moves := [(.child, "r"), (.descendant, "c"), (.descendant, "b")].map
      fun (axis, test) => Move.free axis test
    query? path = some (moves.map Move.step) ∧ ∃ document, parse? body = some document ∧
      (∀ m ∈ moves, m.Uncounted) ∧ Level document moves ∧
      extract? body path = some "x".toList ∧ FirstText document moves "x".toList := by
  intro body path moves
  have readable : (parse? body).isSome := by decide +kernel
  have accepted : query? path = some (moves.map Move.step) := by decide +kernel
  have answer : extract? body path = some "x".toList := by decide +kernel
  have first : moves.Pairwise fun m later => later.axis = .child → m.axis = .child := by decide
  obtain ⟨document, built⟩ := Option.isSome_iff_exists.mp readable
  have level := level_of_children_first document first
  obtain ⟨-, -, foremost⟩ := extract?_foremost built accepted
  exact ⟨accepted, document, built, uncounted_of_free, level, answer,
    (foremost uncounted_of_free level _).mp answer⟩

/-- A child of the outer element is found before one of the inner element that begins ahead of it. -/
theorem not_firstText_of_outer :
    let body := "<a><a><b>x</b></a><b>y</b></a>".toList
    let path := "//a/b".toList
    let moves := [(.descendant, "a"), (.child, "b")].map fun (axis, test) => Move.free axis test
    query? path = some (moves.map Move.step) ∧ (∀ m ∈ moves, m.Uncounted) ∧
    ∃ document, parse? body = some document ∧ FirstText document moves "x".toList ∧
      extract? body path = some "y".toList := by
  intro body path moves
  have found : (parse? body).map (fun document => (trails document moves, document.textAt? [0, 0, 0])) =
      some ([[[0], [1]], [[0, 0], [0]]], some "x".toList) := by decide +kernel
  obtain ⟨document, built, both⟩ := Option.map_eq_some_iff.mp found
  obtain ⟨all, content⟩ := Prod.mk.inj both
  have selected_iff (place : Place) : Selected document moves place ↔ place = [0, 1] ∨ place = [0, 0, 0] := by
    simp [selected_iff_follows, ← mem_trails, all, eq_comm]
  refine ⟨by decide +kernel, uncounted_of_free, document, built, ⟨[0, 0, 0], ⟨?_, ?_⟩, content⟩,
    by decide +kernel⟩
  · exact (selected_iff _).mpr (.inr rfl)
  · intro place selected
    obtain rfl | rfl := (selected_iff _).mp selected <;> decide

end RequestBook.Markup
