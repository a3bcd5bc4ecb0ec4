import RequestBook.Proofs.Schedule

/-! How far an order leaves that of the document. It falls into stretches, one for each request that
is begun from: the first request of the document that has not run yet, at the end of its stretch, and
before it only requests that it reads from, directly or through others. A document in which every
request already comes after those it reads from keeps its order. -/
namespace RequestBook

/-- The first request of the document that is not among some requests. -/
structure Document.FirstLeft (d : Document) (run : List Nat) (index : Nat) : Prop where
  inside : index < d.requests.length
  left : index ∉ run
  earlier : ∀ i < index, i ∈ run

/-- Part of an order, behind the requests `before`: it ends with the first request of the document
that is not among these, and otherwise holds requests that this one reads from, directly or through
others. -/
def Document.Stretch (d : Document) (before stretch : List Nat) : Prop :=
  ∃ needed index, stretch = needed ++ [index] ∧ d.FirstLeft before index ∧
    ∀ j ∈ needed, Relation.TransGen d.ReadsFrom index j ∧ j ∉ before

/-- Every list is a stretch behind those before it. -/
def Document.Stretches (d : Document) (stretches : List (List Nat)) : Prop :=
  ∀ earlier stretch later, stretches = earlier ++ stretch :: later →
    d.Stretch earlier.flatten stretch

theorem Document.stretches_nil (d : Document) : d.Stretches [] := by
  simp [Stretches]

theorem Document.Stretches.concat {d : Document} {stretches : List (List Nat)} {stretch : List Nat}
    (parts : d.Stretches stretches) (next : d.Stretch stretches.flatten stretch) :
    d.Stretches (stretches ++ [stretch]) := by
  intro earlier part later split
  rcases Schedule.concat_cases split with ⟨rfl, rfl⟩ | ⟨middle, inside⟩
  · exact next
  · exact parts earlier part middle inside

theorem Document.Stretches.of_concat {d : Document} {stretches : List (List Nat)}
    {stretch : List Nat} (parts : d.Stretches (stretches ++ [stretch])) :
    d.Stretches stretches ∧ d.Stretch stretches.flatten stretch := by
  refine ⟨fun earlier part later split => ?_, parts stretches stretch [] rfl⟩
  apply parts earlier part (later ++ [stretch])
  rw [split, List.append_assoc, List.cons_append]

namespace Schedule

variable {d : Document} {fresh done fresh' done' : List Nat} {stack : List Frame} {root index : Nat}

/-- A walk finishes the outermost request on the stack last. Whatever it finishes before is on top of
the stack when it is finished, so the outermost request reads from it. -/
theorem walk_needed (valid : Invariant d fresh none stack done)
    (bottom : (stack.map Frame.index).getLast? = some root)
    (ended : walk d (placesOf d) fresh stack done = .ok (fresh', done')) :
    ∃ needed, done' = done ++ (needed ++ [root]) ∧
      ∀ j ∈ needed, Relation.ReflTransGen d.ReadsFrom root j := by
  fun_induction walk d (placesOf d) fresh stack done with
  | case1 fresh done => cases bottom
  | case2 fresh done index outer ih =>
    cases outer with
    | nil =>
      rw [walk] at ended
      cases ended
      cases bottom
      exact ⟨[], rfl, by simp⟩
    | cons frame outer =>
      have deeper : ((frame :: outer).map Frame.index).getLast? = some root := bottom
      obtain ⟨needed, rfl, reached⟩ := ih valid.finish deeper ended
      refine ⟨index :: needed, by simp, ?_⟩
      intro j member
      rcases List.mem_cons.mp member with rfl | later
      · exact valid.reaches (List.mem_of_getLast? bottom)
      · exact reached j later
  | case3 fresh done index name left outer unknown ih =>
    rw [lookup_placesOf] at unknown
    exact ih (valid.skip (by simp [unknown])) bottom ended
  | case4 fresh done index name left outer dependency found member ih =>
    rw [lookup_placesOf] at found
    exact ih (valid.follow found member) bottom ended
  | case5 fresh done index name left outer dependency found _ finished ih =>
    rw [lookup_placesOf] at found
    exact ih (valid.skip (by simp [found, finished])) bottom ended
  | case6 => cases ended

/-- A walk that ends keeps the invariant. -/
theorem Invariant.walked (valid : Invariant d fresh none stack done)
    (ended : walk d (placesOf d) fresh stack done = .ok (fresh', done')) :
    Invariant d fresh' none [] done' := by
  rcases walk_cases valid with ⟨_, _, ended', after, _⟩ | ⟨path, failed, _⟩
  · rw [ended] at ended'
    cases ended'
    exact after
  · rw [ended] at failed
    cases failed

theorem Invariant.firstLeft (valid : Invariant d fresh none [] done) (unread : index ∈ fresh)
    (least : ∀ i < index, i ∉ fresh) : d.FirstLeft done index := by
  have inside : index < d.requests.length :=
    List.mem_range.mp (valid.indices.mem_iff.mp (List.mem_append_left _ unread))
  refine ⟨inside, fun again => ?_, fun i before => ?_⟩
  · exact (List.nodup_append.mp valid.nodup).2.2 index unread index again rfl
  · have known := valid.indices.mem_iff.mpr (List.mem_range.mpr (before.trans inside))
    exact (List.mem_append.mp known).resolve_left (least i before)

/-- The walk from the first request that is left adds a stretch. -/
theorem Invariant.stretch (valid : Invariant d fresh none [] done) (unread : index ∈ fresh)
    (least : ∀ i < index, i ∉ fresh)
    (ended : walk d (placesOf d) (fresh.erase index) [⟨index, namesAt d index⟩] done =
      .ok (fresh', done')) :
    ∃ stretch, done' = done ++ stretch ∧ d.Stretch done stretch := by
  have after := (valid.begin unread).walked ended
  obtain ⟨needed, rfl, reached⟩ := walk_needed (valid.begin unread) rfl ended
  -- no request is finished twice, so those before the last are new and other than it
  have distinct : (done ++ (needed ++ [index])).Nodup := (List.nodup_append.mp after.nodup).2.1
  obtain ⟨_, distinct, apart⟩ := List.nodup_append.mp distinct
  refine ⟨needed ++ [index], rfl, needed, index, rfl, valid.firstLeft unread least, ?_⟩
  intro j member
  have other : j ≠ index := (List.nodup_append.mp distinct).2.2 j member index (by simp)
  refine ⟨?_, fun again => apart j again j (List.mem_append_left _ member) rfl⟩
  exact (Relation.reflTransGen_iff_eq_or_transGen.mp (reached j member)).resolve_left other

/-- Requests are walked from in the order of the document, so each of them is the first that is left. -/
theorem walkAll_stretches {rest order : List Nat} {stretches : List (List Nat)}
    (valid : Invariant d fresh none [] stretches.flatten) (waiting : ∀ i ∈ fresh, i ∈ rest)
    (ordered : rest.Pairwise (· < ·)) (parts : d.Stretches stretches)
    (ended : walkAll d (placesOf d) fresh stretches.flatten rest = .ok order) :
    ∃ stretches, order = stretches.flatten ∧ d.Stretches stretches := by
  induction rest generalizing fresh stretches with
  | nil =>
    rw [walkAll] at ended
    cases ended
    exact ⟨stretches, rfl, parts⟩
  | cons index rest ih =>
    obtain ⟨first, ordered⟩ := List.pairwise_cons.mp ordered
    have later := valid.waiting_erase waiting
    rw [walkAll] at ended
    by_cases unread : index ∈ fresh
    · have least : ∀ i < index, i ∉ fresh := by
        intro i before member
        rcases List.mem_cons.mp (waiting i member) with rfl | behind
        · exact before.false
        · exact (before.trans (first i behind)).false
      rcases walk_cases (valid.begin unread) with ⟨fresh', done', went, after, kept⟩ | ⟨path, failed, _⟩
      · obtain ⟨stretch, rfl, next⟩ := valid.stretch unread least went
        have longer : stretches.flatten ++ stretch = (stretches ++ [stretch]).flatten := by simp
        simp only [unread, if_true, went, longer] at ended
        exact ih (longer ▸ after) (fun i member => later i (kept i member)) ordered (parts.concat next)
          ended
      · simp only [unread, if_true, failed] at ended
        cases ended
    · simp only [unread, if_false] at ended
      rw [List.erase_of_not_mem unread] at later
      exact ih valid later ordered parts ended

theorem Met.around {path : List String} (met : Met d path) :
    ∃ i, Relation.TransGen d.ReadsFrom i i := by
  obtain ⟨_, frame, _, _, dependency, valid, reads, member, _⟩ := met
  exact ⟨dependency, .tail' (valid.reaches member) reads⟩

end Schedule

open Schedule

theorem Document.stretches_of_order {d : Document} {order : List Nat} (ended : d.order = .ok order) :
    ∃ stretches, order = stretches.flatten ∧ d.Stretches stretches := by
  have walked : walkAll d (placesOf d) (List.range d.requests.length) [] (List.range d.requests.length) =
      .ok order := by
    simp only [Document.order] at ended
    split at ended
    next found =>
      cases ended
      exact found
    next => cases ended
  refine walkAll_stretches ?_ (fun _ member => member) List.pairwise_lt_range d.stretches_nil walked
  exact .start d

section Forward

variable {d : Document}

/-- Whatever a request reads from, directly or through others, comes before it. -/
theorem Document.lt_of_transGen (forward : ∀ i j, d.ReadsFrom i j → j < i) {i j : Nat}
    (reads : Relation.TransGen d.ReadsFrom i j) : j < i := by
  induction reads with
  | single edge => exact forward _ _ edge
  | tail _ edge ih => exact (forward _ _ edge).trans ih

theorem Document.FirstLeft.eq_of_range {count index : Nat}
    (first : d.FirstLeft (List.range count) index) : index = count := by
  apply Nat.le_antisymm
  · by_contra above
    exact List.not_mem_range_self (first.earlier count (by omega))
  · by_contra below
    exact first.left (List.mem_range.mpr (by omega))

/-- Where requests only read from earlier ones, every stretch is a single request: all that could come
before it has run already. -/
theorem Document.Stretch.single (forward : ∀ i j, d.ReadsFrom i j → j < i) {count : Nat}
    {stretch : List Nat} (part : d.Stretch (List.range count) stretch) : stretch = [count] := by
  obtain ⟨needed, index, rfl, first, reached⟩ := part
  have none : needed = [] := by
    refine List.eq_nil_iff_forall_not_mem.mpr fun j member => ?_
    obtain ⟨reads, unrun⟩ := reached j member
    exact unrun (first.earlier j (Document.lt_of_transGen forward reads))
  rw [none, List.nil_append, first.eq_of_range]

theorem Document.Stretches.flatten_eq (forward : ∀ i j, d.ReadsFrom i j → j < i)
    {stretches : List (List Nat)} (parts : d.Stretches stretches) :
    stretches.flatten = List.range stretches.length := by
  induction stretches using List.reverseRecOn with
  | nil => rfl
  | append_singleton stretches stretch ih =>
    obtain ⟨parts, last⟩ := parts.of_concat
    rw [ih parts] at last
    rw [List.flatten_append, ih parts, last.single forward, List.length_append, List.length_singleton,
      List.range_succ]
    rfl

end Forward

/-- An order leaves that of the document only where reading forces it to: it falls into stretches. If
all requests read only from earlier ones, it is the order of the document. -/
theorem Document.order_stretches (d : Document) :
    (∀ order, d.order = .ok order → ∃ stretches, order = stretches.flatten ∧ d.Stretches stretches) ∧
    ((∀ i j, d.ReadsFrom i j → j < i) → d.order = .ok (List.range d.requests.length)) := by
  refine ⟨fun order ended => Document.stretches_of_order ended, fun forward => ?_⟩
  rcases d.order_cases with ⟨order, ended, permuted, _⟩ | ⟨_, _, met⟩
  · obtain ⟨stretches, rfl, parts⟩ := Document.stretches_of_order ended
    have straight := parts.flatten_eq forward
    have count := permuted.length_eq
    rw [straight, List.length_range, List.length_range] at count
    rw [ended, straight, count]
  · obtain ⟨i, around⟩ := met.around
    exact absurd (Document.lt_of_transGen forward around) (lt_irrefl i)

def Document.retold : Document :=
  { Document.empty "t.http" with requests := [
      { Request.ofLine "POST" "https://a.example.com/login" 1 with name := some "login" },
      Request.ofLine "GET" "https://a.example.com/health" 2,
      { Request.ofLine "GET" "https://a.example.com/me" 3 with dependsOn := ["Login"] }] }

theorem Document.order_stretches_chained :
    (Document.chained.order = .ok [2, 0, 1] ∧
      ∃ stretches, [2, 0, 1] = stretches.flatten ∧ Document.chained.Stretches stretches) ∧
    Document.retold.ReadsFrom 2 0 ∧ (∀ i j, Document.retold.ReadsFrom i j → j < i) ∧
      Document.retold.order = .ok [0, 1, 2] := by
  have ordered : Document.chained.order = .ok [2, 0, 1] := by cbv
  have reads : Document.retold.ReadsFrom 2 0 := ⟨_, rfl, "Login", by simp, by decide⟩
  have forward : ∀ i j, Document.retold.ReadsFrom i j → j < i := by
    intro i j edge
    obtain ⟨name, member, found⟩ := (readsFrom_iff _ i j).mp edge
    have small : i < 3 := (readsFrom_lt edge).1
    interval_cases i
    · cases member
    · cases member
    · cases List.mem_singleton.mp member
      have first : Document.retold.indexOf? "Login" = some 0 := by decide
      rw [first] at found
      cases found
      decide
  exact ⟨⟨ordered, (Document.order_stretches Document.chained).1 _ ordered⟩, reads, forward,
    (Document.order_stretches Document.retold).2 forward⟩

end RequestBook
