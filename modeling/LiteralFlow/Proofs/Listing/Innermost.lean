import LiteralFlow.Listing.Basic

/-!
Which listing answers for a place. It is the innermost one around the place: no
other one around it starts later, or at the same place and ends earlier. The order
in which listings were added matters only among those with equal spans, of which the
last one answers.
-/

namespace LiteralFlow

namespace Position

variable {left middle right : Position}

theorem before_iff :
    left.before right = true ↔
      left.line < right.line ∨ (left.line = right.line ∧ left.column < right.column) := by
  simp [before]

theorem before_eq_false_iff :
    left.before right = false ↔
      right.line < left.line ∨ (right.line = left.line ∧ right.column ≤ left.column) := by
  rw [Bool.eq_false_iff, ne_eq, before_iff]
  omega

theorem not_before_self (position : Position) : position.before position = false := by
  simp [before]

theorem eq_iff : left = right ↔ left.line = right.line ∧ left.column = right.column := by
  cases left
  cases right
  simp

end Position

namespace Span

variable {span other : Span} {position : Position}

theorem contains_iff :
    span.contains position = true ↔
      position.before span.start = false ∧ position.before span.stop = true := by
  simp [contains]

def Within (span other : Span) : Prop :=
  ∀ position, span.contains position = true → other.contains position = true

def NestedOrDisjoint (span other : Span) : Prop :=
  span.Within other ∨ other.Within span ∨
    ∀ position, ¬ (span.contains position = true ∧ other.contains position = true)

/-- A span that has a position has its start. -/
theorem contains_start (inside : span.contains position = true) :
    span.contains span.start = true := by
  rw [contains_iff, Position.before_iff, Position.before_eq_false_iff] at inside
  refine contains_iff.mpr ⟨span.start.not_before_self, ?_⟩
  rw [Position.before_iff]
  omega

end Span

namespace Listing

variable {listing other third : Listing}

theorem supersedes_iff :
    listing.supersedes other = true ↔
      other.span.start.before listing.span.start = true ∨
        (other.span.start = listing.span.start ∧
          other.span.stop.before listing.span.stop = false) := by
  simp [supersedes]

theorem supersedes_of_span_eq (same : listing.span = other.span) :
    listing.supersedes other = true := by
  rw [supersedes_iff, same]
  exact .inr ⟨rfl, Position.not_before_self _⟩

theorem supersedes_trans (first : listing.supersedes other = true)
    (second : other.supersedes third = true) : listing.supersedes third = true := by
  simp only [supersedes_iff, Position.before_iff, Position.before_eq_false_iff,
    Position.eq_iff] at first second ⊢
  omega

theorem supersedes_total (listing other : Listing) :
    listing.supersedes other = true ∨ other.supersedes listing = true := by
  simp only [supersedes_iff, Position.before_iff, Position.before_eq_false_iff, Position.eq_iff]
  omega

theorem span_eq_of_supersedes (first : listing.supersedes other = true)
    (second : other.supersedes listing = true) : listing.span = other.span := by
  obtain ⟨⟨start, stop⟩, elements⟩ := listing
  obtain ⟨⟨start', stop'⟩, elements'⟩ := other
  simp only [supersedes_iff, Position.before_iff, Position.before_eq_false_iff, Position.eq_iff,
    Span.mk.injEq] at first second ⊢
  omega

theorem tokens_eq_some_iff {tokens : List String} :
    listing.tokens? = some tokens ↔ listing.elements = tokens.map .literal := by
  obtain ⟨span, elements⟩ := listing
  simp only [tokens?]
  induction elements generalizing tokens with
  | nil => cases tokens <;> simp
  | cons element elements induction =>
      cases element with
      | expr => cases tokens <;> simp [ListingElement.token?]
      | literal token =>
          cases tokens with
          | nil => simp [ListingElement.token?, Option.bind_eq_some_iff]
          | cons first tokens =>
              simp only [ListingElement.token?, List.mapM_cons, Option.pure_def,
                Option.bind_eq_bind, Option.bind_some, Option.bind_eq_some_iff, induction,
                Option.some.injEq, List.cons.injEq, List.map_cons, ListingElement.literal.injEq]
              constructor
              · intro found
                rcases found with ⟨rest, rfl, rfl, rfl⟩
                exact ⟨rfl, rfl⟩
              · intro same
                rcases same with ⟨rfl, rfl⟩
                exact ⟨tokens, rfl, rfl, rfl⟩

theorem tokens_eq_none_iff : listing.tokens? = none ↔ .expr ∈ listing.elements := by
  obtain ⟨span, elements⟩ := listing
  simp only [tokens?]
  induction elements with
  | nil => simp
  | cons element elements induction =>
      cases element with
      | expr => simp [ListingElement.token?]
      | literal token =>
          have later : (.expr ∈ ListingElement.literal token :: elements) ↔ .expr ∈ elements := by
            simp
          rw [later, ← induction, List.mapM_cons]
          cases elements.mapM ListingElement.token? <;> simp [ListingElement.token?]

end Listing

/-- The listing that answers for a place: it is around the place, every listing around the
place starts strictly earlier or at the same place and ends no earlier, and no later
listing has the same span. -/
structure IsInnermost (listings : List Listing) (place : Position) (chosen : Listing) : Prop where
  around : chosen.span.contains place = true
  inside : ∀ other ∈ listings, other.span.contains place = true →
    other.span.start.before chosen.span.start = true ∨
      (other.span.start = chosen.span.start ∧ other.span.stop.before chosen.span.stop = false)
  latest : ∃ earlier later, listings = earlier ++ chosen :: later ∧
    ∀ other ∈ later, other.span ≠ chosen.span

namespace ListingIndex

def withSpan (listings : List Listing) (span : Span) : List Listing :=
  listings.filter fun listing => listing.span = span

variable {listings reordered : List Listing} {chosen other : Listing} {place : Position}

/-- What the selection keeps: either the best one so far, which nothing behind it
supersedes, or a later one that supersedes all before it. -/
theorem select_from_best {best : Listing}
    (selected : selectFrom (some best) listings = some chosen) :
    (chosen = best ∧ ∀ later ∈ listings, later.supersedes best = false) ∨
      ∃ before behind, listings = before ++ chosen :: behind ∧ chosen.supersedes best = true ∧
        (∀ earlier ∈ before, chosen.supersedes earlier = true) ∧
        ∀ later ∈ behind, later.supersedes chosen = false := by
  induction listings generalizing best with
  | nil =>
      cases selected
      exact .inl ⟨rfl, by simp⟩
  | cons listing listings induction =>
      rw [selectFrom] at selected
      by_cases better : listing.supersedes best = true
      · rw [if_pos better] at selected
        rcases induction selected with ⟨rfl, last⟩ | ⟨before, behind, rfl, above, earlier, later⟩
        · exact .inr ⟨[], listings, rfl, better, by simp, last⟩
        · refine .inr ⟨listing :: before, behind, rfl, ?_, ?_, later⟩
          · exact Listing.supersedes_trans above better
          · exact List.forall_mem_cons.mpr ⟨above, earlier⟩
      · rw [if_neg better] at selected
        rcases induction selected with ⟨rfl, last⟩ | ⟨before, behind, rfl, above, earlier, later⟩
        · exact .inl ⟨rfl, List.forall_mem_cons.mpr ⟨by simpa using better, last⟩⟩
        · have worse := (Listing.supersedes_total listing best).resolve_left better
          refine .inr ⟨listing :: before, behind, rfl, above, ?_, later⟩
          exact List.forall_mem_cons.mpr ⟨Listing.supersedes_trans above worse, earlier⟩

theorem select_from_none (selected : selectFrom none listings = some chosen) :
    ∃ before behind, listings = before ++ chosen :: behind ∧
      (∀ earlier ∈ before, chosen.supersedes earlier = true) ∧
      ∀ later ∈ behind, later.supersedes chosen = false := by
  cases listings with
  | nil => cases selected
  | cons first listings =>
      rcases select_from_best selected with
        ⟨rfl, last⟩ | ⟨before, behind, rfl, above, earlier, later⟩
      · exact ⟨[], listings, rfl, by simp, last⟩
      · exact ⟨first :: before, behind, rfl, List.forall_mem_cons.mpr ⟨above, earlier⟩, later⟩

theorem select_from_is_some (best : Listing) (listings : List Listing) :
    (selectFrom (some best) listings).isSome = true := by
  induction listings generalizing best with
  | nil => rfl
  | cons listing listings induction =>
      rw [selectFrom]
      split
      · exact induction listing
      · exact induction best

theorem innermost_of_selected {index : ListingIndex} {query : Span}
    (selected : index.innermost? query = some chosen) :
    IsInnermost index.listings query.start chosen := by
  obtain ⟨before, behind, divided, earlier, later⟩ := select_from_none selected
  obtain ⟨front, back, joined, ofFront, ofBack⟩ := List.filter_eq_append_iff.mp divided
  obtain ⟨skipped, rest, rfl, outside, around, ofRest⟩ := List.filter_eq_cons_iff.mp ofBack
  refine ⟨around, ?_, front ++ skipped, rest, by rw [joined, List.append_assoc], ?_⟩
  · intro other member inside
    have candidate : other ∈ before ++ chosen :: behind := by
      rw [← divided]
      exact List.mem_filter.mpr ⟨member, inside⟩
    rw [← Listing.supersedes_iff]
    rcases List.mem_append.mp candidate with ahead | next
    · exact earlier other ahead
    · rcases List.mem_cons.mp next with rfl | after
      · exact Listing.supersedes_of_span_eq rfl
      · have worse := later other after
        exact (Listing.supersedes_total chosen other).resolve_right (by rw [worse]; decide)
  · intro other member same
    have candidate : other ∈ behind := by
      rw [← ofRest]
      refine List.mem_filter.mpr ⟨member, ?_⟩
      rw [same]
      exact around
    have worse := later other candidate
    rw [Listing.supersedes_of_span_eq same] at worse
    cases worse

theorem selected_of_around {index : ListingIndex} {query : Span} (member : other ∈ index.listings)
    (around : other.span.contains query.start = true) :
    ∃ chosen, index.innermost? query = some chosen := by
  have candidate : other ∈ index.listings.filter
      fun listing => listing.span.containsStartOf query :=
    List.mem_filter.mpr ⟨member, around⟩
  rw [innermost?]
  cases around : index.listings.filter fun listing => listing.span.containsStartOf query with
  | nil =>
      rw [around] at candidate
      cases candidate
  | cons first rest => exact Option.isSome_iff_exists.mp (select_from_is_some first rest)

/-- The last listing of a span, told by the listings of this span alone. -/
theorem latest_iff :
    (∃ earlier later, listings = earlier ++ chosen :: later ∧
      ∀ other ∈ later, other.span ≠ chosen.span) ↔
      (withSpan listings chosen.span).getLast? = some chosen := by
  constructor
  · intro divided
    rcases divided with ⟨earlier, later, rfl, apart⟩
    have none : withSpan later chosen.span = [] := by
      apply List.filter_eq_nil_iff.mpr
      intro other member
      simpa using apart other member
    rw [withSpan] at none
    simp [withSpan, none]
  · intro last
    obtain ⟨front, joined⟩ := List.getLast?_eq_some_iff.mp last
    obtain ⟨before, back, rfl, -, ofBack⟩ := List.filter_eq_append_iff.mp joined
    obtain ⟨skipped, later, rfl, -, -, ofLater⟩ := List.filter_eq_cons_iff.mp ofBack
    refine ⟨before ++ skipped, later, by rw [List.append_assoc], ?_⟩
    intro other member
    simpa using List.filter_eq_nil_iff.mp ofLater other member

end ListingIndex

namespace IsInnermost

variable {listings reordered : List Listing} {chosen other : Listing} {place : Position}

theorem member (innermost : IsInnermost listings place chosen) : chosen ∈ listings := by
  obtain ⟨earlier, later, rfl, -⟩ := innermost.latest
  exact List.mem_append_right earlier List.mem_cons_self

/-- Only one listing answers for a place. -/
theorem unique (innermost : IsInnermost listings place chosen)
    (innermost' : IsInnermost listings place other) : chosen = other := by
  have above := Listing.supersedes_iff.mpr
    (innermost.inside other innermost'.member innermost'.around)
  have below := Listing.supersedes_iff.mpr
    (innermost'.inside chosen innermost.member innermost.around)
  have last := ListingIndex.latest_iff.mp innermost.latest
  rw [Listing.span_eq_of_supersedes above below,
    ListingIndex.latest_iff.mp innermost'.latest] at last
  exact (Option.some.inj last).symm

/-- Among spans that are nested or disjoint, the innermost one is within all others around
the place. -/
theorem within (innermost : IsInnermost listings place chosen)
    (nested : ∀ left ∈ listings, ∀ right ∈ listings, left.span.NestedOrDisjoint right.span)
    (member : other ∈ listings) (around : other.span.contains place = true) :
    chosen.span.Within other.span := by
  rcases nested chosen innermost.member other member with inside | outside | disjoint
  · exact inside
  · have started := Span.contains_iff.mp (outside _ (Span.contains_start around))
    intro position contained
    have order := innermost.inside other member around
    simp only [Span.contains_iff, Position.before_iff, Position.before_eq_false_iff,
      Position.eq_iff] at started order contained ⊢
    omega
  · exact absurd ⟨innermost.around, around⟩ (disjoint place)

/-- What answers depends on the listings and on the order of those with equal spans. -/
theorem reorder (members : ∀ listing, listing ∈ reordered → listing ∈ listings)
    (order : ∀ span, ListingIndex.withSpan reordered span = ListingIndex.withSpan listings span)
    (innermost : IsInnermost listings place chosen) : IsInnermost reordered place chosen := by
  refine ⟨innermost.around, ?_, ?_⟩
  · intro other member around
    exact innermost.inside other (members other member) around
  · rw [ListingIndex.latest_iff, order, ← ListingIndex.latest_iff]
    exact innermost.latest

end IsInnermost

namespace ListingIndex

def addAll (index : ListingIndex) (listings : List Listing) : ListingIndex :=
  listings.foldl (fun index listing => index.add listing.span listing.elements) index

theorem listings_add_all (index : ListingIndex) (listings : List Listing) :
    (index.addAll listings).listings = index.listings ++ listings := by
  induction listings generalizing index with
  | nil => simp [addAll]
  | cons listing listings induction =>
      have others := induction (index.add listing.span listing.elements)
      simpa [addAll, add] using others

variable {index : ListingIndex} {query : Span} {chosen : Listing}

theorem innermost_eq_some_iff :
    index.innermost? query = some chosen ↔ IsInnermost index.listings query.start chosen := by
  constructor
  · exact innermost_of_selected
  · intro innermost
    obtain ⟨selected, found⟩ := selected_of_around innermost.member innermost.around
    rw [found, (innermost_of_selected found).unique innermost]

theorem innermost_eq_none_iff :
    index.innermost? query = none ↔
      ∀ listing ∈ index.listings, listing.span.contains query.start = false := by
  constructor
  · intro missing listing member
    rw [Bool.eq_false_iff]
    intro around
    obtain ⟨selected, found⟩ := selected_of_around member around
    rw [missing] at found
    cases found
  · intro outside
    rw [Option.eq_none_iff_forall_ne_some]
    intro selected found
    have innermost := innermost_of_selected found
    have around := innermost.around
    rw [outside selected innermost.member] at around
    cases around

theorem lookup_eq_some_iff {tokens : List String} :
    index.lookup query = some tokens ↔
      ∃ chosen, IsInnermost index.listings query.start chosen ∧
        chosen.elements = tokens.map .literal := by
  simp only [← innermost_eq_some_iff, lookup]
  cases index.innermost? query with
  | none => simp
  | some selected => simp [Listing.tokens_eq_some_iff]

theorem lookup_eq_none_iff :
    index.lookup query = none ↔
      (∀ listing ∈ index.listings, listing.span.contains query.start = false) ∨
        ∃ chosen, IsInnermost index.listings query.start chosen ∧ .expr ∈ chosen.elements := by
  simp only [← innermost_eq_some_iff, ← innermost_eq_none_iff, lookup]
  cases index.innermost? query with
  | none => simp
  | some selected => simp [Listing.tokens_eq_none_iff]

/-- A query is answered from the innermost listing around its start, of which there is one at
most. It has no answer when there is none or when the listing has an element that is no
literal. Among spans that are nested or disjoint, the innermost one is within all others
around the start. Adding the listings in another order changes no answer, as long as
listings with equal spans keep theirs. -/
theorem lookup_answers_innermost (listings : List Listing) (query : Span) :
    let index := empty.addAll listings
    (index.lookup query = none ↔
      (∀ listing ∈ listings, listing.span.contains query.start = false) ∨
        ∃ chosen, IsInnermost listings query.start chosen ∧ .expr ∈ chosen.elements) ∧
    (∀ tokens, index.lookup query = some tokens ↔
      ∃ chosen, IsInnermost listings query.start chosen ∧
        chosen.elements = tokens.map .literal) ∧
    (∀ chosen chosen', IsInnermost listings query.start chosen →
      IsInnermost listings query.start chosen' → chosen = chosen') ∧
    ((∀ left ∈ listings, ∀ right ∈ listings, left.span.NestedOrDisjoint right.span) →
      ∀ chosen, IsInnermost listings query.start chosen →
        ∀ other ∈ listings, other.span.contains query.start = true →
          chosen.span.Within other.span) ∧
    ∀ reordered : List Listing, reordered.Perm listings →
      (∀ span, withSpan reordered span = withSpan listings span) →
        (empty.addAll reordered).lookup query = index.lookup query := by
  have added (additions : List Listing) : (empty.addAll additions).listings = additions := by
    rw [listings_add_all]
    rfl
  intro index
  have same : index.listings = listings := added listings
  refine ⟨?_, ?_, ?_, ?_, ?_⟩
  · rw [lookup_eq_none_iff, same]
  · intro tokens
    rw [lookup_eq_some_iff, same]
  · intro chosen chosen' innermost innermost'
    exact innermost.unique innermost'
  · intro nested chosen innermost other member around
    exact innermost.within nested member around
  · intro reordered perm order
    have selected : (empty.addAll reordered).innermost? query = index.innermost? query := by
      apply Option.ext
      intro chosen
      rw [innermost_eq_some_iff, innermost_eq_some_iff, added, same]
      constructor
      · apply IsInnermost.reorder
        · intro listing member
          exact perm.mem_iff.mpr member
        · intro span
          exact (order span).symm
      · apply IsInnermost.reorder
        · intro listing member
          exact perm.mem_iff.mp member
        · exact order
    rw [lookup, lookup, selected]

def replacedListings : List Listing :=
  [⟨⟨⟨2, 4⟩, ⟨2, 20⟩⟩, [.literal "'a'", .expr]⟩, ⟨⟨⟨1, 0⟩, ⟨5, 1⟩⟩, [.expr]⟩,
    ⟨⟨⟨2, 4⟩, ⟨2, 20⟩⟩, [.literal "'a'", .literal "'b'"]⟩]

theorem replaced_listing_answers :
    let query : Span := ⟨⟨2, 4⟩, ⟨9, 9⟩⟩
    let reordered := [replacedListings[1], replacedListings[0], replacedListings[2]]
    (∃ chosen, IsInnermost replacedListings query.start chosen ∧
      chosen.span.Within ⟨⟨1, 0⟩, ⟨5, 1⟩⟩) ∧
      (empty.addAll reordered).lookup query = some ["'a'", "'b'"] := by
  intro query reordered
  obtain ⟨-, answers, -, within, reorders⟩ := lookup_answers_innermost replacedListings query
  have answer : (empty.addAll replacedListings).lookup query = some ["'a'", "'b'"] := by decide
  obtain ⟨chosen, innermost, -⟩ := (answers _).mp answer
  have inner : Span.Within ⟨⟨2, 4⟩, ⟨2, 20⟩⟩ ⟨⟨1, 0⟩, ⟨5, 1⟩⟩ := by
    intro position
    simp only [Span.contains_iff, Position.before_iff, Position.before_eq_false_iff]
    omega
  have spans : ∀ listing ∈ replacedListings,
      listing.span = ⟨⟨2, 4⟩, ⟨2, 20⟩⟩ ∨ listing.span = ⟨⟨1, 0⟩, ⟨5, 1⟩⟩ := by decide
  have nested : ∀ left ∈ replacedListings, ∀ right ∈ replacedListings,
      left.span.NestedOrDisjoint right.span := by
    intro left isLeft right isRight
    rcases spans left isLeft with same | same <;> rcases spans right isRight with same' | same' <;>
      rw [same, same']
    · exact .inl fun _ inside => inside
    · exact .inl inner
    · exact .inr (.inl inner)
    · exact .inl fun _ inside => inside
  refine ⟨⟨chosen, innermost, ?_⟩, ?_⟩
  · exact within nested chosen innermost replacedListings[1] (by decide) (by decide)
  · rw [← answer]
    apply reorders reordered (.swap _ _ _)
    intro span
    by_cases isInner : (⟨⟨2, 4⟩, ⟨2, 20⟩⟩ : Span) = span
    · subst isInner
      decide
    · simp [reordered, replacedListings, withSpan, List.filter_cons, isInner]

end ListingIndex

end LiteralFlow
