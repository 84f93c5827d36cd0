import LiteralFlow.Span

/-!
Listings of literals in source text, found by place. The innermost listing
around a place answers for it.
-/

namespace LiteralFlow

inductive ListingElement where
  /-- A literal in source form. -/
  | literal (token : String)
  /-- Any other expression. -/
  | expr
deriving DecidableEq, Repr

structure Listing where
  span : Span
  elements : List ListingElement
deriving DecidableEq, Repr

abbrev ListingLookup := Span → Option (List String)

namespace ListingElement

def token? : ListingElement → Option String
  | literal token => some token
  | expr => none

end ListingElement

namespace Listing

/-- Whether this listing answers rather than an earlier one: it starts later,
or at the same place and ends no later. -/
def supersedes (listing earlier : Listing) : Bool :=
  earlier.span.start.before listing.span.start ||
    (earlier.span.start = listing.span.start &&
      !earlier.span.stop.before listing.span.stop)

def tokens? (listing : Listing) : Option (List String) :=
  listing.elements.mapM ListingElement.token?

end Listing

structure ListingIndex where
  listings : List Listing
deriving DecidableEq, Repr

namespace ListingIndex

def empty : ListingIndex := ⟨[]⟩

def add (index : ListingIndex) (span : Span) (elements : List ListingElement) : ListingIndex :=
  ⟨index.listings ++ [⟨span, elements⟩]⟩

def addLiterals (index : ListingIndex) (span : Span) (tokens : List String) : ListingIndex :=
  index.add span (tokens.map .literal)

/-- The listing of `listings`, or else `best`, that supersedes those before it. -/
def selectFrom (best : Option Listing) : List Listing → Option Listing
  | [] => best
  | listing :: listings =>
      match best with
      | none => selectFrom (some listing) listings
      | some earlier =>
          if listing.supersedes earlier then selectFrom (some listing) listings
          else selectFrom (some earlier) listings

/-- The innermost listing around the start of a span. -/
def innermost? (index : ListingIndex) (span : Span) : Option Listing :=
  selectFrom none (index.listings.filter fun listing => listing.span.containsStartOf span)

def lookup (index : ListingIndex) : ListingLookup := fun span =>
  match index.innermost? span with
  | some listing => listing.tokens?
  | none => none

end ListingIndex

def ListingLookup.none : ListingLookup := fun _ => Option.none

end LiteralFlow
