import LiteralFlow.Graph.Decode
import LiteralFlow.Graph.Encode
import LiteralFlow.Listing.Basic

/-!
Listings as JSON documents.
-/

namespace LiteralFlow

namespace ListingElement

def decode? (room : Nat) (json : Json) : Option ListingElement :=
  match json, room with
  | .string (some "expr"), _ => some .expr
  | .object [(some "literal", token)], _ + 1 => token.text?.map .literal
  | .object [(some "expr", .null)], _ + 1 => some .expr
  | _, _ => none

def encode : ListingElement → Json
  | literal token => .record [("literal", .text token)]
  | expr => .text "expr"

end ListingElement

namespace Listing

def decode? (room : Nat) (json : Json) : Option Listing :=
  match room with
  | 0 => none
  | room + 1 => do
      let fields ← Json.recordFields? ["span", "elements"] json
      let span ← fields.required? "span" (Span.decode? room)
      let elements ← fields.required? "elements" (Json.list? ListingElement.decode? room)
      some ⟨span, elements⟩

def encode (listing : Listing) : Json :=
  .record
    [("span", listing.span.encode),
      ("elements", .array (listing.elements.map ListingElement.encode))]

end Listing

namespace ListingIndex

def decode? (room : Nat) (json : Json) : Option ListingIndex :=
  match room with
  | 0 => none
  | room + 1 => do
      let fields ← Json.recordFields? ["listings"] json
      some ⟨← fields.required? "listings" (Json.list? Listing.decode? room)⟩

def encode (index : ListingIndex) : Json :=
  .record [("listings", .array (index.listings.map Listing.encode))]

end ListingIndex

end LiteralFlow
