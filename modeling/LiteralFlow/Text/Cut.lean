/-!
Cutting a text at the last place where a separator occurs.
-/

namespace LiteralFlow.Text

def cutLast? (separator : List Char) : List Char → Option (List Char × List Char)
  | [] => none
  | c :: text =>
      match cutLast? separator text with
      | some (before, after) => some (c :: before, after)
      | none =>
          if separator.isPrefixOf (c :: text) then
            some ([], (c :: text).drop separator.length)
          else none

end LiteralFlow.Text
